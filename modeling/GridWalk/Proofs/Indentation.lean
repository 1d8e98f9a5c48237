import GridWalk.Proofs.Lines
import GridWalk.Proofs.Text.Trim
import GridWalk.Statement

/-! Indentation.  A line with code is in a block only when it is indented, and without its
indentation it is the same statement outside of all blocks. -/

namespace GridWalk.Line

open Text

variable {line : Line}

theorem isBlank_of_trim_isEmpty (h : (trim line.raw.toList).isEmpty = true) :
    line.isBlank = true := by
  have hraw : Blanks line.raw.toList := trim_eq_nil_iff.1 (List.isEmpty_iff.1 h)
  have hnone : codeOf line.raw.toList = [] :=
    trim_eq_nil_iff.2 (hraw.of_subset (List.takeWhile_sublist _).subset)
  rw [isBlank, hnone, List.isEmpty_nil]

/-- A line with code in a block is indented, as only lines without code may stand there
otherwise. -/
theorem isIndented_of_continuesBlock (hblock : line.continuesBlock = true)
    (hcode : line.isBlank = false) : line.isIndented = true := by
  rw [continuesBlock, Bool.or_eq_true] at hblock
  rcases hblock with hindented | hblank
  · exact hindented
  · rw [isBlank_of_trim_isEmpty hblank] at hcode
    cases hcode

/-- The line without the blanks at its start. -/
def dedent (line : Line) : Line :=
  { line with raw := String.ofList (trimStart line.raw.toList) }

@[simp] theorem toList_raw_dedent (line : Line) :
    line.dedent.raw.toList = trimStart line.raw.toList := String.toList_ofList

theorem codeOf_trimStart (raw : List Char) : codeOf (trimStart raw) = codeOf raw := by
  obtain ⟨b, hb, heq⟩ := exists_blanks_append_trimStart raw
  have hkept : ∀ c ∈ b, (c != '#') = true := by
    intro c hc
    rw [bne_iff_ne]
    rintro rfl
    exact absurd (hb _ hc) (by decide)
  have hpadded : trim (b ++ (trimStart raw).takeWhile (· != '#') ++ [])
      = trim ((trimStart raw).takeWhile (· != '#')) := trim_append hb Blanks.nil
  rw [List.append_nil, ← List.takeWhile_append_of_pos hkept, ← heq] at hpadded
  exact hpadded.symm

@[simp] theorem statement_dedent (line : Line) : line.dedent.statement = line.statement := by
  rw [statement, statement, toList_raw_dedent, codeOf_trimStart]

@[simp] theorem isBlank_dedent (line : Line) : line.dedent.isBlank = line.isBlank := by
  rw [isBlank, isBlank, toList_raw_dedent, codeOf_trimStart]

theorem isIndented_dedent (line : Line) : line.dedent.isIndented = false := by
  have hhead := head_trimStart line.raw.toList
  rw [isIndented, toList_raw_dedent]
  cases hraw : trimStart line.raw.toList with
  | nil => rfl
  | cons c cs =>
    have hc : Text.isBlank c = false := hhead c (by simp [hraw])
    have hspace : ' ' ≠ c := by
      rintro rfl
      cases hc
    have htab : '\t' ≠ c := by
      rintro rfl
      cases hc
    simp [List.isPrefixOf, hspace, htab]

theorem isRaw_dedent (h : IsRaw line.raw.toList) : IsRaw line.dedent.raw.toList := by
  rw [toList_raw_dedent]
  obtain ⟨b, -, heq⟩ := exists_blanks_append_trimStart line.raw.toList
  refine ⟨fun hmem => h.no_feed ?_, fun hlast => h.no_return ?_⟩
  · rw [heq]
    exact List.mem_append_right b hmem
  · rw [heq, List.getLast?_append, hlast]
    rfl

/-- Without its indentation, only a line without code continues a block. -/
theorem isBlank_of_continuesBlock_dedent (h : line.dedent.continuesBlock = true) :
    line.dedent.isBlank = true := by
  by_contra hcode
  have hindented := isIndented_of_continuesBlock h (by simpa using hcode)
  rw [isIndented_dedent] at hindented
  cases hindented

end GridWalk.Line
