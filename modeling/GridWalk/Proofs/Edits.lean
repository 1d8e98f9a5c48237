import GridWalk.Proofs.Lines
import GridWalk.Proofs.Text.Words
import Mathlib.Data.List.InsertIdx

/-! Editing a text line by line.  The parts of a text are what its line feeds separate, so a part
still has the carriage returns that are not part of its line.  Those carriage returns make no
difference to what a line is.  A text with one part more, or with another part in the place of one,
has the lines that one expects. -/

namespace GridWalk.Line

open Text

/-- What the line feeds of a text separate. -/
def parts (text : String) : List (List Char) := text.toList.splitOn '\n'

/-- The text whose parts are the given ones. -/
def ofParts (parts : List (List Char)) : String := String.ofList (['\n'].intercalate parts)

/-- The line of a part.  The index of the part counts from 0. -/
def ofPart (i : Nat) (part : List Char) : Line :=
  ⟨.ofNat (i + 1), String.ofList (dropEndWhile (· == '\r') part)⟩

/-- The text with one part more, which comes to stand at the given index.  Past the end of the text,
nothing is put in. -/
def insertPart (text : String) (i : Nat) (part : List Char) : String :=
  ofParts ((parts text).insertIdx i part)

/-- The text with another part at the given index. -/
def setPart (text : String) (i : Nat) (part : List Char) : String :=
  ofParts ((parts text).set i part)

/-- Four spaces or a tab open the text. -/
def Indented (cs : List Char) : Prop := "    ".toList <+: cs ∨ ['\t'] <+: cs

/-! ### A part and its line -/

section Part

variable {cs part returns : List Char} {i : Nat}

theorem exists_returns (part : List Char) :
    ∃ returns, (∀ c ∈ returns, c = '\r') ∧ part = (ofPart i part).raw.toList ++ returns := by
  refine ⟨part.rtakeWhile (· == '\r'), fun c hc => ?_, ?_⟩
  · exact beq_iff_eq.1 (List.mem_rtakeWhile_imp (p := (· == '\r')) hc)
  · rw [ofPart, String.toList_ofList]
    exact List.rdropWhile_append_rtakeWhile.symm

theorem blanks_of_returns (h : ∀ c ∈ returns, c = '\r') : Blanks returns := by
  intro c hc
  rw [h c hc]
  decide

theorem codeOf_append_comment (cs comment : List Char) :
    codeOf (cs ++ '#' :: comment) = codeOf cs := by
  have htake : (cs ++ '#' :: comment).takeWhile (· != '#') = cs.takeWhile (· != '#') := by
    induction cs with
    | nil => rfl
    | cons c cs ih => rw [List.cons_append, List.takeWhile_cons, List.takeWhile_cons, ih]
  rw [codeOf, codeOf, htake]

theorem codeOf_eq_trim (h : '#' ∉ cs) : codeOf cs = trim cs := by
  have hkept : ∀ c ∈ cs, (c != '#') = true := by
    intro c hc
    rw [bne_iff_ne]
    rintro rfl
    exact h hc
  rw [codeOf, List.takeWhile_eq_self_iff.2 hkept]

theorem codeOf_append_blanks {b : List Char} (hb : Blanks b) : codeOf (cs ++ b) = codeOf cs := by
  by_cases hhash : '#' ∈ cs
  · obtain ⟨start, comment, rfl⟩ := List.append_of_mem hhash
    rw [List.append_assoc, List.cons_append, codeOf_append_comment, codeOf_append_comment]
  · have hnone : '#' ∉ cs ++ b := by
      rw [List.mem_append, not_or]
      exact ⟨hhash, hb.not_mem (by decide)⟩
    rw [codeOf_eq_trim hnone, codeOf_eq_trim hhash]
    exact trim_append Blanks.nil hb

theorem codeOf_blanks {b : List Char} (hb : Blanks b) : codeOf b = [] := by
  rw [codeOf_eq_trim (hb.not_mem (by decide)), trim_eq_nil_iff]
  exact hb

theorem prefix_append_iff {w tail : List Char} (h : ∀ c ∈ tail.head?, c ∉ w) :
    w <+: cs ++ tail ↔ w <+: cs := by
  refine ⟨fun hw => ?_, fun hw => hw.trans (List.prefix_append cs tail)⟩
  rcases List.prefix_or_prefix_of_prefix hw (List.prefix_append cs tail) with hcs | ⟨rest, rfl⟩
  · exact hcs
  · cases rest with
    | nil => simp
    | cons c rest =>
      obtain ⟨others, rfl⟩ := (List.prefix_append_right_inj cs).1 hw
      exact absurd (by simp) (h c rfl)

theorem indented_append_iff {tail : List Char} (h : ∀ c ∈ tail.head?, c ≠ ' ' ∧ c ≠ '\t') :
    Indented (cs ++ tail) ↔ Indented cs := by
  refine or_congr (prefix_append_iff fun c hc => ?_) (prefix_append_iff fun c hc => ?_)
  · simpa using (h c hc).1
  · simpa using (h c hc).2

theorem indented_append_returns (h : ∀ c ∈ returns, c = '\r') :
    Indented (cs ++ returns) ↔ Indented cs := by
  refine indented_append_iff fun c hc => ?_
  rw [h c (List.mem_of_mem_head? hc)]
  decide

theorem isIndented_iff {line : Line} : line.isIndented = true ↔ Indented line.raw.toList := by
  rw [isIndented, Bool.or_eq_true, List.isPrefixOf_iff_prefix, List.isPrefixOf_iff_prefix,
    Indented]

theorem continuesBlock_iff {line : Line} :
    line.continuesBlock = true ↔ Indented line.raw.toList ∨ Blanks line.raw.toList := by
  rw [continuesBlock, Bool.or_eq_true, isIndented_iff, List.isEmpty_iff, trim_eq_nil_iff]

theorem codeOf_ofPart : codeOf (ofPart i part).raw.toList = codeOf part := by
  obtain ⟨returns, hreturns, hpart⟩ := exists_returns (i := i) part
  conv_rhs => rw [hpart]
  exact (codeOf_append_blanks (blanks_of_returns hreturns)).symm

theorem indented_ofPart : Indented (ofPart i part).raw.toList ↔ Indented part := by
  obtain ⟨returns, hreturns, hpart⟩ := exists_returns (i := i) part
  conv_rhs => rw [hpart]
  exact (indented_append_returns hreturns).symm

theorem blanks_ofPart : Blanks (ofPart i part).raw.toList ↔ Blanks part := by
  obtain ⟨returns, hreturns, hpart⟩ := exists_returns (i := i) part
  conv_rhs => rw [hpart]
  refine ⟨fun h c hc => ?_, fun h => h.of_subset (List.subset_append_left _ returns)⟩
  rcases List.mem_append.1 hc with hc | hc
  · exact h c hc
  · exact blanks_of_returns hreturns c hc

end Part

/-! ### The edited text -/

/-- Numbering a list with one element more: from there on, the others are numbered one higher. -/
theorem mapIdx_insertIdx {α β : Type} (f : Nat → α → β) (l : List α) (i : Nat) (a : α) :
    (l.insertIdx i a).mapIdx f
      = (l.mapIdx fun j b => f (if i ≤ j then j + 1 else j) b).insertIdx i (f i a) := by
  induction l generalizing f i with
  | nil => cases i <;> simp
  | cons b l ih =>
    cases i with
    | zero => simp
    | succ i =>
      have hplace (j : Nat) : (if i ≤ j then j + 1 else j) + 1
          = if i + 1 ≤ j + 1 then j + 1 + 1 else j + 1 := by
        split <;> simp_all
      rw [List.insertIdx_succ_cons, List.mapIdx_cons, List.mapIdx_cons, List.insertIdx_succ_cons,
        ih]
      simp only [hplace]
      rfl

section Text

variable {text : String} {part : List Char} {i : Nat}

theorem ofText_eq_mapIdx (text : String) : ofText text = (parts text).mapIdx ofPart := by
  refine List.ext_getElem (by simp [ofText, rawLines, parts]) fun i hi hi' => ?_
  simp [ofText, rawLines, parts, ofPart]

@[simp] theorem length_parts (text : String) : (parts text).length = (ofText text).length := by
  rw [ofText_eq_mapIdx, List.length_mapIdx]

theorem parts_ne_nil (text : String) : parts text ≠ [] := List.splitOn_ne_nil '\n' text.toList

/-- Putting the line feeds back gives the text. -/
theorem ofParts_parts (text : String) : ofParts (parts text) = text := by
  rw [ofParts, parts, List.intercalate_splitOn, String.ofList_toList]

theorem ofText_ofParts {ps : List (List Char)} (h : ∀ part ∈ ps, '\n' ∉ part) (hne : ps ≠ []) :
    ofText (ofParts ps) = ps.mapIdx ofPart := by
  rw [ofText_eq_mapIdx, parts, ofParts, String.toList_ofList,
    List.splitOn_intercalate '\n' h hne]

theorem ofText_insertPart (hpart : '\n' ∉ part) :
    ofText (insertPart text i part)
      = ((parts text).mapIdx fun j => ofPart (if i ≤ j then j + 1 else j)).insertIdx i
          (ofPart i part) := by
  have hfeeds : ∀ other ∈ (parts text).insertIdx i part, '\n' ∉ other := by
    intro other hother
    rcases List.eq_or_mem_of_mem_insertIdx hother with rfl | hother
    · exact hpart
    · exact not_mem_of_mem_splitOn hother
  have hne : (parts text).insertIdx i part ≠ [] := by
    have hlength : (parts text).length ≤ ((parts text).insertIdx i part).length :=
      List.length_le_length_insertIdx
    intro hnil
    rw [hnil] at hlength
    exact parts_ne_nil text (List.length_eq_zero_iff.1 (Nat.le_zero.1 hlength))
  rw [insertPart, ofText_ofParts hfeeds hne, mapIdx_insertIdx]

theorem ofText_setPart (hpart : '\n' ∉ part) :
    ofText (setPart text i part) = (ofText text).set i (ofPart i part) := by
  have hfeeds : ∀ other ∈ (parts text).set i part, '\n' ∉ other := by
    intro other hother
    rcases List.mem_or_eq_of_mem_set hother with hother | rfl
    · exact not_mem_of_mem_splitOn hother
    · exact hpart
  have hne : (parts text).set i part ≠ [] := by simpa using parts_ne_nil text
  rw [setPart, ofText_ofParts hfeeds hne, List.mapIdx_set, ofText_eq_mapIdx]

end Text

end GridWalk.Line
