import GridWalk.Grid.Ascii
import GridWalk.Proofs.Lines
import GridWalk.Proofs.Text.Trim

/-! The rows of a level text.  `HasRows` says what they are by the line feeds and the white space of
the text alone, and `hasRows_iff` that these rows are the ones that are read. -/

namespace GridWalk.Grid.Ascii

open Text

/-- The rows that lines leave, in the order of the lines.  A line of white space leaves none, and
any other line leaves what stands between the white space at its ends. -/
inductive Leaves : List (List Char) → List (List Char) → Prop
  | nil : Leaves [] []
  | blank {line : List Char} {lines rows : List (List Char)} (blank : line ⊆ whiteSpace)
      (rest : Leaves lines rows) : Leaves (line :: lines) rows
  | row {b row b' : List Char} {lines rows : List (List Char)} (before : b ⊆ whiteSpace)
      (nonempty : row ≠ []) (first : ∀ c ∈ row.head?, c ∉ whiteSpace)
      (last : ∀ c ∈ row.getLast?, c ∉ whiteSpace) (after : b' ⊆ whiteSpace)
      (rest : Leaves lines rows) : Leaves ((b ++ row ++ b') :: lines) (row :: rows)

/-- The rows of a text are what its lines leave, which stand between its line feeds. -/
def HasRows (text : List Char) (rows : List (List Char)) : Prop :=
  ∃ lines, lines ≠ [] ∧ (∀ line ∈ lines, '\n' ∉ line) ∧ text = ['\n'].intercalate lines ∧
    Leaves lines rows

variable {lines kept : List (List Char)} {text : List Char}

theorem eq_filter_of_leaves (h : Leaves lines kept) :
    kept = (lines.map trim).filter (!·.isEmpty) := by
  induction h with
  | nil => rfl
  | blank blank rest ih =>
    rw [List.map_cons, trim_eq_nil_iff.2 (blanks_iff.2 blank), List.filter_cons_of_neg (by simp)]
    exact ih
  | row before nonempty first last after rest ih =>
    rw [List.map_cons, trim_append (blanks_iff.2 before) (blanks_iff.2 after),
      trim_eq_self (tight_iff.2 ⟨first, last⟩), List.filter_cons_of_pos (by simpa using nonempty),
      ← ih]

theorem leaves_filter (lines : List (List Char)) :
    Leaves lines ((lines.map trim).filter (!·.isEmpty)) := by
  induction lines with
  | nil => exact .nil
  | cons line lines ih =>
    rw [List.map_cons]
    by_cases hline : trim line = []
    · rw [hline, List.filter_cons_of_neg (by simp)]
      exact .blank (blanks_iff.1 (trim_eq_nil_iff.1 hline)) ih
    · obtain ⟨b, b', hb, hb', heq⟩ := exists_blanks_append_trim line
      obtain ⟨hfirst, hlast⟩ := tight_iff.1 (tight_trim line)
      have hrow := Leaves.row (blanks_iff.1 hb) hline hfirst hlast (blanks_iff.1 hb') ih
      rw [← heq] at hrow
      rwa [List.filter_cons_of_pos (by simpa using hline)]

/-- The lines of a text are determined by their join, as none of them holds a line feed. -/
theorem hasRows_iff : HasRows text kept ↔ kept = rows text := by
  constructor
  · rintro ⟨lines, hne, hfeeds, rfl, hleaves⟩
    rw [rows, List.splitOn_intercalate '\n' hfeeds hne]
    exact eq_filter_of_leaves hleaves
  · rintro rfl
    exact ⟨text.splitOn '\n', List.splitOn_ne_nil '\n' text,
      fun _ => Line.not_mem_of_mem_splitOn, (List.intercalate_splitOn '\n').symm,
      leaves_filter (text.splitOn '\n')⟩

theorem existsUnique_hasRows (text : List Char) : ∃! kept, HasRows text kept :=
  ⟨rows text, hasRows_iff.2 rfl, fun _ => hasRows_iff.1⟩

/-- No row is empty. -/
theorem HasRows.ne_nil (h : HasRows text kept) : ∀ row ∈ kept, row ≠ [] := by
  rw [hasRows_iff] at h
  intro row hrow
  have hkept := List.of_mem_filter (h ▸ hrow)
  simpa using hkept

end GridWalk.Grid.Ascii
