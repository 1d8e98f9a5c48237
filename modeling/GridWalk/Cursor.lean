import GridWalk.Statement

/-! Reading a program line by line.  A cursor is the list of the lines that are not read yet.  It
hands out lines that hold code, one at a time, or a whole block of lines at once, and each line of
the program goes to one of these at most. -/

namespace GridWalk

abbrev Cursor := List Line

namespace Cursor

/-- The next line that holds code, and the lines after it. -/
def next? : Cursor → Option (Line × Cursor)
  | [] => none
  | line :: rest => if line.isBlank then next? rest else some (line, rest)

/-- The lines with code in the block at the cursor. -/
def block (cursor : Cursor) : List Line :=
  (cursor.takeWhile Line.continuesBlock).filter (!·.isBlank)

def afterBlock (cursor : Cursor) : Cursor := cursor.dropWhile Line.continuesBlock

@[simp] theorem next?_nil : next? [] = none := rfl

theorem next?_cons_of_blank {line : Line} {rest : Cursor} (h : line.isBlank = true) :
    next? (line :: rest) = next? rest := by
  rw [next?, if_pos h]

theorem next?_cons_of_code {line : Line} {rest : Cursor} (h : line.isBlank = false) :
    next? (line :: rest) = some (line, rest) := by
  rw [next?, if_neg (by simp [h])]

theorem length_lt_of_next? {cursor rest : Cursor} {line : Line}
    (h : cursor.next? = some (line, rest)) : rest.length < cursor.length := by
  induction cursor with
  | nil => simp at h
  | cons first tail ih =>
    cases hb : first.isBlank with
    | true =>
      rw [next?_cons_of_blank hb] at h
      exact Nat.lt_succ_of_lt (ih h)
    | false =>
      rw [next?_cons_of_code hb] at h
      obtain ⟨rfl, rfl⟩ : first = line ∧ tail = rest := by simpa using h
      simp

theorem length_afterBlock_le (cursor : Cursor) : cursor.afterBlock.length ≤ cursor.length :=
  (List.dropWhile_sublist _).length_le

end Cursor

end GridWalk
