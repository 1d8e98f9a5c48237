import GridWalk.Grid.Basic
import GridWalk.Text.Blank

/-! The text form of levels: a row of symbols on each line.  Blanks around a row and rows without
symbols do not count. -/

namespace GridWalk.Grid.Ascii

def rows (text : List Char) : List (List Char) :=
  ((text.splitOn '\n').map Text.trim).filter (!·.isEmpty)

/-- The column and the row of the start symbol, when one was read. -/
abbrev Mark := Option (Nat × Nat)

/-- Reads the symbols of row `y` from column `x` on. -/
def readRow (y : Nat) : Nat → Mark → List Char → Except GridFault (List Cell × Mark)
  | _, mark, [] => .ok ([], mark)
  | x, mark, symbol :: symbols =>
    match Cell.ofSymbol? symbol with
    | none => .error (.unknownSymbol symbol y x)
    | some cell =>
      if cell = .start ∧ mark.isSome then .error .multipleStarts
      else
        (readRow y (x + 1) (if cell = .start then some (x, y) else mark) symbols).map
          fun (cells, mark) => (cell :: cells, mark)

/-- Reads the rows from row `y` on. -/
def readRows : Nat → Mark → List (List Char) → Except GridFault (Layout × Mark)
  | _, mark, [] => .ok ([], mark)
  | y, mark, row :: rows =>
    match readRow y 0 mark row with
    | .error fault => .error fault
    | .ok (cells, mark) =>
      (readRows (y + 1) mark rows).map fun (layout, mark) => (cells :: layout, mark)

/-- The position of a mark.  A level without a start symbol starts in its first cell. -/
def position : Mark → Position
  | none => ⟨0, 0⟩
  | some (x, y) => ⟨.ofNat x, .ofNat y⟩

end Ascii

def ofAscii (text : String) : Except GridFault Grid :=
  match Ascii.readRows 0 none (Ascii.rows text.toList) with
  | .error fault => .error fault
  | .ok (layout, mark) => ofLayout layout (Ascii.position mark)

end GridWalk.Grid
