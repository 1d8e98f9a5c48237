import GridWalk.Position

/-! Why a level is refused. -/

namespace GridWalk

inductive GridFault where
  | emptyLayout
  | raggedRow (row expected found : Nat)
  | tooLarge (width height : Nat)
  | sizeMismatch (declared width height : Nat)
  | startOutOfBounds (start : Position) (width height : Nat)
  | startOnWall (start : Position)
  | unknownSymbol (symbol : Char) (row column : Nat)
  | multipleStarts
  deriving DecidableEq, Repr

/-- The form `3x2`, columns first. -/
def GridFault.dimensions (width height : Nat) : String := width.repr ++ "x" ++ height.repr

def GridFault.message : GridFault → String
  | emptyLayout => "grid layout is empty"
  | raggedRow row expected found =>
    "row " ++ row.repr ++ " has " ++ found.repr ++ " cells, expected " ++ expected.repr
  | tooLarge width height => "grid of " ++ dimensions width height ++ " cells is too large"
  | sizeMismatch declared width height =>
    "declared grid size " ++ declared.repr ++ " does not match " ++ dimensions width height
      ++ " layout"
  | startOutOfBounds start width height =>
    "start position " ++ start.text ++ " is outside the " ++ dimensions width height ++ " grid"
  | startOnWall start => "start position " ++ start.text ++ " is a wall"
  | unknownSymbol symbol row column =>
    "unknown cell symbol '" ++ symbol.toString ++ "' at row " ++ row.repr ++ ", column "
      ++ column.repr
  | multipleStarts => "more than one start cell ('S') in level"

end GridWalk
