/-! What a cell of a level holds. -/

namespace GridWalk

inductive Cell where
  | empty
  | wall
  /-- Marks where the hero starts.  The hero walks over it as over an empty cell. -/
  | start
  | goal
  | coin
  | obstacle
  deriving DecidableEq, Repr

/-- The cell that a symbol of a level text stands for.  Empty cells have two symbols. -/
def Cell.ofSymbol? : Char → Option Cell
  | '.' | '_' => some .empty
  | 'W' => some .wall
  | 'S' => some .start
  | 'G' => some .goal
  | 'C' => some .coin
  | 'O' => some .obstacle
  | _ => none

end GridWalk
