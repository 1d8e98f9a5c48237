import GridWalk.Direction

/-! Cell coordinates: `x` is the column and `y` is the row, which grows downward.  A step that
would leave the range of 32-bit coordinates has no result. -/

namespace GridWalk

structure Position where
  x : UInt32
  y : UInt32
  deriving DecidableEq, Repr

namespace Position

/-- The neighbour of `p` in direction `d`, if its coordinates are 32-bit numbers. -/
def step (p : Position) : Direction → Option Position
  | .up => if p.y = 0 then none else some { p with y := p.y - 1 }
  | .down => if p.y = 0xFFFFFFFF then none else some { p with y := p.y + 1 }
  | .left => if p.x = 0 then none else some { p with x := p.x - 1 }
  | .right => if p.x = 0xFFFFFFFF then none else some { p with x := p.x + 1 }

/-- The lexicographic order, by column and then by row. -/
def le (p q : Position) : Bool :=
  p.x < q.x || (p.x == q.x && p.y ≤ q.y)

def sort (ps : List Position) : List Position := ps.mergeSort le

/-- The form `(x, y)`. -/
def text (p : Position) : String :=
  "(" ++ p.x.toNat.repr ++ ", " ++ p.y.toNat.repr ++ ")"

end Position

end GridWalk
