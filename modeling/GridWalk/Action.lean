import GridWalk.Position

/-! A unit step of the hero, and plans made of such steps. -/

namespace GridWalk

/-- One step in a direction.  `line` is the number of the program line that asked for it. -/
structure Action where
  direction : Direction
  line : UInt32
  deriving DecidableEq, Repr

/-- The steps of a compiled program in the order in which the hero takes them. -/
abbrev Plan := List Action

namespace Plan

/-- The steps of `plan` in direction `d`. -/
def toward (plan : Plan) (d : Direction) : Plan :=
  plan.filter fun a => a.direction = d

def lines (plan : Plan) : List UInt32 := plan.map Action.line

end Plan

end GridWalk
