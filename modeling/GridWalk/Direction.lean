/-! The four directions in which the hero moves and faces. -/

namespace GridWalk

inductive Direction where
  | up
  | down
  | left
  | right
  deriving DecidableEq, Repr

namespace Direction

/-- A run starts with the hero facing right. -/
instance : Inhabited Direction := ⟨.right⟩

/-- Every direction, in the order in which the move commands are listed. -/
def all : List Direction := [.up, .down, .left, .right]

/-- The word that follows `hero.move_` in a program. -/
def keyword : Direction → String
  | .up => "up"
  | .down => "down"
  | .left => "left"
  | .right => "right"

/-- The direction with the given keyword.  Case matters. -/
def ofKeyword? (keyword : String) : Option Direction :=
  all.find? fun d => d.keyword == keyword

theorem ofKeyword?_eq_some_iff {keyword : String} {d : Direction} :
    ofKeyword? keyword = some d ↔ keyword = d.keyword := by
  constructor
  · intro h
    have found := List.find?_some h
    exact (beq_iff_eq.1 found).symm
  · rintro rfl
    cases d <;> decide

end Direction

end GridWalk
