import GridWalk.Position

/-! What a run reports: the events in the order in which they happen, and how the run ends. -/

namespace GridWalk

inductive Event where
  /-- The hero stepped onto `position` and faces `direction`. -/
  | moved (position : Position) (direction : Direction)
  /-- The hero picked up the coin on `position`. -/
  | collected (position : Position)
  /-- A wall or the edge of the grid stopped the run.  `facing` is the direction of the step. -/
  | blocked (line : UInt32) (facing : Direction)
  /-- An obstacle destroyed the hero, which stopped the run. -/
  | destroyed (line : UInt32)
  /-- The plan was used up. -/
  | finished (success : Bool)
  deriving DecidableEq, Repr

inductive Outcome where
  /-- The run ended on a goal with every coin collected. -/
  | success
  /-- The plan was used up without success. -/
  | incomplete (reachedGoal : Bool) (missingCoins : UInt64)
  | blocked (line : UInt32)
  | destroyed (line : UInt32)
  deriving DecidableEq, Repr

namespace Outcome

def isSuccess : Outcome → Bool
  | success => true
  | _ => false

/-- The run stopped before its plan was used up. -/
def isHalt : Outcome → Bool
  | blocked _ | destroyed _ => true
  | _ => false

/-- The line of the step that stopped the run. -/
def line? : Outcome → Option UInt32
  | blocked line | destroyed line => some line
  | _ => none

def text : Outcome → String
  | success => "goal reached"
  | incomplete false _ => "program finished but the goal was not reached"
  | incomplete true missing =>
    "goal reached but " ++ missing.toNat.repr ++ " coin(s) were not collected"
  | blocked line => "hero hit a wall (line " ++ line.toNat.repr ++ ")"
  | destroyed line => "hero was destroyed by an obstacle (line " ++ line.toNat.repr ++ ")"

theorem isHalt_eq_isSome_line? (o : Outcome) : o.isHalt = o.line?.isSome := by cases o <;> rfl

end Outcome

/-- A whole run: its events, its outcome, where it left the hero, and the coins in the order in
which they were collected. -/
structure RunReport where
  events : List Event
  outcome : Outcome
  finalPosition : Position
  finalDirection : Direction
  collected : List Position
  deriving DecidableEq, Repr

def RunReport.collectedCount (report : RunReport) : Nat := report.collected.length

end GridWalk
