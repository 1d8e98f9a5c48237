import GridWalk.Action
import GridWalk.Event
import GridWalk.Grid.Basic

/-! Walking a plan over a grid.  A run hands out its events one at a time.  A step can have two
events, and then the second waits while the state is already the one after both.  `Run.report` takes
all events that are left. -/

namespace GridWalk

/-- Where a run starts and which way the hero faces, where these differ from the defaults. -/
structure RunConfig where
  start : Option Position
  facing : Option Direction
  deriving DecidableEq, Repr

def RunConfig.none : RunConfig := ⟨.none, .none⟩

instance : Inhabited RunConfig := ⟨.none⟩

structure RunState where
  position : Position
  facing : Direction
  /-- The coins collected, in the order in which they were picked up. -/
  collected : List Position
  /-- How the run ended, once it has. -/
  outcome : Option Outcome
  deriving DecidableEq, Repr

/-- A run: the steps that are left, the state, and the event that waits to be handed out. -/
structure Run where
  remaining : Plan
  state : RunState
  pending : Option Event
  deriving DecidableEq, Repr

structure Stance where
  position : Position
  facing : Direction
  deriving DecidableEq, Repr

namespace Stance

/-- The stance that a grid itself asks for. -/
def ofGrid (grid : Grid) : Stance := ⟨grid.start, default⟩

/-- The stance that a configuration asks for.  Its position has to be open. -/
def ofConfig (grid : Grid) (config : RunConfig) : Except GridFault Stance :=
  let start := config.start.getD grid.start
  match grid.startFault? start with
  | some fault => .error fault
  | none => .ok ⟨start, config.facing.getD default⟩

theorem ofConfig_none (grid : Grid) : ofConfig grid .none = .ok (ofGrid grid) := by
  have h : grid.startFault? grid.start = none :=
    Layout.startFault?_eq_none_iff.2 grid.start_open
  simp [ofConfig, RunConfig.none, ofGrid, h]

end Stance

namespace Run

def initial (stance : Stance) (plan : Plan) : Run :=
  ⟨plan, ⟨stance.position, stance.facing, [], none⟩, none⟩

/-- The open cell that a step leads to. -/
def target? (grid : Grid) (p : Position) (d : Direction) : Option Position :=
  (p.step d).filter grid.isOpen

/-- The state after the hero stepped onto `p`, and the second event of that step. -/
def arrive (grid : Grid) (state : RunState) (line : UInt32) (p : Position) :
    RunState × Option Event :=
  match grid.cell? p with
  | some .coin =>
    if state.collected.contains p then ({ state with position := p }, none)
    else ({ state with position := p, collected := state.collected ++ [p] }, some (.collected p))
  | some .obstacle =>
    ({ state with position := p, outcome := some (.destroyed line) }, some (.destroyed line))
  | _ => ({ state with position := p }, none)

/-- Takes one step.  The hero turns before walking, and also where the way is blocked. -/
def step (grid : Grid) (state : RunState) (a : Action) (rest : Plan) : Event × Run :=
  match target? grid state.position a.direction with
  | none =>
    (.blocked a.line a.direction,
      ⟨rest, { state with facing := a.direction, outcome := some (.blocked a.line) }, none⟩)
  | some p =>
    let arrival := arrive grid { state with facing := a.direction } a.line p
    (.moved p a.direction, ⟨rest, arrival.1, arrival.2⟩)

/-- How a run ends that used up its plan. -/
def finalOutcome (grid : Grid) (state : RunState) : Outcome :=
  let reachedGoal := grid.cell? state.position == some .goal
  let missing := grid.coinCount - state.collected.length
  if reachedGoal && missing == 0 then .success else .incomplete reachedGoal (.ofNat missing)

/-- The next event and the run after it.  A run that has ended has no event and stays as it is. -/
def next? (grid : Grid) (run : Run) : Option (Event × Run) :=
  match run.pending with
  | some event => some (event, { run with pending := none })
  | none =>
    match run.state.outcome, run.remaining with
    | some _, _ => none
    | none, a :: rest => some (step grid run.state a rest)
    | none, [] =>
      let outcome := finalOutcome grid run.state
      some (.finished outcome.isSuccess, ⟨[], { run.state with outcome := some outcome }, none⟩)

def bound (run : Run) : Nat :=
  2 * run.remaining.length + run.pending.toList.length
    + if run.state.outcome.isSome then 0 else 1

theorem bound_lt (run : Run) : run.bound < 2 * run.remaining.length + 3 := by
  have : run.pending.toList.length ≤ 1 := by cases run.pending <;> simp
  unfold bound
  split <;> omega

theorem remaining_step (grid : Grid) (state : RunState) (a : Action) (rest : Plan) :
    (step grid state a rest).2.remaining = rest := by
  unfold step
  split <;> rfl

theorem bound_lt_of_next? {grid : Grid} {run run' : Run} {event : Event}
    (h : run.next? grid = some (event, run')) : run'.bound < run.bound := by
  unfold next? at h
  split at h
  next hp =>
    obtain ⟨rfl, rfl⟩ := Prod.mk.inj (Option.some.inj h)
    simp [bound, hp]
  next hp =>
    split at h
    · cases h
    next a rest ho hr =>
      have hs := bound_lt (step grid run.state a rest).2
      rw [remaining_step, Option.some.inj h] at hs
      simp only [bound, hp, ho, hr, List.length_cons, Option.toList_none, List.length_nil,
        Option.isSome_none, Bool.false_eq_true, if_false] at hs ⊢
      omega
    next ho hr =>
      obtain ⟨rfl, rfl⟩ := Prod.mk.inj (Option.some.inj h)
      simp [bound, hp, ho, hr]

/-- The events that are left, and the run after the last of them. -/
def drain (grid : Grid) (run : Run) : List Event × Run :=
  match h : run.next? grid with
  | none => ([], run)
  | some (event, run') =>
    have := bound_lt_of_next? h
    let (events, last) := drain grid run'
    (event :: events, last)
termination_by run.bound

theorem drain_of_next?_eq_none {grid : Grid} {run : Run} (h : run.next? grid = none) :
    run.drain grid = ([], run) := by
  rw [drain]
  split
  · rfl
  next h' => cases h.symm.trans h'

theorem drain_of_next? {grid : Grid} {run run' : Run} {event : Event}
    (h : run.next? grid = some (event, run')) :
    run.drain grid = (event :: (run'.drain grid).1, (run'.drain grid).2) := by
  rw [drain]
  split
  next h' => cases h.symm.trans h'
  next h' =>
    obtain ⟨rfl, rfl⟩ := Prod.mk.inj (Option.some.inj (h.symm.trans h'))
    rfl

/-- The report of the events that are left.  A drained run has an outcome. -/
def report (grid : Grid) (run : Run) : RunReport :=
  let (events, last) := run.drain grid
  { events
    outcome := last.state.outcome.getD (.incomplete false 0)
    finalPosition := last.state.position
    finalDirection := last.state.facing
    collected := last.state.collected }

end Run

def execute (grid : Grid) (stance : Stance) (plan : Plan) : RunReport :=
  (Run.initial stance plan).report grid

end GridWalk
