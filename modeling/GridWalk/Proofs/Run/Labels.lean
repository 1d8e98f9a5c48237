import GridWalk.Proofs.Compile.Relabel
import GridWalk.Proofs.Run.Calls
import GridWalk.Proofs.Run.Transition

/-! The lines of a plan and the direction that the hero faces at first are labels.  A run hands on
the lines and never looks at them, and each step turns the hero before anything else.
`Next.renumber` says so of one call, and `execute_labels` of the whole report. -/

namespace GridWalk

/-- The event when `f` gives the lines. -/
def Event.renumber (f : UInt32 → UInt32) : Event → Event
  | moved position direction => moved position direction
  | collected position => collected position
  | blocked line facing => blocked (f line) facing
  | destroyed line => destroyed (f line)
  | finished success => finished success

def Outcome.renumber (f : UInt32 → UInt32) : Outcome → Outcome
  | success => success
  | incomplete reachedGoal missingCoins => incomplete reachedGoal missingCoins
  | blocked line => blocked (f line)
  | destroyed line => destroyed (f line)

def RunState.renumber (f : UInt32 → UInt32) (state : RunState) : RunState :=
  { state with outcome := state.outcome.map (Outcome.renumber f) }

def Run.renumber (f : UInt32 → UInt32) (run : Run) : Run :=
  ⟨run.remaining.map (Action.renumber f), run.state.renumber f, run.pending.map (Event.renumber f)⟩

/-- The report when `f` gives the lines of the plan. -/
def RunReport.renumber (f : UInt32 → UInt32) (report : RunReport) : RunReport :=
  { report with
    events := report.events.map (Event.renumber f)
    outcome := report.outcome.renumber f }

namespace Run

variable {grid : Grid} {f : UInt32 → UInt32} {state : RunState} {run later : Run} {event : Event}

theorem outcome_renumber_eq_none (h : state.outcome = none) :
    (state.renumber f).outcome = none := by
  rw [RunState.renumber, h, Option.map_none]

/-- How a plan ends that is used up has no line. -/
theorem renumber_finalOutcome (grid : Grid) (state : RunState) :
    (finalOutcome grid state).renumber f = finalOutcome grid state := by
  unfold finalOutcome
  simp only
  split <;> rfl

/-- A run goes on in the same way with other lines. -/
theorem Next.renumber (h : Next grid run event later) :
    Next grid (run.renumber f) (event.renumber f) (later.renumber f) := by
  cases h with
  | waiting plan state event => exact .waiting _ _ _
  | blocked rest running closed => exact .blocked _ (outcome_renumber_eq_none running) closed
  | walked rest running target harmless found =>
    exact .walked _ (outcome_renumber_eq_none running) target harmless found
  | pickedUp rest running target coin fresh =>
    exact .pickedUp _ (outcome_renumber_eq_none running) target coin fresh
  | destroyed rest running target obstacle =>
    exact .destroyed _ (outcome_renumber_eq_none running) target obstacle
  | @finished state running =>
    have hlater :
        Run.renumber f ⟨[], { state with outcome := some (finalOutcome grid state) }, none⟩
          = ⟨[], { state.renumber f with outcome := some (finalOutcome grid state) }, none⟩ := by
      simp only [Run.renumber, RunState.renumber, Option.map_some, renumber_finalOutcome,
        List.map_nil, Option.map_none]
    rw [hlater]
    exact .finished (outcome_renumber_eq_none running)

theorem next?_renumber_eq_none (h : run.next? grid = none) :
    (run.renumber f).next? grid = none := by
  obtain ⟨hpending, hended⟩ := next?_eq_none_iff.1 h
  refine next?_eq_none_iff.2 ⟨?_, ?_⟩
  · rw [Run.renumber, hpending, Option.map_none]
  · rw [Run.renumber, RunState.renumber, Option.isSome_map]
    exact hended

/-- With other lines, draining gives the same events and leaves the same run, up to the lines. -/
theorem drain_renumber (run : Run) :
    (run.renumber f).drain grid
      = ((run.drain grid).1.map (Event.renumber f), (run.drain grid).2.renumber f) := by
  induction hbound : run.bound using Nat.strongRecOn generalizing run with
  | ind bound ih =>
    cases hnext : run.next? grid with
    | none =>
      rw [drain_of_next?_eq_none hnext, drain_of_next?_eq_none (next?_renumber_eq_none hnext)]
      rfl
    | some next =>
      obtain ⟨event, later⟩ := next
      have hrenumber : Next grid (run.renumber f) (event.renumber f) (later.renumber f) :=
        (next?_eq_some_iff.1 hnext).renumber
      have hlater := ih later.bound (hbound ▸ bound_lt_of_next? hnext) later rfl
      rw [drain_of_next? hnext, drain_of_next? (next?_eq_some_iff.2 hrenumber), hlater,
        List.map_cons]

theorem report_renumber (run : Run) :
    (run.renumber f).report grid = (run.report grid).renumber f := by
  obtain ⟨outcome, houtcome⟩ := Option.isSome_iff_exists.1 (isSome_outcome_drain grid run)
  rw [report, report, drain_renumber]
  simp only [RunReport.renumber, Run.renumber, RunState.renumber, houtcome, Option.map_some,
    Option.getD_some]

theorem initial_renumber (stance : Stance) (plan : Plan) :
    (initial stance plan).renumber f = initial stance (plan.map (Action.renumber f)) := rfl

/-- A step turns the hero, so the direction faced before it does not count. -/
theorem step_facing (grid : Grid) (state : RunState) (facing : Direction) (a : Action)
    (rest : Plan) : step grid { state with facing } a rest = step grid state a rest := rfl

theorem drain_facing (h : state.outcome = none) (facing : Direction) (a : Action) (rest : Plan) :
    (resting { state with facing } (a :: rest)).drain grid
      = (resting state (a :: rest)).drain grid := by
  have hfacing : ({ state with facing } : RunState).outcome = none := h
  rw [drain_cons hfacing, drain_cons h, step_facing]

end Run

/-- With other lines, the report is the same up to the lines of what stopped the run.  The direction
faced at the start shows only in the report of an empty plan, as the direction faced at its end. -/
theorem execute_labels (grid : Grid) (position : Position) (facing facing' : Direction) :
    (∀ (f : UInt32 → UInt32) (plan : Plan),
      execute grid ⟨position, facing⟩ (plan.map (Action.renumber f))
        = (execute grid ⟨position, facing⟩ plan).renumber f) ∧
    (∀ (a : Action) (rest : Plan),
      execute grid ⟨position, facing'⟩ (a :: rest) = execute grid ⟨position, facing⟩ (a :: rest)) ∧
    execute grid ⟨position, facing'⟩ []
      = { execute grid ⟨position, facing⟩ [] with finalDirection := facing' } := by
  let start (d : Direction) : RunState := ⟨position, d, [], none⟩
  have hstart : ∀ d, (start d).outcome = none := fun _ => rfl
  refine ⟨fun f plan => ?_, fun a rest => ?_, ?_⟩
  · rw [execute, execute, ← Run.initial_renumber]
    exact Run.report_renumber _
  · have hdrain : (Run.initial ⟨position, facing'⟩ (a :: rest)).drain grid
        = (Run.initial ⟨position, facing⟩ (a :: rest)).drain grid :=
      Run.drain_facing (hstart facing) facing' a rest
    rw [execute, execute, Run.report, Run.report, hdrain]
  · have hdrain : ∀ d, (Run.initial ⟨position, d⟩ []).drain grid = _ :=
      fun d => Run.drain_nil (hstart d)
    simp only [execute, Run.report, hdrain]
    rfl

end GridWalk
