import GridWalk.Proofs.Run.Invariant

/-! A run from a state to its end, step by step of its plan.  `History` has a constructor for each
way in which a step goes on or ends the run, with the one or two events of the step, and
`execute_eq_iff` says that a report is that of a run exactly when there is a history behind it. -/

namespace GridWalk

/-- The state in which a reported run ended. -/
def RunReport.last (report : RunReport) : RunState :=
  ⟨report.finalPosition, report.finalDirection, report.collected, some report.outcome⟩

theorem RunReport.eq_of_last_eq {report other : RunReport} (hevents : report.events = other.events)
    (hlast : report.last = other.last) : report = other := by
  cases report
  cases other
  simp_all [last]

namespace Run

/-- The run of a plan from a state hands out `events` and ends in the state `last`. -/
inductive History (grid : Grid) : RunState → Plan → List Event → RunState → Prop
  | finished (state : RunState) :
      History grid state [] [.finished (finalOutcome grid state).isSuccess]
        { state with outcome := some (finalOutcome grid state) }
  | blocked {state : RunState} {a : Action} (rest : Plan)
      (closed : target? grid state.position a.direction = none) :
      History grid state (a :: rest) [.blocked a.line a.direction]
        { state with facing := a.direction, outcome := some (.blocked a.line) }
  | destroyed {state : RunState} {a : Action} {p : Position} (rest : Plan)
      (target : target? grid state.position a.direction = some p)
      (obstacle : grid.cell? p = some .obstacle) :
      History grid state (a :: rest) [.moved p a.direction, .destroyed a.line]
        { state with
          position := p
          facing := a.direction
          outcome := some (.destroyed a.line) }
  | walked {state last : RunState} {a : Action} {p : Position} {rest : Plan} {events : List Event}
      (target : target? grid state.position a.direction = some p)
      (harmless : grid.cell? p ≠ some .obstacle)
      (found : grid.cell? p = some .coin → p ∈ state.collected)
      (later : History grid { state with position := p, facing := a.direction } rest events last) :
      History grid state (a :: rest) (.moved p a.direction :: events) last
  | pickedUp {state last : RunState} {a : Action} {p : Position} {rest : Plan}
      {events : List Event} (target : target? grid state.position a.direction = some p)
      (coin : grid.cell? p = some .coin) (fresh : p ∉ state.collected)
      (later : History grid { state with
          position := p
          facing := a.direction
          collected := state.collected ++ [p] } rest events last) :
      History grid state (a :: rest) (.moved p a.direction :: .collected p :: events) last

variable {grid : Grid} {state last : RunState} {plan : Plan} {events : List Event}

/-- Every run has a history. -/
theorem exists_history (plan : Plan) (running : state.outcome = none) :
    ∃ events last, History grid state plan events last := by
  induction plan generalizing state with
  | nil => exact ⟨_, _, .finished state⟩
  | cons a rest ih =>
    obtain ⟨event, later, hnext⟩ :
        ∃ event later, Next grid ⟨a :: rest, state, none⟩ event later :=
      ⟨_, _, next_step a rest running⟩
    cases hnext with
    | blocked _ _ closed => exact ⟨_, _, .blocked rest closed⟩
    | @walked _ _ p _ _ target harmless found =>
      obtain ⟨events, last, hlater⟩ :=
        @ih { state with position := p, facing := a.direction } running
      exact ⟨_, _, .walked target harmless found hlater⟩
    | @pickedUp _ _ p _ _ target coin fresh =>
      obtain ⟨events, last, hlater⟩ := @ih { state with
        position := p
        facing := a.direction
        collected := state.collected ++ [p] } running
      exact ⟨_, _, .pickedUp target coin fresh hlater⟩
    | destroyed _ _ target obstacle => exact ⟨_, _, .destroyed rest target obstacle⟩

/-- Draining a run gives the events and the last state of its history. -/
theorem History.drain (h : History grid state plan events last) (running : state.outcome = none) :
    ((resting state plan).drain grid).1 = events ∧
    ((resting state plan).drain grid).2.state = last := by
  induction h with
  | finished state =>
    rw [drain_nil running]
    exact ⟨rfl, rfl⟩
  | @blocked state a rest closed =>
    have hnext : next? grid (resting state (a :: rest)) = _ :=
      next?_eq_some_iff.2 (.blocked rest running closed)
    rw [drain_of_next? hnext, ← resting, drain_of_outcome rfl]
    exact ⟨rfl, rfl⟩
  | @destroyed state a p rest target obstacle =>
    have hnext : next? grid (resting state (a :: rest)) = _ :=
      next?_eq_some_iff.2 (.destroyed rest running target obstacle)
    rw [drain_of_next? hnext, drain_pending, drain_of_outcome rfl]
    exact ⟨rfl, rfl⟩
  | @walked state last a p rest events target harmless found later ih =>
    have hnext : next? grid (resting state (a :: rest)) = _ :=
      next?_eq_some_iff.2 (.walked rest running target harmless found)
    obtain ⟨hevents, hlast⟩ := ih running
    rw [drain_of_next? hnext, ← resting, hevents, hlast]
    exact ⟨rfl, rfl⟩
  | @pickedUp state last a p rest events target coin fresh later ih =>
    have hnext : next? grid (resting state (a :: rest)) = _ :=
      next?_eq_some_iff.2 (.pickedUp rest running target coin fresh)
    obtain ⟨hevents, hlast⟩ := ih running
    rw [drain_of_next? hnext, drain_pending, hevents, hlast]
    exact ⟨rfl, rfl⟩

theorem History.unique {events' : List Event} {last' : RunState}
    (h : History grid state plan events last) (h' : History grid state plan events' last')
    (running : state.outcome = none) : events = events' ∧ last = last' := by
  obtain ⟨hevents, hlast⟩ := h.drain running
  obtain ⟨hevents', hlast'⟩ := h'.drain running
  exact ⟨hevents.symm.trans hevents', hlast.symm.trans hlast'⟩

theorem isHalt_finalOutcome (grid : Grid) (state : RunState) :
    (finalOutcome grid state).isHalt = false := by
  unfold finalOutcome
  simp only
  split <;> rfl

theorem finalOutcome_ne_of_isHalt {outcome : Outcome} (hhalt : outcome.isHalt = true) :
    finalOutcome grid state ≠ outcome := by
  rintro rfl
  rw [isHalt_finalOutcome] at hhalt
  cases hhalt

/-- A run stops or comes to the end of its plan, where the last state decides. -/
theorem History.outcome_cases (h : History grid state plan events last) :
    (∃ outcome, outcome.isHalt = true ∧ last.outcome = some outcome) ∨
      last.outcome = some (finalOutcome grid last) := by
  induction h with
  | finished state => exact .inr rfl
  | blocked | destroyed => exact .inl ⟨_, rfl, rfl⟩
  | walked _ _ _ _ ih | pickedUp _ _ _ _ ih => exact ih

theorem last_report (run : Run) : (run.report grid).last = (run.drain grid).2.state := by
  have houtcome := outcome_drain grid run
  simp only [RunReport.last, ← houtcome]
  rfl

end Run

theorem history_execute (grid : Grid) (stance : Stance) (plan : Plan) :
    Run.History grid (Run.initial stance plan).state plan (execute grid stance plan).events
      (execute grid stance plan).last := by
  obtain ⟨events, last, hrun⟩ := @Run.exists_history grid (Run.initial stance plan).state plan rfl
  obtain ⟨hevents, hlast⟩ := hrun.drain rfl
  have hevents' : (execute grid stance plan).events = events := hevents
  have hlast' : (execute grid stance plan).last = last := (Run.last_report _).trans hlast
  rwa [hevents', hlast']

/-- A report is that of a run exactly when the run has a history with its events that ends as it
says. -/
theorem execute_eq_iff {grid : Grid} {stance : Stance} {plan : Plan} {report : RunReport} :
    execute grid stance plan = report ↔
      Run.History grid (Run.initial stance plan).state plan report.events report.last := by
  constructor
  · rintro rfl
    exact history_execute grid stance plan
  · intro h
    obtain ⟨hevents, hlast⟩ := (history_execute grid stance plan).unique h rfl
    exact RunReport.eq_of_last_eq hevents hlast

end GridWalk
