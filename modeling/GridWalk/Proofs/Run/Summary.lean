import GridWalk.Proofs.Run.History

/-! The events of a run and the summary in its report tell of the same run.  Each part of this is
proved for every history, by induction on it, and `coherent_execute` collects the parts for the
report of a run. -/

namespace GridWalk

namespace Event

/-- The event can only be the second one of a step. -/
def isSecond : Event → Bool
  | collected _ | destroyed _ => true
  | _ => false

/-- The moves among the events are the steps of the plan, one by one.  The first leads from `start`
to a neighbour, and each other one from where the move before it led. -/
def FollowPlan (start : Position) (plan : Plan) (events : List Event) : Prop :=
  ∀ (i : Nat) (event : Event), (events.filter isMoved)[i]? = some event →
    ∃ (a : Action) (p q : Position), plan[i]? = some a ∧
      (start :: events.filterMap destination?)[i]? = some p ∧
      q.point = p.point + a.direction.offset ∧ event = moved q a.direction

theorem FollowPlan.of_no_moves {start : Position} {plan : Plan} {events : List Event}
    (h : ∀ event ∈ events, event.isMoved = false) : FollowPlan start plan events := by
  intro i event hi
  rw [List.filter_eq_nil_iff.2 (by simpa using h)] at hi
  cases hi

theorem FollowPlan.cons {start q : Position} {a : Action} {rest : Plan} {events : List Event}
    (hq : q.point = start.point + a.direction.offset) (h : FollowPlan q rest events) :
    FollowPlan start (a :: rest) (.moved q a.direction :: events) := by
  intro i event hi
  rw [List.filter_cons_of_pos rfl] at hi
  cases i with
  | zero => exact ⟨a, start, q, rfl, rfl, hq, (Option.some.inj hi).symm⟩
  | succ i => exact h i event hi

theorem FollowPlan.cons_second {start : Position} {plan : Plan} {events : List Event}
    {event : Event} (hevent : event.isSecond = true) (h : FollowPlan start plan events) :
    FollowPlan start plan (event :: events) := by
  cases event with
  | collected p => exact h
  | destroyed line => exact h
  | moved | blocked | finished => cases hevent

end Event

/-- The event that goes with an outcome when the hero faces in a direction. -/
def Outcome.event (facing : Direction) : Outcome → Event
  | success => .finished true
  | incomplete .. => .finished false
  | blocked line => .blocked line facing
  | destroyed line => .destroyed line

/-- Where the plan was left: at the step that was blocked, after the step that destroyed the hero,
or at its end. -/
inductive Plan.LeftAt (plan : Plan) (facing : Direction) : Nat → Outcome → Prop
  | blocked {n : Nat} {a : Action} (step : plan[n]? = some a) (turned : a.direction = facing) :
      LeftAt plan facing n (.blocked a.line)
  | destroyed {n : Nat} {a : Action} (step : plan[n]? = some a) (turned : a.direction = facing) :
      LeftAt plan facing (n + 1) (.destroyed a.line)
  | finished {outcome : Outcome} (goes_on : outcome.isHalt = false) :
      LeftAt plan facing plan.length outcome

theorem Plan.LeftAt.cons {plan : Plan} {facing : Direction} {n : Nat} {outcome : Outcome}
    {a : Action} (h : plan.LeftAt facing n outcome) :
    Plan.LeftAt (a :: plan) facing (n + 1) outcome := by
  cases h with
  | blocked step turned => exact .blocked (by simpa using step) turned
  | destroyed step turned => exact .destroyed (by simpa using step) turned
  | finished goes_on => exact .finished goes_on

/-- The events and the summary of a report agree with each other and with the plan. -/
structure RunReport.Coherent (stance : Stance) (plan : Plan) (report : RunReport) : Prop where
  one_terminal : report.events.countP Event.isTerminal = 1
  terminal_last : ∃ event, report.events.getLast? = some event ∧ event.isTerminal = true
  moves : Event.FollowPlan stance.position plan report.events
  /-- A coin is collected right after the move onto its cell. -/
  after_collected : ∀ i p, report.events[i]? = some (.collected p) →
    ∃ j d, i = j + 1 ∧ report.events[j]? = some (.moved p d)
  /-- The hero is destroyed right after a move. -/
  after_destroyed : ∀ i line, report.events[i]? = some (.destroyed line) →
    ∃ j p d, i = j + 1 ∧ report.events[j]? = some (.moved p d)
  length : report.events.length
    = report.events.countP Event.isMoved + report.collected.length + 1
  collected : report.collected = report.events.filterMap Event.coin?
  position : report.finalPosition
    = (report.events.filterMap Event.destination?).getLast?.getD stance.position
  blocked_iff : ∀ line facing, report.events.getLast? = some (.blocked line facing) ↔
    report.outcome = .blocked line ∧ facing = report.finalDirection
  destroyed_iff : ∀ line, report.events.getLast? = some (.destroyed line) ↔
    report.outcome = .destroyed line
  finished_iff : ∀ success, report.events.getLast? = some (.finished success) ↔
    success = true ∧ report.outcome = .success ∨
    success = false ∧ ∃ reached missing, report.outcome = .incomplete reached missing
  left_at : plan.LeftAt report.finalDirection (report.events.countP Event.isMoved) report.outcome

namespace Outcome

variable {outcome : Outcome} {line : UInt32} {facing direction : Direction}

theorem event_eq_blocked_iff : outcome.event direction = .blocked line facing ↔
    outcome = .blocked line ∧ facing = direction := by
  cases outcome <;> simp [event, eq_comm]

theorem event_eq_destroyed_iff :
    outcome.event direction = .destroyed line ↔ outcome = .destroyed line := by
  cases outcome <;> simp [event]

theorem event_eq_finished_iff {success : Bool} : outcome.event direction = .finished success ↔
    success = true ∧ outcome = .success ∨
    success = false ∧ ∃ reached missing, outcome = .incomplete reached missing := by
  cases outcome <;> simp [event, eq_comm]

theorem isTerminal_event : (outcome.event direction).isTerminal = true := by
  cases outcome <;> rfl

end Outcome

namespace Run

variable {grid : Grid} {state last : RunState} {plan : Plan} {events : List Event}

theorem point_of_target? {p q : Position} {d : Direction} (h : target? grid p d = some q) :
    q.point = p.point + d.offset :=
  Position.point_step (Option.filter_eq_some_iff.1 h).1

theorem event_finalOutcome (state : RunState) (facing : Direction) :
    (finalOutcome grid state).event facing = .finished (finalOutcome grid state).isSuccess := by
  unfold finalOutcome
  simp only
  split <;> rfl

namespace History

theorem countP_isTerminal (h : History grid state plan events last) :
    events.countP Event.isTerminal = 1 := by
  induction h with
  | finished | blocked | destroyed => rfl
  | walked _ _ _ _ ih => simpa [Event.isTerminal] using ih
  | pickedUp _ _ _ _ ih => simpa [Event.isTerminal] using ih

/-- The last event is the one that goes with the outcome. -/
theorem getLast?_events (h : History grid state plan events last) :
    ∃ outcome, last.outcome = some outcome ∧
      events.getLast? = some (outcome.event last.facing) := by
  induction h with
  | finished state => exact ⟨_, rfl, congrArg some (event_finalOutcome state _).symm⟩
  | blocked | destroyed => exact ⟨_, rfl, rfl⟩
  | walked _ _ _ _ ih =>
    obtain ⟨outcome, houtcome, hlast⟩ := ih
    exact ⟨outcome, houtcome, by simp [List.getLast?_cons, hlast]⟩
  | pickedUp _ _ _ _ ih =>
    obtain ⟨outcome, houtcome, hlast⟩ := ih
    exact ⟨outcome, houtcome, by simp [List.getLast?_cons, hlast]⟩

/-- The moves are the steps of the plan, as far as the run goes. -/
theorem followPlan (h : History grid state plan events last) :
    Event.FollowPlan state.position plan events := by
  induction h with
  | finished | blocked => exact .of_no_moves (by simp [Event.isMoved])
  | destroyed rest target obstacle =>
    exact .cons (point_of_target? target) (.of_no_moves (by simp [Event.isMoved]))
  | walked target _ _ _ ih => exact .cons (point_of_target? target) ih
  | pickedUp target _ _ _ ih => exact .cons (point_of_target? target) (ih.cons_second rfl)

/-- The second event of a step comes right after its move, and a coin is collected where the move
led. -/
theorem move_before_second (h : History grid state plan events last) {i : Nat} {event : Event}
    (hi : events[i]? = some event) (hsecond : event.isSecond = true) : ∃ j p d, i = j + 1 ∧
      events[j]? = some (.moved p d) ∧ ∀ q, event = .collected q → q = p := by
  induction h generalizing i with
  | finished | blocked =>
    obtain rfl := List.mem_singleton.1 (List.mem_of_getElem? hi)
    cases hsecond
  | @destroyed state a p rest target obstacle =>
    cases i with
    | zero =>
      obtain rfl : Event.moved p a.direction = event := by simpa using hi
      cases hsecond
    | succ i =>
      obtain ⟨rfl, rfl⟩ : i = 0 ∧ Event.destroyed a.line = event := by
        cases i <;> simp_all
      exact ⟨0, p, a.direction, rfl, rfl, nofun⟩
  | @walked state last a p rest events target harmless found later ih =>
    cases i with
    | zero =>
      obtain rfl : Event.moved p a.direction = event := by simpa using hi
      cases hsecond
    | succ i =>
      obtain ⟨j, q, d, rfl, hj, hplace⟩ := ih hi
      exact ⟨j + 1, q, d, rfl, hj, hplace⟩
  | @pickedUp state last a p rest events target coin fresh later ih =>
    cases i with
    | zero =>
      obtain rfl : Event.moved p a.direction = event := by simpa using hi
      cases hsecond
    | succ i =>
      cases i with
      | zero =>
        obtain rfl : Event.collected p = event := by simpa using hi
        exact ⟨0, p, a.direction, rfl, rfl, fun q hq => (Event.collected.inj hq).symm⟩
      | succ i =>
        obtain ⟨j, q, d, rfl, hj, hplace⟩ := ih hi
        exact ⟨j + 2, q, d, rfl, hj, hplace⟩

theorem collected_eq (h : History grid state plan events last) :
    last.collected = state.collected ++ events.filterMap Event.coin? := by
  induction h with
  | finished | blocked | destroyed => simp [List.filterMap_cons, Event.coin?]
  | walked _ _ _ _ ih => simpa [List.filterMap_cons, Event.coin?] using ih
  | pickedUp _ _ _ _ ih => simpa [List.filterMap_cons, Event.coin?] using ih

theorem position_eq (h : History grid state plan events last) :
    last.position = (events.filterMap Event.destination?).getLast?.getD state.position := by
  induction h with
  | finished | blocked | destroyed => simp [List.filterMap_cons, Event.destination?]
  | walked _ _ _ _ ih =>
    simpa [List.filterMap_cons, Event.destination?, List.getLast?_cons] using ih
  | pickedUp _ _ _ _ ih =>
    simpa [List.filterMap_cons, Event.destination?, List.getLast?_cons] using ih

/-- Every event is a move, a coin or the last one. -/
theorem length_events (h : History grid state plan events last) :
    events.length = events.countP Event.isMoved + (events.filterMap Event.coin?).length + 1 := by
  induction h with
  | finished | blocked | destroyed => rfl
  | walked _ _ _ _ ih =>
    simp only [List.length_cons, List.countP_cons, Event.isMoved, List.filterMap_cons, Event.coin?,
      if_true]
    omega
  | pickedUp _ _ _ _ ih =>
    simp only [List.length_cons, List.countP_cons, Event.isMoved, List.filterMap_cons, Event.coin?,
      if_true, Bool.false_eq_true, if_false]
    omega

theorem leftAt (h : History grid state plan events last) : ∃ outcome,
    last.outcome = some outcome ∧
    plan.LeftAt last.facing (events.countP Event.isMoved) outcome := by
  induction h with
  | finished state => exact ⟨_, rfl, .finished (isHalt_finalOutcome grid state)⟩
  | blocked => exact ⟨_, rfl, .blocked rfl rfl⟩
  | destroyed => exact ⟨_, rfl, .destroyed rfl rfl⟩
  | walked _ _ _ _ ih =>
    obtain ⟨outcome, houtcome, hleft⟩ := ih
    refine ⟨outcome, houtcome, ?_⟩
    simpa [List.countP_cons, Event.isMoved] using hleft.cons
  | pickedUp _ _ _ _ ih =>
    obtain ⟨outcome, houtcome, hleft⟩ := ih
    refine ⟨outcome, houtcome, ?_⟩
    simpa [List.countP_cons, Event.isMoved] using hleft.cons

end History

end Run

/-- The events of a run and the summary in its report tell of the same run, from any stance and for
any plan. -/
theorem coherent_execute (grid : Grid) (stance : Stance) (plan : Plan) :
    (execute grid stance plan).Coherent stance plan := by
  have hrun := history_execute grid stance plan
  obtain ⟨outcome, houtcome, hlast⟩ := hrun.getLast?_events
  obtain ⟨outcome', houtcome', hleft⟩ := hrun.leftAt
  obtain rfl : (execute grid stance plan).outcome = outcome := Option.some.inj houtcome
  obtain rfl : (execute grid stance plan).outcome = outcome' := Option.some.inj houtcome'
  have hcollected : (execute grid stance plan).collected = _ := hrun.collected_eq
  have hlength := hrun.length_events
  refine ⟨hrun.countP_isTerminal, ⟨_, hlast, Outcome.isTerminal_event⟩, hrun.followPlan,
    fun i p hi => ?_, fun i line hi => ?_, ?_, hcollected, hrun.position_eq, fun line facing => ?_,
    fun line => ?_, fun success => ?_, hleft⟩
  · obtain ⟨j, q, d, rfl, hj, hplace⟩ := hrun.move_before_second hi rfl
    exact ⟨j, d, rfl, hplace p rfl ▸ hj⟩
  · obtain ⟨j, q, d, rfl, hj, -⟩ := hrun.move_before_second hi rfl
    exact ⟨j, q, d, rfl, hj⟩
  · rw [hcollected]
    exact hlength
  · rw [hlast, Option.some.injEq]
    exact Outcome.event_eq_blocked_iff
  · rw [hlast, Option.some.injEq]
    exact Outcome.event_eq_destroyed_iff
  · rw [hlast, Option.some.injEq]
    exact Outcome.event_eq_finished_iff

end GridWalk
