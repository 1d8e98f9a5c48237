import GridWalk.Proofs.Grid.Coins
import GridWalk.Proofs.Run.Calls
import GridWalk.Proofs.Run.Transition
import Mathlib.Data.List.ReduceOption

/-! What is true of a run wherever it is left.  Between the two events of a step the state is ahead
of the events that were handed out, and `Consistent` says by how much.  Every call keeps it, so
`consistent_calls` has it for the run after any number of calls. -/

namespace GridWalk

namespace Event

/-- The coin that an event reports. -/
def coin? : Event → Option Position
  | collected p => some p
  | _ => none

/-- The cell that an event reports the hero to have stepped onto. -/
def destination? : Event → Option Position
  | moved p _ => some p
  | _ => none

/-- The event is the last of its run. -/
def isTerminal : Event → Bool
  | blocked .. | destroyed _ | finished _ => true
  | moved .. | collected _ => false

end Event

/-- The stances in which the runs over a grid begin: that of the grid itself and those that a
configuration asks for and gets. -/
inductive Stance.Admitted (grid : Grid) : Stance → Prop
  | ofGrid : Admitted grid (.ofGrid grid)
  | ofConfig {config : RunConfig} {stance : Stance} (accepted : ofConfig grid config = .ok stance) :
      Admitted grid stance

theorem Stance.Admitted.isOpen {grid : Grid} {stance : Stance} (h : stance.Admitted grid) :
    grid.isOpen stance.position = true := by
  cases h with
  | ofGrid => exact grid.start_open
  | @ofConfig config stance accepted =>
    unfold Stance.ofConfig at accepted
    simp only at accepted
    split at accepted
    · cases accepted
    next hstart =>
      obtain rfl := Except.ok.inj accepted
      exact Layout.startFault?_eq_none_iff.1 hstart

namespace Run

/-- The event may wait in a run with the given state: the coin on which the hero stands was picked
up last, or the obstacle on which the hero stands has ended the run. -/
inductive Waits (grid : Grid) (state : RunState) : Event → Prop
  | collected (last : state.collected.getLast? = some state.position)
      (running : state.outcome = none) : Waits grid state (.collected state.position)
  | destroyed {line : UInt32} (ended : state.outcome = some (.destroyed line))
      (obstacle : grid.cell? state.position = some .obstacle) : Waits grid state (.destroyed line)

/-- The state of a run that began at `start` and has handed out the events `delivered`. -/
structure Consistent (grid : Grid) (start : Position) (delivered : List Event) (run : Run) :
    Prop where
  isOpen : grid.isOpen run.state.position = true
  distinct : run.state.collected.Nodup
  coins : ∀ p ∈ run.state.collected, grid.cell? p = some .coin
  waits : ∀ event, run.pending = some event → Waits grid run.state event
  collected : run.state.collected = (delivered ++ run.pending.toList).filterMap Event.coin?
  position : run.state.position = (delivered.filterMap Event.destination?).getLast?.getD start
  ended : run.state.outcome.isSome = true ↔
    (∃ event ∈ delivered, event.isTerminal = true) ∨ ∃ line, run.pending = some (.destroyed line)

variable {grid : Grid} {start : Position} {delivered : List Event} {run later : Run}
  {event : Event}

theorem consistent_initial {stance : Stance} (h : grid.isOpen stance.position = true)
    (plan : Plan) : Consistent grid stance.position [] (initial stance plan) where
  isOpen := h
  distinct := .nil
  coins := nofun
  waits := nofun
  collected := rfl
  position := rfl
  ended := by simp [initial]

namespace Consistent

theorem length_le (h : Consistent grid start delivered run) :
    run.state.collected.length ≤ grid.coinCount := by
  have hcoins : ∀ p ∈ run.state.collected, p.point ∈ grid.coins := by
    intro p hp
    show grid.cellAt? p.point = some .coin
    rw [Grid.cellAt?_point]
    exact h.coins p hp
  exact Grid.length_le_coinCount h.distinct hcoins

/-- Only a coin and an obstacle make an event wait. -/
theorem pending_eq_none (h : Consistent grid start delivered run) {outcome : Outcome}
    (houtcome : run.state.outcome = some outcome) (hother : ∀ line, outcome ≠ .destroyed line) :
    run.pending = none := by
  cases hpending : run.pending with
  | none => rfl
  | some event =>
    cases h.waits event hpending with
    | collected last running => cases running.symm.trans houtcome
    | @destroyed line ended obstacle =>
      exact absurd (Option.some.inj (houtcome.symm.trans ended)) (hother line)

/-- As long as a run goes on and nothing waits, no event was its last. -/
theorem not_terminal (h : Consistent grid start delivered run)
    (running : run.state.outcome = none) : ∀ event ∈ delivered, event.isTerminal = false := by
  intro event hevent
  by_contra hterminal
  have hended := h.ended.2 (.inl ⟨event, hevent, by simpa using hterminal⟩)
  simp [running] at hended

/-- A call for an event keeps a run consistent with what it has handed out. -/
theorem next (h : Consistent grid start delivered run) (hnext : Next grid run event later) :
    Consistent grid start (delivered ++ [event]) later := by
  cases hnext with
  | waiting plan state event =>
    have hwaits : Waits grid state event := h.waits event rfl
    refine ⟨h.isOpen, h.distinct, h.coins, nofun, ?_, ?_, ?_⟩
    · simpa using h.collected
    · have hplace : event.destination? = none := by cases hwaits <;> rfl
      simpa [hplace] using h.position
    · have hended := h.ended
      cases hwaits with
      | collected last running => simpa [Event.isTerminal] using hended
      | destroyed ended obstacle => simp [Event.isTerminal, ended]
  | blocked rest running closed =>
    refine ⟨h.isOpen, h.distinct, h.coins, nofun, ?_, ?_, ?_⟩
    · simpa [List.filterMap_cons, Event.coin?] using h.collected
    · simpa [List.filterMap_cons, Event.destination?] using h.position
    · simp [Event.isTerminal]
  | walked rest running target harmless found =>
    have hrunning := h.not_terminal running
    refine ⟨isOpen_of_target? target, h.distinct, h.coins, nofun, ?_, ?_, ?_⟩
    · simpa [List.filterMap_cons, Event.coin?] using h.collected
    · simp [Event.destination?]
    · simpa [Event.isTerminal, running] using hrunning
  | @pickedUp state a p rest running target coin fresh =>
    have hrunning := h.not_terminal running
    have hcollected := h.collected
    refine ⟨isOpen_of_target? target, ?_, ?_, ?_, ?_, ?_, ?_⟩
    · rw [← List.concat_eq_append]
      exact h.distinct.concat fresh
    · intro q hq
      rcases List.mem_append.1 hq with hq | hq
      · exact h.coins q hq
      · rwa [List.mem_singleton.1 hq]
    · intro event hevent
      obtain rfl := Option.some.inj hevent
      exact .collected (by simp) running
    · simpa [List.filterMap_cons, Event.coin?] using hcollected
    · simp [Event.destination?]
    · simpa [Event.isTerminal, running] using hrunning
  | destroyed rest running target obstacle =>
    refine ⟨isOpen_of_target? target, h.distinct, h.coins, ?_, ?_, ?_, ?_⟩
    · intro event hevent
      obtain rfl := Option.some.inj hevent
      exact .destroyed rfl obstacle
    · simpa [List.filterMap_cons, Event.coin?] using h.collected
    · simp [Event.destination?]
    · simp
  | finished running =>
    refine ⟨h.isOpen, h.distinct, h.coins, nofun, ?_, ?_, ?_⟩
    · simpa [List.filterMap_cons, Event.coin?] using h.collected
    · simpa [List.filterMap_cons, Event.destination?] using h.position
    · simp [Event.isTerminal]

/-- Calls keep a run consistent with all that it has handed out, also after it has ended. -/
theorem calls (h : Consistent grid start delivered run) (k : Nat) :
    Consistent grid start (delivered ++ (run.calls grid k).1.reduceOption)
      (run.calls grid k).2 := by
  induction k generalizing run delivered with
  | zero => simpa [Run.calls] using h
  | succ k ih =>
    cases hnext : run.next? grid with
    | none =>
      rw [calls_of_next?_eq_none hnext, List.reduceOption_replicate_none, List.append_nil]
      exact h
    | some next =>
      obtain ⟨event, later⟩ := next
      rw [calls_succ_of_next? hnext, List.reduceOption_cons_of_some, ← List.singleton_append,
        ← List.append_assoc]
      exact ih (h.next (next?_eq_some_iff.1 hnext))

/-- A drained run is consistent with all of its events. -/
theorem drain (h : Consistent grid start delivered run) :
    Consistent grid start (delivered ++ (run.drain grid).1) (run.drain grid).2 := by
  induction hbound : run.bound using Nat.strongRecOn generalizing run delivered with
  | ind bound ih =>
    cases hnext : run.next? grid with
    | none =>
      rw [drain_of_next?_eq_none hnext, List.append_nil]
      exact h
    | some next =>
      obtain ⟨event, later⟩ := next
      have hlater := h.next (next?_eq_some_iff.1 hnext)
      rw [drain_of_next? hnext, List.append_cons]
      exact ih later.bound (hbound ▸ bound_lt_of_next? hnext) hlater rfl

end Consistent

end Run

/-- The state of a run is consistent with the events that it has handed out, however many these are.
The coins collected are at most those of the grid, so those that are missing in the end are counted
exactly, and nothing waits in a run that ended other than on an obstacle. -/
theorem consistent_calls {grid : Grid} {stance : Stance} (h : stance.Admitted grid) (plan : Plan)
    (k : Nat) :
    let answers := ((Run.initial stance plan).calls grid k).1
    let run := ((Run.initial stance plan).calls grid k).2
    Run.Consistent grid stance.position answers.reduceOption run ∧
    run.state.collected.length ≤ grid.coinCount ∧
    ∀ outcome, run.state.outcome = some outcome → (∀ line, outcome ≠ .destroyed line) →
      run.pending = none := by
  intro answers run
  have hrun : Run.Consistent grid stance.position answers.reduceOption run :=
    (Run.consistent_initial h.isOpen plan).calls k
  exact ⟨hrun, hrun.length_le, fun outcome => hrun.pending_eq_none⟩

/-- A level of one row: the start, a coin and an obstacle. -/
def corridor : Grid where
  layout := [[.start, .coin, .obstacle]]
  start := ⟨0, 0⟩
  width_pos := by decide
  rectangular := by decide
  width_lt := by decide
  height_lt := by decide
  start_open := by decide

/-- A run that is left before its last event.  The state says that the hero is destroyed, and the
three events that were handed out do not say so yet. -/
theorem consistent_calls_corridor :
    let stance : Stance := ⟨⟨0, 0⟩, .up⟩
    let plan : Plan := [⟨.right, 1⟩, ⟨.right, 2⟩, ⟨.left, 3⟩]
    let delivered : List Event :=
      [.moved ⟨1, 0⟩ .right, .collected ⟨1, 0⟩, .moved ⟨2, 0⟩ .right]
    let run : Run :=
      ⟨[⟨.left, 3⟩], ⟨⟨2, 0⟩, .right, [⟨1, 0⟩], some (.destroyed 2)⟩, some (.destroyed 2)⟩
    stance.Admitted corridor ∧
    (Run.initial stance plan).calls corridor 3 = (delivered.map some, run) ∧
    Run.Consistent corridor ⟨0, 0⟩ delivered run ∧ run.state.collected.length ≤ 1 := by
  intro stance plan delivered run
  have haccepted : Stance.ofConfig corridor ⟨none, some .up⟩ = .ok stance := by decide +kernel
  have hcalls : (Run.initial stance plan).calls corridor 3 = (delivered.map some, run) := by
    decide +kernel
  obtain ⟨hrun, hlength, -⟩ := consistent_calls (.ofConfig haccepted) plan 3
  rw [hcalls] at hrun hlength
  exact ⟨.ofConfig haccepted, hcalls, hrun, hlength⟩

end GridWalk
