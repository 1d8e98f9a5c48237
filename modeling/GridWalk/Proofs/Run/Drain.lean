import GridWalk.Run

/-! Draining a run, one step of the plan at a time.  A run between two steps is one whose state has
no outcome and in which no event waits. -/

namespace GridWalk.Run

variable {grid : Grid} {state : RunState} {a : Action} {rest : Plan}

/-- A run that waits for the next step of its plan. -/
def resting (state : RunState) (plan : Plan) : Run := ⟨plan, state, none⟩

/-- The event that waits is handed out first and does not change the state. -/
theorem drain_pending (run : Run) :
    run.drain grid
      = (run.pending.toList ++ ((resting run.state run.remaining).drain grid).1,
        ((resting run.state run.remaining).drain grid).2) := by
  obtain ⟨plan, state, pending⟩ := run
  cases pending with
  | none => rfl
  | some event =>
    have hnext : next? grid ⟨plan, state, some event⟩ = some (event, resting state plan) := rfl
    rw [drain_of_next? hnext]
    rfl

theorem drain_of_outcome {outcome : Outcome} (h : state.outcome = some outcome) :
    (resting state rest).drain grid = ([], resting state rest) := by
  apply drain_of_next?_eq_none
  simp only [next?, resting, h]

theorem drain_nil (h : state.outcome = none) :
    (resting state []).drain grid
      = ([.finished (finalOutcome grid state).isSuccess],
        resting { state with outcome := some (finalOutcome grid state) } []) := by
  have hnext : next? grid (resting state [])
      = some (.finished (finalOutcome grid state).isSuccess,
          resting { state with outcome := some (finalOutcome grid state) } []) := by
    simp only [next?, resting, h]
  rw [drain_of_next? hnext, drain_of_outcome rfl]

theorem drain_cons (h : state.outcome = none) :
    (resting state (a :: rest)).drain grid
      = ((step grid state a rest).1 :: ((step grid state a rest).2.pending.toList
          ++ ((resting (step grid state a rest).2.state rest).drain grid).1),
        ((resting (step grid state a rest).2.state rest).drain grid).2) := by
  have hremaining := remaining_step grid state a rest
  have hnext : next? grid (resting state (a :: rest)) = some (step grid state a rest) := by
    simp only [next?, resting, h]
  generalize step grid state a rest = taken at hremaining hnext ⊢
  obtain ⟨event, run⟩ := taken
  obtain rfl : run.remaining = rest := hremaining
  rw [drain_of_next? hnext, drain_pending run]

end GridWalk.Run
