import GridWalk.Proofs.Run.Drain

/-! How long the trace of a run can be.  Each step of the plan is at most one move and one event
after it, and a plan that is used up adds one event at its end. -/

namespace GridWalk

/-- The hero stepped onto a cell. -/
def Event.isMoved : Event → Bool
  | moved .. => true
  | _ => false

namespace Run

variable {grid : Grid} {state : RunState} {a : Action} {rest : Plan}

theorem isMoved_of_pending_arrive {line : UInt32} {p : Position} {event : Event}
    (h : (arrive grid state line p).2 = some event) : event.isMoved = false := by
  unfold arrive at h
  split at h
  · split at h
    · cases h
    · obtain rfl := Option.some.inj h
      rfl
  · obtain rfl := Option.some.inj h
    rfl
  · cases h

/-- The event that waits after a step is none of a move. -/
theorem isMoved_of_pending_step {event : Event}
    (h : (step grid state a rest).2.pending = some event) : event.isMoved = false := by
  unfold step at h
  split at h
  · cases h
  · exact isMoved_of_pending_arrive h

theorem length_pending_le (run : Run) : run.pending.toList.length ≤ 1 := by
  cases run.pending with
  | none => exact Nat.zero_le 1
  | some event => exact Nat.le_refl 1

theorem countP_pending_step :
    (step grid state a rest).2.pending.toList.countP Event.isMoved = 0 := by
  rw [List.countP_eq_zero]
  intro event hevent
  simp [isMoved_of_pending_step (Option.mem_toList.1 hevent)]

/-- A trace has as many moves as its plan has steps, and two events for each of them and one at its
end, at most. -/
theorem length_drain_le (plan : Plan) (state : RunState) :
    ((resting state plan).drain grid).1.countP Event.isMoved ≤ plan.length ∧
    ((resting state plan).drain grid).1.length ≤ 2 * plan.length + 1 := by
  induction plan generalizing state with
  | nil =>
    cases hended : state.outcome with
    | some outcome =>
      rw [drain_of_outcome hended]
      exact ⟨Nat.zero_le _, Nat.zero_le _⟩
    | none =>
      rw [drain_nil hended]
      exact ⟨Nat.le_refl 0, Nat.le_refl 1⟩
  | cons a rest ih =>
    cases hended : state.outcome with
    | some outcome =>
      rw [drain_of_outcome hended]
      exact ⟨Nat.zero_le _, Nat.zero_le _⟩
    | none =>
      obtain ⟨hmoves, hlength⟩ := ih (step grid state a rest).2.state
      have hpending := length_pending_le (step grid state a rest).2
      rw [drain_cons hended]
      constructor
      · rw [List.countP_cons, List.countP_append, countP_pending_step, List.length_cons]
        split <;> omega
      · rw [List.length_cons, List.length_append, List.length_cons]
        omega

end Run

section Execute

variable (grid : Grid) (stance : Stance) (plan : Plan)

theorem countP_isMoved_execute_le :
    (execute grid stance plan).events.countP Event.isMoved ≤ plan.length :=
  (Run.length_drain_le plan _).1

theorem length_events_execute_le :
    (execute grid stance plan).events.length ≤ 2 * plan.length + 1 :=
  (Run.length_drain_le plan _).2

end Execute

end GridWalk
