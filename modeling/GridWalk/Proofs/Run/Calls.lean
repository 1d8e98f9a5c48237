import GridWalk.Proofs.Run.Trace

/-! Calling a run for its events.  A run may be left between any two calls, also between the two
events of one step.  `calls_agree` says that what it has answered until then and the report of what
is left are together the report of the whole run. -/

namespace GridWalk

namespace Run

/-- One call for an event: the answer and the run after it. -/
def call (grid : Grid) (run : Run) : Option Event × Run :=
  match run.next? grid with
  | some (event, later) => (some event, later)
  | none => (none, run)

/-- The answers to `k` calls in a row, and the run after the last of them. -/
def calls (grid : Grid) : Nat → Run → List (Option Event) × Run
  | 0, run => ([], run)
  | k + 1, run =>
    let (answer, later) := run.call grid
    let (answers, last) := calls grid k later
    (answer :: answers, last)

variable {grid : Grid} {run later : Run} {event : Event}

theorem calls_succ_of_next? (h : run.next? grid = some (event, later)) (k : Nat) :
    run.calls grid (k + 1) = (some event :: (later.calls grid k).1, (later.calls grid k).2) := by
  simp only [calls, call, h]

/-- A run that has ended answers nothing, however often it is called, and stays as it is. -/
theorem calls_of_next?_eq_none (h : run.next? grid = none) (k : Nat) :
    run.calls grid k = (List.replicate k none, run) := by
  induction k with
  | zero => rfl
  | succ k ih => simp only [calls, call, h, ih, List.replicate_succ]

theorem next?_eq_none_iff :
    run.next? grid = none ↔ run.pending = none ∧ run.state.outcome.isSome = true := by
  obtain ⟨plan, state, pending⟩ := run
  cases pending with
  | some event => simp [next?]
  | none =>
    cases houtcome : state.outcome with
    | some outcome => simp [next?, houtcome]
    | none => cases plan <;> simp [next?, houtcome]

theorem next?_eq_none_of_drain (h : (run.drain grid).1 = []) : run.next? grid = none := by
  cases hnext : run.next? grid with
  | none => rfl
  | some next =>
    obtain ⟨event, later⟩ := next
    rw [drain_of_next? hnext] at h
    cases h

/-- Draining goes on until the run has ended. -/
theorem next?_drain (run : Run) : (run.drain grid).2.next? grid = none := by
  induction hbound : run.bound using Nat.strongRecOn generalizing run with
  | ind bound ih =>
    cases hnext : run.next? grid with
    | none => rwa [drain_of_next?_eq_none hnext]
    | some next =>
      obtain ⟨event, later⟩ := next
      rw [drain_of_next? hnext]
      exact ih later.bound (hbound ▸ bound_lt_of_next? hnext) later rfl

theorem isSome_outcome_drain (grid : Grid) (run : Run) :
    (run.drain grid).2.state.outcome.isSome = true :=
  (next?_eq_none_iff.1 (next?_drain run)).2

/-- The answers are the events of the run, as far as the calls go, and nothing after these. -/
theorem answers_calls (run : Run) (k : Nat) :
    (run.calls grid k).1 = ((run.drain grid).1.take k).map some
      ++ List.replicate (k - (run.drain grid).1.length) none := by
  induction k generalizing run with
  | zero => simp [calls]
  | succ k ih =>
    cases hnext : run.next? grid with
    | none =>
      rw [calls_of_next?_eq_none hnext, drain_of_next?_eq_none hnext]
      rfl
    | some next =>
      obtain ⟨event, later⟩ := next
      rw [calls_succ_of_next? hnext, drain_of_next? hnext, List.take_succ_cons, List.map_cons,
        List.length_cons, Nat.add_sub_add_right, List.cons_append, ih later]

/-- The calls take the first events, and the rest of the run is as it would be without them. -/
theorem drain_calls (run : Run) (k : Nat) :
    (run.calls grid k).2.drain grid = ((run.drain grid).1.drop k, (run.drain grid).2) := by
  induction k generalizing run with
  | zero => rfl
  | succ k ih =>
    cases hnext : run.next? grid with
    | none =>
      rw [calls_of_next?_eq_none hnext, drain_of_next?_eq_none hnext]
      rfl
    | some next =>
      obtain ⟨event, later⟩ := next
      rw [calls_succ_of_next? hnext, drain_of_next? hnext, List.drop_succ_cons, ih later]

theorem report_calls (run : Run) (k : Nat) :
    (run.calls grid k).2.report grid
      = { run.report grid with events := (run.report grid).events.drop k } := by
  simp only [report, drain_calls]

/-- The outcome of a report is that of the drained run. -/
theorem outcome_drain (grid : Grid) (run : Run) :
    (run.drain grid).2.state.outcome = some (run.report grid).outcome := by
  obtain ⟨outcome, houtcome⟩ := Option.isSome_iff_exists.1 (isSome_outcome_drain grid run)
  simp only [report, houtcome, Option.getD_some]

end Run

/-- A run agrees with its report wherever it is left.  After `k` calls it has answered the first `k`
events of the report, or all of them and then nothing, as it does for all calls to come.  What is
left of it has the report of the whole run without the events answered, and its outcome is one that
the run has. -/
theorem calls_agree (grid : Grid) (stance : Stance) (plan : Plan) (k : Nat) :
    let report := execute grid stance plan
    let run := ((Run.initial stance plan).calls grid k).2
    ((Run.initial stance plan).calls grid k).1
      = (report.events.take k).map some ++ List.replicate (k - report.events.length) none ∧
    (report.events.length ≤ k → ∀ j, run.calls grid j = (List.replicate j none, run)) ∧
    run.report grid = { report with events := report.events.drop k } ∧
    report.events.length ≤ 2 * plan.length + 1 ∧
    (run.drain grid).2.state.outcome = some report.outcome := by
  intro report run
  have hdrain : run.drain grid = _ := Run.drain_calls (Run.initial stance plan) k
  refine ⟨Run.answers_calls _ k, fun hk j => ?_, Run.report_calls _ k,
    length_events_execute_le grid stance plan, ?_⟩
  · apply Run.calls_of_next?_eq_none
    apply Run.next?_eq_none_of_drain
    rw [hdrain]
    exact List.drop_eq_nil_of_le hk
  · rw [hdrain]
    exact Run.outcome_drain grid _

end GridWalk
