import GridWalk.Run

/-! What one call for an event can do.  `Next` has a constructor for each way in which a run goes
on, with the event it answers and the state it leaves, and `next?_eq_some_iff` says that there are
no others. -/

namespace GridWalk.Run

/-- The run answers an event and goes on as another run. -/
inductive Next (grid : Grid) : Run → Event → Run → Prop
  /-- The second event of the step before is handed out. -/
  | waiting (plan : Plan) (state : RunState) (event : Event) :
      Next grid ⟨plan, state, some event⟩ event ⟨plan, state, none⟩
  | blocked {state : RunState} {a : Action} (rest : Plan) (running : state.outcome = none)
      (closed : target? grid state.position a.direction = none) :
      Next grid ⟨a :: rest, state, none⟩ (.blocked a.line a.direction)
        ⟨rest, { state with facing := a.direction, outcome := some (.blocked a.line) }, none⟩
  /-- The hero steps onto a cell where nothing else happens. -/
  | walked {state : RunState} {a : Action} {p : Position} (rest : Plan)
      (running : state.outcome = none)
      (target : target? grid state.position a.direction = some p)
      (harmless : grid.cell? p ≠ some .obstacle)
      (found : grid.cell? p = some .coin → p ∈ state.collected) :
      Next grid ⟨a :: rest, state, none⟩ (.moved p a.direction)
        ⟨rest, { state with position := p, facing := a.direction }, none⟩
  | pickedUp {state : RunState} {a : Action} {p : Position} (rest : Plan)
      (running : state.outcome = none)
      (target : target? grid state.position a.direction = some p)
      (coin : grid.cell? p = some .coin) (fresh : p ∉ state.collected) :
      Next grid ⟨a :: rest, state, none⟩ (.moved p a.direction)
        ⟨rest, { state with
            position := p
            facing := a.direction
            collected := state.collected ++ [p] }, some (.collected p)⟩
  | destroyed {state : RunState} {a : Action} {p : Position} (rest : Plan)
      (running : state.outcome = none)
      (target : target? grid state.position a.direction = some p)
      (obstacle : grid.cell? p = some .obstacle) :
      Next grid ⟨a :: rest, state, none⟩ (.moved p a.direction)
        ⟨rest, { state with
            position := p
            facing := a.direction
            outcome := some (.destroyed a.line) }, some (.destroyed a.line)⟩
  | finished {state : RunState} (running : state.outcome = none) :
      Next grid ⟨[], state, none⟩ (.finished (finalOutcome grid state).isSuccess)
        ⟨[], { state with outcome := some (finalOutcome grid state) }, none⟩

variable {grid : Grid} {state : RunState} {run later : Run} {event : Event}

theorem isOpen_of_target? {p q : Position} {d : Direction} (h : target? grid p d = some q) :
    grid.isOpen q = true :=
  (Option.filter_eq_some_iff.1 h).2

theorem next?_cons (a : Action) (rest : Plan) (running : state.outcome = none) :
    next? grid ⟨a :: rest, state, none⟩ = some (step grid state a rest) := by
  simp only [next?, running]

/-- Nothing more happens on a cell that is no obstacle and holds no coin to pick up. -/
theorem arrive_of_harmless {line : UInt32} {p : Position} (harmless : grid.cell? p ≠ some .obstacle)
    (found : grid.cell? p = some .coin → p ∈ state.collected) :
    arrive grid state line p = ({ state with position := p }, none) := by
  unfold arrive
  split
  next hcoin => rw [if_pos (List.contains_iff_mem.2 (found hcoin))]
  next hobstacle => exact absurd hobstacle harmless
  · rfl

theorem next_step (a : Action) (rest : Plan) (running : state.outcome = none) :
    Next grid ⟨a :: rest, state, none⟩ (step grid state a rest).1 (step grid state a rest).2 := by
  cases htarget : target? grid state.position a.direction with
  | none =>
    simp only [step, htarget]
    exact .blocked rest running htarget
  | some p =>
    simp only [step, htarget, arrive]
    split
    next hcoin =>
      by_cases hfound : p ∈ state.collected
      · rw [if_pos (List.contains_iff_mem.2 hfound)]
        exact .walked rest running htarget (by simp [hcoin]) fun _ => hfound
      · rw [if_neg (mt List.contains_iff_mem.1 hfound)]
        exact .pickedUp rest running htarget hcoin hfound
    next hobstacle => exact .destroyed rest running htarget hobstacle
    next hcoin hobstacle => exact .walked rest running htarget hobstacle fun h => absurd h hcoin

theorem next?_eq_some_iff : run.next? grid = some (event, later) ↔ Next grid run event later := by
  constructor
  · intro h
    obtain ⟨plan, state, pending⟩ := run
    cases pending with
    | some waiting =>
      obtain ⟨rfl, rfl⟩ := Prod.mk.inj (Option.some.inj h)
      exact .waiting plan state waiting
    | none =>
      cases houtcome : state.outcome with
      | some outcome => simp [next?, houtcome] at h
      | none =>
        cases plan with
        | nil =>
          obtain ⟨rfl, rfl⟩ : _ = event ∧ _ = later := by simpa [next?, houtcome] using h
          exact .finished houtcome
        | cons a rest =>
          have hstep := Option.some.inj ((next?_cons a rest houtcome).symm.trans h)
          have hnext : Next grid _ _ _ := next_step a rest houtcome
          rwa [hstep] at hnext
  · intro h
    cases h with
    | waiting => rfl
    | blocked rest running closed =>
      rw [next?_cons _ rest running]
      simp only [step, closed]
    | @walked state a p rest running target harmless found =>
      have harrive : arrive grid { state with facing := a.direction } a.line p = _ :=
        arrive_of_harmless harmless found
      rw [next?_cons _ rest running]
      simp only [step, target, harrive]
    | pickedUp rest running target coin fresh =>
      rw [next?_cons _ rest running]
      simp [step, target, arrive, coin, fresh]
    | destroyed rest running target obstacle =>
      rw [next?_cons _ rest running]
      simp only [step, target, arrive, obstacle]
    | finished running => simp only [next?, running]

end GridWalk.Run
