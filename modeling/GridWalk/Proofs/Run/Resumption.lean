import GridWalk.Proofs.Run.History

/-! Two plans one after the other.  A run that stops in the first plan never reads the second.  A
run that goes on can be left between the plans and taken up by a new run that starts where it stood.
The new run knows of no coins, and `Resumes` says how its states differ from those of the one run
over both plans. -/

namespace GridWalk

/-- The event tells where a step led or what stopped it. -/
def Event.isStep : Event → Bool
  | moved .. | blocked .. | destroyed _ => true
  | collected _ | finished _ => false

/-- The stance in which a run has left the hero. -/
def RunReport.stance (report : RunReport) : Stance := ⟨report.finalPosition, report.finalDirection⟩

/-- The report `whole` of a run over two plans, from the report `before` of the first plan and the
report `after` of a run that takes up the second. -/
structure RunReport.Continues (grid : Grid) (before after whole : RunReport) : Prop where
  steps : whole.events.filter Event.isStep
    = before.events.filter Event.isStep ++ after.events.filter Event.isStep
  position : whole.finalPosition = after.finalPosition
  direction : whole.finalDirection = after.finalDirection
  halts_iff : whole.outcome.isHalt = true ↔ after.outcome.isHalt = true
  halted : whole.outcome.isHalt = true → whole.outcome = after.outcome
  /-- The coins that were collected before are not there a second time. -/
  collected : whole.collected
    = before.collected ++ after.collected.filter fun p => p ∉ before.collected
  success : whole.outcome.isHalt = false → (whole.outcome = .success ↔
    grid.cell? after.finalPosition = some .goal ∧ whole.collected.length = grid.coinCount)
  incomplete : whole.outcome.isHalt = false → whole.outcome ≠ .success → ∃ missing,
    whole.outcome = .incomplete (grid.cell? after.finalPosition = some .goal) missing ∧
    missing.toNat + whole.collected.length = grid.coinCount

namespace Run

variable {grid : Grid} {fresh state last : RunState} {plan first : Plan} {events : List Event}
  {found : List Position} {outcome : Outcome}

/-! ### A run that is taken up -/

/-- The states differ in the coins alone: those of `state` are the coins `found` and after them
those of `fresh` that are not among `found`. -/
structure Resumes (found : List Position) (fresh state : RunState) : Prop where
  position : state.position = fresh.position
  facing : state.facing = fresh.facing
  collected : state.collected = found ++ fresh.collected.filter fun p => p ∉ found

namespace Resumes

theorem mem_collected (h : Resumes found fresh state) {p : Position} :
    p ∈ state.collected ↔ p ∈ found ∨ p ∈ fresh.collected := by
  rw [h.collected, List.mem_append, List.mem_filter, decide_eq_true_eq]
  tauto

theorem walked (h : Resumes found fresh state) (p : Position) (d : Direction) :
    Resumes found { fresh with position := p, facing := d }
      { state with position := p, facing := d } :=
  ⟨rfl, rfl, h.collected⟩

/-- A coin that is new to the run that takes up may have been found before. -/
theorem walked_over (h : Resumes found fresh state) {p : Position} (hp : p ∈ found)
    (d : Direction) :
    Resumes found { fresh with position := p, facing := d, collected := fresh.collected ++ [p] }
      { state with position := p, facing := d } := by
  refine ⟨rfl, rfl, ?_⟩
  simp [h.collected, List.filter_append, hp]

theorem pickedUp (h : Resumes found fresh state) {p : Position} (hp : p ∉ found)
    (d : Direction) :
    Resumes found { fresh with position := p, facing := d, collected := fresh.collected ++ [p] }
      { state with position := p, facing := d, collected := state.collected ++ [p] } := by
  refine ⟨rfl, rfl, ?_⟩
  simp [h.collected, List.filter_append, hp]

end Resumes

/-- Runs from states that differ in the coins alone take the same steps and stop in the same way,
and their last states again differ in the coins alone. -/
theorem History.resume (h : History grid fresh plan events last)
    (hstate : Resumes found fresh state) : ∃ events' last', History grid state plan events' last' ∧
      Resumes found last last' ∧ events'.filter Event.isStep = events.filter Event.isStep ∧
      ∀ outcome : Outcome, outcome.isHalt = true →
        (last'.outcome = some outcome ↔ last.outcome = some outcome) := by
  induction h generalizing state with
  | finished fresh =>
    refine ⟨_, _, .finished state, ⟨hstate.position, hstate.facing, hstate.collected⟩, rfl, ?_⟩
    intro outcome hhalt
    have hends (s : RunState) : some (finalOutcome grid s) ≠ some outcome :=
      fun heq => finalOutcome_ne_of_isHalt hhalt (Option.some.inj heq)
    exact iff_of_false (hends state) (hends fresh)
  | blocked rest closed =>
    rw [← hstate.position] at closed
    exact ⟨_, _, .blocked rest closed, ⟨hstate.position, rfl, hstate.collected⟩, rfl,
      fun _ _ => Iff.rfl⟩
  | destroyed rest target obstacle =>
    rw [← hstate.position] at target
    exact ⟨_, _, .destroyed rest target obstacle, ⟨rfl, rfl, hstate.collected⟩, rfl,
      fun _ _ => Iff.rfl⟩
  | @walked fresh last a p rest events target harmless known later ih =>
    rw [← hstate.position] at target
    obtain ⟨events', last', hrun, hlast, hsteps, hhalts⟩ := ih (hstate.walked p a.direction)
    have hknown : grid.cell? p = some .coin → p ∈ state.collected :=
      fun hcoin => hstate.mem_collected.2 (.inr (known hcoin))
    exact ⟨_, _, .walked target harmless hknown hrun, hlast,
      congrArg (Event.moved p a.direction :: ·) hsteps, hhalts⟩
  | @pickedUp fresh last a p rest events target coin new later ih =>
    rw [← hstate.position] at target
    by_cases hp : p ∈ found
    · obtain ⟨events', last', hrun, hlast, hsteps, hhalts⟩ :=
        ih (hstate.walked_over hp a.direction)
      have hknown : p ∈ state.collected := hstate.mem_collected.2 (.inl hp)
      exact ⟨_, _, .walked target (by simp [coin]) (fun _ => hknown) hrun, hlast,
        congrArg (Event.moved p a.direction :: ·) hsteps, hhalts⟩
    · obtain ⟨events', last', hrun, hlast, hsteps, hhalts⟩ :=
        ih (hstate.pickedUp hp a.direction)
      have hnew : p ∉ state.collected := fun hmem => (hstate.mem_collected.1 hmem).elim hp new
      exact ⟨_, _, .pickedUp target coin hnew hrun, hlast,
        congrArg (Event.moved p a.direction :: ·) hsteps, hhalts⟩

/-! ### The plans of one run -/

/-- A run that stops in its plan stops in the same way if the plan goes on. -/
theorem History.append_of_halt (h : History grid state first events last)
    (houtcome : last.outcome = some outcome) (hhalt : outcome.isHalt = true) (second : Plan) :
    History grid state (first ++ second) events last := by
  induction h with
  | finished state => exact absurd (Option.some.inj houtcome) (finalOutcome_ne_of_isHalt hhalt)
  | blocked rest closed => exact .blocked _ closed
  | destroyed rest target obstacle => exact .destroyed _ target obstacle
  | walked target harmless known later ih => exact .walked target harmless known (ih houtcome)
  | pickedUp target coin new later ih => exact .pickedUp target coin new (ih houtcome)

/-- A run that comes to the end of its plan goes on from there if the plan does, and only the event
at the end is not there then. -/
theorem History.append (h : History grid state first events last)
    (houtcome : last.outcome = some outcome) (hgoes : outcome.isHalt = false)
    (running : state.outcome = none) :
    ∃ front, events = front ++ [.finished outcome.isSuccess] ∧
      ∀ second events' last', History grid { last with outcome := none } second events' last' →
        History grid state (first ++ second) (front ++ events') last' := by
  induction h with
  | finished state =>
    obtain rfl := Option.some.inj houtcome
    refine ⟨[], rfl, fun second events' last' hsecond => ?_⟩
    have hstate : { state with outcome := none } = state := by rw [← running]
    rwa [← hstate]
  | blocked | destroyed =>
    obtain rfl := Option.some.inj houtcome
    cases hgoes
  | @walked state last a p rest events target harmless known later ih =>
    obtain ⟨front, rfl, hsecond⟩ := ih houtcome running
    exact ⟨.moved p a.direction :: front, rfl, fun second events' last' h' =>
      .walked target harmless known (hsecond second events' last' h')⟩
  | @pickedUp state last a p rest events target coin new later ih =>
    obtain ⟨front, rfl, hsecond⟩ := ih houtcome running
    exact ⟨.moved p a.direction :: .collected p :: front, rfl, fun second events' last' h' =>
      .pickedUp target coin new (hsecond second events' last' h')⟩

/-! ### The outcome of a run that is not stopped -/

theorem finalOutcome_eq_success_iff (hle : state.collected.length ≤ grid.coinCount) :
    finalOutcome grid state = .success ↔
      grid.cell? state.position = some .goal ∧ state.collected.length = grid.coinCount := by
  unfold finalOutcome
  simp only [Bool.and_eq_true, beq_iff_eq]
  split
  next h => exact ⟨fun _ => ⟨h.1, by omega⟩, fun _ => rfl⟩
  next h => exact ⟨nofun, fun h' => absurd ⟨h'.1, by omega⟩ h⟩

theorem finalOutcome_of_ne_success (hle : state.collected.length ≤ grid.coinCount)
    (hfail : finalOutcome grid state ≠ .success) : ∃ missing,
      finalOutcome grid state
        = .incomplete (grid.cell? state.position = some .goal) missing ∧
      missing.toNat + state.collected.length = grid.coinCount := by
  have hlt := grid.coinCount_lt
  refine ⟨.ofNat (grid.coinCount - state.collected.length), ?_, ?_⟩
  · unfold finalOutcome at hfail ⊢
    rw [if_neg fun h => hfail (if_pos h), beq_eq_decide]
  · rw [UInt64.toNat_ofNat_of_lt' (by omega)]
    omega

end Run

/-- A run that is not stopped has the outcome that its last state decides. -/
theorem outcome_execute {grid : Grid} {stance : Stance} {plan : Plan}
    (hgoes : (execute grid stance plan).outcome.isHalt = false) :
    (execute grid stance plan).outcome
      = Run.finalOutcome grid (execute grid stance plan).last := by
  rcases (history_execute grid stance plan).outcome_cases with ⟨outcome, hhalt, houtcome⟩ | hfinal
  · rw [Option.some.inj houtcome, hhalt] at hgoes
    cases hgoes
  · exact Option.some.inj hfinal

section Execute

variable {grid : Grid} {stance : Stance} {first : Plan}

/-- A run from an admitted stance ends on an open cell, with no more coins than there are. -/
theorem Stance.Admitted.execute (h : stance.Admitted grid) (plan : Plan) :
    grid.isOpen (GridWalk.execute grid stance plan).finalPosition = true ∧
      (GridWalk.execute grid stance plan).collected.length ≤ grid.coinCount := by
  have hdrained := (Run.consistent_initial h.isOpen plan).drain
  exact ⟨hdrained.isOpen, hdrained.length_le⟩

/-- The hero can start again where a run has left it. -/
theorem Stance.Admitted.ofConfig_execute (h : stance.Admitted grid) (plan : Plan) :
    let report := GridWalk.execute grid stance plan
    Stance.ofConfig grid ⟨some report.finalPosition, some report.finalDirection⟩
      = .ok report.stance := by
  intro report
  have hstart : grid.startFault? report.finalPosition = none :=
    Layout.startFault?_eq_none_iff.2 (h.execute plan).1
  simp [Stance.ofConfig, hstart, RunReport.stance]

/-- The run that takes up the second plan where a run of the first has ended does what the run of
both plans does there, apart from the coins. -/
theorem resumes_execute_append (hgoes : (execute grid stance first).outcome.isHalt = false)
    (second : Plan) :
    let before := execute grid stance first
    let after := execute grid before.stance second
    let whole := execute grid stance (first ++ second)
    Run.Resumes before.collected after.last whole.last ∧
    whole.events.filter Event.isStep
      = before.events.filter Event.isStep ++ after.events.filter Event.isStep ∧
    ∀ outcome, outcome.isHalt = true → (whole.outcome = outcome ↔ after.outcome = outcome) := by
  intro before after whole
  obtain ⟨front, hfront, hsecond⟩ := (history_execute grid stance first).append rfl hgoes rfl
  have hfresh : Run.Resumes before.collected (Run.initial before.stance second).state
      { before.last with outcome := none } := ⟨rfl, rfl, by simp [RunReport.last, Run.initial]⟩
  obtain ⟨events, last, hafter, hlast, hsteps, hhalts⟩ :=
    (history_execute grid before.stance second).resume hfresh
  obtain ⟨hevents, rfl⟩ :=
    (history_execute grid stance (first ++ second)).unique (hsecond second events last hafter) rfl
  refine ⟨hlast, ?_, fun outcome hhalt => ?_⟩
  · have hfinished : [Event.finished before.outcome.isSuccess].filter Event.isStep = [] := rfl
    rw [hevents, hfront, List.filter_append, List.filter_append, hfinished, hsteps,
      List.append_nil]
  · simpa [RunReport.last] using hhalts outcome hhalt

theorem continues_execute (h : stance.Admitted grid)
    (hgoes : (execute grid stance first).outcome.isHalt = false) (second : Plan) :
    let before := execute grid stance first
    before.Continues grid (execute grid before.stance second)
      (execute grid stance (first ++ second)) := by
  intro before
  obtain ⟨hlast, hsteps, hhalts⟩ := resumes_execute_append hgoes second
  have hposition : (execute grid stance (first ++ second)).finalPosition
      = (execute grid before.stance second).finalPosition := hlast.position
  have hle := (h.execute (first ++ second)).2
  refine ⟨hsteps, hposition, hlast.facing, ⟨fun hhalt => ?_, fun hhalt => ?_⟩,
    fun hhalt => ((hhalts _ hhalt).1 rfl).symm, hlast.collected, fun hgoes' => ?_,
    fun hgoes' hfail => ?_⟩
  · rwa [(hhalts _ hhalt).1 rfl]
  · rwa [(hhalts _ hhalt).2 rfl]
  · rw [outcome_execute hgoes', ← hposition]
    exact Run.finalOutcome_eq_success_iff hle
  · rw [outcome_execute hgoes'] at hfail ⊢
    rw [← hposition]
    exact Run.finalOutcome_of_ne_success hle hfail

end Execute

/-- Two plans one after the other.  If the run of the first stops, that is all.  If not, a run can
start where it ended, facing as it did, and the report of the whole is that of both in turn. -/
theorem execute_append {grid : Grid} {stance : Stance} (h : stance.Admitted grid)
    (first second : Plan) :
    let before := execute grid stance first
    let whole := execute grid stance (first ++ second)
    (before.outcome.isHalt = true → whole = before) ∧
    (before.outcome.isHalt = false →
      Stance.ofConfig grid ⟨some before.finalPosition, some before.finalDirection⟩
        = .ok before.stance ∧
      before.Continues grid (execute grid before.stance second) whole) := by
  intro before whole
  refine ⟨fun hhalt => ?_, fun hgoes => ?_⟩
  · exact execute_eq_iff.2 ((history_execute grid stance first).append_of_halt rfl hhalt second)
  · exact ⟨h.ofConfig_execute first, continues_execute h hgoes second⟩

/-- The run of the second plan picks up the coin of the corridor anew.  The whole run does not. -/
theorem execute_append_corridor :
    let stance : Stance := ⟨⟨0, 0⟩, .up⟩
    let first : Plan := [⟨.right, 1⟩]
    let second : Plan := [⟨.left, 2⟩, ⟨.right, 3⟩, ⟨.right, 4⟩]
    let before := execute corridor stance first
    let after := execute corridor before.stance second
    stance.Admitted corridor ∧ before.outcome = .incomplete false 0 ∧
    before.collected = [⟨1, 0⟩] ∧ after.collected = [⟨1, 0⟩] ∧ after.outcome = .destroyed 4 ∧
    before.Continues corridor after (execute corridor stance (first ++ second)) := by
  intro stance first second before after
  have haccepted : Stance.ofConfig corridor ⟨none, some .up⟩ = .ok stance := by decide +kernel
  have hgoes : before.outcome = .incomplete false 0 := by decide +kernel
  obtain ⟨-, hcontinues⟩ := execute_append (.ofConfig haccepted) first second
  exact ⟨.ofConfig haccepted, hgoes, by decide +kernel, by decide +kernel, by decide +kernel,
    (hcontinues (by decide +kernel)).2⟩

end GridWalk
