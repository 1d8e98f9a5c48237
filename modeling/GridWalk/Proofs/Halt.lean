import GridWalk.Attempt
import GridWalk.Proofs.Compile.Cause
import GridWalk.Proofs.Run.Summary

/-! The line that a halted attempt names.  Each step of a plan is asked for by a line of the
program, a move at the top level or in the block of a loop, and the step carries the number of that
line.  A run that halts names the line of the step at which it did. -/

namespace GridWalk

/-! ### The line behind a step -/

namespace Compile

/-- The line of a program that asks for a step. -/
structure Asks (program : String) (line : Line) (a : Action) : Prop where
  line_pos : 1 ≤ a.line.toNat
  line_le : a.line.toNat ≤ (Line.ofText program).length
  found : lineAt? program a.line = some line
  number : line.number = a.line
  /-- The line is a move in the direction of the step. -/
  move : ∃ steps, line.statement = .ok (.move a.direction steps)
  place : AtTop (Line.ofText program) line ∨ InBlock (Line.ofText program) line

theorem atTop_or_inBlock {lines : List Line} {line : Line}
    (h : line ∈ (outline lines).flatMap Entry.lines) : AtTop lines line ∨ InBlock lines line := by
  obtain ⟨e, he, hline⟩ := List.mem_flatMap.1 h
  rcases List.mem_cons.1 hline with rfl | hbody
  · exact .inl ⟨e, he, rfl⟩
  · exact .inr (inBlock_of_mem_body he hbody)

/-- Every step of a plan is asked for by a line of its program, with and without a limit. -/
theorem exists_asks {program : String} {options : CompilerOptions} {plan : Plan} {a : Action}
    (hlines : (Line.ofText program).length < UInt32.size - 1)
    (h : compile program options = .ok plan) (ha : a ∈ plan) : ∃ line, Asks program line a := by
  obtain ⟨q, hq, rfl⟩ := planOf_eq_ok_iff.1 (compile_unlimited_of_ok h)
  rcases line_of_foldlM_ok hq a ha with hbefore | ⟨line, hline, hnumber, hmove⟩
  · cases hbefore
  have hmem : line ∈ Line.ofText program := (outline_sublist _).subset hline
  obtain ⟨hpos, hle⟩ := Line.toNat_number_of_mem_ofText (by omega) hmem
  have hfound := Line.getElem?_number_of_mem_ofText (by omega) hmem
  rw [← hnumber] at hpos hle hfound
  exact ⟨line, hpos, hle, hfound, hnumber.symm, hmove, atTop_or_inBlock hline⟩

end Compile

/-! ### The step at which a run halts -/

/-- The direction of a move. -/
def Event.heading? : Event → Option Direction
  | moved _ direction => some direction
  | _ => none

/-- The directions of the moves, in their order. -/
def RunReport.headings (report : RunReport) : List Direction :=
  report.events.filterMap Event.heading?

/-- The step that halted the run of a plan.  A step that was blocked is the one after all moves, and
a step that destroyed the hero is the last of them. -/
inductive RunReport.HaltedBy (report : RunReport) (plan : Plan) (a : Action) : Prop
  | blocked (outcome : report.outcome = .blocked a.line)
      (step : plan[report.headings.length]? = some a)
  | destroyed {n : Nat} (outcome : report.outcome = .destroyed a.line)
      (walked : report.headings.length = n + 1) (step : plan[n]? = some a)

theorem RunReport.HaltedBy.mem {report : RunReport} {plan : Plan} {a : Action}
    (h : report.HaltedBy plan a) : a ∈ plan := by
  cases h with
  | blocked outcome step => exact List.mem_of_getElem? step
  | destroyed outcome walked step => exact List.mem_of_getElem? step

theorem RunReport.length_headings (report : RunReport) :
    report.headings.length = report.events.countP Event.isMoved := by
  rw [headings, List.length_filterMap_eq_countP]
  congr
  funext event
  cases event <;> rfl

namespace Run

variable {grid : Grid} {state last : RunState} {plan : Plan} {events : List Event}

/-- The hero moves the way the plan says, as far as the run goes. -/
theorem History.headings_isPrefix (h : History grid state plan events last) :
    events.filterMap Event.heading? <+: plan.map Action.direction := by
  induction h with
  | finished | blocked => exact List.nil_prefix
  | destroyed => exact List.cons_prefix_cons.2 ⟨rfl, List.nil_prefix⟩
  | walked _ _ _ _ ih => exact List.cons_prefix_cons.2 ⟨rfl, ih⟩
  | pickedUp _ _ _ _ ih => exact List.cons_prefix_cons.2 ⟨rfl, ih⟩

end Run

/-- A run that halts was halted by a step in its final direction, on the line that it names. -/
theorem haltedBy_execute {grid : Grid} {stance : Stance} {plan : Plan} {line : UInt32} :
    let report := execute grid stance plan
    report.outcome.line? = some line → report.HaltedBy plan ⟨report.finalDirection, line⟩ := by
  intro report hline
  obtain ⟨outcome, houtcome, hleft⟩ := (history_execute grid stance plan).leftAt
  have houtcome : report.outcome = outcome := Option.some.inj houtcome
  have hfacing : (execute grid stance plan).last.facing = report.finalDirection := rfl
  rw [← RunReport.length_headings, hfacing] at hleft
  rw [houtcome] at hline
  generalize hlength : (execute grid stance plan).headings.length = n at hleft
  cases hleft with
  | @blocked _ a step turned =>
    obtain rfl := Option.some.inj hline
    rw [← turned]
    exact .blocked houtcome (by rwa [hlength])
  | @destroyed _ a step turned =>
    obtain rfl := Option.some.inj hline
    rw [← turned]
    exact .destroyed houtcome hlength step
  | finished goes_on =>
    rw [Outcome.isHalt_eq_isSome_line?, hline] at goes_on
    cases goes_on

theorem attempt_eq_executed {grid : Grid} {options : CompilerOptions} {stats : AttemptStats}
    {program : String} {report : RunReport}
    (h : (attempt grid options stats program).result = .executed report) :
    ∃ plan, compile program options = .ok plan ∧ report = execute grid (.ofGrid grid) plan := by
  unfold attempt attemptResult at h
  split at h
  next plan hplan => exact ⟨plan, hplan, (AttemptResult.executed.inj h).symm⟩
  next => cases h

/-- The line that a halted attempt names asks for the step that halted it, and the moves before are
the steps of the plan before. -/
theorem halt_names_its_move (grid : Grid) (options : CompilerOptions) (stats : AttemptStats)
    (program : String) (report : RunReport) (line : UInt32)
    (hlines : (Line.ofText program).length < UInt32.size - 1)
    (hran : (attempt grid options stats program).result = .executed report)
    (hhalt : report.outcome = .blocked line ∨ report.outcome = .destroyed line) :
    (∃ source, Compile.Asks program source ⟨report.finalDirection, line⟩) ∧
    ∃ plan, compile program options = .ok plan ∧
      report.headings <+: plan.map Action.direction ∧
      report.HaltedBy plan ⟨report.finalDirection, line⟩ := by
  obtain ⟨plan, hplan, rfl⟩ := attempt_eq_executed hran
  have hline : (execute grid (.ofGrid grid) plan).outcome.line? = some line := by
    rcases hhalt with houtcome | houtcome <;> rw [houtcome] <;> rfl
  have hhalted := haltedBy_execute hline
  exact ⟨Compile.exists_asks hlines hplan hhalted.mem, plan, hplan,
    (history_execute grid _ plan).headings_isPrefix, hhalted⟩

/-- A program whose loop runs into the obstacle at the end of the corridor. -/
def intoObstacle : String := "# go\nfor i in range(3):\n    hero.move_right()\nhero.move_up()"

/-- The second round of the loop ends the run, on the line of its body. -/
theorem halt_names_its_move_intoObstacle :
    let stats : AttemptStats := ⟨4, 9⟩
    let report := execute corridor (.ofGrid corridor) (.replicate 3 ⟨.right, 3⟩ ++ [⟨.up, 4⟩])
    (Line.ofText intoObstacle).length < UInt32.size - 1 ∧
    (attempt corridor .unlimited stats intoObstacle).result = .executed report ∧
    report.outcome = .destroyed 3 ∧
    (∃ source, Compile.Asks intoObstacle source ⟨report.finalDirection, 3⟩) ∧
    ∃ plan, compile intoObstacle .unlimited = .ok plan ∧
      report.headings <+: plan.map Action.direction ∧
      report.HaltedBy plan ⟨report.finalDirection, 3⟩ := by
  intro stats report
  have hlines : (Line.ofText intoObstacle).length < UInt32.size - 1 := by decide +kernel
  have hran : (attempt corridor .unlimited stats intoObstacle).result = .executed report := by
    decide +kernel
  have houtcome : report.outcome = .destroyed 3 := by decide +kernel
  exact ⟨hlines, hran, houtcome, halt_names_its_move _ _ _ _ _ _ hlines hran (.inr houtcome)⟩

end GridWalk
