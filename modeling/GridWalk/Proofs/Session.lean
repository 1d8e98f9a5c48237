import GridWalk.Proofs.Halt
import GridWalk.Proofs.Run.Geometry
import GridWalk.Proofs.Run.Resumption

/-! A session of attempts, each with the counters that the one before handed back.  The counters
are all that goes from one attempt to the next.  What an attempt says of its program is decided by
the compiler and by the walk, and `attempts_explained` says so of every report of a session. -/

namespace GridWalk

/-! ### The counters -/

namespace AttemptStats

theorem toNat_attempts_increment (stats : AttemptStats) :
    stats.increment.attempts.toNat = min (stats.attempts.toNat + 1) (2 ^ 32 - 1) := by
  have hlt := stats.attempts.toNat_lt
  unfold increment
  split
  next hmax =>
    rw [hmax]
    rfl
  next hmax =>
    have hne : stats.attempts.toNat ≠ 2 ^ 32 - 1 := fun h => hmax (UInt32.toNat_inj.1 h)
    rw [UInt32.toNat_add, UInt32.toNat_one]
    omega

/-- The number of attempts grows by one at a time and stays at the greatest number. -/
theorem toNat_attempts_iterate (stats : AttemptStats) (i : Nat) :
    (increment^[i] stats).attempts.toNat = min (stats.attempts.toNat + i) (2 ^ 32 - 1) := by
  induction i with
  | zero =>
    have hlt := stats.attempts.toNat_lt
    rw [Function.iterate_zero_apply]
    omega
  | succ i ih =>
    rw [Function.iterate_succ_apply', toNat_attempts_increment, ih]
    omega

theorem elapsedSecs_iterate (stats : AttemptStats) (i : Nat) :
    (increment^[i] stats).elapsedSecs = stats.elapsedSecs := by
  induction i with
  | zero => rfl
  | succ i ih =>
    rw [Function.iterate_succ_apply']
    exact ih

end AttemptStats

/-! ### Why a run did not succeed -/

/-- The text that names the step which stopped a walk. -/
inductive HaltText (grid : Grid) (start : Point) (plan : Plan) : String → Prop
  | wall {i : Nat} {a : Action} (step : plan[i]? = some a) (first : FirstStop grid start plan i)
      (closed : grid.cellAt? (path start plan (i + 1)) ≠ some .obstacle) :
      HaltText grid start plan ("hero hit a wall (line " ++ a.line.toNat.repr ++ ")")
  | obstacle {i : Nat} {a : Action} (step : plan[i]? = some a)
      (first : FirstStop grid start plan i)
      (obstacle : grid.cellAt? (path start plan (i + 1)) = some .obstacle) :
      HaltText grid start plan
        ("hero was destroyed by an obstacle (line " ++ a.line.toNat.repr ++ ")")

/-- The text about a walk that nothing stopped and that was no success.  Either the hero does not
stand on a goal, or some coins are left. -/
structure RanOutText (grid : Grid) (report : RunReport) (text : String) : Prop where
  away_iff : text = "program finished but the goal was not reached" ↔
    grid.cell? report.finalPosition ≠ some .goal
  coins : grid.cell? report.finalPosition = some .goal → ∃ k, 1 ≤ k ∧
    k + report.collectedCount = grid.coinCount ∧
    text = "goal reached but " ++ k.repr ++ " coin(s) were not collected"

namespace Outcome

theorem not_isSuccess_and_isHalt (o : Outcome) : ¬ (o.isSuccess = true ∧ o.isHalt = true) := by
  cases o <;> simp [isSuccess, isHalt]

theorem isSuccess_eq_true_iff {o : Outcome} : o.isSuccess = true ↔ o = .success := by
  cases o <;> simp [isSuccess]

/-- The two texts about a walk that nothing stopped differ in their first character. -/
theorem text_on_goal_ne (missing : UInt64) :
    (incomplete true missing).text ≠ "program finished but the goal was not reached" := by
  have hgoal : "goal reached but ".toList.head? = some 'g' := by decide +kernel
  have haway : "program finished but the goal was not reached".toList.head? = some 'p' := by
    decide +kernel
  have htext : (incomplete true missing).text
      = "goal reached but " ++ missing.toNat.repr ++ " coin(s) were not collected" := rfl
  intro h
  rw [← h, htext, String.toList_append, String.toList_append, List.append_assoc,
    List.head?_append, hgoal, Option.some_or] at haway
  exact absurd haway (by decide)

end Outcome

section Run

variable {grid : Grid} {stance : Stance} {plan : Plan}

theorem haltText_execute (h : (execute grid stance plan).outcome.isHalt = true) :
    HaltText grid stance.position.point plan (execute grid stance plan).outcome.text := by
  rcases firstStop_or_clear grid stance.position.point plan with ⟨i, a, step, first⟩ | hclear
  · have hhalted := Run.haltedAt_execute step first
    by_cases hobstacle :
      grid.cellAt? (path stance.position.point plan (i + 1)) = some .obstacle
    · rw [(hhalted.destroyed hobstacle).1]
      exact .obstacle step first hobstacle
    · rw [(hhalted.blocked hobstacle).1]
      exact .wall step first hobstacle
  · have hcompleted := Run.completed_execute hclear
    by_cases hsuccess : (execute grid stance plan).outcome = .success
    · rw [hsuccess] at h
      cases h
    · obtain ⟨missing, houtcome, -⟩ := hcompleted.incomplete hsuccess
      rw [houtcome] at h
      cases h

/-- A run that was not stopped and did not succeed misses a coin if it ended on a goal. -/
theorem ranOutText_execute (hadmitted : stance.Admitted grid)
    (hgoes : (execute grid stance plan).outcome.isHalt = false)
    (hfail : (execute grid stance plan).outcome ≠ .success) :
    RanOutText grid (execute grid stance plan) (execute grid stance plan).outcome.text := by
  have hle : (execute grid stance plan).last.collected.length ≤ grid.coinCount :=
    (hadmitted.execute plan).2
  have houtcome := outcome_execute hgoes
  rw [houtcome] at hfail
  obtain ⟨missing, hincomplete, hcount⟩ := Run.finalOutcome_of_ne_success hle hfail
  rw [hincomplete] at houtcome
  have hposition : (execute grid stance plan).last.position
      = (execute grid stance plan).finalPosition := rfl
  by_cases hgoal : grid.cell? (execute grid stance plan).finalPosition = some .goal
  · have hmissing : 1 ≤ missing.toNat := by
      by_contra hzero
      exact hfail ((Run.finalOutcome_eq_success_iff hle).2 ⟨hgoal, by omega⟩)
    rw [hposition, decide_eq_true hgoal] at houtcome
    rw [houtcome]
    exact ⟨iff_of_false (Outcome.text_on_goal_ne missing) (not_not_intro hgoal),
      fun _ => ⟨missing.toNat, hmissing, hcount, rfl⟩⟩
  · rw [hposition, decide_eq_false hgoal] at houtcome
    rw [houtcome]
    exact ⟨iff_of_true rfl hgoal, fun h => absurd h hgoal⟩

end Run

/-! ### The report of an attempt -/

/-- What the report of an attempt says of its program, as the compiler and the walk decide it. -/
structure AttemptReport.Explained (grid : Grid) (options : CompilerOptions) (program : String)
    (r : AttemptReport) : Prop where
  compileFailed_iff : ∀ e, r.result = .compileFailed e ↔ compile program options = .error e
  not_both : ¬ (r.succeeded = true ∧ r.halted = true)
  no_reason_iff : r.failureReason = none ↔ r.succeeded = true
  failed : ∀ e, compile program options = .error e →
    r.failureReason = some ("line " ++ e.line.toNat.repr ++ ": " ++ e.message)
  halted : r.halted = true → ∃ plan text, compile program options = .ok plan ∧
    r.failureReason = some text ∧ HaltText grid grid.start.point plan text
  ran_out : ∀ report, r.result = .executed report → r.succeeded = false → r.halted = false →
    ∃ text, r.failureReason = some text ∧ RanOutText grid report text

namespace AttemptReport

theorem not_succeeded_and_halted (r : AttemptReport) :
    ¬ (r.succeeded = true ∧ r.halted = true) := by
  obtain ⟨stats, result⟩ := r
  cases result with
  | compileFailed e => exact fun h => Bool.false_ne_true h.1
  | executed report => exact report.outcome.not_isSuccess_and_isHalt

theorem failureReason_eq_none_iff (r : AttemptReport) :
    r.failureReason = none ↔ r.succeeded = true := by
  obtain ⟨stats, result⟩ := r
  cases result with
  | compileFailed e => simp [failureReason, succeeded]
  | executed report => simp [failureReason, succeeded]

theorem failureReason_of_executed {r : AttemptReport} {report : RunReport}
    (hran : r.result = .executed report) (hfail : r.succeeded = false) :
    r.failureReason = some report.outcome.text := by
  simp only [succeeded, hran] at hfail
  simp only [failureReason, hran, hfail, Bool.false_eq_true, if_false]

end AttemptReport

section Session

variable {grid : Grid} {options : CompilerOptions}

theorem compileFailed_attempt_iff {stats : AttemptStats} {program : String} {e : CompileError} :
    (attempt grid options stats program).result = .compileFailed e ↔
      compile program options = .error e := by
  simp only [attempt, attemptResult]
  cases compile program options <;> simp

theorem explained_attempt (stats : AttemptStats) (program : String) :
    (attempt grid options stats program).Explained grid options program where
  compileFailed_iff _ := compileFailed_attempt_iff
  not_both := AttemptReport.not_succeeded_and_halted _
  no_reason_iff := AttemptReport.failureReason_eq_none_iff _
  failed e h := by
    have hfailed : (attempt grid options stats program).result = .compileFailed e :=
      compileFailed_attempt_iff.2 h
    simp only [AttemptReport.failureReason, hfailed]
  halted h := by
    have hfail : (attempt grid options stats program).succeeded = false :=
      Bool.eq_false_iff.2 fun hsucceeded =>
        AttemptReport.not_succeeded_and_halted _ ⟨hsucceeded, h⟩
    cases hresult : (attempt grid options stats program).result with
    | compileFailed e =>
      rw [AttemptReport.halted, hresult] at h
      cases h
    | executed report =>
      have hreason := AttemptReport.failureReason_of_executed hresult hfail
      obtain ⟨plan, hplan, rfl⟩ := attempt_eq_executed hresult
      rw [AttemptReport.halted, hresult] at h
      exact ⟨plan, _, hplan, hreason, haltText_execute h⟩
  ran_out report hran hfail hgoes := by
    have hreason := AttemptReport.failureReason_of_executed hran hfail
    rw [AttemptReport.succeeded, hran] at hfail
    rw [AttemptReport.halted, hran] at hgoes
    obtain ⟨plan, -, rfl⟩ := attempt_eq_executed hran
    have hsuccess : (execute grid (.ofGrid grid) plan).outcome ≠ .success :=
      mt Outcome.isSuccess_eq_true_iff.2 (Bool.eq_false_iff.1 hfail)
    exact ⟨_, hreason, ranOutText_execute .ofGrid hgoes hsuccess⟩

theorem length_attempts (stats : AttemptStats) (programs : List String) :
    (attempts grid options stats programs).length = programs.length := by
  induction programs generalizing stats with
  | nil => rfl
  | cons program programs ih => exact congrArg (· + 1) (ih _)

/-- Each program is attempted with the counters as they are after the attempts before. -/
theorem getElem?_attempts (stats : AttemptStats) (programs : List String) (i : Nat) :
    (attempts grid options stats programs)[i]?
      = programs[i]?.map (attempt grid options (AttemptStats.increment^[i] stats)) := by
  induction programs generalizing stats i with
  | nil => rfl
  | cons program programs ih =>
    cases i with
    | zero => rfl
    | succ i => exact ih stats.increment i

end Session

/-- A session has a report for each of its programs.  Report `i` counts `i + 1` attempts more than
there were at first, up to the greatest number, and has the time that was given.  The rest of it
does not depend on the attempts before, and it explains what became of the program. -/
theorem attempts_explained (grid : Grid) (options : CompilerOptions) (stats : AttemptStats)
    {programs : List String} {i : Nat} {program : String} (h : programs[i]? = some program) :
    (attempts grid options stats programs).length = programs.length ∧
    ∃ report, (attempts grid options stats programs)[i]? = some report ∧
      report.stats.attempts.toNat = min (stats.attempts.toNat + i + 1) (2 ^ 32 - 1) ∧
      report.stats.elapsedSecs = stats.elapsedSecs ∧
      (∀ other, report.result = (attempt grid options other program).result) ∧
      report.Explained grid options program := by
  let before := AttemptStats.increment^[i] stats
  refine ⟨length_attempts stats programs, attempt grid options before program, ?_, ?_, ?_,
    fun _ => rfl, explained_attempt before program⟩
  · rw [getElem?_attempts, h]
    rfl
  · have hattempts := AttemptStats.toNat_attempts_iterate stats (i + 1)
    rwa [Function.iterate_succ_apply'] at hattempts
  · exact AttemptStats.elapsedSecs_iterate stats i

/-- A level of one row with the start between a coin and the goal. -/
def between : Grid where
  layout := [[.coin, .start, .goal]]
  start := ⟨1, 0⟩
  width_pos := by decide
  rectangular := by decide
  width_lt := by decide
  height_lt := by decide
  start_open := by decide

/-- A third attempt at a level, after one that did not compile and one that hit a wall.  The hero
walks past the coin, and the number of attempts is at its greatest since the second. -/
theorem attempts_explained_pastCoin :
    let stats : AttemptStats := ⟨0xFFFFFFFD, 37⟩
    let programs := ["hero.jump()", "hero.move_up()", "hero.move_right()"]
    programs[2]? = some "hero.move_right()" ∧
    ∃ report, (attempts between .unlimited stats programs)[2]? = some report ∧
      report.stats.attempts.toNat = 2 ^ 32 - 1 ∧ report.stats.elapsedSecs = 37 ∧
      report.Explained between .unlimited "hero.move_right()" ∧
      report.failureReason = some "goal reached but 1 coin(s) were not collected" := by
  intro stats programs
  have hprogram : programs[2]? = some "hero.move_right()" := rfl
  obtain ⟨-, report, hreport, hattempts, helapsed, -, hexplained⟩ :=
    attempts_explained between .unlimited stats hprogram
  have hreason : (attempts between .unlimited stats programs)[2]?.map AttemptReport.failureReason
      = some (some "goal reached but 1 coin(s) were not collected") := by decide +kernel
  rw [hreport] at hreason
  exact ⟨hprogram, report, hreport, hattempts, helapsed, hexplained, Option.some.inj hreason⟩

end GridWalk
