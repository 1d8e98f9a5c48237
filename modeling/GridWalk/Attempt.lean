import GridWalk.Compile
import GridWalk.Run

/-! Attempts at a level: a program is compiled and its plan is walked.  The caller keeps the
counters, and each attempt adds one to the number of attempts, which stays at the greatest 32-bit
number once it is there. -/

namespace GridWalk

structure AttemptStats where
  attempts : UInt32
  elapsedSecs : UInt64
  deriving DecidableEq, Repr

namespace AttemptStats

instance : Inhabited AttemptStats := ⟨⟨0, 0⟩⟩

def increment (stats : AttemptStats) : AttemptStats :=
  { stats with
    attempts := if stats.attempts = 0xFFFFFFFF then stats.attempts else stats.attempts + 1 }

end AttemptStats

inductive AttemptResult where
  | compileFailed (error : CompileError)
  | executed (report : RunReport)
  deriving DecidableEq, Repr

structure AttemptReport where
  stats : AttemptStats
  result : AttemptResult
  deriving DecidableEq, Repr

namespace AttemptReport

def succeeded (r : AttemptReport) : Bool :=
  match r.result with
  | .executed report => report.outcome.isSuccess
  | .compileFailed _ => false

/-- The program ran and stopped before its plan was used up. -/
def halted (r : AttemptReport) : Bool :=
  match r.result with
  | .executed report => report.outcome.isHalt
  | .compileFailed _ => false

/-- Why the attempt did not succeed. -/
def failureReason (r : AttemptReport) : Option String :=
  match r.result with
  | .compileFailed e => some ("line " ++ e.line.toNat.repr ++ ": " ++ e.message)
  | .executed report => if report.outcome.isSuccess then none else some report.outcome.text

end AttemptReport

/-- Compiles a program and walks its plan from the start of the grid. -/
def attemptResult (grid : Grid) (options : CompilerOptions) (program : String) : AttemptResult :=
  match compile program options with
  | .ok plan => .executed (execute grid (.ofGrid grid) plan)
  | .error e => .compileFailed e

def attempt (grid : Grid) (options : CompilerOptions) (stats : AttemptStats) (program : String) :
    AttemptReport :=
  ⟨stats.increment, attemptResult grid options program⟩

/-- Makes an attempt with each program.  The counters go from one attempt to the next. -/
def attempts (grid : Grid) (options : CompilerOptions) :
    AttemptStats → List String → List AttemptReport
  | _, [] => []
  | stats, program :: programs =>
    let report := attempt grid options stats program
    report :: attempts grid options report.stats programs

end GridWalk
