import GridWalk.Attempt
import GridWalk.Wire.Run

/-! The JSON forms of attempts. -/

namespace GridWalk

open Json

namespace AttemptStats

def fields : Fields [UInt32, UInt64] :=
  .cons (.required "attempts" .uint32) <|
  .cons (.required "elapsed_secs" (.uint64 "u64")) .nil

def codec : Codec AttemptStats :=
  .record "AttemptStats" fields (fun (attempts, elapsedSecs, _) => ⟨attempts, elapsedSecs⟩)
    fun stats => (stats.attempts, stats.elapsedSecs, ())

end AttemptStats

namespace AttemptResult

def compileFailedFields : Fields [CompileError] :=
  .cons (.required "error" CompileError.codec) .nil

def executedFields : Fields [RunReport] :=
  .cons (.required "report" RunReport.codec) .nil

def variants : List (Variant AttemptResult) :=
  [.record "AttemptResult" "compile_failed" "CompileFailed" compileFailedFields fun (error, _) =>
      .compileFailed error,
    .record "AttemptResult" "executed" "Executed" executedFields fun (report, _) =>
      .executed report]

def parts : AttemptResult → String × List (String × Json)
  | compileFailed error => ("compile_failed", compileFailedFields.entries (error, ()))
  | executed report => ("executed", executedFields.entries (report, ()))

def codec : Codec AttemptResult := .tagged "AttemptResult" "status" variants parts

end AttemptResult

namespace AttemptReport

def fields : Fields [AttemptStats, AttemptResult] :=
  .cons (.required "stats" AttemptStats.codec) <|
  .cons (.required "result" AttemptResult.codec) .nil

def codec : Codec AttemptReport :=
  .record "AttemptReport" fields (fun (stats, result, _) => ⟨stats, result⟩)
    fun r => (r.stats, r.result, ())

end AttemptReport

end GridWalk
