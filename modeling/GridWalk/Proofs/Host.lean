import GridWalk.Host
import GridWalk.Proofs.Compile.Limit
import GridWalk.Proofs.Run.Trace
import GridWalk.Proofs.Wire.RoundTrip

/-! The answers of the host.  A response is read back from its text, and what it says is what the
library computes on its own: the level decides whether there is a report, and the report is that of
the attempt, which agrees with what the host says about compiling alone. -/

namespace GridWalk.Host

open Json

/-- A response as it is read: a flag, and the report or else the error of the host. -/
structure Response where
  ok : Bool
  attempt : Option AttemptReport
  hostError : Option String
  deriving DecidableEq, Repr

namespace Response

def fields : Fields [Bool, Option AttemptReport, Option String] :=
  .cons (.required "ok" .bool) <|
  .cons (.omitting (.optional "attempt" AttemptReport.codec)) <|
  .cons (.omitting (.optional "host_error" .string)) .nil

def codec : Codec Response :=
  .record "RunResponse" fields (fun (ok, attempt, hostError, _) => ⟨ok, attempt, hostError⟩)
    fun r => (r.ok, r.attempt, r.hostError, ())

theorem lawful_codec : codec.Lawful 7 := by
  apply Codec.lawful_record _ _ fun _ => rfl
  have hattempt : Field.Lawful (.omitting (.optional "attempt" AttemptReport.codec)) 6 :=
    (Field.Lawful.optional _ AttemptReport.lawful_codec fun _ => nofun).omitting rfl
  have hstring := Codec.lawful_string.mono (Nat.zero_le 6)
  have herror : Field.Lawful (.omitting (.optional "host_error" .string)) 6 :=
    (Field.Lawful.optional _ hstring fun _ => nofun).omitting rfl
  exact .cons (.required _ (Codec.lawful_bool.mono (Nat.zero_le 6))) (by decide) <|
    .cons hattempt (by decide) <| .cons herror (by decide) .nil

def ofResult : Except Failure AttemptReport → Response
  | .ok report => ⟨true, some report, none⟩
  | .error failure => ⟨false, none, some failure.text⟩

theorem encode_ofResult (result : Except Failure AttemptReport) :
    codec.encode (ofResult result) = response result := by
  cases result <;> rfl

/-- The text of a response is read back. -/
theorem read_render (result : Except Failure AttemptReport) :
    codec.read (response result).render = .ok (ofResult result) := by
  rw [← encode_ofResult]
  exact lawful_codec.roundTrips (by decide) (ofResult result)

end Response

/-- The text is one JSON value without flaws. -/
def WellFormed (text : String) : Prop :=
  ∃ d, Draft.ofText text = (d, []) ∧ d.isSound Codec.depthLimit = true

theorem wellFormed_render (result : Except Failure AttemptReport) :
    WellFormed (response result).render := by
  refine ⟨_, Draft.ofText_render _, ?_⟩
  rw [← Response.encode_ofResult]
  exact Response.lawful_codec.sound _ _ (by decide)

/-! ### Compiling alone and compiling for a run -/

theorem read_compile (program : String) :
    CompileResult.codec.read (compile program) = .ok (.ofProgram program options) :=
  CompileResult.lawful_codec.roundTrips (by decide) _

/-- The result of an attempt goes with what the host answers about compiling the program alone: both
have the same error, or the plan of the one is walked in the other, which takes a bounded number of
moves and events. -/
structure Matches (grid : Grid) (program : String) (result : AttemptResult) : Prop where
  failed : ∀ e, result = .compileFailed e ↔ ∃ hash,
    CompileResult.codec.read (compile program) = .ok ⟨false, none, some e, hash⟩
  executed : (∀ e, result ≠ .compileFailed e) → ∃ plan hash,
    CompileResult.codec.read (compile program) = .ok ⟨true, some plan, none, hash⟩ ∧
    result = .executed (execute grid (.ofGrid grid) plan) ∧
    (execute grid (.ofGrid grid) plan).events.countP Event.isMoved ≤ 10000 ∧
    (execute grid (.ofGrid grid) plan).events.length ≤ 20001

theorem matches_attemptResult (grid : Grid) (program : String) :
    Matches grid program (attemptResult grid options program) := by
  cases hcompile : GridWalk.compile program options with
  | error err =>
    have hread : CompileResult.codec.read (compile program)
        = .ok ⟨false, none, some err, sourceHash program⟩ := by
      rw [read_compile, CompileResult.ofProgram, hcompile]
    have hresult : attemptResult grid options program = .compileFailed err := by
      rw [attemptResult, hcompile]
    rw [hresult]
    refine ⟨fun e => ?_, fun h => absurd rfl (h err)⟩
    rw [hread]
    simp
  | ok plan =>
    have hread : CompileResult.codec.read (compile program)
        = .ok ⟨true, some plan, none, sourceHash program⟩ := by
      rw [read_compile, CompileResult.ofProgram, hcompile]
    have hresult : attemptResult grid options program
        = .executed (execute grid (.ofGrid grid) plan) := by
      rw [attemptResult, hcompile]
    have hlimit : GridWalk.compile program ⟨some maxActions⟩ = .ok plan := hcompile
    have hplan : plan.length ≤ 10000 := Compile.length_le_of_compile (by decide) hlimit
    have hmoves := countP_isMoved_execute_le grid (.ofGrid grid) plan
    have hevents := length_events_execute_le grid (.ofGrid grid) plan
    rw [hresult]
    refine ⟨fun e => ?_, fun _ => ⟨plan, _, hread, rfl, by omega, by omega⟩⟩
    rw [hread]
    simp

/-! ### Levels -/

section Levels

variable (program level : String) (attempts elapsedSecs : UInt32)

theorem read_runLevel : Response.codec.read (runLevel program level attempts elapsedSecs)
    = .ok (.ofResult (tryLevel program level attempts elapsedSecs)) :=
  Response.read_render _

theorem read_runAsciiLevel : Response.codec.read (runAsciiLevel program level attempts elapsedSecs)
    = .ok (.ofResult (tryAsciiLevel program level attempts elapsedSecs)) :=
  Response.read_render _

theorem ok_runLevel :
    (Response.codec.read (runLevel program level attempts elapsedSecs)).map Response.ok
      = .ok (Grid.codec.read level).isOk := by
  rw [read_runLevel, tryLevel]
  cases Grid.codec.read level <;> rfl

theorem ok_runAsciiLevel :
    (Response.codec.read (runAsciiLevel program level attempts elapsedSecs)).map Response.ok
      = .ok (Grid.ofAscii level).isOk := by
  rw [read_runAsciiLevel, tryAsciiLevel]
  cases Grid.ofAscii level <;> rfl

variable {level} {grid : Grid}

theorem tryAsciiLevel_of_ofAscii (h : Grid.ofAscii level = .ok grid) :
    tryAsciiLevel program level attempts elapsedSecs
      = .ok (attempt program attempts elapsedSecs grid) := by
  rw [tryAsciiLevel, h]

/-- The written form of a grid is as good as the symbols it was read from. -/
theorem runAsciiLevel_eq_runLevel (h : Grid.ofAscii level = .ok grid) :
    runAsciiLevel program level attempts elapsedSecs
      = runLevel program (Grid.codec.write grid) attempts elapsedSecs := by
  have hgrid : Grid.codec.read (Grid.codec.write grid) = .ok grid :=
    Grid.lawful_codec.roundTrips (by decide) grid
  rw [runAsciiLevel, runLevel, tryAsciiLevel_of_ofAscii program attempts elapsedSecs h, tryLevel,
    hgrid]

end Levels

/-- The entry points of the host agree.  A level of symbols and its JSON form get the same answer,
which holds the report of one attempt with the limit of the host, and that attempt agrees with what
compiling alone answers.  Whether there is a report at all depends on the level only. -/
theorem entries_agree :
    (∀ (level : String) (grid : Grid), Grid.ofAscii level = .ok grid →
      ∀ (program : String) (attempts elapsedSecs : UInt32),
        let text := runAsciiLevel program level attempts elapsedSecs
        let report := GridWalk.attempt grid ⟨some 10000⟩ ⟨attempts, elapsedSecs.toUInt64⟩ program
        text = runLevel program (Grid.codec.write grid) attempts elapsedSecs ∧
        WellFormed text ∧ Response.codec.read text = .ok ⟨true, some report, none⟩ ∧
        Matches grid program report.result) ∧
    ∀ (level program : String) (attempts elapsedSecs : UInt32),
      (Response.codec.read (runLevel program level attempts elapsedSecs)).map Response.ok
        = .ok (Grid.codec.read level).isOk ∧
      (Response.codec.read (runAsciiLevel program level attempts elapsedSecs)).map Response.ok
        = .ok (Grid.ofAscii level).isOk := by
  constructor
  · intro level grid hgrid program attempts elapsedSecs text report
    have hread : Response.codec.read text = .ok ⟨true, some report, none⟩ := by
      rw [read_runAsciiLevel, tryAsciiLevel_of_ofAscii program attempts elapsedSecs hgrid]
      rfl
    exact ⟨runAsciiLevel_eq_runLevel program attempts elapsedSecs hgrid, wellFormed_render _, hread,
      matches_attemptResult grid program⟩
  · intro level program attempts elapsedSecs
    exact ⟨ok_runLevel program level attempts elapsedSecs,
      ok_runAsciiLevel program level attempts elapsedSecs⟩

/-- A level of three cells in a row. -/
def straight : Grid where
  layout := [[.start, .empty, .goal]]
  start := ⟨0, 0⟩
  width_pos := by decide
  rectangular := by decide
  width_lt := by decide
  height_lt := by decide
  start_open := by decide

theorem entries_agree_straight :
    Grid.ofAscii "S.G\n" = .ok straight ∧
    runAsciiLevel "hero.move_right(2)" "S.G\n" 3 60
      = runLevel "hero.move_right(2)" (Grid.codec.write straight) 3 60 ∧
    ∃ plan hash, CompileResult.codec.read (compile "hero.move_right(2)")
        = .ok ⟨true, some plan, none, hash⟩ ∧
      attemptResult straight options "hero.move_right(2)"
        = .executed (execute straight (.ofGrid straight) plan) := by
  have hlevel : Grid.ofAscii "S.G\n" = .ok straight := by decide +kernel
  have hcompile : GridWalk.compile "hero.move_right(2)" options
      = .ok [⟨.right, 1⟩, ⟨.right, 1⟩] := by decide +kernel
  obtain ⟨hsame, -, -, hmatches⟩ :=
    entries_agree.1 "S.G\n" straight hlevel "hero.move_right(2)" 3 60
  have hruns : ∀ e, attemptResult straight options "hero.move_right(2)" ≠ .compileFailed e := by
    intro e
    simp [attemptResult, hcompile]
  obtain ⟨plan, hash, hread, hresult, -, -⟩ := hmatches.executed hruns
  exact ⟨hlevel, hsame, plan, hash, hread, hresult⟩

end GridWalk.Host
