import GridWalk.Grid.Ascii
import GridWalk.Wire.Attempt
import GridWalk.Wire.Level

/-! What a host of the language calls.  Programs and levels come as texts, and answers go out as
JSON texts.  Plans are limited.  Only the level decides whether a run is answered with a report or
with an error of the host. -/

namespace GridWalk.Host

open Json

def version : String := "0.1.0"

/-- The greatest length of a plan. -/
def maxActions : UInt64 := 10000

def options : CompilerOptions := ⟨some maxActions⟩

def compile (program : String) : String :=
  CompileResult.codec.write (.ofProgram program options)

inductive Failure where
  | invalidLevel (reason : String)
  deriving DecidableEq, Repr

def Failure.text : Failure → String
  | invalidLevel reason => "invalid level: " ++ reason

def response : Except Failure AttemptReport → Json
  | .ok report => .object [("ok", .bool true), ("attempt", AttemptReport.codec.encode report)]
  | .error failure => .object [("ok", .bool false), ("host_error", .string failure.text)]

/-- One attempt at a level, after the given number of attempts and seconds. -/
def attempt (program : String) (attempts elapsedSecs : UInt32) (grid : Grid) : AttemptReport :=
  GridWalk.attempt grid options ⟨attempts, elapsedSecs.toUInt64⟩ program

/-- Runs a program on a level that is given as JSON. -/
def tryLevel (program level : String) (attempts elapsedSecs : UInt32) :
    Except Failure AttemptReport :=
  match Grid.codec.read level with
  | .ok grid => .ok (attempt program attempts elapsedSecs grid)
  | .error fault => .error (.invalidLevel fault.message)

/-- Runs a program on a level that is given as rows of symbols. -/
def tryAsciiLevel (program level : String) (attempts elapsedSecs : UInt32) :
    Except Failure AttemptReport :=
  match Grid.ofAscii level with
  | .ok grid => .ok (attempt program attempts elapsedSecs grid)
  | .error fault => .error (.invalidLevel fault.message)

def runLevel (program level : String) (attempts elapsedSecs : UInt32) : String :=
  (response (tryLevel program level attempts elapsedSecs)).render

def runAsciiLevel (program level : String) (attempts elapsedSecs : UInt32) : String :=
  (response (tryAsciiLevel program level attempts elapsedSecs)).render

end GridWalk.Host
