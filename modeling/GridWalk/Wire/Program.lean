import GridWalk.CompileResult
import GridWalk.Json.Choice
import GridWalk.Json.Record

/-! The JSON forms of plans and of what compiling gives. -/

namespace GridWalk

open Json

def Direction.wireName : Direction → String
  | up => "UP"
  | down => "DOWN"
  | left => "LEFT"
  | right => "RIGHT"

def Direction.codec : Codec Direction := .choice all wireName

namespace Position

def fields : Fields [UInt32, UInt32] :=
  .cons (.required "x" .uint32) (.cons (.required "y" .uint32) .nil)

def codec : Codec Position :=
  .record "Position" fields (fun (x, y, _) => ⟨x, y⟩) fun p => (p.x, p.y, ())

end Position

namespace Action

def fields : Fields [Direction, UInt32] :=
  .cons (.required "direction" Direction.codec) (.cons (.required "line" .uint32) .nil)

def codec : Codec Action :=
  .record "Action" fields (fun (direction, line, _) => ⟨direction, line⟩)
    fun a => (a.direction, a.line, ())

end Action

def Plan.codec : Codec Plan := .list Action.codec

/-- Every category, in the order in which messages list them. -/
def Category.all : List Category := [.syntactic, .scoping, .structural]

def Category.codec : Codec Category := .choice all text

def ErrorCode.codec : Codec ErrorCode := .iso .uint16 ErrorCode.mk ErrorCode.value

namespace CompileError

def fields : Fields [ErrorCode, Category, String, UInt32, String, Option String] :=
  .cons (.required "code" ErrorCode.codec) <|
  .cons (.required "category" Category.codec) <|
  .cons (.required "message" .string) <|
  .cons (.required "line" .uint32) <|
  .cons (.required "source_line" .string) <|
  .cons (.omitting (.optional "suggestion" .string)) .nil

/-- The category of an error is written beside its code and read back as it is. -/
def codec : Codec CompileError :=
  .record "CompileError" fields
    (fun (code, category, message, line, sourceLine, suggestion, _) =>
      ⟨code, category, message, line, sourceLine, suggestion⟩)
    fun e => (e.code, e.category, e.message, e.line, e.sourceLine, e.suggestion, ())

end CompileError

namespace CompilerOptions

def fields : Fields [Option UInt64] :=
  .cons (.defaulted "max_actions" (.uint64 "usize")) .nil

def codec : Codec CompilerOptions :=
  .record "CompilerOptions" fields (fun (maxActions, _) => ⟨maxActions⟩)
    fun options => (options.maxActions, ())

end CompilerOptions

namespace CompileResult

def fields : Fields [Bool, Option Plan, Option CompileError, String] :=
  .cons (.required "success" .bool) <|
  .cons (.optional "actions" Plan.codec) <|
  .cons (.optional "error" CompileError.codec) <|
  .cons (.required "source_hash" .string) .nil

def codec : Codec CompileResult :=
  .record "CompileResult" fields
    (fun (success, actions, error, sourceHash, _) => ⟨success, actions, error, sourceHash⟩)
    fun r => (r.success, r.actions, r.error, r.sourceHash, ())

end CompileResult

end GridWalk
