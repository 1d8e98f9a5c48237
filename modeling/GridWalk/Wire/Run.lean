import GridWalk.Json.Tagged
import GridWalk.Run
import GridWalk.Wire.Program

/-! The JSON forms of runs: what they start from, their events, how they end, and their reports. -/

namespace GridWalk

open Json

namespace RunConfig

def fields : Fields [Option Position, Option Direction] :=
  .cons (.defaulted "start" Position.codec) <|
  .cons (.defaulted "facing" Direction.codec) .nil

def codec : Codec RunConfig :=
  .record "RunConfig" fields (fun (start, facing, _) => ⟨start, facing⟩)
    fun config => (config.start, config.facing, ())

end RunConfig

namespace Event

def movedFields : Fields [Position, Direction] :=
  .cons (.required "position" Position.codec) <|
  .cons (.required "direction" Direction.codec) .nil

def collectedFields : Fields [Position] :=
  .cons (.required "position" Position.codec) .nil

def blockedFields : Fields [UInt32, Direction] :=
  .cons (.required "line" .uint32) <|
  .cons (.required "facing" Direction.codec) .nil

def destroyedFields : Fields [UInt32] :=
  .cons (.required "line" .uint32) .nil

def finishedFields : Fields [Bool] :=
  .cons (.required "success" .bool) .nil

def variants : List (Variant Event) :=
  [.record "Event" "moved" "Moved" movedFields fun (position, direction, _) =>
      .moved position direction,
    .record "Event" "collected" "Collected" collectedFields fun (position, _) =>
      .collected position,
    .record "Event" "blocked" "Blocked" blockedFields fun (line, facing, _) =>
      .blocked line facing,
    .record "Event" "destroyed" "Destroyed" destroyedFields fun (line, _) => .destroyed line,
    .record "Event" "finished" "Finished" finishedFields fun (success, _) => .finished success]

def parts : Event → String × List (String × Json)
  | moved position direction => ("moved", movedFields.entries (position, direction, ()))
  | collected position => ("collected", collectedFields.entries (position, ()))
  | blocked line facing => ("blocked", blockedFields.entries (line, facing, ()))
  | destroyed line => ("destroyed", destroyedFields.entries (line, ()))
  | finished success => ("finished", finishedFields.entries (success, ()))

def codec : Codec Event := .tagged "Event" "kind" variants parts

end Event

namespace Outcome

def incompleteFields : Fields [Bool, UInt64] :=
  .cons (.required "reached_goal" .bool) <|
  .cons (.required "missing_coins" (.uint64 "usize")) .nil

def lineFields : Fields [UInt32] :=
  .cons (.required "line" .uint32) .nil

def variants : List (Variant Outcome) :=
  [.unit "success" .success,
    .record "Outcome" "incomplete" "Incomplete" incompleteFields fun (goal, missing, _) =>
      .incomplete goal missing,
    .record "Outcome" "blocked" "Blocked" lineFields fun (line, _) => .blocked line,
    .record "Outcome" "destroyed" "Destroyed" lineFields fun (line, _) => .destroyed line]

def parts : Outcome → String × List (String × Json)
  | success => ("success", [])
  | incomplete goal missing => ("incomplete", incompleteFields.entries (goal, missing, ()))
  | blocked line => ("blocked", lineFields.entries (line, ()))
  | destroyed line => ("destroyed", lineFields.entries (line, ()))

def codec : Codec Outcome := .tagged "Outcome" "kind" variants parts

end Outcome

namespace RunReport

def fields : Fields [List Event, Outcome, Position, Direction, List Position] :=
  .cons (.required "events" (.list Event.codec)) <|
  .cons (.required "outcome" Outcome.codec) <|
  .cons (.required "final_position" Position.codec) <|
  .cons (.required "final_direction" Direction.codec) <|
  .cons (.required "collected" (.list Position.codec)) .nil

def codec : Codec RunReport :=
  .record "RunReport" fields
    (fun (events, outcome, position, direction, collected, _) =>
      ⟨events, outcome, position, direction, collected⟩)
    fun r => (r.events, r.outcome, r.finalPosition, r.finalDirection, r.collected, ())

end RunReport

end GridWalk
