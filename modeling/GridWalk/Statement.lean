import GridWalk.Direction
import GridWalk.Operand
import GridWalk.Text.Cut

/-! The statements of the command language.  The first characters of a line decide which form it is
read as.  A line of a form with wrong details is an error, and a line of no form is the statement
`unsupported`, so that each place of a program reports it in its own words. -/

namespace GridWalk

inductive Statement where
  /-- The form `name = value`. -/
  | assignment (name : String) (value : Operand)
  /-- The form `for name in range(count):`. -/
  | loop (name : String) (count : Operand)
  /-- The form `hero.move_direction(steps)`.  Without `steps` it is one step. -/
  | move (direction : Direction) (steps : Option Operand)
  | unsupported
  deriving DecidableEq, Repr

namespace Statement

def parseAssignment (name value : List Char) : Except Problem Statement :=
  if Text.isName name then
    (Operand.parse value).map (.assignment (String.ofList name))
  else .error (.invalidName (String.ofList name))

/-- The text between the parentheses of `range(...):`. -/
def rangeArguments? (cs : List Char) : Option (List Char) := do
  let afterRange ← Text.afterPrefix? "range".toList (Text.trim cs)
  let afterOpening ← Text.afterPrefix? ['('] (Text.trimStart afterRange)
  let beforeColon ← Text.beforeSuffix? [':'] afterOpening
  Text.beforeSuffix? [')'] (Text.trimEnd beforeColon)

/-- Reads what follows `for ` in a loop. -/
def parseLoop (cs : List Char) : Except Problem Statement :=
  match Text.cut? " in ".toList cs with
  | none => .error (.malformedLoop .noIn)
  | some (before, after) =>
    let name := Text.trim before
    if !Text.isName name then .error (.malformedLoop (.badVariable (String.ofList name)))
    else match rangeArguments? after with
      | none => .error (.malformedLoop .noRange)
      | some arguments =>
        if (Text.trim arguments).isEmpty then .error (.malformedLoop .noCount)
        else if arguments.contains ',' then .error (.malformedLoop .severalCounts)
        else (Operand.parse arguments).map (.loop (String.ofList name))

/-- Reads the text between the parentheses of a move.  A blank text stands for no operand. -/
def parseSteps (cs : List Char) : Except Problem (Option Operand) :=
  if (Text.trim cs).isEmpty then .ok none else (Operand.parse cs).map some

/-- Reads what follows `hero.move_` in a move. -/
def parseMove (cs : List Char) : Except Problem Statement :=
  match Text.cut? ['('] cs with
  | none => .error .malformedMove
  | some (before, after) =>
    match Text.beforeSuffix? [')'] after with
    | none => .error .malformedMove
    | some arguments =>
      if arguments.contains '(' || arguments.contains ')' then .error .malformedMove
      else
        let keyword := String.ofList (Text.trimEnd before)
        match Direction.ofKeyword? keyword with
        | none => .error (.unknownDirection keyword)
        | some direction => (parseSteps arguments).map (.move direction)

/-- The two sides of the only `=` in a text. -/
def assignmentSides? (cs : List Char) : Option (List Char × List Char) :=
  match Text.cut? ['='] cs with
  | some (name, value) => if value.contains '=' then none else some (Text.trim name, value)
  | none => none

def ofCode (cs : List Char) : Except Problem Statement :=
  match Text.afterPrefix? "for ".toList cs with
  | some rest => parseLoop rest
  | none =>
    match Text.afterPrefix? "hero.move_".toList cs with
    | some rest => parseMove rest
    | none =>
      if "if ".toList.isPrefixOf cs then .ok .unsupported
      else match assignmentSides? cs with
        | some (name, value) => parseAssignment name value
        | none => .ok .unsupported

end Statement

def Line.statement (line : Line) : Except Problem Statement :=
  Statement.ofCode (Line.codeOf line.raw.toList)

end GridWalk
