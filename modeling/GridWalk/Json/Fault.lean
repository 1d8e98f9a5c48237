import GridWalk.Json.Draft
import GridWalk.Text.Quoted

/-! Why a JSON text does not stand for a value of the type that is read. -/

namespace GridWalk.Json

inductive Fault where
  /-- The text is not well formed, or well-formed text stands where none may stand. -/
  | malformed
  | missingField (name : String)
  | duplicateField (name : String)
  | unknownVariant (name : String) (known : List String)
  | invalidType (found : Found) (expected : String)
  | invalidValue (found : Found) (expected : String)
  | invalidLength (length : Nat) (expected : String)
  /-- The value is well formed and breaks a rule of its type. -/
  | rejected (reason : String)
  deriving DecidableEq, Repr

def Found.text : Found → String
  | null => "null"
  | bool b => "boolean `" ++ (if b then "true" else "false") ++ "`"
  | number n => n.text
  | string s => "string " ++ String.ofList (Text.quoted s.toList)
  | array => "sequence"
  | object => "map"

namespace Fault

def backquoted (name : String) : String := "`" ++ name ++ "`"

/-- A choice between names: one name, two joined by `or`, or a list. -/
def oneOf : List String → String
  | [name] => backquoted name
  | [first, second] => backquoted first ++ " or " ++ backquoted second
  | names => "one of " ++ String.intercalate ", " (names.map backquoted)

def elements (count : Nat) : String :=
  if count = 1 then "1 element" else count.repr ++ " elements"

def message : Fault → String
  | malformed => "<malformed JSON>"
  | missingField name => "missing field " ++ backquoted name
  | duplicateField name => "duplicate field " ++ backquoted name
  | unknownVariant name known =>
    "unknown variant " ++ backquoted name ++ ", expected " ++ oneOf known
  | invalidType found expected => "invalid type: " ++ found.text ++ ", expected " ++ expected
  | invalidValue found expected => "invalid value: " ++ found.text ++ ", expected " ++ expected
  | invalidLength length expected =>
    "invalid length " ++ length.repr ++ ", expected " ++ expected
  | rejected reason => reason

end Fault

/-- The fault of a value that stands where `expected` should. -/
def Draft.mismatch (d : Draft) (expected : String) : Fault :=
  match d.found? with
  | some found => .invalidType found expected
  | none => .malformed

end GridWalk.Json
