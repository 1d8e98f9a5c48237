import GridWalk.Problem
import GridWalk.Text.Word

/-! Operands: whole numbers below `2^32` and names of variables. -/

namespace GridWalk

inductive Operand where
  | literal (value : UInt32)
  | reference (name : String)
  deriving DecidableEq, Repr

namespace Operand

def isNegative : List Char → Bool
  | '-' :: cs => Text.isNumeral cs
  | _ => false

/-- The operand that a text without blanks around it stands for. -/
def ofTrimmed (cs : List Char) : Except Problem Operand :=
  if Text.isNumeral cs then
    let value := Text.numeralValue cs
    if value < UInt32.size then .ok (.literal (.ofNat value))
    else .error (.literalTooLarge (String.ofList cs))
  else if Text.isName cs then .ok (.reference (String.ofList cs))
  else if isNegative cs then .error (.negativeValue (String.ofList cs))
  else .error (.notAnOperand (String.ofList cs))

/-- Reads an operand.  Blanks around it do not count. -/
def parse (cs : List Char) : Except Problem Operand := ofTrimmed (Text.trim cs)

end Operand

end GridWalk
