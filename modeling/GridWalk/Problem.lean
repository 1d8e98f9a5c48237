import GridWalk.Diagnostic
import GridWalk.Line

/-! What can be wrong with a program line, apart from which line it is.  `Problem.on` puts a problem
on a line and gives the error that is reported. -/

namespace GridWalk

/-- What is wrong with a line that starts as a loop. -/
inductive LoopFault where
  | noIn
  | badVariable (name : String)
  | noRange
  | noCount
  | severalCounts
  deriving DecidableEq, Repr

def LoopFault.text : LoopFault → String
  | .noIn => "expected 'in range(...)'"
  | .badVariable name => "invalid loop variable '" ++ name ++ "'"
  | .noRange => "expected 'range(<count>):'"
  | .noCount => "range() needs a count"
  | .severalCounts => "range() takes a single count"

inductive Problem where
  | unrecognized (code : String)
  | malformedLoop (fault : LoopFault)
  | malformedMove
  | unknownDirection (keyword : String)
  | invalidName (name : String)
  | literalTooLarge (text : String)
  | negativeValue (text : String)
  | notAnOperand (text : String)
  | undefinedVariable (name : String)
  | nestedLoop
  | notAMove (code : String)
  | tooManyMoves (limit : UInt64)
  deriving DecidableEq, Repr

namespace Problem

def code : Problem → ErrorCode
  | unrecognized _ => ⟨100⟩
  | malformedLoop _ => ⟨101⟩
  | malformedMove => ⟨102⟩
  | unknownDirection _ => ⟨103⟩
  | invalidName _ => ⟨104⟩
  | literalTooLarge _ | negativeValue _ | notAnOperand _ => ⟨105⟩
  | undefinedVariable _ => ⟨200⟩
  | nestedLoop | notAMove _ => ⟨300⟩
  | tooManyMoves _ => ⟨301⟩

def message : Problem → String
  | unrecognized code => "unrecognized statement '" ++ code ++ "'"
  | malformedLoop fault => "malformed loop: " ++ fault.text
  | malformedMove => "malformed move command"
  | unknownDirection keyword => "unknown direction '" ++ keyword ++ "'"
  | invalidName name => "invalid variable name '" ++ name ++ "'"
  | literalTooLarge text => "integer literal '" ++ text ++ "' is too large"
  | negativeValue text => "negative values are not supported: '" ++ text ++ "'"
  | notAnOperand text => "expected a whole number or a variable name, found '" ++ text ++ "'"
  | undefinedVariable name => "variable '" ++ name ++ "' is not defined"
  | nestedLoop => "nested loops are not supported"
  | notAMove code => "only move commands are allowed inside a loop body, found '" ++ code ++ "'"
  | tooManyMoves limit => "program produces more than " ++ limit.toNat.repr ++ " moves"

def suggestion : Problem → Option String
  | unrecognized _ =>
    some "supported statements are assignments, for-loops and hero.move_<direction>()"
  | malformedLoop _ => some "write loops as: for i in range(3):"
  | malformedMove => some "write moves as: hero.move_right() or hero.move_right(3)"
  | unknownDirection _ => some "use one of: up, down, left, right"
  | invalidName _ =>
    some "names start with a letter or '_' and contain only letters, digits and '_'"
  | negativeValue _ | notAnOperand _ =>
    some "only whole numbers are supported, e.g. x = 5"
  | undefinedVariable name => some ("define it on an earlier line, e.g. " ++ name ++ " = 3")
  | notAMove _ => some "move the statement above the loop"
  | literalTooLarge _ | nestedLoop | tooManyMoves _ => none

/-- The report of problem `p` on `line`. -/
def on (p : Problem) (line : Line) : CompileError :=
  .ofCode p.code p.message line.number line.raw p.suggestion

end Problem

end GridWalk
