/-! The errors that a compiled program can have, as they are reported: a code whose hundreds give
the category, a message, the line at fault and, for most, a suggestion. -/

namespace GridWalk

inductive Category where
  | syntactic
  | scoping
  | structural
  deriving DecidableEq, Repr

def Category.text : Category → String
  | .syntactic => "syntax"
  | .scoping => "scope"
  | .structural => "structure"

structure ErrorCode where
  value : UInt16
  deriving DecidableEq, Repr

namespace ErrorCode

/-- Codes from 200 to 299 concern scope, those from 300 to 399 structure, and all others syntax. -/
def category (code : ErrorCode) : Category :=
  if 200 ≤ code.value ∧ code.value ≤ 299 then .scoping
  else if 300 ≤ code.value ∧ code.value ≤ 399 then .structural
  else .syntactic

def text (code : ErrorCode) : String := "E" ++ code.value.toNat.repr

end ErrorCode

structure CompileError where
  code : ErrorCode
  category : Category
  message : String
  line : UInt32
  sourceLine : String
  suggestion : Option String
  deriving DecidableEq, Repr

namespace CompileError

/-- The error whose category is the one of its code. -/
def ofCode (code : ErrorCode) (message : String) (line : UInt32) (sourceLine : String)
    (suggestion : Option String) : CompileError :=
  ⟨code, code.category, message, line, sourceLine, suggestion⟩

/-- The form `line 1: E200 [scope] message`. -/
def text (e : CompileError) : String :=
  "line " ++ e.line.toNat.repr ++ ": " ++ e.code.text ++ " [" ++ e.category.text ++ "] "
    ++ e.message

end CompileError

end GridWalk
