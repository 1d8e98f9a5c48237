import GridWalk.Text.Blank

/-! The lines of a program.  A line feed ends a line and so does the end of the text, so the empty
text has one line.  The carriage returns at the end of a line are not part of it.  A comment runs
from `#` to the end of its line. -/

namespace GridWalk

/-- A program line and its number, which counts from 1. -/
structure Line where
  number : UInt32
  raw : String
  deriving DecidableEq, Repr

namespace Line

/-- The characters of a raw line that are code: those before the first `#`, without the blanks
around them. -/
def codeOf (raw : List Char) : List Char := Text.trim (raw.takeWhile (· != '#'))

def code (line : Line) : String := String.ofList (codeOf line.raw.toList)

/-- The line holds blanks and a comment at most. -/
def isBlank (line : Line) : Bool := (codeOf line.raw.toList).isEmpty

/-- Four spaces or a tab open an indented line. -/
def isIndented (line : Line) : Bool :=
  "    ".toList.isPrefixOf line.raw.toList || ['\t'].isPrefixOf line.raw.toList

/-- A block goes on through the lines that are indented or hold nothing but blanks.  A comment that
is not indented ends it. -/
def continuesBlock (line : Line) : Bool :=
  line.isIndented || (Text.trim line.raw.toList).isEmpty

def rawLines (text : List Char) : List (List Char) :=
  (text.splitOn '\n').map (Text.dropEndWhile (· == '\r'))

def ofText (text : String) : List Line :=
  (rawLines text.toList).mapIdx fun i raw => ⟨.ofNat (i + 1), String.ofList raw⟩

end Line

end GridWalk
