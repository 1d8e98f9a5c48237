import GridWalk.Json.Token

/-! Values as far as a text is well formed.  A text with a flaw still has a draft, which holds all
that stands before the flaw and shows where the flaw is, so that a reader who goes through it in
order meets the flaw only where the text has it. -/

namespace GridWalk.Json

/-- What kind of value stands somewhere, for messages. -/
inductive Found where
  | null
  | bool (value : Bool)
  | number (value : Number)
  | string (text : String)
  | array
  | object
  deriving DecidableEq, Repr

inductive Ending where
  | closed
  | broken
  deriving DecidableEq, Repr

inductive Draft where
  /-- The text has a flaw where the value should be. -/
  | flaw
  | null
  | bool (value : Bool)
  | number (value? : Option Number)
  | string (text? : Option String)
  | array (items : List Draft) (ending : Ending)
  | object (entries : List (Option String × Draft)) (ending : Ending)

namespace Draft

def found? : Draft → Option Found
  | flaw => none
  | null => some .null
  | bool b => some (.bool b)
  | number n => n.map .number
  | string s => s.map .string
  | array .. => some .array
  | object .. => some .object

/-- The text of the value has no flaw.  A container is closed only when all in it is whole. -/
def isWhole : Draft → Bool
  | flaw => false
  | array _ ending | object _ ending => ending == .closed
  | _ => true

mutual

/-- The value is whole, each of its strings has a text, each of its numbers has a value, and it is
at most `room` containers deep. -/
def isSound : Nat → Draft → Bool
  | _, flaw => false
  | _, null | _, bool _ => true
  | _, number n => n.isSome
  | _, string s => s.isSome
  | 0, array .. | 0, object .. => false
  | room + 1, array items ending => ending == .closed && itemsSound room items
  | room + 1, object entries ending => ending == .closed && entriesSound room entries

def itemsSound : Nat → List Draft → Bool
  | _, [] => true
  | room, d :: ds => isSound room d && itemsSound room ds

def entriesSound : Nat → List (Option String × Draft) → Bool
  | _, [] => true
  | room, (key, d) :: es => key.isSome && isSound room d && entriesSound room es

end

end Draft

/-- A container that is being read, with its last part first. -/
inductive Frame where
  | array (items : List Draft)
  /-- An object in which the value of `key` is being read. -/
  | object (entries : List (Option String × Draft)) (key : Option String)

namespace Frame

def wrap (last : Draft) (ending : Ending) : Frame → Draft
  | array items => .array (last :: items).reverse ending
  | object entries key => .object ((key, last) :: entries).reverse ending

/-- The value of a text whose flaw ends `inner`. -/
def abandon : Draft → List Frame → Draft
  | inner, [] => inner
  | inner, frame :: frames => abandon (frame.wrap inner .broken) frames

end Frame

namespace Draft

/-- The draft of a text that has a flaw, with no token after it. -/
def stop (inner : Draft) (frames : List Frame) : Draft × List Token :=
  (Frame.abandon inner frames, [])

mutual

/-- Reads a value inside of `frames`.  The results are the draft of the whole text and the tokens
after it. -/
def value (frames : List Frame) : List Token → Draft × List Token
  | .null :: rest => next frames null rest
  | .bool b :: rest => next frames (bool b) rest
  | .number n :: rest => next frames (number n) rest
  | .string s :: rest => next frames (string s) rest
  | .openArray :: .closeArray :: rest => next frames (array [] .closed) rest
  | .openArray :: rest => value (.array [] :: frames) rest
  | .openObject :: .closeObject :: rest => next frames (object [] .closed) rest
  | .openObject :: .string key :: .colon :: rest => value (.object [] key :: frames) rest
  | .openObject :: .string key :: _ => stop flaw (.object [] key :: frames)
  | .openObject :: _ => stop (object [] .broken) frames
  | _ => stop flaw frames

def next (frames : List Frame) (last : Draft) (tokens : List Token) : Draft × List Token :=
  match frames, tokens with
  | [], tokens => (last, tokens)
  | .array items :: frames, .closeArray :: rest =>
    next frames (.array (last :: items).reverse .closed) rest
  | .array items :: frames, .comma :: rest => value (.array (last :: items) :: frames) rest
  | .object entries key :: frames, .closeObject :: rest =>
    next frames (.object ((key, last) :: entries).reverse .closed) rest
  | .object entries key :: frames, .comma :: .string key' :: .colon :: rest =>
    value (.object ((key, last) :: entries) key' :: frames) rest
  | .object entries key :: frames, .comma :: .string key' :: _ =>
    stop flaw (.object ((key, last) :: entries) key' :: frames)
  | frame :: frames, _ => stop (frame.wrap last .broken) frames

end

/-- The draft of a text, and the tokens that follow its value. -/
def ofText (text : String) : Draft × List Token := value [] (Token.scan text.toList)

end Draft

end GridWalk.Json
