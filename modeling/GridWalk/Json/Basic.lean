import GridWalk.Text.Word
import GridWalk.Json.Token

/-! The values that are written as JSON, and their compact text.  The entries of an object are
written in the order in which they are listed.  Numbers are whole, as no value of this library needs
more. -/

namespace GridWalk

inductive Json where
  | null
  | bool (value : Bool)
  | number (value : UInt64)
  | string (value : String)
  | array (items : List Json)
  | object (entries : List (String × Json))

namespace Json

def Token.text : Token → List Char
  | null => ['n', 'u', 'l', 'l']
  | bool true => ['t', 'r', 'u', 'e']
  | bool false => ['f', 'a', 'l', 's', 'e']
  | number (some (.integer n)) => Number.integerText n
  | string (some s) => '"' :: (s.toList.flatMap escaped ++ ['"'])
  | openArray => ['[']
  | closeArray => [']']
  | openObject => ['\x7b']
  | closeObject => ['\x7d']
  | comma => [',']
  | colon => [':']
  | number _ | string none | illegal => []

mutual

/-- The tokens of a value, before the tokens `rest`. -/
def tokens : Json → List Token → List Token
  | null, rest => .null :: rest
  | bool b, rest => .bool b :: rest
  | number n, rest => .number (some (.integer n.toNat)) :: rest
  | string s, rest => .string (some s) :: rest
  | array [], rest => .openArray :: .closeArray :: rest
  | array (v :: vs), rest => .openArray :: v.tokens (itemTokens vs rest)
  | object [], rest => .openObject :: .closeObject :: rest
  | object ((k, v) :: es), rest =>
    .openObject :: .string (some k) :: .colon :: v.tokens (entryTokens es rest)

def itemTokens : List Json → List Token → List Token
  | [], rest => .closeArray :: rest
  | v :: vs, rest => .comma :: v.tokens (itemTokens vs rest)

def entryTokens : List (String × Json) → List Token → List Token
  | [], rest => .closeObject :: rest
  | (k, v) :: es, rest =>
    .comma :: .string (some k) :: .colon :: v.tokens (entryTokens es rest)

end

/-- The compact text of a value. -/
def render (v : Json) : String := String.ofList ((v.tokens []).flatMap Token.text)

end Json

end GridWalk
