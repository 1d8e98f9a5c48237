import GridWalk.Json.Number
import GridWalk.Text.Cut

/-! The tokens of JSON texts.  Reading a text as tokens goes as far as the text is made of tokens.
The first character that starts none gives the token `illegal`, which is the last. -/

namespace GridWalk.Json

inductive Token where
  | null
  | bool (value : Bool)
  /-- A number.  It has no value when it is outside the range of the formats. -/
  | number (value? : Option Number)
  /-- A string.  It has no text when it holds half of a surrogate pair. -/
  | string (text? : Option String)
  | openArray
  | closeArray
  | openObject
  | closeObject
  | comma
  | colon
  | illegal
  deriving DecidableEq, Repr

/-- One element of a string: a character, or a code unit of a surrogate pair. -/
inductive Piece where
  | char (c : Char)
  | surrogate (unit : Nat)
  deriving DecidableEq, Repr

namespace Piece

def isHighSurrogate (n : Nat) : Bool := 0xD800 ≤ n && n ≤ 0xDBFF

def isLowSurrogate (n : Nat) : Bool := 0xDC00 ≤ n && n ≤ 0xDFFF

def ofUnit (n : Nat) : Piece :=
  if isHighSurrogate n || isLowSurrogate n then surrogate n else char (Char.ofNat n)

/-- The text of a row of pieces.  Each high surrogate has to stand before a low one. -/
def join? : List Piece → Option (List Char)
  | [] => some []
  | char c :: rest => (join? rest).map (c :: ·)
  | surrogate high :: surrogate low :: rest =>
    if isHighSurrogate high && isLowSurrogate low then
      (join? rest).map (Char.ofNat (0x10000 + (high - 0xD800) * 0x400 + (low - 0xDC00)) :: ·)
    else none
  | surrogate _ :: _ => none

def hexDigit? (c : Char) : Option Nat :=
  if c.isDigit then some (c.toNat - '0'.toNat)
  else if 'a' ≤ c ∧ c ≤ 'f' then some (c.toNat - 'a'.toNat + 10)
  else if 'A' ≤ c ∧ c ≤ 'F' then some (c.toNat - 'A'.toNat + 10)
  else none

def hexUnit? (a b c d : Char) : Option Nat := do
  let a ← hexDigit? a
  let b ← hexDigit? b
  let c ← hexDigit? c
  let d ← hexDigit? d
  some (((a * 16 + b) * 16 + c) * 16 + d)

/-- The character that a letter stands for after a backslash. -/
def unescape? : Char → Option Char
  | '"' => some '"'
  | '\\' => some '\\'
  | '/' => some '/'
  | 'b' => some '\x08'
  | 'f' => some '\x0c'
  | 'n' => some '\n'
  | 'r' => some '\r'
  | 't' => some '\t'
  | _ => none

def readEscape? : List Char → Option (Piece × List Char)
  | 'u' :: a :: b :: c :: d :: rest => (hexUnit? a b c d).map (ofUnit ·, rest)
  | c :: rest => (unescape? c).map (char ·, rest)
  | [] => none

theorem length_lt_of_readEscape? {cs rest : List Char} {piece : Piece}
    (h : readEscape? cs = some (piece, rest)) : rest.length < cs.length := by
  unfold readEscape? at h
  split at h
  · obtain ⟨_, _, h⟩ := Option.map_eq_some_iff.1 h
    obtain ⟨_, rfl⟩ := Prod.mk.inj h
    simp only [List.length_cons]
    omega
  · obtain ⟨_, _, h⟩ := Option.map_eq_some_iff.1 h
    obtain ⟨_, rfl⟩ := Prod.mk.inj h
    simp
  · cases h

/-- The pieces up to the quote that ends a string, and what follows the quote. -/
def readString? (cs : List Char) : Option (List Piece × List Char) :=
  match cs with
  | [] => none
  | '"' :: rest => some ([], rest)
  | '\\' :: rest =>
    match h : readEscape? rest with
    | none => none
    | some (piece, rest') =>
      have := length_lt_of_readEscape? h
      (readString? rest').map fun (pieces, after) => (piece :: pieces, after)
  | c :: rest =>
    if c.toNat < 0x20 then none
    else (readString? rest).map fun (pieces, after) => (char c :: pieces, after)
termination_by cs.length

theorem readString?_escape {cs rest : List Char} {piece : Piece}
    (h : readEscape? cs = some (piece, rest)) :
    readString? ('\\' :: cs)
      = (readString? rest).map fun (pieces, after) => (piece :: pieces, after) := by
  rw [readString?]
  split
  next h' => cases h.symm.trans h'
  next h' =>
    obtain ⟨rfl, rfl⟩ := Prod.mk.inj (Option.some.inj (h.symm.trans h'))
    rfl

theorem readString?_char {c : Char} {rest : List Char} (hq : c ≠ '"') (hb : c ≠ '\\')
    (h : 0x20 ≤ c.toNat) :
    readString? (c :: rest)
      = (readString? rest).map fun (pieces, after) => (char c :: pieces, after) := by
  rw [readString?.eq_def]
  split
  next heq => cases heq
  next heq => exact absurd (List.cons.inj heq).1 hq
  next heq => exact absurd (List.cons.inj heq).1 hb
  next heq =>
    obtain ⟨rfl, rfl⟩ := List.cons.inj heq
    rw [if_neg (by omega)]

theorem length_lt_of_readString? {cs after : List Char} {pieces : List Piece}
    (h : readString? cs = some (pieces, after)) : after.length < cs.length := by
  fun_induction readString? cs generalizing pieces with
  | case1 => cases h
  | case2 rest =>
    obtain ⟨_, rfl⟩ := Prod.mk.inj (Option.some.inj h)
    simp
  | case3 => cases h
  | case4 rest piece rest' _ hlt ih =>
    obtain ⟨_, hr, h⟩ := Option.map_eq_some_iff.1 h
    obtain ⟨_, rfl⟩ := Prod.mk.inj h
    have := ih hr
    simp only [List.length_cons]
    omega
  | case5 => cases h
  | case6 c rest _ _ _ ih =>
    obtain ⟨_, hr, h⟩ := Option.map_eq_some_iff.1 h
    obtain ⟨_, rfl⟩ := Prod.mk.inj h
    exact Nat.lt_succ_of_lt (ih hr)

end Piece

namespace Token

/-- The four characters that may stand between tokens. -/
def isSpace (c : Char) : Bool := c == ' ' || c == '\t' || c == '\n' || c == '\r'

/-- Reads one token from a text that starts with the character `c`. -/
def read? (c : Char) (rest : List Char) : Option (Token × List Char) :=
  match c with
  | '[' => some (openArray, rest)
  | ']' => some (closeArray, rest)
  | '\x7b' => some (openObject, rest)
  | '\x7d' => some (closeObject, rest)
  | ',' => some (comma, rest)
  | ':' => some (colon, rest)
  | 'n' => (Text.afterPrefix? ['u', 'l', 'l'] rest).map (null, ·)
  | 't' => (Text.afterPrefix? ['r', 'u', 'e'] rest).map (bool true, ·)
  | 'f' => (Text.afterPrefix? ['a', 'l', 's', 'e'] rest).map (bool false, ·)
  | '"' =>
    (Piece.readString? rest).map fun (pieces, after) =>
      (string ((Piece.join? pieces).map String.ofList), after)
  | c => (NumberText.read? (c :: rest)).map fun (t, after) => (number t.value?, after)

theorem length_le_of_read? {c : Char} {rest after : List Char} {t : Token}
    (h : read? c rest = some (t, after)) : after.length ≤ rest.length := by
  unfold read? at h
  split at h
  case h_7 | h_8 | h_9 =>
    obtain ⟨_, hp, h⟩ := Option.map_eq_some_iff.1 h
    obtain ⟨_, rfl⟩ := Prod.mk.inj h
    rw [Text.afterPrefix?_eq_some_iff.1 hp, List.length_append]
    exact Nat.le_add_left _ _
  case h_10 =>
    obtain ⟨_, hs, h⟩ := Option.map_eq_some_iff.1 h
    obtain ⟨_, rfl⟩ := Prod.mk.inj h
    exact Nat.le_of_lt (Piece.length_lt_of_readString? hs)
  case h_11 =>
    obtain ⟨_, hn, h⟩ := Option.map_eq_some_iff.1 h
    obtain ⟨_, rfl⟩ := Prod.mk.inj h
    exact Nat.le_of_lt_succ (NumberText.length_lt_of_read? hn)
  all_goals
    obtain ⟨_, rfl⟩ := Prod.mk.inj (Option.some.inj h)
    exact Nat.le_refl _

def scan (cs : List Char) : List Token :=
  match hc : cs.dropWhile isSpace with
  | [] => []
  | c :: rest =>
    match h : read? c rest with
    | none => [illegal]
    | some (t, after) =>
      have : after.length < cs.length := by
        have hle := (List.dropWhile_sublist (l := cs) isSpace).length_le
        rw [hc] at hle
        exact Nat.lt_of_lt_of_le (Nat.lt_succ_of_le (length_le_of_read? h)) hle
      t :: scan after
termination_by cs.length

theorem scan_of_space {cs : List Char} (h : cs.dropWhile isSpace = []) : scan cs = [] := by
  rw [scan]
  split
  · rfl
  next h' => cases h.symm.trans h'

theorem scan_of_read? {cs rest after : List Char} {c : Char} {t : Token}
    (hc : cs.dropWhile isSpace = c :: rest) (h : read? c rest = some (t, after)) :
    scan cs = t :: scan after := by
  rw [scan]
  split
  next h' => cases hc.symm.trans h'
  next h' =>
    obtain ⟨rfl, rfl⟩ := List.cons.inj (hc.symm.trans h')
    split
    next h'' => cases h.symm.trans h''
    next h'' =>
      obtain ⟨rfl, rfl⟩ := Prod.mk.inj (Option.some.inj (h.symm.trans h''))
      rfl

/-- A character as it stands in a written string. -/
def escaped (c : Char) : List Char :=
  if c = '"' ∨ c = '\\' then ['\\', c]
  else if c = '\x08' then ['\\', 'b']
  else if c = '\t' then ['\\', 't']
  else if c = '\n' then ['\\', 'n']
  else if c = '\x0c' then ['\\', 'f']
  else if c = '\r' then ['\\', 'r']
  else if c.toNat < 0x20 then
    ['\\', 'u', '0', '0', Nat.digitChar (c.toNat / 16), Nat.digitChar (c.toNat % 16)]
  else [c]

end Token

end GridWalk.Json
