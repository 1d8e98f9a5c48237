import GridWalk.Json.Basic
import GridWalk.Json.Draft

/-! Reading what is written.  A written string is read as the same text.  The tokens of a value are
read as the draft that has the shape of the value, and reading goes on with the tokens after it. -/

namespace GridWalk.Json

namespace Piece

theorem hexDigit?_digitChar {n : Nat} (h : n < 16) : hexDigit? (Nat.digitChar n) = some n := by
  have all : ∀ n ∈ List.range 16, hexDigit? (Nat.digitChar n) = some n := by decide
  exact all n (List.mem_range.2 h)

theorem ofUnit_toNat {c : Char} (h : c.toNat < 0xD800) : ofUnit c.toNat = char c := by
  have high : isHighSurrogate c.toNat = false := by
    simp only [isHighSurrogate, Bool.and_eq_false_iff, decide_eq_false_iff_not]
    omega
  have low : isLowSurrogate c.toNat = false := by
    simp only [isLowSurrogate, Bool.and_eq_false_iff, decide_eq_false_iff_not]
    omega
  simp [ofUnit, high, low]

theorem readString?_escaped (c : Char) (rest : List Char) :
    readString? (Token.escaped c ++ rest)
      = (readString? rest).map fun (pieces, after) => (char c :: pieces, after) := by
  unfold Token.escaped
  split
  next h => rcases h with rfl | rfl <;> exact readString?_escape rfl
  split
  next h => subst h; exact readString?_escape rfl
  split
  next h => subst h; exact readString?_escape rfl
  split
  next h => subst h; exact readString?_escape rfl
  split
  next h => subst h; exact readString?_escape rfl
  split
  next h => subst h; exact readString?_escape rfl
  split
  next h =>
    have zero : hexDigit? '0' = some 0 := by decide
    have high := hexDigit?_digitChar (n := c.toNat / 16) (by omega)
    have low := hexDigit?_digitChar (n := c.toNat % 16) (by omega)
    have unit : c.toNat / 16 * 16 + c.toNat % 16 = c.toNat := by omega
    apply readString?_escape
    simp [readEscape?, hexUnit?, zero, high, low, unit, ofUnit_toNat (c := c) (by omega)]
  next hq _ _ _ _ _ h =>
    have hq := not_or.1 hq
    exact readString?_char hq.1 hq.2 (by omega)

/-- The string that is written for a text is read up to its closing quote. -/
theorem readString?_flatMap_escaped (cs rest : List Char) :
    readString? (cs.flatMap Token.escaped ++ '"' :: rest) = some (cs.map char, rest) := by
  induction cs with
  | nil => rw [List.flatMap_nil, List.nil_append, readString?, List.map_nil]
  | cons c cs ih =>
    rw [List.flatMap_cons, List.append_assoc, readString?_escaped, ih]
    rfl

theorem join?_map_char (cs : List Char) : join? (cs.map char) = some cs := by
  induction cs with
  | nil => rfl
  | cons c cs ih => rw [List.map_cons, join?, ih]; rfl

end Piece

namespace Draft

mutual

/-- The draft with the shape of a value. -/
def ofJson : Json → Draft
  | .null => .null
  | .bool b => .bool b
  | .number n => .number (some (.integer n.toNat))
  | .string s => .string (some s)
  | .array vs => .array (ofItems vs) .closed
  | .object es => .object (ofEntries es) .closed

def ofItems : List Json → List Draft
  | [] => []
  | v :: vs => ofJson v :: ofItems vs

def ofEntries : List (String × Json) → List (Option String × Draft)
  | [] => []
  | (k, v) :: es => (some k, ofJson v) :: ofEntries es

end

/-- The first token of a value never closes an array. -/
theorem value_openArray (v : Json) (frames : List Frame) (rest : List Token) :
    value frames (.openArray :: v.tokens rest) = value (.array [] :: frames) (v.tokens rest) := by
  cases v with
  | array vs => cases vs <;> rfl
  | object es => cases es <;> rfl
  | _ => rfl

mutual

theorem value_tokens (v : Json) (frames : List Frame) (rest : List Token) :
    value frames (v.tokens rest) = next frames (ofJson v) rest := by
  match v with
  | .null => rfl
  | .bool b => rfl
  | .number n => rfl
  | .string s => rfl
  | .array [] => rfl
  | .array (v :: vs) =>
    rw [Json.tokens, value_openArray, value_tokens v, next_itemTokens vs]
    rfl
  | .object [] => rfl
  | .object ((k, v) :: es) =>
    rw [Json.tokens, value, value_tokens v, next_entryTokens es]
    rfl

theorem next_itemTokens (vs : List Json) (done : List Draft) (last : Draft)
    (frames : List Frame) (rest : List Token) :
    next (.array done :: frames) last (Json.itemTokens vs rest)
      = next frames (.array (done.reverse ++ last :: ofItems vs) .closed) rest := by
  match vs with
  | [] => simp [Json.itemTokens, next, ofItems]
  | v :: vs =>
    rw [Json.itemTokens, next, value_tokens v, next_itemTokens vs]
    simp [ofItems]

theorem next_entryTokens (es : List (String × Json)) (done : List (Option String × Draft))
    (key : Option String) (last : Draft) (frames : List Frame) (rest : List Token) :
    next (.object done key :: frames) last (Json.entryTokens es rest)
      = next frames (.object (done.reverse ++ (key, last) :: ofEntries es) .closed) rest := by
  match es with
  | [] => simp [Json.entryTokens, next, ofEntries]
  | (k, v) :: es =>
    rw [Json.entryTokens, next, value_tokens v, next_entryTokens es]
    simp [ofEntries]

end

end Draft

end GridWalk.Json
