import GridWalk.Decimal.Shortest

/-! The numbers of JSON texts.  A number without fraction and exponent is an integer if it fits into
64 bits.  Every other number is a binary floating-point number. -/

namespace GridWalk.Json

inductive Number where
  /-- From `-2 ^ 63` to `2 ^ 64 - 1`. -/
  | integer (value : Int)
  /-- Minus zero is a value of its own. -/
  | float (negative : Bool) (magnitude : Decimal.Binary64)
  deriving DecidableEq, Repr

/-- The parts of a number as it is written.  The fraction is empty when there is none. -/
structure NumberText where
  negative : Bool
  whole : List Char
  fraction : List Char
  exponent : Option Int
  deriving DecidableEq, Repr

namespace Number

def integerText (n : Int) : List Char :=
  if n < 0 then '-' :: Text.numeral n.natAbs else Text.numeral n.natAbs

def text : Number → String
  | integer n => "integer `" ++ String.ofList (integerText n) ++ "`"
  | float negative magnitude =>
    let sign := if negative then "-" else ""
    "floating point `" ++ sign ++ String.ofList magnitude.text ++ "`"

end Number

namespace NumberText

/-- Appends digits to a significand for as long as it stays below `2 ^ 64`.  The second result is
the list of digits that are left over. -/
def appendDigits : Nat → List Char → Nat × List Char
  | n, [] => (n, [])
  | n, d :: ds =>
    let longer := 10 * n + (d.toNat - '0'.toNat)
    if longer < UInt64.size then appendDigits longer ds else (n, d :: ds)

/-- The significand that a floating-point number is computed from, and its power of ten.  Digits
that are left over count as zeros. -/
def significand (t : NumberText) : Nat × Int :=
  let (n, wholeLeft) := appendDigits 0 t.whole
  let (n, fractionLeft) := appendDigits n t.fraction
  (n, wholeLeft.length + fractionLeft.length - t.fraction.length + t.exponent.getD 0)

/-- The floating-point number of a text.  There is none outside the range of the format. -/
def float? (t : NumberText) : Option Number := do
  let (n, e) := t.significand
  let magnitude ← Decimal.Binary64.ofRatio? n 1
  let scaled ← magnitude.scale? e
  some (.float t.negative scaled)

/-- The number that a text stands for.  There is none outside the range of the formats. -/
def value? (t : NumberText) : Option Number :=
  let n := Text.numeralValue t.whole
  if t.fraction.isEmpty && t.exponent.isNone then
    if !t.negative && n < UInt64.size then some (.integer n)
    else if t.negative && 0 < n && 2 * n ≤ UInt64.size then some (.integer (-n))
    else t.float?
  else t.float?

def spanDigits (cs : List Char) : List Char × List Char :=
  (cs.takeWhile Char.isDigit, cs.dropWhile Char.isDigit)

/-- Reads the whole part: a zero, or digits that do not start with a zero. -/
def readWhole? (cs : List Char) : Option (List Char × List Char) :=
  match spanDigits cs with
  | ([], _) => none
  | ('0' :: _ :: _, _) => none
  | parts => some parts

def readFraction? : List Char → Option (List Char × List Char)
  | '.' :: cs =>
    match spanDigits cs with
    | ([], _) => none
    | parts => some parts
  | cs => some ([], cs)

def readExponentDigits? (negative : Bool) (cs : List Char) : Option (Option Int × List Char) :=
  match spanDigits cs with
  | ([], _) => none
  | (digits, rest) =>
    let e : Int := Text.numeralValue digits
    some (some (if negative then -e else e), rest)

def readExponent? : List Char → Option (Option Int × List Char)
  | c :: cs =>
    if c = 'e' ∨ c = 'E' then
      match cs with
      | '-' :: cs => readExponentDigits? true cs
      | '+' :: cs => readExponentDigits? false cs
      | cs => readExponentDigits? false cs
    else some (none, c :: cs)
  | [] => some (none, [])

def readUnsigned? (negative : Bool) (cs : List Char) : Option (NumberText × List Char) := do
  let (whole, cs) ← readWhole? cs
  let (fraction, cs) ← readFraction? cs
  let (exponent, cs) ← readExponent? cs
  some (⟨negative, whole, fraction, exponent⟩, cs)

/-- Reads a number at the start of a text.  The second result is what follows it. -/
def read? : List Char → Option (NumberText × List Char)
  | '-' :: cs => readUnsigned? true cs
  | cs => readUnsigned? false cs

theorem length_spanDigits (cs : List Char) :
    (spanDigits cs).1.length + (spanDigits cs).2.length = cs.length := by
  rw [spanDigits, ← List.length_append, List.takeWhile_append_dropWhile]

theorem length_lt_of_readWhole? {cs digits rest : List Char}
    (h : readWhole? cs = some (digits, rest)) : rest.length < cs.length := by
  have hlen := length_spanDigits cs
  unfold readWhole? at h
  split at h
  · cases h
  · cases h
  next hne _ =>
    rw [Option.some.inj h] at hlen hne
    cases digits with
    | nil => exact absurd rfl (hne rest)
    | cons => simp only [List.length_cons] at hlen; omega

theorem length_le_of_readFraction? {cs digits rest : List Char}
    (h : readFraction? cs = some (digits, rest)) : rest.length ≤ cs.length := by
  unfold readFraction? at h
  split at h
  next cs =>
    have hlen := length_spanDigits cs
    split at h
    · cases h
    · rw [Option.some.inj h] at hlen
      simp only [List.length_cons] at hlen ⊢
      omega
  · obtain ⟨_, rfl⟩ := Prod.mk.inj (Option.some.inj h)
    exact Nat.le_refl _

theorem length_le_of_readExponentDigits? {negative : Bool} {cs rest : List Char} {e : Option Int}
    (h : readExponentDigits? negative cs = some (e, rest)) : rest.length ≤ cs.length := by
  have hlen := length_spanDigits cs
  unfold readExponentDigits? at h
  split at h
  · cases h
  next hs =>
    rw [hs] at hlen
    obtain ⟨_, rfl⟩ := Prod.mk.inj (Option.some.inj h)
    simp only at hlen
    omega

theorem length_le_of_readExponent? {cs rest : List Char} {e : Option Int}
    (h : readExponent? cs = some (e, rest)) : rest.length ≤ cs.length := by
  unfold readExponent? at h
  split at h
  · split at h
    · split at h <;>
      · have := length_le_of_readExponentDigits? h
        simp only [List.length_cons]
        omega
    · obtain ⟨_, rfl⟩ := Prod.mk.inj (Option.some.inj h)
      exact Nat.le_refl _
  · obtain ⟨_, rfl⟩ := Prod.mk.inj (Option.some.inj h)
    exact Nat.le_refl _

theorem length_lt_of_readUnsigned? {negative : Bool} {cs rest : List Char} {t : NumberText}
    (h : readUnsigned? negative cs = some (t, rest)) : rest.length < cs.length := by
  simp only [readUnsigned?, Option.bind_eq_bind, Option.bind_eq_some_iff] at h
  obtain ⟨⟨_, _⟩, hw, ⟨_, _⟩, hf, ⟨_, _⟩, he, h⟩ := h
  obtain ⟨_, rfl⟩ := Prod.mk.inj (Option.some.inj h)
  exact Nat.lt_of_le_of_lt
    (Nat.le_trans (length_le_of_readExponent? he) (length_le_of_readFraction? hf))
    (length_lt_of_readWhole? hw)

theorem length_lt_of_read? {cs rest : List Char} {t : NumberText}
    (h : read? cs = some (t, rest)) : rest.length < cs.length := by
  unfold read? at h
  split at h
  · exact Nat.lt_succ_of_lt (length_lt_of_readUnsigned? h)
  · exact length_lt_of_readUnsigned? h

end NumberText

end GridWalk.Json
