import GridWalk.Text.Word
import Mathlib.Data.List.Induction
import Mathlib.Data.Nat.Digits.Defs

/-! Numerals and the words of 32 bits that hold their values.  The value of a numeral is the sum of
its digits, each times the power of ten of its place.  `numeralWord?` reads the digits from the left
and keeps the value in a word, with a check for overflow at both operations of each step. -/

namespace GridWalk.Text

/-- Digits of ASCII, at least one of them. -/
structure Numeral (cs : List Char) : Prop where
  nonempty : cs ≠ []
  decimal : ∀ c ∈ cs, c.isDigit = true

theorem isNumeral_eq_true_iff {cs : List Char} : isNumeral cs = true ↔ Numeral cs := by
  rw [isNumeral, Bool.and_eq_true, Bool.not_eq_true', List.isEmpty_eq_false_iff, List.all_eq_true]
  exact ⟨fun h => ⟨h.1, h.2⟩, fun h => ⟨h.nonempty, h.decimal⟩⟩

/-- The number that a digit stands for. -/
def digitValue (c : Char) : Nat := c.toNat - '0'.toNat

theorem digitValue_lt {c : Char} (h : c.isDigit = true) : digitValue c < 10 := by
  obtain ⟨hlow, hhigh⟩ := Char.isDigit_iff_toNat.1 h
  have hten : '9'.toNat < '0'.toNat + 10 := by decide
  rw [digitValue]
  omega

/-- The sum of the digits, each times the power of ten of its place from the right. -/
def decimalValue (cs : List Char) : Nat := Nat.ofDigits 10 (cs.reverse.map digitValue)

theorem numeralValue_eq_decimalValue (cs : List Char) : numeralValue cs = decimalValue cs := by
  induction cs using List.reverseRecOn with
  | nil => rfl
  | append_singleton cs c ih =>
    have hlast : numeralValue (cs ++ [c]) = 10 * numeralValue cs + digitValue c := by
      rw [numeralValue, Nat.ofDigitChars_append, Nat.ofDigitChars_cons, Nat.ofDigitChars_nil]
      rfl
    rw [hlast, ih, decimalValue, decimalValue, List.reverse_concat, List.map_cons,
      Nat.ofDigits_cons, Nat.add_comm]

/-! ### Words -/

section Words

variable {a b c : UInt32}

def mulWord? (a b : UInt32) : Option UInt32 :=
  if a.toNat * b.toNat < UInt32.size then some (a * b) else none

def addWord? (a b : UInt32) : Option UInt32 :=
  if a.toNat + b.toNat < UInt32.size then some (a + b) else none

theorem mulWord?_eq_some_iff : mulWord? a b = some c ↔ c.toNat = a.toNat * b.toNat := by
  have hc := c.toNat_lt_size
  rw [mulWord?]
  split
  next hfits =>
    have hmul : (a * b).toNat = a.toNat * b.toNat := by
      rw [UInt32.toNat_mul]
      exact Nat.mod_eq_of_lt hfits
    rw [Option.some.injEq, ← UInt32.toNat_inj, hmul, eq_comm]
  next hover =>
    refine ⟨nofun, fun h => ?_⟩
    omega

theorem addWord?_eq_some_iff : addWord? a b = some c ↔ c.toNat = a.toNat + b.toNat := by
  have hc := c.toNat_lt_size
  rw [addWord?]
  split
  next hfits =>
    have hadd : (a + b).toNat = a.toNat + b.toNat := by
      rw [UInt32.toNat_add]
      exact Nat.mod_eq_of_lt hfits
    rw [Option.some.injEq, ← UInt32.toNat_inj, hadd, eq_comm]
  next hover =>
    refine ⟨nofun, fun h => ?_⟩
    omega

end Words

/-! ### Reading digit by digit -/

/-- The value with one digit more at its right end. -/
def nextWord? (value : UInt32) (c : Char) : Option UInt32 := do
  let tens ← mulWord? value 10
  addWord? tens (.ofNat (digitValue c))

def numeralWord? (cs : List Char) : Option UInt32 := cs.foldlM nextWord? 0

theorem nextWord?_eq_some_iff {value next : UInt32} {c : Char} (h : c.isDigit = true) :
    nextWord? value c = some next ↔ next.toNat = 10 * value.toNat + digitValue c := by
  have hdigit : (UInt32.ofNat (digitValue c)).toNat = digitValue c := by
    exact UInt32.toNat_ofNat_of_lt' (Nat.lt_trans (digitValue_lt h) (by decide))
  simp only [nextWord?, Option.bind_eq_bind, Option.bind_eq_some_iff, mulWord?_eq_some_iff,
    addWord?_eq_some_iff, hdigit, UInt32.reduceToNat]
  constructor
  · rintro ⟨tens, htens, hnext⟩
    omega
  · intro hnext
    have hsize := next.toNat_lt_size
    have htens : (UInt32.ofNat (value.toNat * 10)).toNat = value.toNat * 10 :=
      UInt32.toNat_ofNat_of_lt' (by omega)
    exact ⟨_, htens, by omega⟩

/-- More digits make no number smaller. -/
theorem le_ofDigitChars (cs : List Char) (start : Nat) : start ≤ Nat.ofDigitChars 10 cs start := by
  induction cs generalizing start with
  | nil => rw [Nat.ofDigitChars_nil]
  | cons c cs ih =>
    rw [Nat.ofDigitChars_cons]
    exact Nat.le_trans (by omega) (ih _)

/-- Where one step overflows, the whole value does, as the steps after it make it no smaller. -/
theorem foldlM_nextWord?_eq_some_iff {cs : List Char} {start value : UInt32}
    (h : ∀ c ∈ cs, c.isDigit = true) :
    cs.foldlM nextWord? start = some value
      ↔ value.toNat = Nat.ofDigitChars 10 cs start.toNat := by
  induction cs generalizing start with
  | nil =>
    rw [List.foldlM_nil, Nat.ofDigitChars_nil, UInt32.toNat_inj, eq_comm]
    exact Option.some_inj
  | cons c cs ih =>
    obtain ⟨hc, hcs⟩ := List.forall_mem_cons.1 h
    rw [List.foldlM_cons, Nat.ofDigitChars_cons, Option.bind_eq_bind, Option.bind_eq_some_iff]
    simp only [nextWord?_eq_some_iff hc, ih hcs]
    constructor
    · rintro ⟨next, hnext, hvalue⟩
      rw [hvalue, hnext, digitValue]
    · intro hvalue
      have hle := le_ofDigitChars cs (10 * start.toNat + (c.toNat - '0'.toNat))
      have hsize := value.toNat_lt_size
      have hnext : (UInt32.ofNat (10 * start.toNat + digitValue c)).toNat
          = 10 * start.toNat + digitValue c :=
        UInt32.toNat_ofNat_of_lt' (by rw [digitValue]; omega)
      exact ⟨_, hnext, by rw [hnext, hvalue, digitValue]⟩

/-- Reading digit by digit gives the value of the numeral, unless no word holds it. -/
theorem numeralWord?_eq_some_iff {cs : List Char} {value : UInt32} (h : Numeral cs) :
    numeralWord? cs = some value ↔ decimalValue cs = value.toNat := by
  rw [numeralWord?, foldlM_nextWord?_eq_some_iff h.decimal, ← numeralValue_eq_decimalValue,
    eq_comm]
  rfl

end GridWalk.Text
