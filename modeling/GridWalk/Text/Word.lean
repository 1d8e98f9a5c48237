/-! Names and numerals, both in ASCII characters only. -/

namespace GridWalk.Text

def isNameStart (c : Char) : Bool := c.isAlpha || c == '_'

def isNamePart (c : Char) : Bool := c.isAlphanum || c == '_'

/-- A name starts with a letter or `_` and continues with letters, digits and `_`. -/
def isName : List Char → Bool
  | [] => false
  | c :: cs => isNameStart c && cs.all isNamePart

def isNumeral (cs : List Char) : Bool := !cs.isEmpty && cs.all Char.isDigit

def numeralValue (cs : List Char) : Nat := Nat.ofDigitChars 10 cs 0

/-- The numeral of `n` without leading zeros. -/
def numeral (n : Nat) : List Char := Nat.toDigits 10 n

theorem numeralValue_numeral (n : Nat) : numeralValue (numeral n) = n :=
  Nat.ofDigitChars_toDigits (by decide) (by decide)

theorem isNumeral_numeral (n : Nat) : isNumeral (numeral n) = true := by
  have digits : ∀ c ∈ numeral n, c.isDigit = true := fun c hc =>
    Nat.isDigit_of_mem_toDigits (by decide) (by decide) hc
  have nonempty : numeral n ≠ [] := Nat.toDigits_ne_nil
  simpa [isNumeral, nonempty] using digits

theorem isDigit_eq_false_of_isNameStart {c : Char} (h : isNameStart c = true) :
    c.isDigit = false := by
  simp only [isNameStart, Bool.or_eq_true, beq_iff_eq] at h
  rcases h with letter | rfl
  · have outside : ¬ c.val.toNat ≤ 57 := by
      rcases (Bool.or_eq_true _ _).mp letter with upper | lower
      · have bounds := of_decide_eq_true upper
        have : (65 : Nat) ≤ c.val.toNat := UInt32.le_iff_toNat_le.1 bounds.1
        omega
      · have bounds := of_decide_eq_true ((Bool.and_eq_true _ _).mp lower).1
        have : (97 : Nat) ≤ c.val.toNat := UInt32.le_iff_toNat_le.1 bounds
        omega
    refine Bool.eq_false_iff.2 fun digit => outside ?_
    exact UInt32.le_iff_toNat_le.1 (of_decide_eq_true ((Bool.and_eq_true _ _).mp digit).2)
  · decide

/-- No text is both a name and a numeral. -/
theorem isNumeral_eq_false_of_isName {cs : List Char} (h : isName cs = true) :
    isNumeral cs = false := by
  cases cs with
  | nil => rfl
  | cons c cs =>
    simp only [isName, Bool.and_eq_true] at h
    simp [isNumeral, isDigit_eq_false_of_isNameStart h.1]

end GridWalk.Text
