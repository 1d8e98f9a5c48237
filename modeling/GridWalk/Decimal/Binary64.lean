/-! Nonnegative binary floating-point numbers of 64 bits, as exact values.  A number is
`significand * 2 ^ exponent`, where the significand is below `2 ^ 53` and the exponent is as small
as the format allows, so each value has one representation. -/

namespace GridWalk.Decimal

structure Binary64 where
  significand : Nat
  exponent : Int
  deriving DecidableEq, Repr

namespace Binary64

/-- The least number with more than 53 bits. -/
def significandLimit : Nat := 0x20000000000000

/-- The exponent of the smallest numbers. -/
def leastExponent : Int := -1074

/-- The exponent of the greatest numbers. -/
def greatestExponent : Int := 971

def zero : Binary64 := ⟨0, leastExponent⟩

def isZero (v : Binary64) : Bool := v.significand == 0

/-- The fraction `num / (den * base ^ e)` as a numerator and a denominator. -/
def scaleDown (base num den : Nat) (e : Int) : Nat × Nat :=
  (num * Nat.pow base (-e).toNat, den * Nat.pow base e.toNat)

/-- The natural number nearest to `num / den`.  A half goes to the even neighbour. -/
def nearest (num den : Nat) : Nat :=
  let q := num / den
  let rest := 2 * (num % den)
  if rest < den ∨ (rest = den ∧ q % 2 = 0) then q else q + 1

/-- The exponent with which `num / den` has a significand of 53 bits, or the least exponent. -/
def exponentFor (num den : Nat) : Int :=
  let e := max ((num.log2 : Int) - den.log2 - 53) leastExponent
  let scaled := scaleDown 2 num den e
  if scaled.1 / scaled.2 < significandLimit then e else e + 1

/-- The number nearest to `num / den`, with ties to the even significand.  There is none when
`num / den` is too large. -/
def ofRatio? (num den : Nat) : Option Binary64 :=
  if num = 0 then some zero
  else
    let e := exponentFor num den
    let scaled := scaleDown 2 num den e
    let m := nearest scaled.1 scaled.2
    let v : Binary64 := if m < significandLimit then ⟨m, e⟩ else ⟨m / 2, e + 1⟩
    if v.exponent ≤ greatestExponent then some v else none

/-- The exact value as a numerator and a denominator. -/
def ratio (v : Binary64) : Nat × Nat := scaleDown 2 v.significand 1 (-v.exponent)

def mul? (v w : Binary64) : Option Binary64 :=
  ofRatio? (v.ratio.1 * w.ratio.1) (v.ratio.2 * w.ratio.2)

def div? (v w : Binary64) : Option Binary64 :=
  ofRatio? (v.ratio.1 * w.ratio.2) (v.ratio.2 * w.ratio.1)

def powerOfTen? (n : Nat) : Option Binary64 := ofRatio? (Nat.pow 10 n) 1

/-- Scales by `10 ^ e` in rounded steps: one product or quotient for each factor of up to
`10 ^ 308`.  There is no result when it would be too large. -/
def scaleSteps? : Nat → Binary64 → Int → Option Binary64
  | 0, _, _ => some zero
  | steps + 1, v, e =>
    if e.natAbs ≤ 308 then do
      let power ← powerOfTen? e.natAbs
      if 0 ≤ e then v.mul? power else v.div? power
    else if v.isZero then some v
    else if 0 ≤ e then none
    else do
      let power ← powerOfTen? 308
      let smaller ← v.div? power
      scaleSteps? steps smaller (e + 308)

/-- Scales by `10 ^ e` in rounded steps.  Three quotients bring every number below all powers of two
of the format. -/
def scale? (v : Binary64) (e : Int) : Option Binary64 := scaleSteps? 4 v e

end Binary64

end GridWalk.Decimal
