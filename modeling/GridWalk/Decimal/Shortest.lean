import GridWalk.Decimal.Binary64
import GridWalk.Text.Word

/-! The shortest decimal of a binary floating-point number: among the decimals that round to the
number, those with the fewest digits, and of these the nearest.  A tie goes to the even digit. -/

namespace GridWalk.Decimal

/-- The value `digits * 10 ^ exponent`. -/
structure Scientific where
  digits : Nat
  exponent : Int
  deriving DecidableEq, Repr

namespace Scientific

/-- The same value without trailing zeros in its digits. -/
def normalize : Nat → Scientific → Scientific
  | 0, s => s
  | steps + 1, s =>
    if s.digits ≠ 0 ∧ s.digits % 10 = 0 then normalize steps ⟨s.digits / 10, s.exponent + 1⟩ else s

end Scientific

namespace Binary64

/-- The decimals that round to a number: those between `low / den` and `high / den`, with the ends
if `closed` holds. -/
structure Interval where
  low : Nat
  value : Nat
  high : Nat
  den : Nat
  closed : Bool

/-- The decimals that round to `v`.  Below a power of two the neighbours are twice as near. -/
def interval (v : Binary64) : Interval :=
  let unit := scaleDown 2 1 4 (-v.exponent)
  let m := v.significand
  let nearBelow := 2 * m = significandLimit ∧ v.exponent ≠ leastExponent
  { low := (if nearBelow then 4 * m - 1 else 4 * m - 2) * unit.1
    value := 4 * m * unit.1
    high := (4 * m + 2) * unit.1
    den := unit.2
    closed := m % 2 == 0 }

def Interval.contains (i : Interval) (s : Scientific) : Bool :=
  let scaled := scaleDown 10 s.digits 1 (-s.exponent)
  let (low, point, high) := (i.low * scaled.2, scaled.1 * i.den, i.high * scaled.2)
  if i.closed then low ≤ point && point ≤ high else low < point && point < high

/-- The least `e` with `num / den < 10 ^ e` for a fraction below one, counting down from `e`. -/
def fractionMagnitude (den : Nat) : Nat → Nat → Int → Int
  | 0, _, e => e
  | steps + 1, num, e =>
    if den ≤ num * 10 then e else fractionMagnitude den steps (num * 10) (e - 1)

/-- The `e` with `10 ^ (e - 1) ≤ num / den < 10 ^ e`. -/
def magnitude (num den : Nat) : Int :=
  if den ≤ num then (Text.numeral (num / den)).length else fractionMagnitude den 400 num 0

/-- The decimal with `count` digits that is nearest to the value, if one of that length rounds to
it. -/
def Interval.nearest? (i : Interval) (count : Nat) : Option Scientific :=
  let e := magnitude i.value i.den - count
  let scaled := scaleDown 10 i.value i.den e
  let below : Scientific := ⟨scaled.1 / scaled.2, e⟩
  let above : Scientific := ⟨scaled.1 / scaled.2 + 1, e⟩
  let best := Binary64.nearest scaled.1 scaled.2
  let (first, second) := if best = below.digits then (below, above) else (above, below)
  if i.contains first then some first
  else if i.contains second then some second
  else none

/-- The shortest decimal of a nonzero number.  Seventeen digits always suffice. -/
def shortest (v : Binary64) : Scientific :=
  let found := (List.range' 1 17).findSome? v.interval.nearest?
  (found.getD ⟨v.significand, 0⟩).normalize 20

end Binary64

/-- The text of a decimal: with a point and at least one digit on each side of it from `10 ^ -5` up
to `10 ^ 16`, and with an exponent, which always has a sign, outside that range. -/
def Scientific.text (s : Scientific) : List Char :=
  let digits := Text.numeral s.digits
  let place := digits.length + s.exponent
  if 0 ≤ s.exponent ∧ place ≤ 16 then
    digits ++ List.replicate s.exponent.toNat '0' ++ ['.', '0']
  else if 0 < place ∧ place ≤ 16 then
    digits.take place.toNat ++ ['.'] ++ digits.drop place.toNat
  else if -5 < place ∧ place ≤ 0 then
    ['0', '.'] ++ List.replicate (-place).toNat '0' ++ digits
  else
    let exponent := place - 1
    let sign := if exponent < 0 then '-' else '+'
    let fraction := if digits.length = 1 then [] else '.' :: digits.drop 1
    digits.take 1 ++ fraction ++ ['e', sign] ++ Text.numeral exponent.natAbs

def Binary64.text (v : Binary64) : List Char :=
  if v.isZero then ['0', '.', '0'] else v.shortest.text

end GridWalk.Decimal
