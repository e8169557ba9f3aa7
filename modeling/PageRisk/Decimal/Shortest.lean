import PageRisk.Decimal.Exact

set_option autoImplicit false

/-! # The fewest digits that read back

Of all decimals that a reader rounds to a given floating-point number, the shortest: the fewest
significant digits and, among those, the nearest to the number.

The decimals that read back are those between the two midpoints to the neighbouring numbers. With
`n` significant digits the candidates are the two points of the decimal grid next to the number, so
it is enough to try them for `n = 1, 2, …, 17`. -/

namespace PageRisk.Decimal

/-- A positive decimal `significand · 10 ^ exponent`. -/
structure Digits where
  significand : Nat
  exponent : Int
  deriving DecidableEq, Repr

/-- The decimals that read back as `mantissa · 2 ^ exponent`, as quarters of `2 ^ exponent`. The lower
    midpoint is nearer where the mantissa is the least of its length; both ends belong to an even
    mantissa. -/
structure Interval where
  low : Nat
  value : Nat
  high : Nat
  closed : Bool

/-- The `Interval` of the number `mantissa · 2 ^ exponent`. -/
def Interval.around (mantissa : Nat) (exponent : Int) : Interval :=
  let narrow := mantissa == 0x10000000000000 && -1074 < exponent
  ⟨4 * mantissa - (if narrow then 1 else 2), 4 * mantissa, 4 * mantissa + 2, mantissa % 2 == 0⟩

/-- The number of decimal digits before the point of a fraction of at least one, or minus the number
    of zeros after the point. -/
def pointPlace (r : Ratio) : Int :=
  if r.den ≤ r.num then
    match (List.range 400).find? fun k => r.num < r.den * Nat.pow 10 k with
    | some k => Int.ofNat k
    | none => 400
  else
    match (List.range 400).find? fun k => r.den ≤ r.num * Nat.pow 10 (k + 1) with
    | some k => -(Int.ofNat k)
    | none => -400

/-- The candidate on the grid `10 ^ grid` that is nearest to the number, if one next to it is in the
    `interval`. -/
def candidate? (interval : Interval) (exponent grid : Int) : Option Digits :=
  let place (n : Nat) : Ratio := (Ratio.scaled n 2 (exponent - 2)).shift (-grid)
  let low := place interval.low
  let value := place interval.value
  let high := place interval.high
  let isInside (d : Nat) : Bool :=
    if interval.closed then low.num ≤ d * low.den && d * high.den ≤ high.num
    else low.num < d * low.den && d * high.den < high.num
  let below := value.floor
  let nearest := value.round
  let other := if nearest == below then below + 1 else below
  if 0 < nearest && isInside nearest then some ⟨nearest, grid⟩
  else if 0 < other && isInside other then some ⟨other, grid⟩
  else none

/-- The decimal without trailing zeros; a decimal has at most twenty digits here. -/
def Digits.strip : (fuel : Nat) → Digits → Digits
  | 0, d => d
  | fuel + 1, d =>
    if d.significand % 10 == 0 && d.significand != 0 then
      strip fuel ⟨d.significand / 10, d.exponent + 1⟩
    else d

/-- The shortest decimal that reads back as `mantissa · 2 ^ exponent`, for a positive mantissa. -/
def shortest (mantissa : Nat) (exponent : Int) : Digits :=
  let interval := Interval.around mantissa exponent
  let place := pointPlace (Ratio.scaled mantissa 2 exponent)
  let found := (List.range 17).findSome? fun n =>
    candidate? interval exponent (place - Int.ofNat (n + 1))
  (found.getD ⟨mantissa, exponent⟩).strip 20

end PageRisk.Decimal
