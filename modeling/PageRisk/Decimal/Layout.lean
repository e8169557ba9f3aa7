import PageRisk.Decimal.Shortest

set_option autoImplicit false

/-! # Decimal text of floating-point numbers

Two layouts of a number: with the fewest digits that read back, positional near one and with an
exponent far from it; and with a fixed number of places after the point. -/

namespace PageRisk.Decimal

/-- The decimal digits of a natural number. -/
def natText (n : Nat) : List Char :=
  Nat.toDigits 10 n

/-- The decimal text of an integer. -/
def intText (n : Int) : List Char :=
  if n < 0 then '-' :: natText n.natAbs else natText n.natAbs

/-- The decisions of a layout for the fewest digits: which numbers are positional, by the place of
    their point, and whether a positive exponent has a sign. -/
structure Layout where
  leastPlace : Int
  greatestPlace : Int
  plusSign : Bool

/-- Numbers from `1e-5` up to `1e16` are positional and always show a point; the exponent of a greater
    number has a plus sign. -/
def wireLayout : Layout := ⟨-4, 16, true⟩

/-- The text of a positive decimal. -/
def Layout.text (layout : Layout) (d : Digits) : List Char :=
  let digits := natText d.significand
  let count := Int.ofNat digits.length
  let place := count + d.exponent
  if place < layout.leastPlace || layout.greatestPlace < place then
    let exponent := place - 1
    let mantissa := match digits with
      | [] => []
      | [c] => [c]
      | c :: rest => c :: '.' :: rest
    mantissa ++ 'e' :: (if 0 ≤ exponent && layout.plusSign then ['+'] else []) ++ intText exponent
  else if place ≤ 0 then
    '0' :: '.' :: (List.replicate (-place).toNat '0' ++ digits)
  else if count ≤ place then
    digits ++ List.replicate (place - count).toNat '0' ++ ['.', '0']
  else
    digits.take place.toNat ++ '.' :: digits.drop place.toNat

/-- The `shortest` text of a finite number, in the `wireLayout`; nothing for a number that is not finite. -/
def shortestText? (x : Float) : Option (List Char) :=
  match Parts.ofFloat x with
  | .finite negative mantissa exponent =>
    let body := if mantissa == 0 then ['0', '.', '0'] else wireLayout.text (shortest mantissa exponent)
    some (if negative then '-' :: body else body)
  | _ => none

/-- The text with one place after the point, the exact value rounded to the nearest tenth and a tie to
    the even one. -/
def tenthsText (x : Float) : List Char :=
  match Parts.ofFloat x with
  | .nan => "NaN".toList
  | .infinite negative => if negative then "-inf".toList else "inf".toList
  | .finite negative mantissa exponent =>
    let tenths := ((Ratio.scaled mantissa 2 exponent).shift 1).round
    let body := natText (tenths / 10) ++ '.' :: natText (tenths % 10)
    if negative then '-' :: body else body

end PageRisk.Decimal
