set_option autoImplicit false

/-! # The exact value of a floating-point number

A finite number is `± mantissa · 2 ^ exponent` with natural `mantissa`. The bits of the number give
both, and all decimal text is computed from them in exact arithmetic. -/

namespace PageRisk.Decimal

/-- A floating-point number taken apart. -/
inductive Parts where
  | nan
  | infinite (negative : Bool)
  | finite (negative : Bool) (mantissa : Nat) (exponent : Int)
  deriving DecidableEq, Repr

/-- The `Parts` that the bits of a number stand for. -/
def Parts.ofFloat (x : Float) : Parts :=
  let bits := x.toBits.toNat
  let negative := bits.testBit 63
  let biased := bits / 0x10000000000000 % 0x800
  let fraction := bits % 0x10000000000000
  if biased == 0x7FF then
    if fraction == 0 then .infinite negative else .nan
  else if biased == 0 then .finite negative fraction (-1074)
  else .finite negative (0x10000000000000 + fraction) (Int.ofNat biased - 1075)

/-- A non-negative fraction. -/
structure Ratio where
  num : Nat
  den : Nat
  deriving DecidableEq, Repr

namespace Ratio

/-- `n · base ^ exponent`. -/
def scaled (n base : Nat) (exponent : Int) : Ratio :=
  match exponent with
  | .ofNat k => ⟨n * Nat.pow base k, 1⟩
  | .negSucc k => ⟨n, Nat.pow base (k + 1)⟩

/-- The fraction times `10 ^ exponent`. -/
def shift (r : Ratio) (exponent : Int) : Ratio :=
  match exponent with
  | .ofNat k => ⟨r.num * Nat.pow 10 k, r.den⟩
  | .negSucc k => ⟨r.num, r.den * Nat.pow 10 (k + 1)⟩

/-- The greatest natural number that is not above the fraction. -/
def floor (r : Ratio) : Nat :=
  r.num / r.den

/-- The natural number nearest to the fraction; halfway between two, the even one. -/
def round (r : Ratio) : Nat :=
  let q := r.num / r.den
  let twice := 2 * (r.num % r.den)
  if twice < r.den then q
  else if r.den < twice then q + 1
  else if q % 2 == 0 then q else q + 1

end Ratio

end PageRisk.Decimal
