set_option autoImplicit false

/-! # Punycode

A label with characters beyond ASCII is written in ASCII: its ASCII characters, a hyphen, and then for
each other character, in ascending order, how many steps a counter takes from the last one. A step
moves to the next position of the label, and from its end to the next code point. The step counts are
numbers of variable length in base 36 whose digit limits follow the sizes seen so far. -/

namespace PageRisk.Idna.Punycode

/-! ## Digits -/

/-- The digit of a value below 36. -/
def digit (d : Nat) : Char :=
  if d < 26 then Char.ofNat ('a'.toNat + d) else Char.ofNat ('0'.toNat + (d - 26))

/-- The value of a digit. -/
def digitValue? (c : Char) : Option Nat :=
  if c.isLower then some (c.toNat - 'a'.toNat)
  else if c.isUpper then some (c.toNat - 'A'.toNat)
  else if c.isDigit then some (c.toNat - '0'.toNat + 26)
  else none

/-- The limit of the digit at place `k`: a lower digit ends its number. -/
def limit (k bias : Nat) : Nat :=
  if k ≤ bias then 1 else if bias + 26 ≤ k then 26 else k - bias

/-- The bias from a scaled-down step count; every round divides it by 35. -/
def adaptFrom : (fuel : Nat) → (delta k : Nat) → Nat
  | 0, _, k => k
  | fuel + 1, delta, k =>
    if 455 < delta then adaptFrom fuel (delta / 35) (k + 36) else k + 36 * delta / (delta + 38)

/-- The bias after a step count `delta`, with `points` characters in place. -/
def adapt (delta points : Nat) (first : Bool) : Nat :=
  let delta := if first then delta / 700 else delta / 2
  adaptFrom 32 (delta + delta / points) 0

/-- The greatest number that is worked with. -/
def numberMax : Nat := 4294967295

/-! ## Encoding -/

/-- The digits of a number; every digit but the last divides it by ten at least. -/
def numberDigits (bias : Nat) : (fuel k n : Nat) → List Char
  | 0, _, _ => []
  | fuel + 1, k, n =>
    let t := limit k bias
    if n < t then [digit n]
    else digit (t + (n - t) % (36 - t)) :: numberDigits bias fuel (k + 36) ((n - t) / (36 - t))

/-- Where an encoding stands: the output in reverse order, the steps taken since the last character
    was written, the bias, and how many characters are written. -/
structure Encoding where
  output : List Char
  delta : Nat
  bias : Nat
  handled : Nat

/-- Passes a position of the label while the code point `point` is encoded. -/
def Encoding.pass (basics point : Nat) (e : Encoding) (c : Char) : Encoding :=
  if c.toNat < point then { e with delta := e.delta + 1 }
  else if c.toNat == point then
    { output := (numberDigits e.bias 64 36 e.delta).reverse ++ e.output
      delta := 0
      bias := adapt e.delta (e.handled + 1) (e.handled == basics)
      handled := e.handled + 1 }
  else e

/-- Encodes the code points that are left, in ascending order, from the code point `next` on. -/
def encodePoints (label : List Char) (basics : Nat) (next : Nat) (e : Encoding) :
    List Nat → Encoding
  | [] => e
  | point :: rest =>
    let e := { e with delta := e.delta + (point - next) * (e.handled + 1) }
    let e := label.foldl (Encoding.pass basics point) e
    encodePoints label basics (point + 1) { e with delta := e.delta + 1 } rest

/-- The number put in its place in an ascending list, once. -/
def insertPoint (n : Nat) : List Nat → List Nat
  | [] => [n]
  | m :: rest => if n < m then n :: m :: rest else if n == m then m :: rest else m :: insertPoint n rest

/-- The encoding of a label, without a mark that it is one. -/
def encode (label : List Char) : List Char :=
  let basic := label.filter (·.toNat < 128)
  let points := (label.filter (128 ≤ ·.toNat)).foldl (fun ps c => insertPoint c.toNat ps) []
  let start := if basic.isEmpty then [] else basic ++ ['-']
  (encodePoints label basic.length 128 ⟨start.reverse, 0, 72, basic.length⟩ points).output.reverse

/-! ## Decoding -/

/-- Reads a number and gives it added to `sum`, with the text after it. -/
def readNumber (bias k weight sum : Nat) : List Char → Option (Nat × List Char)
  | [] => none
  | c :: rest =>
    match digitValue? c with
    | none => none
    | some d =>
      let sum := sum + d * weight
      if numberMax < sum then none
      else
        let t := limit k bias
        if d < t then some (sum, rest)
        else
          let weight := weight * (36 - t)
          if numberMax < weight then none else readNumber bias (k + 36) weight sum rest

/-- Decodes the numbers that are left; each has at least one digit. -/
def decodePoints : (fuel : Nat) → (label : List Char) → (counter point bias : Nat) →
    List Char → Option (List Char)
  | _, label, _, _, _, [] => some label
  | 0, _, _, _, _, _ :: _ => none
  | fuel + 1, label, counter, point, bias, c :: rest =>
    match readNumber bias 36 1 counter (c :: rest) with
    | none => none
    | some (sum, rest) =>
      let length := label.length + 1
      let bias := adapt (sum - counter) length (counter == 0)
      let point := point + sum / length
      let position := sum % length
      if !point.isValidChar then none
      else decodePoints fuel (label.take position ++ Char.ofNat point :: label.drop position)
        (position + 1) point bias rest

/-- The label that a text is the encoding of. -/
def decode (cs : List Char) : Option (List Char) :=
  let digits := (cs.reverse.takeWhile (· != '-')).reverse
  let basic := (cs.reverse.dropWhile (· != '-')).reverse.dropLast
  if basic.isEmpty then
    if cs.head? == some '-' then none else decodePoints cs.length [] 0 128 72 cs
  else decodePoints cs.length basic 0 128 72 digits

end PageRisk.Idna.Punycode
