import PageRisk.Decimal.Layout
import PageRisk.Json.Scalar

set_option autoImplicit false

/-! # IPv4 addresses in host names

A host name whose last label is a number is an address of up to four numbers. Each may be decimal,
octal behind a zero or hexadecimal behind `0x`, and the last one fills all places that are left. -/

namespace PageRisk.Url

/-- The number written by digits of a base. -/
def digitsValue (base : Nat) (cs : List Char) : Nat :=
  cs.foldl (fun n c => n * base + Unicode.hexDigit c) 0

/-- The number that a label stands for. -/
def ipv4Number? (label : List Char) : Option Nat :=
  match label with
  | [] => none
  | '0' :: 'x' :: digits => if digits.all Json.isHexDigit then some (digitsValue 16 digits) else none
  | '0' :: 'X' :: digits => if digits.all Json.isHexDigit then some (digitsValue 16 digits) else none
  | '0' :: d :: digits =>
    if (d :: digits).all fun c => '0' ≤ c && c ≤ '7' then some (digitsValue 8 (d :: digits)) else none
  | digits => if digits.all Char.isDigit then some (digitsValue 10 digits) else none

/-- The labels of a name, without an empty one at the end. -/
def labelsOf (name : List Char) : List (List Char) :=
  let labels := Text.pieces (· == '.') name
  if labels.getLast? == some [] then labels.dropLast else labels

/-- Whether the last label is a number, so that the name must be an address. -/
def endsInNumber (name : List Char) : Bool :=
  match (labelsOf name).getLast? with
  | none => false
  | some last => (!last.isEmpty && last.all Char.isDigit) || (ipv4Number? last).isSome

/-- An address from its numbers: all but the last below 256, the last below what is left. -/
def ipv4OfNumbers? (numbers : List Nat) : Option Nat :=
  match numbers.reverse with
  | [] => none
  | last :: others =>
    if 3 < others.length then none
    else if others.any (255 < ·) then none
    else if Nat.pow 256 (4 - others.length) ≤ last then none
    else some (others.reverse.zipIdx.foldl (fun n (part, i) => n + part * Nat.pow 256 (3 - i)) last)

/-- The address that a name stands for, if each of its `labelsOf` is a number. -/
def ipv4Address? (name : List Char) : Option Nat :=
  match (labelsOf name).mapM ipv4Number? with
  | none => none
  | some numbers => ipv4OfNumbers? numbers

/-- An address as four decimal numbers. -/
def ipv4Text (address : Nat) : List Char :=
  List.intercalate ['.'] ([16777216, 65536, 256, 1].map fun unit =>
    Decimal.natText (address / unit % 256))

end PageRisk.Url
