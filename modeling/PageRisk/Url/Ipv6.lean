import PageRisk.Url.Ipv4

set_option autoImplicit false

/-! # IPv6 addresses in host names

Eight pieces of four hexadecimal digits at most, between colons; one run of zeros may be left out, and
the last two pieces may be written as an IPv4 address. An address is written with its longest run of at
least two zeros left out, the first of several. -/

namespace PageRisk.Url

/-- The pieces read so far, in reverse order, and how many of them come before the run of zeros that is
    left out. -/
structure Ipv6Reading where
  pieces : List Nat
  gap : Option Nat

/-- A number of the embedded IPv4 address: up to three digits, without a leading zero, below 256. -/
def decimalPiece? (digits : List Char) : Option Nat :=
  if digits.isEmpty || !digits.all Char.isDigit then none
  else if digits.head? == some '0' && digits.length != 1 then none
  else
    let n := digitsValue 10 digits
    if 3 < digits.length || 255 < n then none else some n

/-- The two pieces of the embedded IPv4 address. -/
def embeddedIpv4? (cs : List Char) : Option (Nat × Nat) :=
  match (Text.pieces (· == '.') cs).mapM decimalPiece? with
  | some [a, b, c, d] => some (a * 256 + b, c * 256 + d)
  | _ => none

/-- Reads pieces up to the end; every step takes at least one character. -/
def ipv6Pieces : (fuel : Nat) → Ipv6Reading → List Char → Option Ipv6Reading
  | _, r, [] => some r
  | 0, _, _ :: _ => none
  | fuel + 1, r, c :: cs =>
    if r.pieces.length == 8 then none
    else if c == ':' then
      if r.gap.isSome then none
      else ipv6Pieces fuel ⟨0 :: r.pieces, some (r.pieces.length + 1)⟩ cs
    else
      let digits := ((c :: cs).take 4).takeWhile Json.isHexDigit
      let piece := Unicode.hexValue digits
      match (c :: cs).drop digits.length with
      | [] => some ⟨piece :: r.pieces, r.gap⟩
      | '.' :: _ =>
        if digits.isEmpty || 6 < r.pieces.length then none
        else (embeddedIpv4? (c :: cs)).map fun (high, low) => ⟨low :: high :: r.pieces, r.gap⟩
      | ':' :: [] => none
      | ':' :: rest => ipv6Pieces fuel ⟨piece :: r.pieces, r.gap⟩ rest
      | _ => none

/-- The eight pieces of the address that a text between brackets stands for. -/
def ipv6Address? (cs : List Char) : Option (List Nat) :=
  let reading := match cs with
    | ':' :: ':' :: rest => ipv6Pieces cs.length ⟨[0], some 1⟩ rest
    | ':' :: _ => none
    | [] => none
    | [_] => none
    | _ => ipv6Pieces cs.length ⟨[], none⟩ cs
  match reading with
  | none => none
  | some ⟨pieces, gap⟩ =>
    let pieces := pieces.reverse
    match gap with
    | none => if pieces.length == 8 then some pieces else none
    | some k =>
      some (pieces.take k ++ List.replicate (8 - pieces.length) 0 ++ pieces.drop k)

/-- The number of zeros that a list starts with. -/
def leadingZeros (pieces : List Nat) : Nat :=
  (pieces.takeWhile (· == 0)).length

/-- Where the longest run of zeros begins and how long it is; the first one of several. -/
def longestZeros (pieces : List Nat) : Nat × Nat :=
  (List.range pieces.length).foldl (fun best i =>
    let run := leadingZeros (pieces.drop i)
    if best.2 < run then (i, run) else best) (0, 0)

/-- Pieces between colons. -/
def piecesText (pieces : List Nat) : List Char :=
  List.intercalate [':'] (pieces.map (Nat.toDigits 16))

/-- An address between brackets, the `longestZeros` left out. -/
def ipv6Text (pieces : List Nat) : List Char :=
  let (start, length) := longestZeros pieces
  let body :=
    if length < 2 then piecesText pieces
    else piecesText (pieces.take start) ++ ':' :: ':' :: piecesText (pieces.drop (start + length))
  '[' :: (body ++ [']'])

end PageRisk.Url
