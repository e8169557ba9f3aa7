import PageRisk.Json.Basic
import PageRisk.Json.Fault
import PageRisk.Unicode.RangeMap

set_option autoImplicit false

/-! # Reading words, numbers and strings

A reader takes the text that is left and gives what it read with the rest. -/

namespace PageRisk.Json

/-- A reader of a part of a text. -/
abbrev Reader (α : Type) := List Char → Except Fault (α × List Char)

/-! ## White space and words -/

/-- The four characters that may stand between tokens. -/
def isSpace (c : Char) : Bool :=
  c == ' ' || c == '\n' || c == '\t' || c == '\r'

/-- The text after white space. -/
def skipSpace (cs : List Char) : List Char :=
  cs.dropWhile isSpace

/-- Reads the remaining characters of a word such as `null`. -/
def word : List Char → Reader Unit
  | [], rest => .ok ((), rest)
  | _ :: _, [] => .error (syntaxHere .endInValue [])
  | c :: cs, d :: rest =>
    if c == d then word cs rest else .error (syntaxNext .expectedIdent (d :: rest))

/-! ## Numbers

Digits are gathered into a significand of at most 64 bits. Once a digit of the integral part does not
fit, it and those after it only raise the exponent; once a digit of the fraction does not fit, it and
those after it are dropped. The value is then one multiplication or division by a power of ten. -/

/-- The greatest significand. -/
def significandMax : Nat := 18446744073709551615

/-- The value of a decimal digit. -/
def digitValue (c : Char) : Nat :=
  c.toNat - '0'.toNat

/-- A significand and the power of ten it is to be multiplied by. -/
structure Scaled where
  significand : Nat
  exponent : Int

/-- The integral part. -/
def integralDigits (digits : List Char) : Scaled :=
  digits.foldl (fun s c =>
    let next := s.significand * 10 + digitValue c
    if s.exponent == 0 && next ≤ significandMax then ⟨next, 0⟩
    else ⟨s.significand, s.exponent + 1⟩) ⟨0, 0⟩

/-- The fraction after an integral part. -/
def fractionDigits (s : Scaled) : List Char → Scaled
  | [] => s
  | c :: cs =>
    let next := s.significand * 10 + digitValue c
    if next ≤ significandMax then fractionDigits ⟨next, s.exponent - 1⟩ cs else s

/-- Repeated division by `10 ^ 308`, for exponents below `-308`; three steps reach zero. -/
def scaleDown : (fuel : Nat) → Float → (exponent : Nat) → Float
  | 0, x, _ => x
  | fuel + 1, x, exponent =>
    if exponent ≤ 308 then x / Float.ofScientific 1 false exponent
    else if x == 0 then x
    else scaleDown fuel (x / Float.ofScientific 1 false 308) (exponent - 308)

/-- The value of a scaled significand, unless it is beyond all finite numbers. -/
def Scaled.toFloat? (s : Scaled) : Option Float :=
  let x := Float.ofNat s.significand
  match s.exponent with
  | .ofNat e =>
    if e ≤ 308 then
      let y := x * Float.ofScientific 1 false e
      if y.isInf then none else some y
    else if s.significand == 0 then some x else none
  | .negSucc e => some (scaleDown 4 x (e + 1))

/-- The greatest exponent that is added up. -/
def exponentMax : Nat := 2147483647

/-- An exponent within the limits of a signed word of 32 bits. -/
def clampExponent (e : Int) : Int :=
  if e < -2147483648 then -2147483648 else if 2147483647 < e then 2147483647 else e

/-- Reads the digits of an exponent, of which `sum` is the first. Where they add up to too much, `none`
    with the text after the digit that did it. -/
def exponentDigits (sum : Nat) : List Char → Option Nat × List Char
  | [] => (some sum, [])
  | c :: cs =>
    if c.isDigit then
      let next := sum * 10 + digitValue c
      if next ≤ exponentMax then exponentDigits next cs else (none, cs)
    else (some sum, c :: cs)

/-- The number with its sign, or a fault if `Scaled.toFloat?` finds it out of range. -/
def finishReal (negative : Bool) (s : Scaled) : Reader Number := fun rest =>
  match s.toFloat? with
  | some x => .ok (.real (if negative then -x else x), rest)
  | none => .error (syntaxHere .numberOutOfRange rest)

/-- Reads an exponent after its letter. -/
def readExponent (negative : Bool) (s : Scaled) : Reader Number := fun cs =>
  let (downward, cs) := match cs with
    | '+' :: rest => (false, rest)
    | '-' :: rest => (true, rest)
    | _ => (false, cs)
  match cs with
  | [] => .error (syntaxHere .endInValue [])
  | c :: rest =>
    if !c.isDigit then .error (syntaxNext .invalidNumber cs)
    else match exponentDigits (digitValue c) rest with
      | (some e, rest) =>
        let e := Int.ofNat e
        finishReal negative
          ⟨s.significand, clampExponent (if downward then s.exponent - e else s.exponent + e)⟩ rest
      | (none, rest) =>
        if s.significand != 0 && !downward then .error (syntaxHere .numberOutOfRange rest)
        else .ok (.real (if negative then -0.0 else 0.0), rest.dropWhile Char.isDigit)

/-- Reads what may follow the mantissa. -/
def readExponent? (negative : Bool) (s : Scaled) : Reader Number := fun cs =>
  match cs with
  | 'e' :: rest => readExponent negative s rest
  | 'E' :: rest => readExponent negative s rest
  | _ => finishReal negative s cs

/-- Reads a fraction after its point. -/
def readFraction (negative : Bool) (s : Scaled) : Reader Number := fun cs =>
  let digits := cs.takeWhile Char.isDigit
  let rest := cs.dropWhile Char.isDigit
  if digits.isEmpty then
    .error (if cs.isEmpty then syntaxHere .endInValue [] else syntaxNext .invalidNumber cs)
  else readExponent? negative (fractionDigits s digits) rest

/-- The number for an integral part alone: a `WireInt` if it fits, else a floating-point number. Minus zero
    is a floating-point number. -/
def finishInteger (negative : Bool) (s : Scaled) : Reader Number := fun rest =>
  let n := if negative then -Int.ofNat s.significand else Int.ofNat s.significand
  match (if s.exponent == 0 && !(negative && s.significand == 0) then WireInt.ofInt? n else none) with
  | some n => .ok (.integer n, rest)
  | none => finishReal negative s rest

/-- Reads a number without its sign. -/
def readUnsigned (negative : Bool) : Reader Number := fun cs =>
  match cs with
  | [] => .error (syntaxHere .endInValue [])
  | c :: rest =>
    if !c.isDigit then .error (syntaxNext .invalidNumber cs)
    else if c == '0' && (rest.headD ' ').isDigit then .error (syntaxNext .invalidNumber rest)
    else
      let s := integralDigits (cs.takeWhile Char.isDigit)
      match cs.dropWhile Char.isDigit with
      | '.' :: rest => readFraction negative s rest
      | 'e' :: rest => readExponent negative s rest
      | 'E' :: rest => readExponent negative s rest
      | rest => finishInteger negative s rest

/-- Reads a number. -/
def readNumber : Reader Number
  | '-' :: cs => readUnsigned true cs
  | cs => readUnsigned false cs

/-! ## Strings -/

/-- The character that a letter stands for after a backslash. -/
def simpleEscape? : Char → Option Char
  | '"' => some '"'
  | '\\' => some '\\'
  | '/' => some '/'
  | 'b' => some '\x08'
  | 'f' => some '\x0c'
  | 'n' => some '\n'
  | 'r' => some '\r'
  | 't' => some '\t'
  | _ => none

/-- Whether the character is a hexadecimal digit. -/
def isHexDigit (c : Char) : Bool :=
  c.isDigit || ('a' ≤ c && c ≤ 'f') || ('A' ≤ c && c ≤ 'F')

/-- The number that four hexadecimal digits stand for. -/
def hex4? (a b c d : Char) : Option Nat :=
  if isHexDigit a && isHexDigit b && isHexDigit c && isHexDigit d then
    some (Unicode.hexValue [a, b, c, d])
  else none

/-- The fault of an escape without four hexadecimal digits: the next four bytes are taken for them. -/
def hexFault (cs : List Char) : Fault :=
  if byteLength cs < 4 then syntaxHere .endInString []
  else ⟨.grammar .invalidEscape, some (byteLength cs - 4)⟩

/-- The character beyond the basic plane that a pair of surrogates stands for. -/
def pairValue (high low : Nat) : Char :=
  Char.ofNat (0x10000 + (high - 0xD800) * 0x400 + (low - 0xDC00))

/-- Reads a string after its opening quote and undoes its escapes; `read` holds the characters so far in
    reverse order. -/
def readStringFrom (read : List Char) : List Char → Except Fault (List Char × List Char)
  | [] => .error (syntaxHere .endInString [])
  | '"' :: rest => .ok (read.reverse, rest)
  | '\\' :: [] => .error (syntaxHere .endInString [])
  | '\\' :: 'u' :: a :: b :: c :: d :: rest =>
    match hex4? a b c d with
    | none => .error (hexFault (a :: b :: c :: d :: rest))
    | some n =>
      if 0xDC00 ≤ n && n ≤ 0xDFFF then .error (syntaxHere .loneSurrogate rest)
      else if 0xD800 ≤ n && n ≤ 0xDBFF then
        match rest with
        | [] => .error (syntaxHere .endInString [])
        | '\\' :: [] => .error (syntaxHere .endInString [])
        | '\\' :: 'u' :: e :: f :: g :: h :: rest =>
          match hex4? e f g h with
          | none => .error (hexFault (e :: f :: g :: h :: rest))
          | some m =>
            if 0xDC00 ≤ m && m ≤ 0xDFFF then readStringFrom (pairValue n m :: read) rest
            else .error (syntaxHere .loneSurrogate rest)
        | '\\' :: 'u' :: rest => .error (hexFault rest)
        | '\\' :: rest => .error (syntaxNext .unfinishedSurrogate rest)
        | rest => .error (syntaxNext .unfinishedSurrogate rest)
      else readStringFrom (Char.ofNat n :: read) rest
  | '\\' :: 'u' :: rest => .error (hexFault rest)
  | '\\' :: e :: rest =>
    match simpleEscape? e with
    | some c => readStringFrom (c :: read) rest
    | none => .error (syntaxNext .invalidEscape (e :: rest))
  | c :: rest =>
    if c < ' ' then .error (syntaxHere .controlCharacter rest)
    else readStringFrom (c :: read) rest

/-- Reads a string after its opening quote. -/
def readString : Reader String := fun cs =>
  (readStringFrom [] cs).map fun (read, rest) => (String.ofList read, rest)

end PageRisk.Json
