import PageRisk.Json.Scalar
import PageRisk.Toml.Value

set_option autoImplicit false

/-! # Reading TOML scalars

A reader takes the text that is left and gives what it read with the rest, or nothing where the text is
not right. -/

namespace PageRisk.Toml

/-- A reader of a part of a document. -/
abbrev Scan (α : Type) := List Char → Option (α × List Char)

/-! ## Blanks and comments -/

/-- The text after spaces and tabs. -/
def skipBlanks (cs : List Char) : List Char :=
  cs.dropWhile fun c => c == ' ' || c == '\t'

/-- Whether the character may stand in a comment, and in strings as far as they do not end. -/
def isPrintable (c : Char) : Bool :=
  c == '\t' || (0x20 ≤ c.toNat && c.toNat != 0x7F)

/-- The text after a line end, if it starts with one. -/
def lineEnd? : List Char → Option (List Char)
  | '\n' :: rest => some rest
  | '\r' :: '\n' :: rest => some rest
  | _ => none

/-- The text after blanks and a comment, from the end of the line on. -/
def skipComment (cs : List Char) : List Char :=
  match skipBlanks cs with
  | '#' :: rest => rest.dropWhile isPrintable
  | rest => rest

/-- The text after blanks, comments and line ends; a line takes at least one character. -/
def skipLines : (fuel : Nat) → List Char → List Char
  | 0, cs => cs
  | fuel + 1, cs =>
    let rest := skipComment cs
    match lineEnd? rest with
    | some rest => skipLines fuel rest
    | none => rest

/-! ## Strings -/

/-- The character of a code point in hexadecimal digits. -/
def codePoint? (digits : List Char) : Option Char :=
  let n := Unicode.hexValue digits
  if digits.all Json.isHexDigit && n.isValidChar then some (Char.ofNat n) else none

/-- The character of an escape after its backslash, and the text after it. -/
def escape? : Scan Char
  | 'b' :: rest => some ('\x08', rest)
  | 't' :: rest => some ('\t', rest)
  | 'n' :: rest => some ('\n', rest)
  | 'f' :: rest => some ('\x0c', rest)
  | 'r' :: rest => some ('\r', rest)
  | '"' :: rest => some ('"', rest)
  | '\\' :: rest => some ('\\', rest)
  | 'u' :: a :: b :: c :: d :: rest => (codePoint? [a, b, c, d]).map (·, rest)
  | 'U' :: a :: b :: c :: d :: e :: f :: g :: h :: rest =>
    (codePoint? [a, b, c, d, e, f, g, h]).map (·, rest)
  | _ => none

/-- Reads a basic string on one line after its opening quote. -/
def basicString : (fuel : Nat) → (read : List Char) → Scan (List Char)
  | 0, _, _ => none
  | _ + 1, _, [] => none
  | fuel + 1, read, c :: rest =>
    if c == '"' then some (read.reverse, rest)
    else if c == '\\' then
      match escape? rest with
      | none => none
      | some (e, rest) => basicString fuel (e :: read) rest
    else if isPrintable c then basicString fuel (c :: read) rest
    else none

/-- Reads a literal string on one line after its opening quote. -/
def literalString (cs : List Char) : Option (List Char × List Char) :=
  let body := cs.takeWhile fun c => isPrintable c && c != '\''
  match cs.drop body.length with
  | '\'' :: rest => some (body, rest)
  | _ => none

/-- The quotes that belong to a string of several lines, and the text after its closing quotes, where the
    text starts with at least three quotes: up to two may come before the closing three. -/
def closing? (quote : Char) (cs : List Char) : Option (List Char × List Char) :=
  let count := ((cs.take 5).takeWhile (· == quote)).length
  if count < 3 then none else some (List.replicate (count - 3) quote, cs.drop count)

/-- The text after blanks and line ends; a line takes at least one character. -/
def skipBreaks : (fuel : Nat) → List Char → List Char
  | 0, cs => cs
  | fuel + 1, cs => match lineEnd? (skipBlanks cs) with
    | some rest => skipBreaks fuel rest
    | none => skipBlanks cs

/-- Reads a string of several lines after its opening quotes; only a basic one, between double quotes, has
    escapes. A backslash at the end of a line joins the line to the text after it. -/
def multilineString (quote : Char) : (fuel : Nat) → (read : List Char) → Scan (List Char)
  | 0, _, _ => none
  | _ + 1, _, [] => none
  | fuel + 1, read, c :: rest =>
    match closing? quote (c :: rest) with
    | some (quotes, rest) => some (read.reverse ++ quotes, rest)
    | none =>
      if c == '\\' && quote == '"' then
        match lineEnd? (skipBlanks rest) with
        | some rest => multilineString quote fuel read (skipBreaks rest.length rest)
        | none => match escape? rest with
          | none => none
          | some (e, rest) => multilineString quote fuel (e :: read) rest
      else match lineEnd? (c :: rest) with
        | some rest => multilineString quote fuel ('\n' :: read) rest
        | none =>
          if isPrintable c then multilineString quote fuel (c :: read) rest else none

/-- Reads a string on one line. -/
def lineString : Scan String
  | '"' :: rest => (basicString (rest.length + 1) [] rest).map fun (s, rest) => (String.ofList s, rest)
  | '\'' :: rest => (literalString rest).map fun (s, rest) => (String.ofList s, rest)
  | _ => none

/-- Reads a string. A line end right after the opening quotes of several lines is not part of it. -/
def anyString (cs : List Char) : Option (String × List Char) :=
  let multiline (quote : Char) (rest : List Char) : Option (String × List Char) :=
    let body := (lineEnd? rest).getD rest
    (multilineString quote (body.length + 1) [] body).map fun (s, rest) => (String.ofList s, rest)
  match cs with
  | '"' :: '"' :: '"' :: rest => multiline '"' rest
  | '\'' :: '\'' :: '\'' :: rest => multiline '\'' rest
  | _ => lineString cs

/-! ## Numbers -/

/-- Reads digits, with underscores between digits only. -/
def digits? (isDigit : Char → Bool) (cs : List Char) : Option (List Char × List Char) :=
  let run := cs.takeWhile fun c => isDigit c || c == '_'
  let parts := Text.pieces (· == '_') run
  if parts.any List.isEmpty then none else some (parts.flatten, cs.drop run.length)

/-- Reads an integral part: digits without a leading zero. -/
def integral? (cs : List Char) : Option (List Char × List Char) :=
  match digits? Char.isDigit cs with
  | some ('0' :: _ :: _, _) => none
  | other => other

/-- The integer, if it fits into 64 bits. -/
def integerValue? (n : Int) : Option Value :=
  if -9223372036854775808 ≤ n ∧ n ≤ 9223372036854775807 then some (.integer n) else none

/-- The number that digits of a base stand for. -/
def baseValue (base : Nat) (digits : List Char) : Nat :=
  digits.foldl (fun n c => n * base + Unicode.hexDigit c) 0

/-- Reads digits of a base after what names the base. -/
def baseInteger (base : Nat) (isDigit : Char → Bool) : Scan Value := fun cs =>
  match digits? isDigit cs with
  | none => none
  | some (digits, rest) => (integerValue? (baseValue base digits)).map (·, rest)

/-- The number `± digits · 10 ^ exponent`, rounded to the nearest floating-point number. -/
def realValue (negative : Bool) (digits : List Char) (exponent : Int) : Float :=
  let n := baseValue 10 digits
  let size := (digits.length : Int) + exponent
  let x :=
    if n == 0 || size < -400 then 0.0
    else if 400 < size - (digits.takeWhile (· == '0')).length then 1.0 / 0.0
    else match exponent with
      | .ofNat e => Float.ofScientific n false e
      | .negSucc e => Float.ofScientific n true (e + 1)
  if negative then -x else x

/-- A floating-point number; one that is too great is refused, but not one that is too far below zero. -/
def finishReal (negative : Bool) (digits : List Char) (exponent : Int) : Scan Value := fun rest =>
  let x := realValue negative digits exponent
  if x.isInf && !negative then none else some (.real x, rest)

/-- Reads an exponent after its letter: its sign and digits. -/
def exponent? (cs : List Char) : Option (Int × List Char) :=
  let (downward, cs) := match cs with
    | '+' :: rest => (false, rest)
    | '-' :: rest => (true, rest)
    | _ => (false, cs)
  match digits? Char.isDigit cs with
  | none => none
  | some (digits, rest) =>
    let n := min (baseValue 10 digits) 1000000
    some (if downward then -(n : Int) else (n : Int), rest)

/-- Reads a decimal number after its sign: an integer, or with a fraction or exponent a floating-point
    number. -/
def decimal (negative : Bool) : Scan Value := fun cs =>
  match integral? cs with
  | none => none
  | some (whole, rest) =>
    let withExponent (digits : List Char) (places : Int) (rest : List Char) :
        Option (Value × List Char) :=
      match exponent? rest with
      | none => none
      | some (e, rest) => finishReal negative digits (e - places) rest
    match rest with
    | '.' :: rest => match digits? Char.isDigit rest with
      | none => none
      | some (fraction, rest) =>
        let places := (fraction.length : Int)
        match rest with
        | 'e' :: rest => withExponent (whole ++ fraction) places rest
        | 'E' :: rest => withExponent (whole ++ fraction) places rest
        | _ => finishReal negative (whole ++ fraction) (-places) rest
    | 'e' :: rest => withExponent whole 0 rest
    | 'E' :: rest => withExponent whole 0 rest
    | _ =>
      let n := (baseValue 10 whole : Int)
      (integerValue? (if negative then -n else n)).map (·, rest)

/-- Reads a number that is not decimal digits alone: with a sign, or infinite, or none. -/
def signed (negative : Bool) : Scan Value
  | 'i' :: 'n' :: 'f' :: rest => some (.real (if negative then -1.0 / 0.0 else 1.0 / 0.0), rest)
  | 'n' :: 'a' :: 'n' :: rest => some (.real (0.0 / 0.0), rest)
  | cs => decimal negative cs

/-! ## Dates and times -/

/-- Reads so many digits. -/
def fixedDigits (count : Nat) (cs : List Char) : Option (Nat × List Char) :=
  let digits := cs.take count
  if digits.length == count && digits.all Char.isDigit then
    some (baseValue 10 digits, cs.drop count)
  else none

/-- Reads two digits of a number up to a limit. -/
def twoDigits (least greatest : Nat) (cs : List Char) : Option (Nat × List Char) :=
  match fixedDigits 2 cs with
  | some (n, rest) => if least ≤ n && n ≤ greatest then some (n, rest) else none
  | none => none

/-- The number of days of a month. -/
def daysIn (year month : Nat) : Nat :=
  if month == 2 then
    if year % 4 == 0 && (year % 100 != 0 || year % 400 == 0) then 29 else 28
  else if [4, 6, 9, 11].contains month then 30
  else 31

/-- The text after a date. -/
def afterDate? (cs : List Char) : Option (List Char) :=
  match fixedDigits 4 cs with
  | some (year, '-' :: rest) => match twoDigits 1 12 rest with
    | some (month, '-' :: rest) => (twoDigits 1 (daysIn year month) rest).map Prod.snd
    | _ => none
  | _ => none

/-- The text after a time of day. -/
def afterTime? (cs : List Char) : Option (List Char) :=
  match twoDigits 0 23 cs with
  | some (_, ':' :: rest) => match twoDigits 0 59 rest with
    | some (_, ':' :: rest) => match twoDigits 0 60 rest with
      | some (_, '.' :: c :: rest) =>
        if c.isDigit then some (rest.dropWhile Char.isDigit) else some ('.' :: c :: rest)
      | some (_, rest) => some rest
      | none => none
    | _ => none
  | _ => none

/-- The text after an offset from universal time, if there is one. -/
def afterOffset? (cs : List Char) : Option (List Char) :=
  let numeric (rest : List Char) : Option (List Char) :=
    match twoDigits 0 23 rest with
    | some (_, ':' :: rest) => (twoDigits 0 59 rest).map Prod.snd
    | _ => none
  match cs with
  | 'Z' :: rest => some rest
  | 'z' :: rest => some rest
  | '+' :: rest => numeric rest
  | '-' :: rest => numeric rest
  | _ => some cs

/-- Whether a date or time starts here: four digits and a hyphen, or two digits and a colon. -/
def startsMoment (cs : List Char) : Bool :=
  let digits := cs.takeWhile Char.isDigit
  let next := (cs.drop digits.length).head?
  (digits.length == 4 && next == some '-') || (digits.length == 2 && next == some ':')

/-- Reads a date, a time, or a date with a time. -/
def moment (cs : List Char) : Option (Value × List Char) :=
  let time (rest : List Char) : Option (Value × List Char) :=
    ((afterTime? rest).bind afterOffset?).map (.moment, ·)
  if ((cs.drop 2).head?) == some ':' then (afterTime? cs).map (.moment, ·)
  else match afterDate? cs with
    | none => none
    | some rest => match rest with
      | 'T' :: more => time more
      | 't' :: more => time more
      | ' ' :: more => if startsMoment more then time more else some (.moment, rest)
      | _ => some (.moment, rest)

/-- Reads a value that starts with a sign, a digit or a letter. -/
def plainValue (cs : List Char) : Option (Value × List Char) :=
  if startsMoment cs then moment cs
  else match cs with
    | 't' :: 'r' :: 'u' :: 'e' :: rest => some (.bool true, rest)
    | 'f' :: 'a' :: 'l' :: 's' :: 'e' :: rest => some (.bool false, rest)
    | '0' :: 'x' :: rest => baseInteger 16 Json.isHexDigit rest
    | '0' :: 'o' :: rest => baseInteger 8 (fun c => '0' ≤ c && c ≤ '7') rest
    | '0' :: 'b' :: rest => baseInteger 2 (fun c => c == '0' || c == '1') rest
    | '+' :: rest => signed false rest
    | '-' :: rest => signed true rest
    | _ => signed false cs

end PageRisk.Toml
