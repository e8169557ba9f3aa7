import PageRisk.Json.Basic
import PageRisk.Decimal.Layout

set_option autoImplicit false

/-! # Writing values

Two forms of a value: compact, on one line without spaces, and pretty, with every part on a line of
its own and indented by two spaces. In strings only quotes, backslashes and controls are escaped. -/

namespace PageRisk.Json

/-! ## Scalars -/

/-- A hexadecimal digit, in lower case. -/
def hexLetter (n : Nat) : Char :=
  Nat.digitChar n

/-- A character inside a string. -/
def escaped (c : Char) : List Char :=
  if c == '"' then ['\\', '"']
  else if c == '\\' then ['\\', '\\']
  else if c == '\x08' then ['\\', 'b']
  else if c == '\t' then ['\\', 't']
  else if c == '\n' then ['\\', 'n']
  else if c == '\x0c' then ['\\', 'f']
  else if c == '\r' then ['\\', 'r']
  else if c < ' ' then ['\\', 'u', '0', '0', hexLetter (c.toNat / 16), hexLetter (c.toNat % 16)]
  else [c]

/-- A string with its quotes. -/
def stringText (s : String) : List Char :=
  '"' :: (s.toList.flatMap escaped ++ ['"'])

/-- A number, by `Decimal.shortestText?` if it is a floating-point number; what is not finite is written as
    null. -/
def numberText : Number → List Char
  | .integer n => Decimal.intText n.value
  | .real x => (Decimal.shortestText? x).getD "null".toList

/-- A truth value. -/
def boolText (b : Bool) : List Char :=
  if b then "true".toList else "false".toList

/-! ## The compact form -/

mutual

/-- The compact text of a value. -/
def compact : Json → List Char
  | .null => "null".toList
  | .bool b => boolText b
  | .number n => numberText n
  | .string s => stringText s
  | .array items => '[' :: (List.intercalate [','] (compactItems items) ++ [']'])
  | .object ms => '\x7b' :: (List.intercalate [','] (compactMembers ms) ++ ['\x7d'])

/-- The compact texts of some values. -/
def compactItems : List Json → List (List Char)
  | [] => []
  | v :: vs => compact v :: compactItems vs

/-- The compact texts of some members. -/
def compactMembers : List (String × Json) → List (List Char)
  | [] => []
  | (name, v) :: rest => (stringText name ++ ':' :: compact v) :: compactMembers rest

end

/-! ## The pretty form -/

/-- The start of a line at a depth. -/
def newLine (depth : Nat) : List Char :=
  '\n' :: List.replicate (2 * depth) ' '

/-- Parts between brackets, each on its line; without parts, the brackets alone. -/
def block (opening closing : Char) (depth : Nat) (parts : List (List Char)) : List Char :=
  if parts.isEmpty then [opening, closing]
  else
    opening :: (List.intercalate [','] (parts.map (newLine (depth + 1) ++ ·))
      ++ (newLine depth ++ [closing]))

mutual

/-- The pretty text of a value at a depth: each part of it on a `newLine`. -/
def prettyAt (depth : Nat) : Json → List Char
  | .null => "null".toList
  | .bool b => boolText b
  | .number n => numberText n
  | .string s => stringText s
  | .array items => block '[' ']' depth (prettyItems (depth + 1) items)
  | .object ms => block '\x7b' '\x7d' depth (prettyMembers (depth + 1) ms)

/-- The pretty texts of some values at a depth. -/
def prettyItems (depth : Nat) : List Json → List (List Char)
  | [] => []
  | v :: vs => prettyAt depth v :: prettyItems depth vs

/-- The pretty texts of some members at a depth. -/
def prettyMembers (depth : Nat) : List (String × Json) → List (List Char)
  | [] => []
  | (name, v) :: rest =>
    (stringText name ++ ':' :: ' ' :: prettyAt depth v) :: prettyMembers depth rest

end

/-- The compact text of a value. -/
def compactText (v : Json) : String :=
  String.ofList v.compact

/-- The pretty text of a value. -/
def prettyText (v : Json) : String :=
  String.ofList (v.prettyAt 0)

end PageRisk.Json
