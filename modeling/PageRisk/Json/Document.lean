import PageRisk.Json.Container

set_option autoImplicit false

/-! # Reading whole values

Any JSON value, with the members of its objects as they are written: in their order, and a repeated
name as often as it stands. Lists and objects may be nested 127 deep. -/

namespace PageRisk.Json

/-- How deep lists and objects may be nested. -/
def depthLimit : Nat := 127

/-- Reads one value; `inner` reads a value inside its brackets, and is missing where no more brackets
    may be opened. -/
def valueWith (fuel : Nat) (inner : Option (Reader Json)) : Reader Json := fun cs =>
  match skipSpace cs with
  | [] => .error (syntaxNext .endInValue [])
  | 'n' :: rest => (word "ull".toList rest).map fun (_, rest) => (null, rest)
  | 't' :: rest => (word "rue".toList rest).map fun (_, rest) => (bool true, rest)
  | 'f' :: rest => (word "alse".toList rest).map fun (_, rest) => (bool false, rest)
  | '"' :: rest => (readString rest).map fun (s, rest) => (string s, rest)
  | '[' :: rest =>
    match inner with
    | none => .error (syntaxNext .tooDeep ('[' :: rest))
    | some read => (elements fuel read rest).map fun (items, rest) => (array items, rest)
  | '\x7b' :: rest =>
    match inner with
    | none => .error (syntaxNext .tooDeep ('\x7b' :: rest))
    | some read =>
      let member (read' : List (String × Json)) (name : String) : Reader (List (String × Json)) :=
        fun cs => (colon cs).bind fun (_, rest) =>
          (read rest).map fun (value, rest) => ((name, value) :: read', rest)
      (members fuel member [] rest).map fun (ms, rest) => (object ms.reverse, rest)
  | c :: rest =>
    if c == '-' || c.isDigit then
      (readNumber (c :: rest)).map fun (n, rest) => (number n, rest)
    else .error (syntaxNext .expectedValue (c :: rest))

/-- Reads one value with at most `depth` brackets inside one another: `valueWith` at each depth. -/
def value (fuel : Nat) : (depth : Nat) → Reader Json
  | 0 => valueWith fuel none
  | depth + 1 => valueWith fuel (some (value fuel depth))

/-- Reads a text to its end by `read`, which gets the number of characters as fuel. -/
def readAll {α : Type} (read : (fuel : Nat) → Reader α) (cs : List Char) : Except Fault α :=
  match read cs.length cs with
  | .error fault => .error fault
  | .ok (a, rest) =>
    match skipSpace rest with
    | [] => .ok a
    | rest => .error (syntaxNext .trailingCharacters rest)

/-- The value that a text holds, members as they are written. -/
def readDocument (text : String) : Except Fault Json :=
  readAll (fun fuel => value fuel depthLimit) text.toList

/-- The `canonical` value that a text holds, or what is wrong with the text. -/
def parse (text : String) : Except String Json :=
  match readDocument text with
  | .ok v => .ok v.canonical
  | .error fault => .error (fault.message text.toList)

end PageRisk.Json
