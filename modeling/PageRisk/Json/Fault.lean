import PageRisk.Decimal.Layout
import PageRisk.Text.Quoted

set_option autoImplicit false

/-! # Why a text is not read

A `Cause` says what is wrong with a text or with a value in it, a `Fault` also where. The place is
kept as the number of bytes that were left to read, and turned into a line and a column only when the
message is written. A fault in a value that had already been read as a whole has no place. -/

namespace PageRisk.Json

/-! ## Causes -/

/-- Violations of the grammar. -/
inductive SyntaxError where
  | endInList
  | endInObject
  | endInString
  | endInValue
  | expectedColon
  | expectedListCommaOrEnd
  | expectedObjectCommaOrEnd
  | expectedIdent
  | expectedValue
  | invalidEscape
  | invalidNumber
  | numberOutOfRange
  | controlCharacter
  | keyMustBeString
  | loneSurrogate
  | unfinishedSurrogate
  | trailingComma
  | trailingCharacters
  | tooDeep
  deriving DecidableEq, Repr

/-- The wording of a violation. -/
def SyntaxError.message : SyntaxError → String
  | endInList => "EOF while parsing a list"
  | endInObject => "EOF while parsing an object"
  | endInString => "EOF while parsing a string"
  | endInValue => "EOF while parsing a value"
  | expectedColon => "expected `:`"
  | expectedListCommaOrEnd => "expected `,` or `]`"
  | expectedObjectCommaOrEnd => "expected `,` or `\x7d`"
  | expectedIdent => "expected ident"
  | expectedValue => "expected value"
  | invalidEscape => "invalid escape"
  | invalidNumber => "invalid number"
  | numberOutOfRange => "number out of range"
  | controlCharacter => "control character (\\u0000-\\u001F) found while parsing a string"
  | keyMustBeString => "key must be a string"
  | loneSurrogate => "lone leading surrogate in hex escape"
  | unfinishedSurrogate => "unexpected end of hex escape"
  | trailingComma => "trailing comma"
  | trailingCharacters => "trailing characters"
  | tooDeep => "recursion limit exceeded"

/-- What stands in a place where something else was expected. -/
inductive Found where
  | null
  | bool (b : Bool)
  | integer (n : Int)
  | real (x : Float)
  | string (s : String)
  | sequence
  | map

/-- The wording of what was found. -/
def Found.message : Found → String
  | null => "null"
  | bool b => "boolean `" ++ (if b then "true" else "false") ++ "`"
  | integer n => "integer `" ++ String.ofList (Decimal.intText n) ++ "`"
  | real x => "floating point `" ++ String.ofList ((Decimal.shortestText? x).getD []) ++ "`"
  | string s => "string " ++ String.ofList (Text.quoted s.toList)
  | sequence => "sequence"
  | map => "map"

/-- Everything that can be wrong. -/
inductive Cause where
  | grammar (error : SyntaxError)
  /-- A value of the wrong kind. -/
  | wrongType (found : Found) (expected : String)
  /-- A value of the right kind out of its range. -/
  | wrongValue (found : Found) (expected : String)
  /-- A sequence with the wrong number of elements. -/
  | wrongLength (length : Nat) (expected : String)
  | unknownVariant (name : String) (expected : List String)
  | unknownField (name : String)
  | missingField (name : String)
  | duplicateField (name : String)
  /-- None of the forms of the named type fits. -/
  | noVariant (type : String)

/-- A choice of names: two are joined by "or", more are listed. -/
def choice : List String → String
  | [] => "there are no variants"
  | [a] => "expected `" ++ a ++ "`"
  | [a, b] => "expected `" ++ a ++ "` or `" ++ b ++ "`"
  | names => "expected one of " ++ String.intercalate ", " (names.map fun n => "`" ++ n ++ "`")

/-- The wording of a cause. -/
def Cause.message : Cause → String
  | grammar error => error.message
  | wrongType found expected => "invalid type: " ++ found.message ++ ", expected " ++ expected
  | wrongValue found expected => "invalid value: " ++ found.message ++ ", expected " ++ expected
  | wrongLength length expected =>
    "invalid length " ++ String.ofList (Decimal.natText length) ++ ", expected " ++ expected
  | unknownVariant name expected => "unknown variant `" ++ name ++ "`, " ++ choice expected
  | unknownField name => "unknown field `" ++ name ++ "`"
  | missingField name => "missing field `" ++ name ++ "`"
  | duplicateField name => "duplicate field `" ++ name ++ "`"
  | noVariant type => "data did not match any variant of untagged enum " ++ type

/-! ## Places -/

/-- The number of bytes of a text. -/
def byteLength (cs : List Char) : Nat :=
  cs.foldr (fun c size => c.utf8Size + size) 0

/-- A line, counted from one, and the number of bytes before the place in that line. -/
structure Position where
  line : Nat
  column : Nat
  deriving DecidableEq, Repr

/-- The position after the first `offset` bytes of the text, seen from `start`. -/
def Position.advance (start : Position) (offset : Nat) : List Char → Position
  | [] => start
  | c :: cs =>
    if offset == 0 then start
    else if c == '\n' then Position.advance ⟨start.line + 1, 0⟩ (offset - 1) cs
    else
      let size := c.utf8Size
      if offset < size then ⟨start.line, start.column + offset⟩
      else Position.advance ⟨start.line, start.column + size⟩ (offset - size) cs

/-- The position in the text at which `left` bytes are left. -/
def Position.before (text : List Char) (left : Nat) : Position :=
  Position.advance ⟨1, 0⟩ (byteLength text - left) text

/-- What is wrong and, if a place is to be named, how many bytes were left there. -/
structure Fault where
  cause : Cause
  left : Option Nat

/-- The wording of a fault in the text. -/
def Fault.message (fault : Fault) (text : List Char) : String :=
  match fault.left with
  | none => fault.cause.message
  | some left =>
    let place := Position.before text left
    fault.cause.message ++ " at line " ++ String.ofList (Decimal.natText place.line)
      ++ " column " ++ String.ofList (Decimal.natText place.column)

/-- A `Fault` where the rest of the text begins. -/
def Fault.here (cause : Cause) (rest : List Char) : Fault :=
  ⟨cause, some (byteLength rest)⟩

/-- A violation of the grammar where the rest of the text begins. -/
def syntaxHere (error : SyntaxError) (rest : List Char) : Fault :=
  Fault.here (.grammar error) rest

/-- A violation of the grammar by the first byte of the rest, or by its end. -/
def syntaxNext (error : SyntaxError) (rest : List Char) : Fault :=
  ⟨.grammar error, some (byteLength rest - 1)⟩

end PageRisk.Json
