import PageRisk.Json.Document
import PageRisk.Json.Skip

set_option autoImplicit false

/-! # Decoding typed values

A decoder reads values of one type, in two ways: straight from a text, with a place for every fault,
and from a value that was read before. Both accept the same values and name the same causes, but for
what only a text has: its grammar, and how deep it is nested.

A record is an object whose members are the fields in any order, or a list of the fields in their
order. -/

namespace PageRisk.Json

/-- A decoder of values of one type: from a text, or from a `Json` value. -/
structure Decoder (α : Type) where
  /-- Reads from a text; the fuel is its number of characters. -/
  fromText : (fuel : Nat) → Reader α
  /-- Reads from a value. -/
  fromValue : Json → Except Cause α

/-- Decodes a whole text by `fromText`; a fault is worded with its place. -/
def Decoder.decode {α : Type} (d : Decoder α) (text : String) : Except String α :=
  match readAll d.fromText text.toList with
  | .ok a => .ok a
  | .error fault => .error (fault.message text.toList)

/-! ## Values of the wrong kind -/

/-- How a number is named where it is not expected. -/
def Found.ofNumber : Number → Found
  | .integer n => .integer n.value
  | .real x => .real x

/-- How a value is named where it is not expected. -/
def Found.ofValue : Json → Found
  | .null => .null
  | .bool b => .bool b
  | .number n => Found.ofNumber n
  | .string s => .string s
  | .array _ => .sequence
  | .object _ => .map

/-- The fault of a text whose next value is not of the expected kind. The value is read first if it is a
    scalar, and the place is after it; of a list or an object nothing is read. -/
def unexpected (expected : String) (cs : List Char) : Fault :=
  let fault (found : Found) (rest : List Char) : Fault := .here (.wrongType found expected) rest
  match cs with
  | 'n' :: rest => match word "ull".toList rest with
    | .ok (_, rest) => fault .null rest
    | .error f => f
  | 't' :: rest => match word "rue".toList rest with
    | .ok (_, rest) => fault (.bool true) rest
    | .error f => f
  | 'f' :: rest => match word "alse".toList rest with
    | .ok (_, rest) => fault (.bool false) rest
    | .error f => f
  | '"' :: rest => match readString rest with
    | .ok (s, rest) => fault (.string s) rest
    | .error f => f
  | '[' :: _ => fault .sequence cs
  | '\x7b' :: _ => fault .map cs
  | c :: _ =>
    if c == '-' || c.isDigit then match readNumber cs with
      | .ok (n, rest) => fault (Found.ofNumber n) rest
      | .error f => f
    else syntaxNext .expectedValue cs
  | [] => syntaxNext .expectedValue []

/-- Reads a value from its first character on; `read` gets that character and what follows it, and
    says by `none` that no value of its kind starts so. -/
def expecting {α : Type} (expected : String) (read : Char → List Char → Option (Except Fault (α × List Char))) :
    Reader α := fun cs =>
  match skipSpace cs with
  | [] => .error (syntaxNext .endInValue [])
  | c :: rest => (read c rest).getD (.error (unexpected expected (c :: rest)))

namespace Decoder

/-! ## Scalars -/

/-- Decodes a string. -/
def string : Decoder String where
  fromText _ := expecting "a string" fun c rest => if c == '"' then some (readString rest) else none
  fromValue
    | .string s => .ok s
    | v => .error (.wrongType (Found.ofValue v) "a string")

/-- Decodes a truth value. -/
def bool : Decoder Bool where
  fromText _ := expecting "a boolean" fun c rest =>
    if c == 't' then some ((word "rue".toList rest).map fun (_, rest) => (true, rest))
    else if c == 'f' then some ((word "alse".toList rest).map fun (_, rest) => (false, rest))
    else none
  fromValue
    | .bool b => .ok b
    | v => .error (.wrongType (Found.ofValue v) "a boolean")

/-- Decodes numbers that `accept` takes. -/
def number {α : Type} (expected : String) (accept : Number → Except Cause α) : Decoder α where
  fromText _ := expecting expected fun c rest =>
    if c == '-' || c.isDigit then
      some (match readNumber (c :: rest) with
        | .error fault => .error fault
        | .ok (n, rest) => match accept n with
          | .ok a => .ok (a, rest)
          | .error cause => .error (.here cause rest))
    else none
  fromValue
    | .number n => accept n
    | v => .error (.wrongType (Found.ofValue v) expected)

/-- Decodes a floating-point number; integers are numbers too. -/
def float : Decoder Float :=
  number "f64" fun n => .ok n.toFloat

/-- Decodes an integer that `accept` takes. -/
def integer {α : Type} (expected : String) (accept : Int → Option α) : Decoder α :=
  number expected fun n => match n with
    | .real x => .error (.wrongType (.real x) expected)
    | .integer n => match accept n.value with
      | some a => .ok a
      | none => .error (.wrongValue (.integer n.value) expected)

/-- Decodes an unsigned integer of 32 bits. -/
def uint32 : Decoder UInt32 :=
  integer "u32" fun n => if 0 ≤ n ∧ n < 4294967296 then some (UInt32.ofNat n.toNat) else none

/-- Decodes a signed integer of 64 bits. -/
def int64 : Decoder Int64 :=
  integer "i64" fun n =>
    if -9223372036854775808 ≤ n ∧ n < 9223372036854775808 then some (Int64.ofInt n) else none

/-! ## Lists and optional values -/

/-- Decodes every value of a list, up to the first that fails. -/
def allValues {α : Type} (decode : Json → Except Cause α) : List Json → Except Cause (List α)
  | [] => .ok []
  | v :: vs => match decode v with
    | .error cause => .error cause
    | .ok a => (allValues decode vs).map (a :: ·)

/-- Decodes a list. -/
def list {α : Type} (element : Decoder α) : Decoder (List α) where
  fromText fuel := expecting "a sequence" fun c rest =>
    if c == '[' then some (elements fuel (element.fromText fuel) rest) else none
  fromValue
    | .array items => allValues element.fromValue items
    | v => .error (.wrongType (Found.ofValue v) "a sequence")

/-- Decodes a value that may be null. -/
def optional {α : Type} (inner : Decoder α) : Decoder (Option α) where
  fromText fuel cs :=
    match skipSpace cs with
    | 'n' :: rest => (word "ull".toList rest).map fun (_, rest) => (none, rest)
    | rest => (inner.fromText fuel rest).map fun (a, rest) => (some a, rest)
  fromValue
    | .null => .ok none
    | v => (inner.fromValue v).map some

/-! ## Choices of names -/

/-- The constant of a name. -/
def named {α : Type} (names : List (String × α)) (name : String) : Except Cause α :=
  match names.lookup name with
  | some a => .ok a
  | none => .error (.unknownVariant name (names.map Prod.fst))

/-- Reads a name. -/
def nameFromText {α : Type} (names : List (String × α)) : Reader α :=
  expecting "variant identifier" fun c rest =>
    if c == '"' then
      some (match readString rest with
        | .error fault => .error fault
        | .ok (name, rest) => match named names name with
          | .ok a => .ok (a, rest)
          | .error cause => .error (.here cause rest))
    else none

/-- Reads a name that is the first member of an object. -/
def nameOfMember {α : Type} (names : List (String × α)) : Reader α := fun cs =>
  match skipSpace cs with
  | [] => .error (syntaxNext .endInObject [])
  | '"' :: rest => nameFromText names ('"' :: rest)
  | '\x7d' :: rest => .error (syntaxNext .expectedValue ('\x7d' :: rest))
  | rest => .error (syntaxNext .keyMustBeString rest)

/-- Decodes one of some names: the name as a string, or as the only member of an object, with null as its
    value. -/
def choice {α : Type} (names : List (String × α)) : Decoder α where
  fromText _ := fun cs =>
    match skipSpace cs with
    | [] => .error (syntaxNext .endInValue [])
    | '"' :: rest => nameFromText names ('"' :: rest)
    | '\x7b' :: rest =>
      match nameOfMember names rest with
      | .error fault => .error fault
      | .ok (a, rest) =>
        (colon rest).bind fun (_, rest) =>
          (expecting "unit" (fun c rest =>
            if c == 'n' then some (word "ull".toList rest) else none) rest).bind fun (_, rest) =>
            match skipSpace rest with
            | [] => .error (syntaxHere .endInObject [])
            | '\x7d' :: rest => .ok (a, rest)
            | rest => .error (syntaxHere .expectedValue rest)
    | rest => .error (syntaxNext .expectedValue rest)
  fromValue
    | .string name => named names name
    | .object [(name, .null)] => named names name
    | .object [(name, v)] => (named names name).bind fun _ =>
      .error (.wrongType (Found.ofValue v) "unit")
    | .object _ => .error (.wrongValue .map "map with a single key")
    | v => .error (.wrongType (Found.ofValue v) "string or map")

/-! ## Records -/

/-- What it means that a record does not have a field. -/
inductive Absence where
  /-- The field is always there. -/
  | refused
  /-- An object may leave the field out, a list may not. -/
  | allowedInObject
  /-- The field may be left out. -/
  | allowed
  deriving DecidableEq, Repr

/-- A field of a record; `σ` holds the fields that were read so far. -/
structure Field (σ : Type) where
  name : String
  absence : Absence
  isRead : σ → Bool
  fromText : (fuel : Nat) → σ → Reader σ
  fromValue : σ → Json → Except Cause σ

/-- A field by its decoder, a look at the fields read so far and how to add it to them. -/
def field {σ β : Type} (name : String) (absence : Absence) (d : Decoder β) (get : σ → Option β)
    (put : β → σ → σ) : Field σ where
  name := name
  absence := absence
  isRead s := (get s).isSome
  fromText fuel s cs := (d.fromText fuel cs).map fun (b, rest) => (put b s, rest)
  fromValue s v := (d.fromValue v).map fun b => put b s

/-- The form of a record. -/
structure Form (σ α : Type) where
  /-- What the record is called in messages. -/
  title : String
  fields : List (Field σ)
  /-- Whether members that are no fields are refused. -/
  closed : Bool
  /-- No field read. -/
  start : σ
  /-- The record, or the name of a field that is missing. -/
  finish : σ → Except String α

namespace Form

variable {σ α : Type}

/-- The title with the number of fields. -/
def expectation (form : Form σ α) : String :=
  form.title ++ " with " ++ String.ofList (Decimal.natText form.fields.length)
    ++ (if form.fields.length == 1 then " element" else " elements")

/-- The record made of the fields that were read. -/
def complete (form : Form σ α) (s : σ) : Except Cause α :=
  match form.finish s with
  | .ok a => .ok a
  | .error name => .error (.missingField name)

/-- The field of that name. -/
def field? (form : Form σ α) (name : String) : Option (Field σ) :=
  form.fields.find? (·.name == name)

/-- What to do where a list ends after `count` fields: `more` are the fields that it lacks, each with its
    `Absence`. -/
def lacking (form : Form σ α) (count : Nat) : (more : List (Field σ)) → Except Cause Unit
  | [] => .ok ()
  | f :: more =>
    if f.absence == .allowed then form.lacking (count + 1) more
    else .error (.wrongLength count form.expectation)

/-- Reads the fields in their order from the elements of a list. -/
def fieldsFromText (form : Form σ α) (fuel count : Nat) (s : σ) :
    List (Field σ) → Reader σ
  | [], cs => .ok (s, cs)
  | f :: more, cs =>
    match nextElement (count == 0) cs with
    | .error fault => .error fault
    | .ok (false, rest) => match form.lacking count (f :: more) with
      | .ok _ => .ok (s, rest)
      | .error cause => .error (.here cause (afterList rest))
    | .ok (true, rest) => match f.fromText fuel s rest with
      | .error fault => .error fault
      | .ok (s, rest) => form.fieldsFromText fuel (count + 1) s more rest

/-- Reads the value of one member. -/
def memberFromText (form : Form σ α) (fuel : Nat) (s : σ) (name : String) : Reader σ := fun cs =>
  match form.field? name with
  | some f =>
    if f.isRead s then .error (.here (.duplicateField name) (afterObject cs))
    else (colon cs).bind fun (_, rest) => f.fromText fuel s rest
  | none =>
    if form.closed then .error (.here (.unknownField name) (afterObject cs))
    else (colon cs).bind fun (_, rest) => (skipValue rest).map fun (_, rest) => (s, rest)

/-- Reads the fields from the elements of a list, each by its place. -/
def fieldsFromValues (form : Form σ α) (count : Nat) (s : σ) :
    List (Field σ) → List Json → Except Cause σ
  | [], [] => .ok s
  | [], more =>
    .error (.wrongLength (count + more.length)
      (String.ofList (Decimal.natText count)
        ++ (if count == 1 then " element in sequence" else " elements in sequence")))
  | f :: more, [] => (form.lacking count (f :: more)).map fun _ => s
  | f :: more, v :: vs =>
    match f.fromValue s v with
    | .error cause => .error cause
    | .ok s => form.fieldsFromValues (count + 1) s more vs

/-- Reads the fields from the members of an object, each by its name (`field?`). -/
def fieldsFromMembers (form : Form σ α) (s : σ) : List (String × Json) → Except Cause σ
  | [] => .ok s
  | (name, v) :: rest =>
    match form.field? name with
    | some f =>
      if f.isRead s then .error (.duplicateField name)
      else match f.fromValue s v with
        | .error cause => .error cause
        | .ok s => form.fieldsFromMembers s rest
    | none =>
      if form.closed then .error (.unknownField name) else form.fieldsFromMembers s rest

/-- Reads a record from a value. -/
def fromValue (form : Form σ α) : Json → Except Cause α
  | .array items => (form.fieldsFromValues 0 form.start form.fields items).bind form.complete
  | .object ms => (form.fieldsFromMembers form.start ms).bind form.complete
  | v => .error (.wrongType (Found.ofValue v) form.title)

/-- Reads a record from a text. -/
def fromText (form : Form σ α) (fuel : Nat) : Reader α :=
  expecting form.title fun c rest =>
    if c == '[' then
      some (match form.fieldsFromText fuel 0 form.start form.fields rest with
        | .error fault => .error fault
        | .ok (s, rest) => match form.complete s with
          | .error cause => .error (.here cause (afterList rest))
          | .ok a => (endList rest).map fun (_, rest) => (a, rest))
    else if c == '\x7b' then
      some (match members fuel (form.memberFromText fuel) form.start rest with
        | .error fault => .error fault
        | .ok (s, rest) => match form.complete s with
          | .error cause => .error (.here cause rest)
          | .ok a => .ok (a, rest))
    else none

end Form

/-- Decodes a record of a `Form`, from an object by the names of its fields or from a list by their
    order. -/
def record {σ α : Type} (form : Form σ α) : Decoder α where
  fromText := form.fromText
  fromValue := form.fromValue

end Decoder

end PageRisk.Json
