import PageRisk.Json.Scalar

set_option autoImplicit false

/-! # Reading lists and objects

The commas, brackets and names between the parts of a list or an object. What the parts are is left to
the caller. A text without the closing bracket has no end in sight: as every part takes at least one
character, as much fuel as there are characters is enough. -/

namespace PageRisk.Json

/-! ## Going on and ending -/

/-- Whether another element of a list follows: if so the text from it, else the text from the closing
    bracket. -/
def nextElement (first : Bool) (cs : List Char) : Except Fault (Bool × List Char) :=
  match skipSpace cs with
  | [] => .error (syntaxNext .endInList [])
  | ']' :: rest => .ok (false, ']' :: rest)
  | c :: rest =>
    if first then .ok (true, c :: rest)
    else if c == ',' then
      match skipSpace rest with
      | [] => .error (syntaxNext .endInValue [])
      | ']' :: rest => .error (syntaxNext .trailingComma (']' :: rest))
      | rest => .ok (true, rest)
    else .error (syntaxNext .expectedListCommaOrEnd (c :: rest))

/-- The name of the next member of an object and the text after it, or none and the text from the
    closing bracket. -/
def nextName (first : Bool) (cs : List Char) : Except Fault (Option String × List Char) :=
  match skipSpace cs with
  | [] => .error (syntaxNext .endInObject [])
  | '\x7d' :: rest => .ok (none, '\x7d' :: rest)
  | c :: rest =>
    if first then
      if c == '"' then (readString rest).map fun (name, rest) => (some name, rest)
      else .error (syntaxNext .keyMustBeString (c :: rest))
    else if c == ',' then
      match skipSpace rest with
      | [] => .error (syntaxNext .endInValue [])
      | '"' :: rest => (readString rest).map fun (name, rest) => (some name, rest)
      | '\x7d' :: rest => .error (syntaxNext .trailingComma ('\x7d' :: rest))
      | rest => .error (syntaxNext .keyMustBeString rest)
    else .error (syntaxNext .expectedObjectCommaOrEnd (c :: rest))

/-- Reads the colon after a name. -/
def colon : Reader Unit := fun cs =>
  match skipSpace cs with
  | [] => .error (syntaxNext .endInObject [])
  | ':' :: rest => .ok ((), rest)
  | rest => .error (syntaxNext .expectedColon rest)

/-- Reads the closing bracket of a list. -/
def endList : Reader Unit := fun cs =>
  match skipSpace cs with
  | [] => .error (syntaxNext .endInList [])
  | ']' :: rest => .ok ((), rest)
  | ',' :: rest =>
    match skipSpace rest with
    | ']' :: rest => .error (syntaxNext .trailingComma (']' :: rest))
    | rest => .error (syntaxNext .trailingCharacters rest)
  | rest => .error (syntaxNext .trailingCharacters rest)

/-- Where a reading stands after it has looked for the closing bracket of a list, found or not. -/
def afterList (cs : List Char) : List Char :=
  match skipSpace cs with
  | ']' :: rest => rest
  | ',' :: rest => skipSpace rest
  | rest => rest

/-- Where a reading stands after it has looked for the closing bracket of an object, found or not. -/
def afterObject (cs : List Char) : List Char :=
  match skipSpace cs with
  | '\x7d' :: rest => rest
  | rest => rest

/-! ## Whole lists and objects -/

/-- Reads the elements of a list and its closing bracket by `nextElement`; `read` holds the elements so far
    in reverse order. -/
def elementsFrom {α : Type} (element : Reader α) :
    (fuel : Nat) → (first : Bool) → (read : List α) → Reader (List α)
  | 0, _, _, cs => .error (syntaxHere .endInList cs)
  | fuel + 1, first, read, cs =>
    match nextElement first cs with
    | .error fault => .error fault
    | .ok (false, rest) => (endList rest).map fun (_, rest) => (read.reverse, rest)
    | .ok (true, rest) =>
      match element rest with
      | .error fault => .error fault
      | .ok (value, rest) => elementsFrom element fuel false (value :: read) rest

/-- Reads the elements of a list after its opening bracket. -/
def elements {α : Type} (fuel : Nat) (element : Reader α) : Reader (List α) :=
  elementsFrom element (fuel + 1) true []

/-- Reads the elements of a list after its first one. -/
def elementsAfterFirst {α : Type} (fuel : Nat) (element : Reader α) : Reader (List α) :=
  elementsFrom element (fuel + 1) false []

/-- Reads the members of an object and its closing bracket by `nextName`. `member` gets what was made of the
    members before it and a name, and reads from the colon on. -/
def membersFrom {σ : Type} (member : σ → String → Reader σ) :
    (fuel : Nat) → (first : Bool) → σ → Reader σ
  | 0, _, _, cs => .error (syntaxHere .endInObject cs)
  | fuel + 1, first, state, cs =>
    match nextName first cs with
    | .error fault => .error fault
    | .ok (none, rest) => .ok (state, afterObject rest)
    | .ok (some name, rest) =>
      match member state name rest with
      | .error fault => .error fault
      | .ok (state, rest) => membersFrom member fuel false state rest

/-- Reads the members of an object after its opening bracket. -/
def members {σ : Type} (fuel : Nat) (member : σ → String → Reader σ) (start : σ) : Reader σ :=
  membersFrom member (fuel + 1) true start

end PageRisk.Json
