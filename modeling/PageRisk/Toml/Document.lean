import PageRisk.Toml.Scalar

set_option autoImplicit false

/-! # Reading TOML documents

A document is a list of lines: keys with values, headers of tables, and comments. The keys before the
first header belong to the document itself, those after a header to its table. -/

namespace PageRisk.Toml

/-! ## Keys -/

/-- Whether the character may stand in a bare key. -/
def isBareChar (c : Char) : Bool :=
  c.isAlphanum || c == '_' || c == '-'

/-- Reads one part of a key. -/
def keyPart (cs : List Char) : Option (String × List Char) :=
  match cs with
  | '"' :: _ => lineString cs
  | '\'' :: _ => lineString cs
  | _ =>
    let name := cs.takeWhile isBareChar
    if name.isEmpty then none else some (String.ofList name, cs.drop name.length)

/-- Reads the parts of a key, with full stops between them, and the blanks after it. A key has fewer parts
    than the limit of nesting. -/
def keyParts : (limit : Nat) → Scan (List String)
  | 0, _ => none
  | limit + 1, cs =>
    match keyPart (skipBlanks cs) with
    | none => none
    | some (part, rest) => match skipBlanks rest with
      | '.' :: rest => (keyParts limit rest).map fun (parts, rest) => (part :: parts, rest)
      | rest => some ([part], rest)

/-- How deep values may be nested. -/
def depthLimit : Nat := 79

/-- A key and the path to its table. -/
def splitKey (parts : List String) : List String × String :=
  (parts.dropLast, parts.getLast?.getD "")

/-! ## Values -/

/-- Reads a key, the sign of equality and a value. -/
def keyValue (value : Scan Value) : Scan (List String × String × Value) := fun cs =>
  match keyParts depthLimit cs with
  | some (parts, '=' :: rest) =>
    (value (skipBlanks rest)).map fun (v, rest) =>
      let (path, key) := splitKey parts
      ((path, key, v), rest)
  | _ => none

/-- Reads the values of an array up to its bracket; blanks, comments and line ends may stand anywhere
    between them, and a comma after the last one. There is at least as much fuel as text. -/
def arrayItems (value : Scan Value) : (fuel : Nat) → (read : List Value) → Scan (List Value)
  | 0, _, _ => none
  | fuel + 1, read, cs =>
    match skipLines fuel cs with
    | ']' :: rest => some (read.reverse, rest)
    | rest => match value rest with
      | none => none
      | some (v, rest) => match skipLines fuel rest with
        | ',' :: rest => arrayItems value fuel (v :: read) rest
        | ']' :: rest => some ((v :: read).reverse, rest)
        | _ => none

/-- Reads the entries of an inline table up to its brace, on one line and without a comma after the last
    one. -/
def inlinePairs (value : Scan Value) :
    (fuel : Nat) → (read : List (List String × String × Value)) →
      Scan (List (List String × String × Value))
  | 0, _, _ => none
  | fuel + 1, read, cs =>
    match keyValue value cs with
    | none => none
    | some (pair, rest) => match skipBlanks rest with
      | ',' :: rest => inlinePairs value fuel (pair :: read) rest
      | '\x7d' :: rest => some ((pair :: read).reverse, rest)
      | _ => none

/-- Reads an inline table after its opening brace. -/
def inlineTable (value : Scan Value) : Scan Value := fun cs =>
  match skipBlanks cs with
  | '\x7d' :: rest => some (.table .inline [], rest)
  | rest => match inlinePairs value rest.length [] rest with
    | none => none
    | some (pairs, rest) => (Entries.insertAll pairs []).map fun entries => (.table .inline entries, rest)

/-- Reads a value with at most `depth` brackets inside one another. -/
def value : (depth : Nat) → Scan Value
  | depth, cs => match cs with
    | '"' :: _ => (anyString cs).map fun (s, rest) => (.string s, rest)
    | '\'' :: _ => (anyString cs).map fun (s, rest) => (.string s, rest)
    | '[' :: rest => match depth with
      | 0 => none
      | depth + 1 => (arrayItems (value depth) (rest.length + 1) [] rest).map fun (items, rest) =>
        (.array items, rest)
    | '\x7b' :: rest => match depth with
      | 0 => none
      | depth + 1 => inlineTable (value depth) rest
    | _ => plainValue cs

/-! ## Lines -/

/-- A line of a document. -/
inductive Line where
  | pair (path : List String) (key : String) (value : Value)
  /-- The header of a table. -/
  | table (path : List String) (key : String)
  /-- The header of one more table of several. -/
  | tables (path : List String) (key : String)
  | blank

/-- Reads what a line says. -/
def lineContent (cs : List Char) : Option (Line × List Char) :=
  match cs with
  | '[' :: '[' :: rest => match keyParts depthLimit rest with
    | some (parts, ']' :: ']' :: rest) => some (.tables (splitKey parts).1 (splitKey parts).2, rest)
    | _ => none
  | '[' :: rest => match keyParts depthLimit rest with
    | some (parts, ']' :: rest) => some (.table (splitKey parts).1 (splitKey parts).2, rest)
    | _ => none
  | [] => some (.blank, [])
  | '#' :: _ => some (.blank, cs)
  | '\n' :: _ => some (.blank, cs)
  | '\r' :: _ => some (.blank, cs)
  | _ => (keyValue (value depthLimit) cs).map fun ((path, key, v), rest) => (.pair path key v, rest)

/-- Reads all lines. -/
def lines : (fuel : Nat) → (read : List Line) → List Char → Option (List Line)
  | 0, _, _ => none
  | fuel + 1, read, cs =>
    match lineContent (skipBlanks cs) with
    | none => none
    | some (line, rest) =>
      let rest := skipComment rest
      if rest.isEmpty then some (line :: read).reverse
      else match lineEnd? rest with
        | none => none
        | some rest => lines fuel (line :: read) rest

/-! ## Documents -/

/-- The keys with values before the next header, and the lines from it on. -/
def takePairs : List Line → List (List String × String × Value) × List Line
  | .pair path key v :: rest =>
    let (pairs, rest) := takePairs rest
    ((path, key, v) :: pairs, rest)
  | .blank :: rest => takePairs rest
  | rest => ([], rest)

/-- Adds the tables of all headers to what the document has so far, each with the pairs up to the next
    header (`takePairs`). -/
def addTables : (fuel : Nat) → Entries → List Line → Option Entries
  | _, entries, [] => some entries
  | 0, _, _ :: _ => none
  | fuel + 1, entries, .table path key :: rest =>
    let (pairs, rest) := takePairs rest
    (Entries.changeAt (Entries.addTable key pairs) path entries).bind (addTables fuel · rest)
  | fuel + 1, entries, .tables path key :: rest =>
    let (pairs, rest) := takePairs rest
    (Entries.changeAt (Entries.addToTables key pairs) path entries).bind (addTables fuel · rest)
  | fuel + 1, entries, _ :: rest => addTables fuel entries rest

/-- The entries of a document; a byte order mark before it means nothing. -/
def parse (text : String) : Option Entries :=
  let cs := match text.toList with
    | '\ufeff' :: rest => rest
    | cs => cs
  match lines (cs.length + 1) [] cs with
  | none => none
  | some ls =>
    let (pairs, rest) := takePairs ls
    (Entries.insertAll pairs []).bind (addTables rest.length · rest)

end PageRisk.Toml
