set_option autoImplicit false

/-! # TOML values

A document is a table of values. A table can be written in several places, by headers and by dotted
keys, and what may still be added to it depends on how it came to be. -/

namespace PageRisk.Toml

/-- How a table came to be. -/
inductive Origin where
  /-- By a header of its own. -/
  | header
  /-- By the header of a table inside it. -/
  | implied
  /-- By a dotted key. -/
  | dotted
  /-- As a value between braces. -/
  | inline
  deriving DecidableEq, Repr

/-- A TOML value. -/
inductive Value where
  | string (s : String)
  | integer (n : Int)
  | real (x : Float)
  | bool (b : Bool)
  /-- A date, a time or both. -/
  | moment
  | array (items : List Value)
  | table (origin : Origin) (entries : List (String × Value))
  /-- The tables that headers between double brackets add one by one. -/
  | tables (items : List (List (String × Value)))

/-- The entries of a table, in the order in which they were added. -/
abbrev Entries := List (String × Value)

namespace Entries

/-- The entries with a new value for a key that is there. -/
def replace (key : String) (value : Value) (entries : Entries) : Entries :=
  entries.map fun e => if e.1 == key then (key, value) else e

/-- The entries of the last table of several, changed. -/
def changeLast (change : Entries → Option Entries) (items : List Entries) : Option (List Entries) :=
  match items.getLast? with
  | none => none
  | some last => (change last).map fun last => items.dropLast ++ [last]

/-- Adds the value of a dotted key. The tables on the way are made where they are missing; they must not
    be closed, and the one that gets the value must have come to be by dotted keys. `fits` says so of
    the table at hand. -/
def insertDotted (fits : Bool) (path : List String) (key : String) (value : Value)
    (entries : Entries) : Option Entries :=
  match path with
  | [] =>
    if !fits || (entries.lookup key).isSome then none else some (entries ++ [(key, value)])
  | step :: path =>
    match entries.lookup step with
    | none =>
      (insertDotted true path key value []).map fun inner =>
        entries ++ [(step, .table .dotted inner)]
    | some (.table origin inner) =>
      if origin == .header || origin == .inline then none
      else (insertDotted (origin == .dotted) path key value inner).map fun inner =>
        replace step (.table origin inner) entries
    | some (.tables items) =>
      (changeLast (insertDotted false path key value) items).map fun items =>
        replace step (.tables items) entries
    | some _ => none

/-- Adds the values of dotted keys one after the other. -/
def insertAll (pairs : List (List String × String × Value)) (entries : Entries) : Option Entries :=
  pairs.foldlM (fun entries (path, key, value) => insertDotted true path key value entries) entries

/-- Changes the table that the path of a header leads to. The tables on the way are made where they are
    missing; of several tables the last one is meant. -/
def changeAt (change : Entries → Option Entries) (path : List String) (entries : Entries) :
    Option Entries :=
  match path with
  | [] => change entries
  | step :: path =>
    match entries.lookup step with
    | none => (changeAt change path []).map fun inner => entries ++ [(step, .table .implied inner)]
    | some (.table origin inner) =>
      if origin == .inline then none
      else (changeAt change path inner).map fun inner => replace step (.table origin inner) entries
    | some (.tables items) =>
      (changeLast (changeAt change path) items).map fun items => replace step (.tables items) entries
    | some _ => none

/-- Adds a table with a header of its own, which may have been implied before. -/
def addTable (key : String) (pairs : List (List String × String × Value)) (entries : Entries) :
    Option Entries :=
  match entries.lookup key with
  | none => (insertAll pairs []).map fun inner => entries ++ [(key, .table .header inner)]
  | some (.table .implied inner) =>
    (insertAll pairs inner).map fun inner => replace key (.table .header inner) entries
  | some _ => none

/-- Adds one more table under a key that holds several. -/
def addToTables (key : String) (pairs : List (List String × String × Value)) (entries : Entries) :
    Option Entries :=
  match insertAll pairs [] with
  | none => none
  | some inner => match entries.lookup key with
    | none => some (entries ++ [(key, .tables [inner])])
    | some (.tables items) => some (replace key (.tables (items ++ [inner])) entries)
    | some _ => none

end Entries

end PageRisk.Toml
