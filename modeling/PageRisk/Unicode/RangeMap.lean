import PageRisk.Text.Basic

set_option autoImplicit false

/-! # Tables over code points

A property of characters is a table of ranges in ascending order, searched by bisection. The
tables are written as text, one row a word: `first-last:value` or `first:value`, code points in
hexadecimal. -/

namespace PageRisk.Unicode

/-- One row of a table: a range of code points and what is said of them. -/
structure Row (α : Type) where
  first : Nat
  last : Nat
  value : α

/-- A table of disjoint ranges in ascending order. -/
structure RangeMap (α : Type) where
  rows : Array (Row α)

namespace RangeMap

variable {α : Type}

/-- Bisection between the rows `lo` and `hi`; every step at least halves their distance, so as much
    fuel as there are rows is enough. -/
def search (rows : Array (Row α)) (n : Nat) : (fuel lo hi : Nat) → Option (Row α)
  | 0, _, _ => none
  | fuel + 1, lo, hi =>
    if lo < hi then
      let mid := (lo + hi) / 2
      match rows[mid]? with
      | none => none
      | some row =>
        if n < row.first then search rows n fuel lo mid
        else if row.last < n then search rows n fuel (mid + 1) hi
        else some row
    else none

/-- The row that holds the code point `n`. -/
def row? (table : RangeMap α) (n : Nat) : Option (Row α) :=
  search table.rows n (table.rows.size + 1) 0 table.rows.size

/-- What the table says of the code point `n`. -/
def find? (table : RangeMap α) (n : Nat) : Option α :=
  (table.row? n).map Row.value

/-- Whether the table has a row for the character. -/
def covers (table : RangeMap α) (c : Char) : Bool :=
  (table.row? c.toNat).isSome

end RangeMap

/-! ## Reading a table -/

/-- The value of a hexadecimal digit; any other character counts as zero. -/
def hexDigit (c : Char) : Nat :=
  if c.isDigit then c.toNat - '0'.toNat
  else if 'A' ≤ c ∧ c ≤ 'F' then c.toNat - 'A'.toNat + 10
  else if 'a' ≤ c ∧ c ≤ 'f' then c.toNat - 'a'.toNat + 10
  else 0

/-- The number written by hexadecimal digits. -/
def hexValue (cs : List Char) : Nat :=
  cs.foldl (fun n c => n * 16 + hexDigit c) 0

/-- The code points of a sequence joined by `+`; the empty sequence is written as nothing. -/
def hexSequence (cs : List Char) : List Nat :=
  if cs.isEmpty then [] else (Text.pieces (· == '+') cs).map hexValue

/-- One row from its word. -/
def Row.ofText {α : Type} (value : List Char → α) (word : List Char) : Row α :=
  let (range, rest) := (Text.cutAt? [':'] word).getD (word, [])
  let (first, last) := (Text.cutAt? ['-'] range).getD (range, range)
  ⟨hexValue first, hexValue last, value rest⟩

/-- A table from its text; `value` reads what follows the colon of a row. -/
def RangeMap.ofText {α : Type} (value : List Char → α) (text : String) : RangeMap α :=
  ⟨((Text.words text.toList).map (Row.ofText value)).toArray⟩

/-- A set of characters: a table that says nothing more of them. -/
abbrev Ranges := RangeMap Unit

/-- A set of characters from its text. -/
def Ranges.ofText (text : String) : Ranges :=
  RangeMap.ofText (fun _ => ()) text

end PageRisk.Unicode
