import PageRisk.Unicode.CombiningClass
import PageRisk.Unicode.Decomposition

set_option autoImplicit false

/-! # Normalization form C

A text is decomposed, its marks are put in the order of their combining classes, and then every letter
is composed with the marks that are not blocked by others. Hangul syllables are composed and
decomposed by arithmetic. -/

namespace PageRisk.Unicode

/-! ## Decomposition -/

/-- The decomposition of one character. -/
def decomposeChar (c : Char) : List Char :=
  let n := c.toNat
  if n < 0xC0 then [c]
  else if 0xAC00 ≤ n && n ≤ 0xD7A3 then
    let i := n - 0xAC00
    let head := [Char.ofNat (0x1100 + i / 588), Char.ofNat (0x1161 + i % 588 / 28)]
    if i % 28 == 0 then head else head ++ [Char.ofNat (0x11A7 + i % 28)]
  else match decompositionTable.find? n with
    | some image => image.map Char.ofNat
    | none => [c]

/-- The marks with one more in its place: after those of the same or a lower class. -/
def insertMark (mark : Char) : List Char → List Char
  | [] => [mark]
  | m :: rest =>
    if combiningClass mark < combiningClass m then mark :: m :: rest else m :: insertMark mark rest

/-- Puts every run of marks in the order of their classes; `run` holds the marks since the last
    character of class zero. -/
def orderMarks (run : List Char) : List Char → List Char
  | [] => run
  | c :: rest =>
    if combiningClass c == 0 then run ++ c :: orderMarks [] rest
    else orderMarks (insertMark c run) rest

/-! ## Composition -/

/-- The one character that two compose to. No character below the combining marks is composed with one
    before it. -/
def composePair? (a b : Char) : Option Char :=
  let m := a.toNat
  let n := b.toNat
  if n < 0x300 then none
  else if 0x1100 ≤ m && m < 0x1113 && 0x1161 ≤ n && n < 0x1176 then
    some (Char.ofNat (0xAC00 + (m - 0x1100) * 588 + (n - 0x1161) * 28))
  else if 0xAC00 ≤ m && m ≤ 0xD7A3 && (m - 0xAC00) % 28 == 0 && 0x11A7 < n && n < 0x11C3 then
    some (Char.ofNat (m + (n - 0x11A7)))
  else (compositionTable.find? (pairKey m n)).map Char.ofNat

/-- Composes from a letter on: `after` holds, in reverse order, what stands between the letter and the
    rest without being composed with it. -/
def composeFrom (letter : Char) (after : List Char) : List Char → List Char
  | [] => letter :: after.reverse
  | c :: rest =>
    let blocked := match after with
      | [] => false
      | last :: _ => combiningClass last == 0 || combiningClass c ≤ combiningClass last
    match if blocked then none else composePair? letter c with
    | some composed => composeFrom composed after rest
    | none =>
      if combiningClass c == 0 then letter :: (after.reverse ++ composeFrom c [] rest)
      else composeFrom letter (c :: after) rest

/-- Composes a text, from its first letter on. -/
def compose : List Char → List Char
  | [] => []
  | c :: rest => if combiningClass c == 0 then composeFrom c [] rest else c :: compose rest

/-- Normalization form C: what `compose` makes of the decomposed text with its marks in order. -/
def normalize (cs : List Char) : List Char :=
  compose (orderMarks [] (cs.flatMap decomposeChar))

end PageRisk.Unicode
