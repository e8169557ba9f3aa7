set_option autoImplicit false

/-! # Text as a list of characters

The pieces every reader of this library shares: white space, trimming, splitting and searching.
A text is taken as its list of characters, so that each operation is a recursion on the list;
`String` is kept for what is stored and shown.

White space is the Unicode property `White_Space`. -/

namespace PageRisk.Text

/-! ## White space -/

/-- The Unicode property `White_Space`. -/
def isBlank (c : Char) : Bool :=
  let n := c.toNat
  (9 ≤ n && n ≤ 13) || n == 0x20 || n == 0x85 || n == 0xA0 || n == 0x1680
    || (0x2000 ≤ n && n ≤ 0x200A) || n == 0x2028 || n == 0x2029 || n == 0x202F || n == 0x205F
    || n == 0x3000

/-- The list without the longest suffix of elements that satisfy `p`. -/
def dropLastWhile {α : Type} (p : α → Bool) (cs : List α) : List α :=
  (cs.reverse.dropWhile p).reverse

/-- The text without white space at either end. -/
def trim (cs : List Char) : List Char :=
  dropLastWhile isBlank (cs.dropWhile isBlank)

/-- Whether the text is white space throughout. -/
def allBlank (cs : List Char) : Bool :=
  cs.all isBlank

/-! ## Splitting -/

/-- The maximal runs of characters that do not satisfy `p`, one before each character that does and
    one after the last: a text with `n` separators has `n + 1` pieces. -/
def pieces (p : Char → Bool) (cs : List Char) : List (List Char) :=
  cs.foldr (fun c parts => if p c then [] :: parts else (c :: parts.headD []) :: parts.tail) [[]]

/-- The runs of characters between white space. -/
def words (cs : List Char) : List (List Char) :=
  (pieces isBlank cs).filter fun w => !w.isEmpty

/-- The parts of the text before and after the first occurrence of `mark`, if it occurs. -/
def cutAt? (mark : List Char) : List Char → Option (List Char × List Char)
  | [] => if mark.isEmpty then some ([], []) else none
  | c :: cs =>
    if mark.isPrefixOf (c :: cs) then some ([], (c :: cs).drop mark.length)
    else (cutAt? mark cs).map fun (before, after) => (c :: before, after)

/-- The parts of the text before and after the last character equal to `mark`, if it occurs. -/
def cutAtLast? (mark : Char) : List Char → Option (List Char × List Char)
  | [] => none
  | c :: cs =>
    match cutAtLast? mark cs with
    | some (before, after) => some (c :: before, after)
    | none => if c == mark then some ([], cs) else none

/-! ## Searching -/

/-- Whether `needle` stands somewhere in the text. -/
def occursIn (needle : List Char) : List Char → Bool
  | [] => needle.isEmpty
  | c :: cs => needle.isPrefixOf (c :: cs) || occursIn needle cs

/-! ## Equations -/

@[simp] theorem pieces_nil (p : Char → Bool) : pieces p [] = [[]] := rfl

theorem pieces_cons (p : Char → Bool) (c : Char) (cs : List Char) :
    pieces p (c :: cs)
      = if p c then [] :: pieces p cs
        else (c :: (pieces p cs).headD []) :: (pieces p cs).tail := rfl

theorem pieces_ne_nil (p : Char → Bool) (cs : List Char) : pieces p cs ≠ [] := by
  cases cs with
  | nil => simp
  | cons c cs => rw [pieces_cons]; split <;> simp

end PageRisk.Text
