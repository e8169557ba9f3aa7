import PageRisk.Idna.Mapping
import PageRisk.Unicode.BidiClass
import PageRisk.Unicode.JoiningType
import PageRisk.Unicode.Normalization

set_option autoImplicit false

/-! # Labels of host names

A label is one of the parts of a host name between full stops. What its characters may be is decided by
the mapping; the rules here are about their surroundings: a label does not start with a mark, a joiner
stands only where it has an effect, and in a host name with characters that are written from right to
left every label keeps to one direction. -/

namespace PageRisk.Idna

open PageRisk.Unicode

/-! ## Joiners -/

/-- Whether the first character that is not transparent has one of the joining types. -/
def joinsThrough (types : List JoiningType) : List Char → Bool
  | [] => false
  | c :: rest =>
    let type := joiningType c
    if type == .transparent then joinsThrough types rest else types.contains type

/-- Whether every joiner has an effect: after a virama, or, for the non-joiner, between characters that
    would join. `before` holds the characters before in reverse order. -/
def joinersFit (before : List Char) : List Char → Bool
  | [] => true
  | c :: rest =>
    let afterVirama := (before.head?.map isVirama).getD false
    let fits :=
      if c == '\u200d' then afterVirama
      else if c == '\u200c' then
        afterVirama || (joinsThrough [.left, .dual] before && joinsThrough [.right, .dual] rest)
      else true
    fits && joinersFit (c :: before) rest

/-! ## Direction -/

/-- Whether a character makes its host name one that is partly written from right to left. -/
def isRightToLeft (c : Char) : Bool :=
  match bidiClass c with
  | .rightToLeft | .arabicLetter | .arabicNumber => true
  | _ => false

/-- The classes that may stand in a label of either direction. -/
def isNeutralClass : BidiClass → Bool
  | .europeanNumber | .europeanSeparator | .commonSeparator | .europeanTerminator | .otherNeutral
  | .boundaryNeutral | .nonspacingMark => true
  | _ => false

/-- Whether the label keeps to the direction of its first character. A label from left to right ends with
    a letter or digit, one from right to left with a letter or a number, marks aside; and one from
    right to left does not mix the two kinds of digits. -/
def keepsDirection (label : List Char) : Bool :=
  let classes := label.map bidiClass
  let last := (classes.reverse.find? (· != .nonspacingMark)).getD .other
  match classes with
  | [] => true
  | .leftToRight :: _ =>
    classes.all (fun k => k == .leftToRight || isNeutralClass k)
      && (last == .leftToRight || last == .europeanNumber)
  | first :: _ =>
    (first == .rightToLeft || first == .arabicLetter)
      && classes.all (fun k =>
        k == .rightToLeft || k == .arabicLetter || k == .arabicNumber || isNeutralClass k)
      && (last == .rightToLeft || last == .arabicLetter || last == .europeanNumber
        || last == .arabicNumber)
      && !(classes.contains .europeanNumber && classes.contains .arabicNumber)

/-! ## Labels -/

/-- Whether the surroundings of all characters are right, direction aside (`keepsDirection`). -/
def isWellFormed (label : List Char) : Bool :=
  !(label.head?.map isMark).getD false && joinersFit [] label

end PageRisk.Idna
