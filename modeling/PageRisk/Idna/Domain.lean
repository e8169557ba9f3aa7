import PageRisk.Idna.Label
import PageRisk.Idna.Punycode
import PageRisk.Text.Basic

set_option autoImplicit false

/-! # Host names in ASCII

The lookup form of a host name: its characters are mapped and composed, its labels checked, and the
labels with characters beyond ASCII encoded behind the mark `xn--`. A label that comes with the mark
must be the encoding of a label that could have been given itself. -/

namespace PageRisk.Idna

/-- The mark of an encoded label. -/
def mark : List Char :=
  ['x', 'n', '-', '-']

/-- Whether all characters are ASCII. -/
def isAscii (cs : List Char) : Bool :=
  cs.all (·.toNat < 128)

/-- The ASCII characters that no host name contains: controls, the space, and those with a meaning in
    URLs. -/
def isForbidden (c : Char) : Bool :=
  c.toNat ≤ 0x20 || c.toNat == 0x7F || "%#/:<>?@[\\]^|".toList.contains c

/-- The most characters of a label that is encoded. -/
def encodeLimit : Nat := 1000

/-- The most characters of a label that is decoded. -/
def decodeLimit : Nat := 2000

/-- The characters of the whole name by `mapping`, unless one is refused. -/
def mapChars : List Char → Option (List Char)
  | [] => some []
  | c :: rest => match mapping c with
    | .refused => none
    | .kept => (mapChars rest).map (c :: ·)
    | .dropped => mapChars rest
    | .replaced image => (mapChars rest).map (image ++ ·)

/-- A label with its characters in the open; an encoded label, by its `mark`, is decoded if it is right. -/
def openLabel (label : List Char) : Option (List Char) :=
  if mark.isPrefixOf label then
    let digits := label.drop mark.length
    if !isAscii label || decodeLimit < digits.length then none
    else match Punycode.decode digits with
      | none => none
      | some decoded =>
        if isAscii decoded || !decoded.all isValid || decoded.contains '.'
          || Unicode.normalize decoded != decoded then none
        else some decoded
  else some label

/-- A label in ASCII: as it is, or its `Punycode` encoding behind the `mark`. -/
def closeLabel (label : List Char) : Option (List Char) :=
  if isAscii label then some label
  else if encodeLimit < label.length then none
  else some (mark ++ Punycode.encode label)

/-- The lookup form of any host name, `isForbidden` characters aside. -/
def lookupForm (name : List Char) : Option (List Char) :=
  match mapChars name with
  | none => none
  | some mapped =>
    let labels := Text.pieces (· == '.') (Unicode.normalize mapped)
    match labels.mapM openLabel with
    | none => none
    | some opened =>
      if !opened.all isWellFormed then none
      else if opened.any (·.any isRightToLeft) && !opened.all keepsDirection then none
      else (opened.mapM closeLabel).map (List.intercalate ['.'])

/-- The lookup form of a host name. A name of ASCII characters without encoded labels is only brought to
    lower case. -/
def toAscii (name : List Char) : Option (List Char) :=
  let lowered := name.map Char.toLower
  let plain := isAscii name && !(Text.pieces (· == '.') lowered).any mark.isPrefixOf
  match if plain then some lowered else lookupForm name with
  | none => none
  | some result => if isAscii result && !result.any isForbidden then some result else none

end PageRisk.Idna
