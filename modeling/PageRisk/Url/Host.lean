import PageRisk.Idna.Domain
import PageRisk.Url.Ipv6

set_option autoImplicit false

/-! # Hosts of URLs

The host of a URL with one of the special schemes is a host name, which is brought to its lookup form,
or an address. The host of any other URL is opaque: it is only made safe to write down. -/

namespace PageRisk.Url

/-! ## Percent encoding -/

/-- The bytes of a text with every `%` and two hexadecimal digits replaced by the byte they stand for. -/
def percentDecode : List Char → List UInt8
  | [] => []
  | '%' :: a :: b :: rest =>
    if Json.isHexDigit a && Json.isHexDigit b then
      UInt8.ofNat (Unicode.hexValue [a, b]) :: percentDecode rest
    else 0x25 :: percentDecode (a :: b :: rest)
  | c :: rest => (String.singleton c).toUTF8.toList ++ percentDecode rest

/-- The text that is left when the percent encoding of a text is undone, if it is text. -/
def decodedText? (cs : List Char) : Option (List Char) :=
  if cs.contains '%' then
    (String.fromUTF8? ⟨(percentDecode cs).toArray⟩).map String.toList
  else some cs

/-- A byte behind a percent sign. -/
def percentByte (b : UInt8) : List Char :=
  let digit (n : Nat) : Char := (Nat.digitChar n).toUpper
  ['%', digit (b.toNat / 16), digit (b.toNat % 16)]

/-- A text in ASCII without controls: all other characters are replaced by the percent encoding of their
    bytes. -/
def percentEncode (cs : List Char) : List Char :=
  cs.flatMap fun c =>
    if 0x20 ≤ c.toNat && c.toNat < 0x7F then [c]
    else (String.singleton c).toUTF8.toList.flatMap percentByte

/-! ## Hosts -/

/-- The host between brackets, if the text has the brackets. -/
def bracketed? (cs : List Char) : Option (List Char) :=
  if cs.getLast? == some ']' then ipv6Address? cs.tail.dropLast |>.map ipv6Text else none

/-- A host name (`Idna.toAscii`) or an address. -/
def host? (cs : List Char) : Option (List Char) :=
  if cs.head? == some '[' then bracketed? cs
  else match (decodedText? cs).bind Idna.toAscii with
    | none => none
    | some name =>
      if name.isEmpty then none
      else if endsInNumber name then (ipv4Address? name).map ipv4Text
      else some name

/-- The characters that no opaque host contains. -/
def isForbiddenInOpaque (c : Char) : Bool :=
  "\x00\t\n\r #/:<>?@[\\]^|".toList.contains c

/-- An opaque host; an empty one is none. -/
def opaqueHost? (cs : List Char) : Option (List Char) :=
  if cs.head? == some '[' then bracketed? cs
  else if cs.isEmpty || cs.any isForbiddenInOpaque then none
  else some (percentEncode cs)

end PageRisk.Url
