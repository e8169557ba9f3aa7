import PageRisk.Unicode.Lowercase
import PageRisk.Url.Locate

set_option autoImplicit false

/-! # Host names as keys

The cache and the allowlist know a site by a key made of its host name or of any of its URLs: in lower
case, without scheme, user, port, path, the full stops at its end and a leading `www.`. -/

namespace PageRisk.Hostname

/-- The host in a text that is no URL, by its punctuation alone: what stands after `://`, before a path,
    query or fragment, after the last `@`, and before a colon with digits only. -/
def stripManually (cs : List Char) : List Char :=
  let afterScheme := match Text.cutAt? "://".toList cs with
    | some (_, rest) => rest
    | none => cs
  let authority := afterScheme.takeWhile fun c => !(c == '/' || c == '?' || c == '#')
  let host := match Text.cutAtLast? '@' authority with
    | some (_, rest) => rest
    | none => authority
  match Text.cutAtLast? ':' host with
  | some (name, port) => if port.all Char.isDigit then name else host
  | none => host

/-- The host in a trimmed text, before it is brought to the form of a key: by `Url.locateHost?`, or else by
    `stripManually`. -/
def hostPart (cs : List Char) : List Char :=
  match if Text.occursIn "://".toList cs then Url.locateHost? cs else none with
  | some host => host
  | none => stripManually cs

/-- A host without a leading `www.`, unless nothing would be left. -/
def dropWww : List Char → List Char
  | 'w' :: 'w' :: 'w' :: '.' :: c :: rest => c :: rest
  | host => host

/-- The key of a host name or URL, as characters. -/
def normalizeChars (cs : List Char) : List Char :=
  dropWww (Unicode.lowercase (Text.dropLastWhile (· == '.') (hostPart (Text.trim cs))))

/-- The key of a host name or URL: `normalizeChars` as a text. -/
def normalize (text : String) : String :=
  String.ofList (normalizeChars text.toList)

end PageRisk.Hostname
