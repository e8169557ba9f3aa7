import PageRisk.Url.Host

set_option autoImplicit false

/-! # The host in a URL

Of a URL only its host is wanted. It stands between the scheme and the path, after user information and
before a port. Tabs and line ends in a URL mean nothing, nor do controls and spaces around it; in URLs
with special schemes a backslash is as good as a slash. A text that is no URL has no host, and some
URLs have none. -/

namespace PageRisk.Url

/-- What a scheme means for the rest of the URL. -/
inductive SchemeKind where
  | file
  | special
  | plain
  deriving DecidableEq, Repr

/-- The kind of a scheme in lower case. -/
def SchemeKind.ofName (scheme : List Char) : SchemeKind :=
  match String.ofList scheme with
  | "file" => .file
  | "http" | "https" | "ws" | "wss" | "ftp" => .special
  | _ => .plain

/-- The characters of a URL that mean something. -/
def significant (cs : List Char) : List Char :=
  let isEdge (c : Char) : Bool := c.toNat ≤ 0x20
  (Text.dropLastWhile isEdge (cs.dropWhile isEdge)).filter
    fun c => !(c == '\t' || c == '\n' || c == '\r')

/-- Whether the character may stand in a scheme after its first letter. -/
def isSchemeChar (c : Char) : Bool :=
  c.isAlphanum || c == '+' || c == '-' || c == '.'

/-- The scheme of a URL, in lower case, and what follows its colon. -/
def scheme? (cs : List Char) : Option (List Char × List Char) :=
  if !(cs.headD ' ').isAlpha then none
  else match cs.dropWhile isSchemeChar with
    | ':' :: rest => some ((cs.takeWhile isSchemeChar).map Char.toLower, rest)
    | _ => none

/-- Whether the character ends the part of a URL in which the host stands. -/
def endsAuthority (special : Bool) (c : Char) : Bool :=
  c == '/' || c == '?' || c == '#' || (special && c == '\\')

/-- The text up to the colon of a port: the first one outside brackets. -/
def beforePort (inBrackets : Bool) : List Char → List Char
  | [] => []
  | c :: rest =>
    if c == ':' && !inBrackets then []
    else c :: beforePort (if c == '[' then true else if c == ']' then false else inBrackets) rest

/-- Whether what follows a host is a port, or nothing: a colon with digits of a number of 16 bits. In a
    URL with a plain scheme a backslash ends the port too. -/
def isPort : List Char → Bool
  | [] => true
  | _ :: digits =>
    let number := digits.takeWhile Char.isDigit
    let rest := digits.dropWhile Char.isDigit
    digitsValue 10 number ≤ 65535 && (rest.isEmpty || rest.head? == some '\\')

/-- The host in the part of a URL after the slashes of its scheme; what stands behind it must be nothing or
    a port (`isPort`). -/
def hostInAuthority? (special : Bool) (cs : List Char) : Option (List Char) :=
  let authority := cs.takeWhile fun c => !endsAuthority special c
  let place := match Text.cutAtLast? '@' authority with
    | some (_, place) => place
    | none => authority
  let host := beforePort false place
  if !isPort (place.drop host.length) then none
  else if special then if host.isEmpty then none else host? host
  else opaqueHost? host

/-! ## File URLs -/

/-- Whether the text is a letter and a colon or bar, as drives are named. -/
def isDrive (cs : List Char) : Bool :=
  match cs with
  | [letter, mark] => letter.isAlpha && (mark == ':' || mark == '|')
  | _ => false

/-- Whether a part of a path stands for the directory it is in. -/
def isHere (part : List Char) : Bool :=
  [".", "%2e"].contains (String.ofList (part.map Char.toLower))

/-- Whether a part of a path stands for the directory above. -/
def isAbove (part : List Char) : Bool :=
  ["..", "%2e%2e", ".%2e", "%2e."].contains (String.ofList (part.map Char.toLower))

/-- Whether a path leads over a drive at its root; `depth` parts of it are open so far. -/
def leadsOverDrive (depth : Nat) : List (List Char) → Bool
  | [] => false
  | part :: rest =>
    if isHere part then leadsOverDrive depth rest
    else if isAbove part then leadsOverDrive (depth - 1) rest
    else (depth == 0 && isDrive part) || leadsOverDrive (depth + 1) rest

/-- The host of a file URL, after its two slashes. The local host is none, and neither is any host
    before a drive. -/
def fileHost? (cs : List Char) : Option (List Char) :=
  let isEnd (c : Char) : Bool := endsAuthority true c
  let name := cs.takeWhile fun c => !isEnd c
  let path := (cs.dropWhile fun c => !isEnd c).takeWhile fun c => c != '?' && c != '#'
  if isDrive name || name.isEmpty then none
  else match host? name with
    | none => none
    | some host =>
      if host == "localhost".toList then none
      else if leadsOverDrive 0 (Text.pieces (fun c => c == '/' || c == '\\') (path.drop 1)) then none
      else some host

/-- The host of the URL that a text is, by its `SchemeKind`. -/
def locateHost? (text : List Char) : Option (List Char) :=
  match scheme? (significant text) with
  | none => none
  | some (scheme, rest) =>
    let isSlash (c : Char) : Bool := c == '/' || c == '\\'
    match SchemeKind.ofName scheme, rest with
    | .special, _ => hostInAuthority? true (rest.dropWhile isSlash)
    | .plain, '/' :: '/' :: rest => hostInAuthority? false rest
    | .plain, _ => none
    | .file, a :: b :: rest => if isSlash a && isSlash b then fileHost? rest else none
    | .file, _ => none

end PageRisk.Url
