import PageRisk.Json.Scalar

set_option autoImplicit false

/-! # Passing over values

A value nobody asks for is passed over. Only its grammar is checked: numbers may be of any size,
escapes need not name characters, and lists and objects may be nested to any depth. -/

namespace PageRisk.Json

/-- Passes over the digits of an exponent after its letter. -/
def skipExponent : Reader Unit := fun cs =>
  let cs := match cs with
    | '+' :: rest => rest
    | '-' :: rest => rest
    | _ => cs
  if (cs.headD ' ').isDigit then .ok ((), cs.dropWhile Char.isDigit)
  else .error (syntaxNext .invalidNumber cs)

/-- Passes over what may follow the mantissa. -/
def skipExponent? : Reader Unit := fun cs =>
  match cs with
  | 'e' :: rest => skipExponent rest
  | 'E' :: rest => skipExponent rest
  | _ => .ok ((), cs)

/-- Passes over a number without its sign. -/
def skipUnsigned : Reader Unit := fun cs =>
  let second := cs.tail.headD ' '
  if !(cs.headD ' ').isDigit then .error (syntaxNext .invalidNumber cs)
  else if cs.headD ' ' == '0' && second.isDigit then .error (syntaxNext .invalidNumber cs.tail)
  else match cs.dropWhile Char.isDigit with
    | '.' :: rest =>
      if (rest.headD ' ').isDigit then skipExponent? (rest.dropWhile Char.isDigit)
      else .error (syntaxNext .invalidNumber rest)
    | rest => skipExponent? rest

/-- Passes over a string after its opening quote. A control character is refused at the place before it,
    where a string that is read is refused after it. -/
def skipString : List Char → Except Fault (Unit × List Char)
  | [] => .error (syntaxHere .endInString [])
  | '"' :: rest => .ok ((), rest)
  | '\\' :: [] => .error (syntaxHere .endInString [])
  | '\\' :: 'u' :: a :: b :: c :: d :: rest =>
    match hex4? a b c d with
    | none => .error (hexFault (a :: b :: c :: d :: rest))
    | some _ => skipString rest
  | '\\' :: 'u' :: rest => .error (hexFault rest)
  | '\\' :: e :: rest =>
    match simpleEscape? e with
    | some _ => skipString rest
    | none => .error (syntaxNext .invalidEscape (e :: rest))
  | c :: rest =>
    if c < ' ' then .error (syntaxHere .controlCharacter (c :: rest)) else skipString rest

/-- The brackets that are open around the place that is read. -/
inductive Bracket where
  | list
  | object
  deriving DecidableEq, Repr

/-- The fault of a text that ends inside the bracket. -/
def Bracket.endFault : Bracket → SyntaxError
  | list => .endInList
  | object => .endInObject

/-- The fault of a text that neither goes on nor ends inside the bracket. -/
def Bracket.separatorFault : Bracket → SyntaxError
  | list => .expectedListCommaOrEnd
  | object => .expectedObjectCommaOrEnd

/-- The character that closes the bracket. -/
def Bracket.closing : Bracket → Char
  | list => ']'
  | object => '\x7d'

/-- Passes over the name of a member and its colon, where the bracket is that of an object. -/
def skipName (bracket : Bracket) : Reader Unit := fun cs =>
  match bracket with
  | .list => .ok ((), cs)
  | .object =>
    match skipSpace cs with
    | [] => .error (syntaxNext .endInObject [])
    | '"' :: rest =>
      (skipString rest).bind fun (_, rest) =>
        match skipSpace rest with
        | [] => .error (syntaxNext .endInObject [])
        | ':' :: rest => .ok ((), rest)
        | rest => .error (syntaxNext .expectedColon rest)
    | rest => .error (syntaxNext .keyMustBeString rest)

/-- Where a walk over a value stands. -/
inductive SkipStage where
  /-- A value must come. -/
  | value
  /-- A bracket has just been opened. -/
  | opened
  /-- A value has just ended. -/
  | ended
  deriving DecidableEq, Repr

/-- Passes over one value with the brackets that are open around it, by its `SkipStage`; between two
    characters at most two steps are taken. -/
def skipFrom : (fuel : Nat) → SkipStage → List Bracket → Reader Unit
  | 0, _, _, cs => .error (syntaxHere .endInValue cs)
  | fuel + 1, .value, brackets, cs =>
    match skipSpace cs with
    | [] => .error (syntaxNext .endInValue [])
    | 'n' :: rest => (word "ull".toList rest).bind fun (_, rest) => skipFrom fuel .ended brackets rest
    | 't' :: rest => (word "rue".toList rest).bind fun (_, rest) => skipFrom fuel .ended brackets rest
    | 'f' :: rest => (word "alse".toList rest).bind fun (_, rest) => skipFrom fuel .ended brackets rest
    | '"' :: rest => (skipString rest).bind fun (_, rest) => skipFrom fuel .ended brackets rest
    | '-' :: rest => (skipUnsigned rest).bind fun (_, rest) => skipFrom fuel .ended brackets rest
    | '[' :: rest => skipFrom fuel .opened (.list :: brackets) rest
    | '\x7b' :: rest => skipFrom fuel .opened (.object :: brackets) rest
    | c :: rest =>
      if c.isDigit then
        (skipUnsigned (c :: rest)).bind fun (_, rest) => skipFrom fuel .ended brackets rest
      else .error (syntaxNext .expectedValue (c :: rest))
  | _ + 1, _, [], cs => .ok ((), cs)
  | fuel + 1, .opened, bracket :: outer, cs =>
    match skipSpace cs with
    | [] => .error (syntaxNext bracket.endFault [])
    | c :: rest =>
      if c == bracket.closing then skipFrom fuel .ended outer rest
      else (skipName bracket (c :: rest)).bind fun (_, rest) =>
        skipFrom fuel .value (bracket :: outer) rest
  | fuel + 1, .ended, bracket :: outer, cs =>
    match skipSpace cs with
    | [] => .error (syntaxNext bracket.endFault [])
    | c :: rest =>
      if c == ',' then
        (skipName bracket rest).bind fun (_, rest) => skipFrom fuel .value (bracket :: outer) rest
      else if c == bracket.closing then skipFrom fuel .ended outer rest
      else .error (syntaxNext bracket.separatorFault (c :: rest))

/-- Passes over one value: `skipFrom` without brackets. -/
def skipValue : Reader Unit := fun cs =>
  skipFrom (2 * cs.length + 2) .value [] cs

end PageRisk.Json
