import PageRisk.Unicode.Lowercase

set_option autoImplicit false

/-! # Content security policies

A policy is a list of directives separated by `;`. A directive is its text in lower case, read as a
name followed by sources. Reading never fails: every text is a policy, and blank segments are no
directives. -/

namespace PageRisk.Csp

/-- One directive of a policy. -/
structure Directive where
  /-- The whole directive, trimmed and in lower case. -/
  text : String
  /-- The first word of the text, such as `script-src`. -/
  name : String
  /-- The words after the name. -/
  sources : List String
  deriving DecidableEq, Repr

/-- A policy: its directives in the order of declaration. -/
structure Policy where
  directives : List Directive
  deriving DecidableEq, Repr

namespace Directive

/-- The directive of one segment of a policy, in lower case; a blank segment holds none. -/
def ofSegment? (segment : List Char) : Option Directive :=
  let text := Unicode.lowercase (Text.trim segment)
  match Text.words text with
  | [] => none
  | name :: sources => some ⟨String.ofList text, String.ofList name, sources.map String.ofList⟩

/-- Whether the directive has the name. -/
def isNamed (d : Directive) (name : String) : Bool :=
  d.name == name

/-- Whether the word is one of the directive's sources. -/
def hasSource (d : Directive) (source : String) : Bool :=
  d.sources.contains source

/-- Whether the text of the directive contains `needle`. -/
def mentions (d : Directive) (needle : String) : Bool :=
  Text.occursIn needle.toList d.text.toList

end Directive

namespace Policy

/-- The policy that a text declares: a directive for each segment between semicolons that is not blank. -/
def parse (text : String) : Policy :=
  ⟨(Text.pieces (· == ';') text.toList).filterMap Directive.ofSegment?⟩

/-- The directives with the given name (`isNamed`), in the order of declaration. -/
def named (p : Policy) (name : String) : List Directive :=
  p.directives.filter (·.isNamed name)

/-- Whether some directive `mentions` the `needle`. -/
def mentions (p : Policy) (needle : String) : Bool :=
  p.directives.any (·.mentions needle)

end Policy

end PageRisk.Csp
