import PageRisk.Text.Basic

set_option autoImplicit false

/-! # Paths

A path is text: names separated by `/`, from the root if it starts with `/` and else from the working
directory. Empty names and the name `.` mean nothing, but for a leading `.`, and `..` is the directory
above. -/

namespace PageRisk.Files

/-- A reversed path without the separators and the names `.` that it starts with; the root stays. -/
def dropTrailing : List Char → List Char
  | '/' :: c :: rest => dropTrailing (c :: rest)
  | '.' :: '/' :: rest => dropTrailing ('/' :: rest)
  | path => path

/-- The path of the directory that a path is in, if the path has a last name. -/
def parent? (path : String) : Option String :=
  let reversed := dropTrailing path.toList.reverse
  if reversed.isEmpty || reversed == ['/'] then none
  else some (String.ofList (dropTrailing (reversed.dropWhile (· != '/'))).reverse)

/-- The path with the extension of its last name replaced, or added if it has none. A path whose last
    name is no file name stays as it is, and a last name that is all extension after two dots loses it: what
    is left of it names the directory above, and nothing can be added to that. -/
def withExtension (path extension : String) : String :=
  let reversed := dropTrailing path.toList.reverse
  let name := (reversed.takeWhile (· != '/')).reverse
  let directory := (reversed.dropWhile (· != '/')).reverse
  let replaced (stem : List Char) : String :=
    String.ofList (directory ++ stem ++ '.' :: extension.toList)
  if name.isEmpty || name == ['.'] || name == ['.', '.'] then path
  else match Text.cutAtLast? '.' name with
    | some (['.'], _) =>
      if reversed.length == path.length then String.ofList (directory ++ ['.', '.'])
      else replaced ['.']
    | some ([], _) => replaced name
    | some (stem, _) => replaced stem
    | none => replaced name

end PageRisk.Files
