import PageRisk.Error
import PageRisk.Files.Path
import PageRisk.Program
import PageRisk.Table

set_option autoImplicit false

/-! # Files

The operations on files that the program needs (`FileOp`), as an interface, and a disk on which they can be
run: a finite tree of files and directories. Links and permissions are left out. A path leads to one place,
no two places share a file, and nothing but what is found on the way makes an operation fail; what is proved
of disks is to be read so. -/

namespace PageRisk.Files

/-! ## The interface -/

/-- The operations on files. -/
inductive FileOp where
  /-- Whether there is a file or directory. -/
  | probe (path : String)
  | read (path : String)
  /-- Writes a whole file, in place of what it held. -/
  | write (path : String) (contents : ByteArray)
  | rename (source target : String)
  /-- Makes a directory and those it lies in, as far as they are missing. -/
  | makeDirectories (path : String)

/-- The answers of operations on files. -/
abbrev FileOp.Answer : FileOp → Type
  | probe _ => Bool
  | read _ => Except FileError ByteArray
  | write _ _ => Except FileError Unit
  | rename _ _ => Except FileError Unit
  | makeDirectories _ => Except FileError Unit

/-- The files as an interface. -/
def files : Interface :=
  ⟨FileOp, FileOp.Answer⟩

/-- A `FileOp` as a program. -/
def perform (op : FileOp) : Program files op.Answer :=
  Program.ask (I := files) op

/-! ## A disk -/

/-- What can be found at a location. -/
inductive Node where
  | file (contents : ByteArray)
  | directory

instance : DecidableEq Node
  | .file a, .file b =>
    match ByteArray.instDecidableEq a b with
    | isTrue h => isTrue (h ▸ rfl)
    | isFalse h => isFalse fun e => h (Node.file.inj e)
  | .directory, .directory => isTrue rfl
  | .file _, .directory => isFalse nofun
  | .directory, .file _ => isFalse nofun

/-- A tree of files: a table of what is at each location below the root, and the working directory. A
    location is written as its names joined by `/`, the root as nothing. -/
structure Disk where
  nodes : Table Node
  workingDirectory : List String
  deriving DecidableEq

namespace Disk

/-- The key of a location. -/
def key (location : List String) : String :=
  String.intercalate "/" location

/-- What is at a location. -/
def node? (d : Disk) (location : List String) : Option Node :=
  if location.isEmpty then some .directory else d.nodes.get? (key location)

/-- Success if there is a directory at the location. -/
def checkDirectory (d : Disk) (location : List String) : Except FileError Unit :=
  match d.node? location with
  | none => .error .notFound
  | some (.file _) => .error .notADirectory
  | some .directory => .ok ()

/-- Follows names from a location. All but the last must lead to directories. -/
def follow (d : Disk) (location : List String) : List String → Except FileError (List String)
  | [] => .ok location
  | name :: rest =>
    match d.checkDirectory location with
    | .error e => .error e
    | .ok _ =>
      if name == "" || name == "." then d.follow location rest
      else if name == ".." then d.follow location.dropLast rest
      else if 255 < name.utf8ByteSize then .error .nameTooLong
      else d.follow (location ++ [name]) rest

/-- The number of bytes that a path must stay below. -/
def pathLimit : Nat := 4096

/-- The names in a path, or why it names nothing anywhere. -/
def names (path : String) : Except FileError (List String) :=
  let cs := path.toList
  if cs.isEmpty then .error .notFound
  else if cs.contains '\x00' then .error .nulInPath
  else if pathLimit ≤ path.utf8ByteSize then .error .nameTooLong
  else .ok ((Text.pieces (· == '/') cs).map String.ofList)

/-- The location at which the first name of a path is looked for. -/
def startOf (d : Disk) (path : String) : List String :=
  if path.toList.head? == some '/' then [] else d.workingDirectory

/-- The location that a path names. Where the path ends in a separator, it must lead to a directory. -/
def locate (d : Disk) (path : String) : Except FileError (List String) :=
  (names path).bind (d.follow (d.startOf path))

/-- The location that a path names, like `locate`, but whether or not the path ends in a separator. -/
def locateEntry (d : Disk) (path : String) : Except FileError (List String) :=
  (names path).bind fun names => d.follow (d.startOf path) (Text.dropLastWhile (· == "") names)

/-- Whether a path can only name a directory. -/
def endsInSeparator (path : String) : Bool :=
  path.toList.getLast? == some '/'

/-- Success if what a path names would stand in a directory. -/
def checkParent (d : Disk) (path : String) : Except FileError Unit :=
  (names path).bind fun names =>
    let before := (Text.dropLastWhile (· == "") names).dropLast
    (d.follow (d.startOf path) (before ++ ["."])).map fun _ => ()

/-- What a path leads to. -/
def find? (d : Disk) (path : String) : Option Node :=
  match d.locate path with
  | .error _ => none
  | .ok location => d.node? location

/-- The disk with something at a location. -/
def put (d : Disk) (location : List String) (node : Node) : Disk :=
  { d with nodes := d.nodes.insert (key location) node }

/-- The disk with nothing at a location. -/
def remove (d : Disk) (location : List String) : Disk :=
  { d with nodes := d.nodes.erase (key location) }

/-- The contents of a file. -/
def read (d : Disk) (path : String) : Except FileError ByteArray :=
  match d.locate path with
  | .error e => .error e
  | .ok location => match d.node? location with
    | none => .error .notFound
    | some .directory => .error .isADirectory
    | some (.file contents) => .ok contents

/-- The disk after a file was written. -/
def write (d : Disk) (path : String) (contents : ByteArray) : Except FileError Disk :=
  if endsInSeparator path then (d.checkParent path).bind fun _ => .error .isADirectory
  else match d.locate path with
    | .error e => .error e
    | .ok location =>
      if d.node? location == some .directory then .error .isADirectory
      else .ok (d.put location (.file contents))

/-- The disk after a file was deleted. -/
def delete (d : Disk) (path : String) : Except FileError Disk :=
  match d.locate path with
  | .error e => .error e
  | .ok location => match d.node? location with
    | none => .error .notFound
    | some .directory => .error .isADirectory
    | some (.file _) => .ok (d.remove location)

/-- The disk after a file was renamed. -/
def rename (d : Disk) (source target : String) : Except FileError Disk :=
  match d.locate source, d.locateEntry target with
  | .error e, _ => .error e
  | _, .error e => .error e
  | .ok old, .ok new => match d.node? old, d.node? new with
    | none, _ => .error .notFound
    | some .directory, _ => .error .isADirectory
    | some (.file contents), found =>
      if endsInSeparator target then .error .notADirectory
      else if found == some .directory then .error .isADirectory
      else .ok ((d.remove old).put new (.file contents))

/-- The disk after a directory was made in one that exists. -/
def makeDirectory (d : Disk) (path : String) : Except FileError Disk :=
  match d.locate path with
  | .error e => .error e
  | .ok location => match d.node? location with
    | some _ => .error .alreadyExists
    | none => .ok (d.put location .directory)

/-- Whether the path leads to a directory. -/
def isDirectory (d : Disk) (path : String) : Bool :=
  d.find? path == some .directory

/-- The disk after a directory was made in a parent that need not exist: `retry` makes the parent. An
    existing directory is no failure. -/
def ensureDirectory (d : Disk) (path : String) (retry : Except FileError Disk) :
    Except FileError Disk :=
  match d.makeDirectory path with
  | .ok d' => .ok d'
  | .error .notFound => match retry with
    | .error e => .error e
    | .ok d' => match d'.makeDirectory path with
      | .ok d'' => .ok d''
      | .error e => if d'.isDirectory path then .ok d' else .error e
  | .error e => if d.isDirectory path then .ok d else .error e

/-- The disk after a directory and those it lies in were made; a path has fewer parents than
    characters. -/
def makeDirectories (d : Disk) : (fuel : Nat) → String → Except FileError Disk
  | 0, _ => .ok d
  | fuel + 1, path =>
    if path.isEmpty then .ok d
    else d.ensureDirectory path (match parent? path with
      | none => .error (.other "failed to create whole tree")
      | some parent => d.makeDirectories fuel parent)

/-- Applies a change that may fail, in which case the disk stays as it is. -/
def change (result : Disk → Except FileError Disk) : StateM Disk (Except FileError Unit) := fun d =>
  match result d with
  | .ok d' => (.ok (), d')
  | .error e => (.error e, d)

/-- Runs one `FileOp` on the disk. -/
def answer : (op : FileOp) → StateM Disk op.Answer
  | .probe path => return ((← get).find? path).isSome
  | .read path => return (← get).read path
  | .write path contents => change (·.write path contents)
  | .rename source target => change (·.rename source target)
  | .makeDirectories path => change fun d => d.makeDirectories (path.length + 1) path

end Disk

end PageRisk.Files
