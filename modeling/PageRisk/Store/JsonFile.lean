import PageRisk.Files.Disk
import PageRisk.Json.Document
import PageRisk.Json.Printer
import PageRisk.Services

set_option autoImplicit false

/-! # A store in a file

The store is one JSON object in a file. Every operation reads the file anew (`readAll`), so that several
programs can share it. A change writes the whole object to a second file beside the first and renames it
into place (`writeAll`), so that nobody finds an object that is written in part. A file that is missing or
blank holds no entries; one that holds anything but an object is left alone. -/

namespace PageRisk.Store

open Files

/-- Work on files that may fail. -/
abbrev FileTask (α : Type) : Type :=
  ExceptT GuardError (Program files) α

/-- One operation on files, its failure as a `GuardError`. -/
def attempt {α : Type} (p : Program files (Except FileError α)) : FileTask α :=
  ExceptT.mk (p.andThen fun
    | .ok a => .done (.ok a)
    | .error e => .done (.error (.file e)))

/-- The entries that the contents of a store's file stand for. -/
def entriesOf (path : String) (contents : ByteArray) : Except GuardError (Table Json) :=
  match String.fromUTF8? contents with
  | none => .error (.file .notText)
  | some text =>
    if Text.allBlank text.toList then .ok Table.empty
    else match Json.parse text with
      | .error description => .error (.json description)
      | .ok (.object members) => .ok (Table.ofList members)
      | .ok other =>
        .error (.storage (path ++ " does not hold a JSON object (found " ++ other.kind ++ ")"))

/-- The contents of a store's file with these entries, pretty and by ascending keys; `entriesOf` reads
    them. -/
def contentsOf (entries : Table Json) : ByteArray :=
  (Json.object entries.toList).prettyText.toUTF8

/-- Reads all entries; a file that `FileOp.probe` does not find holds none. -/
def readAll (path : String) : FileTask (Table Json) := do
  if ← ExceptT.lift (perform (.probe path)) then
    let contents ← attempt (perform (.read path))
    ExceptT.mk (.done (entriesOf path contents))
  else
    return Table.empty

/-- The file that new contents are written to before they take the place of the old ones. -/
def temporaryPath (path : String) : String :=
  withExtension path "json.tmp"

/-- Writes all entries, to `temporaryPath` first. -/
def writeAll (path : String) (entries : Table Json) : FileTask Unit := do
  attempt (perform (.write (temporaryPath path) (contentsOf entries)))
  attempt (perform (.rename (temporaryPath path) path))

/-- Opens a store: makes the directory that its file is in. -/
def openFile (path : String) : FileTask Unit :=
  match parent? path with
  | none => return ()
  | some "" => return ()
  | some directory => attempt (perform (.makeDirectories directory))

/-- The work that an operation of the store takes. Nothing is written where nothing is removed. -/
def fileTask (path : String) : (op : StoreOp) → FileTask op.Result
  | .get keys => return Table.ofList ((← readAll path).drain keys)
  | .set entries => do writeAll path ((← readAll path).insertAll entries.toList)
  | .remove keys => do
    let old ← readAll path
    let new := old.eraseAll keys
    if new.size != old.size then writeAll path new
  | .keys => return (← readAll path).keys

/-- The answer of a store in a file, as a `Program` on files. -/
def jsonFile (path : String) (op : StoreOp) : Program files op.Answer :=
  (fileTask path op).run

end PageRisk.Store
