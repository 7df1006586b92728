import PatternBook.Disk.Directory
import PatternBook.Path

/-!
# Disks

A tree of directories and the place from which relative paths are looked up.  Every operation is a
function of the disk; one that fails names its cause, and one that makes several directories may
leave some of them behind when it fails.
-/

namespace PatternBook

/-- Why an operation on files fails. -/
inductive FileError where
  | notFound
  | notDirectory
  | isDirectory
  | alreadyThere
  | nameTooLong
  /-- A path with a zero byte. -/
  | zeroByte
  | notUtf8
  /-- A cause in the words of whoever reports it. -/
  | other (message : Text)
  deriving DecidableEq, Repr

/-- The wording of a cause. -/
def FileError.message : FileError → Text
  | .notFound => "No such file or directory (os error 2)"
  | .notDirectory => "Not a directory (os error 20)"
  | .isDirectory => "Is a directory (os error 21)"
  | .alreadyThere => "File exists (os error 17)"
  | .nameTooLong => "File name too long (os error 36)"
  | .zeroByte => "file name contained an unexpected NUL byte"
  | .notUtf8 => "stream did not contain valid UTF-8"
  | .other message => message

/-- A tree of directories, and the location where relative paths start. -/
structure Disk where
  root    : Directory
  current : Location
  deriving DecidableEq, Repr

namespace Disk

/-! ### Following paths -/

/-- The greatest length of a name, in bytes. -/
def maxName : Nat := 255

/-- The length that a path must stay below, in bytes. -/
def maxPath : Nat := 4096

/-- The location is a directory. -/
def isFolderAt (d : Disk) (l : Location) : Bool :=
  match d.root.at? l with
  | some (.folder _) => true
  | _ => false

/-- One part of a path is followed from a location, which must be a directory. -/
def follow (d : Disk) (here : Location) (part : Bytes) : Except FileError Location :=
  if !d.isFolderAt here then .error .notDirectory
  else if part = [] ∨ part = [Path.dot] then .ok here
  else if part = [Path.dot, Path.dot] then .ok here.dropLast
  else if maxName < part.length then .error .nameTooLong
  else if (d.root.at? (here ++ [part])).isSome then .ok (here ++ [part])
  else .error .notFound

/-- Parts of a path, one after the other. -/
def followAll (d : Disk) (here : Location) : List Bytes → Except FileError Location
  | [] => .ok here
  | part :: rest =>
    match d.follow here part with
    | .ok next => d.followAll next rest
    | .error e => .error e

/-- Where the parts of a path start. -/
def startOf (d : Disk) (p : Path) : Location := if p.isAbsolute then [] else d.current

/-- A path that cannot name anything. -/
def checkPath (p : Path) : Except FileError Unit :=
  if 0 ∈ p.bytes then .error .zeroByte
  else if p.bytes.isEmpty then .error .notFound
  else if maxPath ≤ p.bytes.length then .error .nameTooLong
  else .ok ()

/-- The location of a path. -/
def locate (d : Disk) (p : Path) : Except FileError Location := do
  checkPath p
  d.followAll (d.startOf p) (Path.splitParts p.bytes)

/-- What a path stands for. -/
def entry? (d : Disk) (p : Path) : Option Entry :=
  match d.locate p with
  | .ok l => d.root.at? l
  | .error _ => none

/-- The path stands for something. -/
def exists? (d : Disk) (p : Path) : Bool := (d.entry? p).isSome

/-- The directory that the path stands for. -/
def folder? (d : Disk) (p : Path) : Option Directory :=
  match d.entry? p with
  | some (.folder inner) => some inner
  | _ => none

/-- The path stands for a file. -/
def isFile (d : Disk) (p : Path) : Bool :=
  match d.entry? p with
  | some (.file _) => true
  | _ => false

/-- What is on the disk and was not so on an older one, a directory before what is in it. -/
def changesSince (d older : Disk) : List (Location × Option Bytes) :=
  let before := older.root.listing []
  (d.root.listing []).filter fun e => !before.contains e

/-! ### Reading -/

/-- The text of a file. -/
def readText (d : Disk) (p : Path) : Except FileError Text := do
  let l ← d.locate p
  match d.root.at? l with
  | some (.file content) =>
    match Utf8.decode? content with
    | some t => .ok t
    | none => .error .notUtf8
  | some (.folder _) => .error .isDirectory
  | none => .error .notFound

/-! ### Writing -/

/-- The disk with an entry at a location. -/
def put (d : Disk) (l : Location) (entry : Entry) : Disk :=
  { d with root := d.root.put entry l }

/-- The parts without those that are empty at the end. -/
def dropTrailing (parts : List Bytes) : List Bytes :=
  (parts.reverse.dropWhile (·.isEmpty)).reverse

/-- A directory is made. -/
def makeFolder (d : Disk) (p : Path) : Except FileError Disk := do
  checkPath p
  match (dropTrailing (Path.splitParts p.bytes)).reverse with
  | [] => .error .alreadyThere
  | last :: before =>
    let here ← d.followAll (d.startOf p) before.reverse
    if !d.isFolderAt here then .error .notDirectory
    else if last = [Path.dot] ∨ last = [Path.dot, Path.dot] then .error .alreadyThere
    else if maxName < last.length then .error .nameTooLong
    else if (d.root.at? (here ++ [last])).isSome then .error .alreadyThere
    else .ok (d.put (here ++ [last]) (.folder .empty))

/-- The paths are made directories from the last one on, each inside the one after it; a path that
is a directory already is passed over. -/
def makeNested (d : Disk) : List Path → Disk × Option FileError
  | [] => (d, none)
  | p :: outer =>
    match d.makeFolder p with
    | .ok made => (made, none)
    | .error .notFound =>
      match d.makeNested outer with
      | (made, some e) => (made, some e)
      | (made, none) =>
        match made.makeFolder p with
        | .ok made => (made, none)
        | .error e => (made, if (made.folder? p).isSome then none else some e)
    | .error e => (d, if (d.folder? p).isSome then none else some e)

/-- A directory is made with the directories it is in. -/
def makeFolders (d : Disk) (p : Path) : Disk × Option FileError :=
  if p.bytes.isEmpty then (d, none) else d.makeNested (p :: p.parents)

/-- A file is written, in place of one that is there. -/
def writeFile (d : Disk) (p : Path) (content : Bytes) : Except FileError Disk := do
  checkPath p
  match (Path.splitParts p.bytes).reverse with
  | [] => .error .notFound
  | last :: before =>
    let here ← d.followAll (d.startOf p) before.reverse
    if !d.isFolderAt here then .error .notDirectory
    else if last = [] ∨ last = [Path.dot] ∨ last = [Path.dot, Path.dot] then .error .isDirectory
    else if maxName < last.length then .error .nameTooLong
    else
      match d.root.at? (here ++ [last]) with
      | some (.folder _) => .error .isDirectory
      | _ => .ok (d.put (here ++ [last]) (.file content))

end Disk

end PatternBook
