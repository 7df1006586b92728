import PatternBook.CommandLine.Execution

/-!
# The command line

The shell around the program: it copies the places where the program looks into a disk, lets the
program work on that disk, and carries out what has changed there.
-/

namespace PatternBook.Shell

/-! ### Looking -/

/-- The system's name for a location. -/
def systemName (l : Location) : String :=
  String.ofList ('/' :: Text.joinWith "/" (l.map Utf8.decode))

/-- What is at a name in the system, with all that is in it and may be read. -/
partial def entryAt? (name : String) : IO (Option Entry) := do
  try
    let path ← IO.FS.realPath name
    if ← path.isDir then
      let mut inner := Directory.empty
      for child in ← path.readDir do
        if let some entry ← entryAt? (name ++ "/" ++ child.fileName) then
          inner := inner.set (Utf8.encode child.fileName.toList) entry
      return some (.folder inner)
    else
      return some (.file (← IO.FS.readBinFile path).toList)
  catch _ => return none

/-- A name in the system is that of a directory. -/
def isFolder (name : String) : IO Bool := do
  try (← IO.FS.realPath name).isDir
  catch _ => return false

/-- The disk with a location copied from the system, but for the root. -/
def copy (d : Disk) (l : Location) : IO Disk := do
  if l.isEmpty then return d
  match ← entryAt? (systemName l) with
  | some entry => return d.put l entry
  | none => return d

/-- The disk with the parts of a path copied from the system, one after the other: directories on
the way without what is in them, and the last part with all. -/
def follow (d : Disk) (here : Location) : List Bytes → IO Disk
  | [] => return d
  | part :: rest => do
    let next :=
      match d.follow here part with
      | .ok next => next
      | .error _ => here ++ [part]
    if rest.isEmpty then copy d next
    else if d.isFolderAt next then follow d next rest
    else if ← isFolder (systemName next) then
      follow (d.put next (.folder .empty)) next rest
    else copy d next

/-- The disk with what a path stands for copied from the system. -/
def look (d : Disk) (p : Path) : IO Disk := follow d (d.startOf p) (Path.splitParts p.bytes)

/-- The disk with nothing but the working directory. -/
def bareDisk : IO Disk := do
  let here ← IO.currentDir
  let current := (Path.splitParts (Utf8.encode here.toString.toList)).filter (· ≠ [])
  let folders := (List.range current.length).map fun n => current.take (n + 1)
  return folders.foldl (fun d l => d.put l (.folder .empty)) ⟨.empty, current⟩

/-- The disk with the places where the program looks. -/
def snapshot (arguments : List Text) : IO Disk := do
  let bare ← bareDisk
  let withConfig ← (CommandLine.places arguments bare).foldlM look bare
  (CommandLine.places arguments withConfig).foldlM look withConfig

/-! ### Acting -/

/-- Carries out one change. -/
def carryOut (change : Location × Option Bytes) : IO Unit := do
  match change with
  | (l, none) => IO.FS.createDirAll (systemName l)
  | (l, some content) => IO.FS.writeBinFile (systemName l) (.mk content.toArray)

/-- Runs the program on the system's files. -/
def run (arguments : List Text) : IO UInt32 := do
  let before ← snapshot arguments
  let outcome := CommandLine.program arguments before
  (outcome.disk.changesSince before).forM carryOut
  for notice in outcome.log do
    IO.eprintln (String.ofList (CommandLine.logLine notice))
  IO.print (String.ofList outcome.output)
  if let some complaint := outcome.error then
    IO.eprintln (String.ofList complaint)
  return outcome.code.toUInt32

end PatternBook.Shell

/-- The program, run on the system's files. -/
def main (arguments : List String) : IO UInt32 :=
  PatternBook.Shell.run (arguments.map String.toList)
