import PatternBook.Renderer
import PatternBook.Run.Report

/-!
# Runs

A run checks the settings, expands the patterns of each section, reads each file, collects what
the files say, and writes the document.  Each step happens only after the one before it has
succeeded.  Patterns are expanded by one task for each section, and files are read by one task for
each file; the tasks of a step may finish in any order (`Schedule`), and their answers go to the
places that were laid out for them.
-/

namespace PatternBook

/-- Reads a file. -/
abbrev Reader := Path → Except (Mishap FileError) Text

/-- Who a run asks. -/
structure Collaborators where
  expand   : Globber
  read     : Reader
  renderer : Renderer

/-- The order in which the tasks of a step finish: of sections, and of files by their places. -/
structure Schedule where
  sections : List Nat → List Nat := id
  files    : List (Nat × Nat) → List (Nat × Nat) := id

namespace Run

/-! ### Discovery -/

/-- The files of the sections, as their tasks finish one after the other. -/
def gather (expand : Globber) (sections : List SectionConfig) (slots : List (List Path)) :
    (finished : List Nat) → Except Rejection (List (List Path))
  | [] => .ok slots
  | i :: rest =>
    match sections[i]? with
    | none => gather expand sections slots rest
    | some s =>
      match Discovery.expandAll expand s.files with
      | .ok paths => gather expand sections (slots.set i paths) rest
      | .error (.failure e) => .error (.discovery e)
      | .error (.crash reason) => .error (.crash reason)

/-- The files of all sections. -/
def discover (expand : Globber) (schedule : Schedule) (config : Config) :
    Except Rejection (List (List Path)) :=
  gather expand config.sections (config.sections.map fun _ => [])
    (schedule.sections (List.range config.sections.length))

/-- The library with a place for each file, before anything is read. -/
def layOut (config : Config) (found : List (List Path)) : Library where
  destination := config.destination
  template := config.template
  includes := config.includes
  sections := (config.sections.zip found).map fun (s, paths) =>
    ⟨s.title, s.mode, s.layout, paths.map SourceFile.ofPath⟩
  output := none

/-! ### Reading -/

/-- The places of the files of a library. -/
def places (l : Library) : List (Nat × Nat) :=
  (List.range l.sections.length).flatMap fun s =>
    (List.range ((l.sections[s]?.map (·.files.length)).getD 0)).map fun f => (s, f)

/-- The file at a place. -/
def fileAt? (l : Library) (place : Nat × Nat) : Option SourceFile :=
  l.sections[place.1]?.bind fun s => s.files[place.2]?

/-- The library with the file at a place changed. -/
def updateFile (l : Library) (place : Nat × Nat) (change : SourceFile → SourceFile) : Library :=
  { l with sections := l.sections.modify place.1 fun s =>
      { s with files := s.files.modify place.2 change } }

/-- The diagnostic for a file that could not be read. -/
def unreadable (e : FileError) : Diagnostic := ⟨.unreadable, none, e.message⟩

/-- The library and the notices, as the tasks of files finish one after the other.  The first task
that breaks down ends the step; what was said before it stays said. -/
def readAll (read : Reader) (l : Library) (log : List Notice) :
    (finished : List (Nat × Nat)) → Except Rejection Library × List Notice
  | [] => (.ok l, log)
  | place :: rest =>
    match fileAt? l place with
    | none => readAll read l log rest
    | some file =>
      match read file.path with
      | .ok text =>
        readAll read (updateFile l place fun f => { f with text? := some text }) log rest
      | .error (.failure e) =>
        readAll read
          (updateFile l place fun f => { f with diagnostics := f.diagnostics ++ [unreadable e] })
          (log ++ [Notice.unreadable file.path e]) rest
      | .error (.crash reason) => (.error (.crash reason), log)

/-! ### Collecting -/

/-- Every section is processed. -/
def collect (policy : UntaggedPolicy) (l : Library) : Library :=
  { l with sections := l.sections.map (Section.process policy) }

/-- The notices of the problems in a library, but for files that could not be read. -/
def problemNotices (l : Library) : List Notice :=
  l.files.flatMap fun file =>
    (file.diagnostics.filter (·.problem ≠ .unreadable)).map (Notice.problem file.path)

/-! ### Writing -/

/-- The document in a directory. -/
def documentPath (folder : Path) (extension : Text) : Path :=
  folder.join (Path.ofText ("index." ++ extension))

/-- The document is written, unless the destination is to write nothing. -/
def write (renderer : Renderer) (l : Library) (d : Disk) :
    Except Rejection Library × List Notice × Disk :=
  match renderer.render l with
  | .error causes => (.error (.format renderer.extension causes), [], d)
  | .ok document =>
    match l.destination with
    | .nowhere => (.ok l, [Notice.nothingWritten], d)
    | .directory folder =>
      match d.makeFolders folder with
      | (made, some e) => (.error (.write folder e), [], made)
      | (made, none) =>
        let path := documentPath folder renderer.extension
        match made.writeFile path (Utf8.encode document) with
        | .error e => (.error (.write path e), [], made)
        | .ok written => (.ok { l with output := some path }, [], written)

end Run

/-! ### The whole run -/

/-- A run. -/
def run (c : Collaborators) (schedule : Schedule) (settings : Settings) (d : Disk) : Report :=
  match settings.validate with
  | .error v => .close (.error (.config v)) [] [] [] d
  | .ok config =>
    let patterns := config.sections.flatMap fun s => Discovery.tried c.expand s.files
    match Run.discover c.expand schedule config with
    | .error r => .close (.error r) patterns [] [] d
    | .ok found =>
      let laidOut := Run.layOut config found
      let reads := laidOut.files.map (·.path)
      let log := [Notice.discovered laidOut.files.length]
      match Run.readAll c.read laidOut log (schedule.files (Run.places laidOut)) with
      | (.error r, log) => .close (.error r) patterns reads log d
      | (.ok l, log) =>
        let collected := Run.collect config.untagged l
        let (result, notices, disk) := Run.write c.renderer collected d
        .close result patterns reads (log ++ Run.problemNotices collected ++ notices) disk

/-- The collaborators that work on a disk. -/
def Collaborators.onDisk (d : Disk) (base : Option Path) (renderer : Renderer) : Collaborators where
  expand := Discovery.globber d base
  read p :=
    match d.readText p with
    | .ok t => .ok t
    | .error e => .error (.failure e)
  renderer := renderer

/-- A run on a disk that writes a page. -/
def runOnDisk (settings : Settings) (d : Disk) : Report :=
  run (.onDisk d none .html) {} settings d

end PatternBook
