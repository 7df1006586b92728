import PatternBook.Mode

/-!
# Libraries

The populated result of a run: sections with their files, and the records and diagnostics of each
file; with what the page needs to know beside them.
-/

namespace PatternBook

/-- Where the document goes. -/
inductive Destination where
  /-- Nothing is written. -/
  | nowhere
  | directory (path : Path)
  deriving DecidableEq, Repr

/-- The word for writing nothing. -/
def Destination.nowhereName : Text := "none"

/-- The destination as text. -/
def Destination.toText : Destination → Text
  | .nowhere => nowhereName
  | .directory path => path.toText

/-- The title of a page that is given none. -/
def defaultTitle : Text := "Pattern Library"

/-- What the page shows around the records. -/
structure TemplateOptions where
  title          : Text := defaultTitle
  /-- A class around each example. -/
  selectorPrefix : Option Text := none
  /-- Stylesheets for the examples. -/
  assets         : List Text := []
  deriving DecidableEq, Repr

/-- Stylesheets and scripts that the page links. -/
structure Includes where
  css : List Text := []
  js  : List Text := []
  deriving DecidableEq, Repr

/-- A discovered file. -/
structure SourceFile where
  path        : Path
  /-- In lower case and without its dot. -/
  extension   : Text
  /-- What was read of it, unless reading failed. -/
  text?       : Option Text := none
  records     : List Record := []
  diagnostics : List Diagnostic := []
  deriving DecidableEq, Repr

namespace SourceFile

/-- The file at a path, not read yet. -/
def ofPath (path : Path) : SourceFile := { path := path, extension := path.extension }

/-- The file with what its text says: its records are replaced and its diagnostics are added to.
A file without text stays as it is. -/
def process (mode : Option Mode) (policy : UntaggedPolicy) (file : SourceFile) : SourceFile :=
  match file.text? with
  | none => file
  | some text =>
    let (family, dialect) := Mode.resolve mode file.extension
    let found := Findings.ofSource family dialect policy text
    { file with
      records := found.records.map fun r =>
        { r with sourcePath := file.path, sourceExtension := file.extension }
      diagnostics := file.diagnostics ++ found.diagnostics }

end SourceFile

/-- A section of the page. -/
structure Section where
  title  : Text
  mode   : Option Mode
  layout : Layout
  files  : List SourceFile
  deriving DecidableEq, Repr

namespace Section

/-- The records in output order: by file, and in source order. -/
def records (s : Section) : List Record := s.files.flatMap (·.records)

/-- Every file of the section is processed. -/
def process (policy : UntaggedPolicy) (s : Section) : Section :=
  { s with files := s.files.map (SourceFile.process s.mode policy) }

end Section

/-- The result of a run. -/
structure Library where
  destination : Destination
  template    : TemplateOptions
  includes    : Includes
  sections    : List Section
  /-- The document, if one was written. -/
  output      : Option Path
  deriving DecidableEq, Repr

namespace Library

/-- The records in output order. -/
def records (l : Library) : List Record := l.sections.flatMap (·.records)

/-- The files in output order. -/
def files (l : Library) : List SourceFile := l.sections.flatMap (·.files)

/-- Some file has a diagnostic. -/
def hasDiagnostics (l : Library) : Bool := l.files.any (!·.diagnostics.isEmpty)

end Library

end PatternBook
