import PatternBook.Config.Validation
import PatternBook.Discovery

/-!
# Reports

What a run leaves behind: its result, what it asked of its collaborators, its notices in order, and
the disk.
-/

namespace PatternBook

/-! ### Notices -/

/-- How important a notice is. -/
inductive Level where
  | debug
  | info
  | warn
  | error
  deriving DecidableEq, Repr

/-- The word for a level. -/
def Level.name : Level → Text
  | .debug => "DEBUG"
  | .info => "INFO"
  | .warn => "WARN"
  | .error => "ERROR"

/-- A notice. -/
structure Notice where
  level   : Level
  message : Text
  deriving DecidableEq, Repr

namespace Notice

/-- The notice with its level. -/
def toText (n : Notice) : Text := n.level.name ++ " " ++ n.message

/-- The files have been found. -/
def discovered (files : Nat) : Notice :=
  ⟨.debug, "discovery finished files=" ++ Text.ofNat files⟩

/-- A file could not be read. -/
def unreadable (path : Path) (error : FileError) : Notice :=
  ⟨.warn, "failed to read " ++ path.toText ++ ": " ++ error.message⟩

/-- A file has a problem. -/
def problem (path : Path) (d : Diagnostic) : Notice :=
  ⟨.warn, path.toText ++ ": " ++ d.toText⟩

/-- The destination is to write nothing. -/
def nothingWritten : Notice := ⟨.info, "dest is \"none\"; nothing written"⟩

/-- The run has succeeded. -/
def finished (l : Library) : Notice :=
  ⟨.info, "Finished! " ++ Text.ofNat l.records.length ++ " pattern(s) from " ++
    Text.ofNat l.files.length ++ " file(s) in " ++ Text.ofNat l.sections.length ++ " section(s)"⟩

end Notice

/-! ### Rejections -/

/-- Why a run is rejected. -/
inductive Rejection where
  | config (v : Violation)
  | discovery (e : PatternError)
  /-- The document could not be written; `causes` go from the outermost to the innermost. -/
  | format (extension : Text) (causes : List Text)
  | write (path : Path) (error : FileError)
  /-- A task broke down without an answer. -/
  | crash (reason : Text)
  deriving DecidableEq, Repr

namespace Rejection

/-- The wording of a rejection. -/
def message : Rejection → Text
  | .config v => v.message
  | .discovery e => e.toText
  | .format extension causes =>
    "failed to render " ++ extension ++ " output: " ++ Text.joinWith ": " causes
  | .write path error => "failed to write " ++ path.toText ++ ": " ++ error.message
  | .crash reason => "background task failed: " ++ reason

/-- The name of the failure. -/
def kind : Rejection → Text
  | .config v => v.kind
  | .discovery _ => "DiscoveryError"
  | .format _ _ | .write _ _ => "RenderError"
  | .crash _ => "TaskError"

/-- The notice of a rejection. -/
def notice (r : Rejection) : Notice := ⟨.error, r.message⟩

end Rejection

/-! ### Reports -/

/-- What a run leaves behind. -/
structure Report where
  result   : Except Rejection Library
  /-- The patterns that the globber was asked for. -/
  patterns : List Text
  /-- The paths that tasks were started for to read them. -/
  reads    : List Path
  log      : List Notice
  disk     : Disk

/-- The run is over and says so in its last notice. -/
def Report.close (result : Except Rejection Library) (patterns : List Text) (reads : List Path)
    (log : List Notice) (disk : Disk) : Report :=
  let last :=
    match result with
    | .ok l => Notice.finished l
    | .error r => r.notice
  ⟨result, patterns, reads, log ++ [last], disk⟩

end PatternBook
