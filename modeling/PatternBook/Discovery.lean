import PatternBook.Glob.Search

/-!
# Discovery

The files that the patterns of a section stand for: the patterns in order, and each file once, as
it was first spelled.
-/

namespace PatternBook

/-- A pattern that cannot be expanded. -/
structure PatternError where
  pattern : Text
  message : Text
  deriving DecidableEq, Repr

/-- The wording of the error. -/
def PatternError.toText (e : PatternError) : Text :=
  "invalid glob pattern \"" ++ e.pattern ++ "\": " ++ e.message

/-- How a task for a run goes wrong. -/
inductive Mishap (ε : Type) where
  | failure (e : ε)
  /-- The task breaks down without an answer; `reason` is what is said about that. -/
  | crash (reason : Text)
  deriving DecidableEq, Repr

/-- Expands a pattern into paths. -/
abbrev Globber := Text → Except (Mishap PatternError) (List Path)

namespace Discovery

/-- A pattern as looked up from a directory, if one is given. -/
def resolve (base : Option Path) (pattern : Text) : Path :=
  match base with
  | some b => b.join (Path.ofText pattern)
  | none => Path.ofText pattern

/-- Where the search for a pattern starts: the directory in front of its first wildcard. -/
def start (base : Option Path) (pattern : Text) : Path :=
  if !Glob.isGlob pattern then resolve base pattern
  else
    let front := pattern.takeWhile fun c => !Glob.isGlob [c]
    let folder := (front.reverse.dropWhile (· != '/')).reverse
    resolve base (if folder.isEmpty then ['.'] else folder)

/-- The files on a disk that a pattern stands for.  A pattern without wildcards stands for itself,
whether there is such a file or not. -/
def onDisk (d : Disk) (base : Option Path) (pattern : Text) : Except PatternError (List Path) :=
  let full := resolve base pattern
  if !Glob.isGlob pattern then .ok [full]
  else
    match Glob.Pattern.ofText full.toText with
    | .error mistake => .error ⟨pattern, mistake.message⟩
    | .ok p => .ok ((Glob.search d p).filter d.isFile)

/-- The files on a disk, for a run. -/
def globber (d : Disk) (base : Option Path) : Globber := fun pattern =>
  match onDisk d base pattern with
  | .ok paths => .ok paths
  | .error e => .error (.failure e)

/-- The paths with those added that are not the same as one before. -/
def addNew (files : List Path) : List Path → List Path
  | [] => files
  | p :: rest =>
    if files.any (fun q => q.Same p) then addNew files rest else addNew (files ++ [p]) rest

/-- The patterns are expanded in order, after the files found before. -/
def expandFrom (expand : Globber) (files : List Path) :
    List Text → Except (Mishap PatternError) (List Path)
  | [] => .ok files
  | pattern :: rest =>
    match expand pattern with
    | .ok paths => expandFrom expand (addNew files paths) rest
    | .error e => .error e

/-- The files that patterns stand for, or the first pattern that cannot be expanded. -/
def expandAll (expand : Globber) (patterns : List Text) :
    Except (Mishap PatternError) (List Path) :=
  expandFrom expand [] patterns

/-- The patterns that are tried: all up to the first that cannot be expanded. -/
def tried (expand : Globber) : List Text → List Text
  | [] => []
  | pattern :: rest =>
    match expand pattern with
    | .ok _ => pattern :: tried expand rest
    | .error _ => [pattern]

end Discovery

end PatternBook
