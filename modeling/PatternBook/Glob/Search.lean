import PatternBook.Disk.Basic
import PatternBook.Glob.Pattern

/-!
# Searching a disk

The paths that a pattern matches, in the order of a walk: a directory before what is below it, and
the names of a directory in the order of their bytes.  A part without wildcards is looked up and
not matched.
-/

namespace PatternBook.Glob

/-- The path is the current directory, which is left out in front of a name. -/
def isHere (p : Path) : Bool := p.components = [.here]

/-- The path of a name in a directory. -/
def inside (folder : Path) (name : Bytes) : Path :=
  if isHere folder then ⟨name⟩ else folder.join ⟨name⟩

/-- The part covers a name, which must be UTF-8. -/
def coversName (part : Part) (name : Bytes) : Bool :=
  match Utf8.decode? name with
  | some t => part.covers t
  | none => false

/-- The results of `visit` for the names of a directory. -/
def children (visit : Path → Bytes → List Path) (folder : Path) : Directory → List Path
  | .empty => []
  | .file name _ rest => visit (inside folder name) name ++ children visit folder rest
  | .folder name _ rest => visit (inside folder name) name ++ children visit folder rest

/-- The results of `visit` for all names below a directory; only directories if `foldersOnly`. -/
def below (foldersOnly : Bool) (visit : Path → Bytes → List Path) (folder : Path) :
    Directory → List Path
  | .empty => []
  | .file name _ rest =>
    (if foldersOnly then [] else visit (inside folder name) name) ++
      below foldersOnly visit folder rest
  | .folder name inner rest =>
    visit (inside folder name) name ++ below foldersOnly visit (inside folder name) inner ++
      below foldersOnly visit folder rest

/-- The parts `..` and `.` as names, for a pattern part that starts with a dot of its own. -/
def dotNames : List Piece → List Text
  | .char '.' :: _ => ["..", "."]
  | _ => []

/-- The paths that the parts match from a directory on. -/
def expand (d : Disk) : List Part → Path → List Path
  | [], p => [p]
  | .literal name :: rest, p =>
    let next := if isHere p then Path.ofText name else p.join (Path.ofText name)
    let special := name = "." ∨ name = ".."
    if (special ∧ (d.folder? p).isSome) ∨ (¬ special ∧ d.exists? next) then expand d rest next
    else []
  | .wild pieces :: rest, p =>
    match d.folder? p with
    | none => []
    | some folder =>
      ((dotNames pieces).filter (covers pieces)).flatMap
        (fun name => expand d rest (p.join (Path.ofText name))) ++
      children (fun path name => if coversName (.wild pieces) name then expand d rest path else [])
        p folder
  | [.deep], p =>
    match d.folder? p with
    | none => []
    | some folder => below true (fun path _ => [path]) p folder
  | .deep :: part :: rest, p =>
    match d.folder? p with
    | none => []
    | some folder =>
      below false (fun path name => if coversName part name then expand d rest path else []) p
        folder

/-- The paths that a pattern matches. -/
def search (d : Disk) (pattern : Pattern) : List Path :=
  let start : Path := Path.ofText (if pattern.absolute then ['/'] else ['.'])
  let found := expand d pattern.parts start
  if pattern.foldersOnly then found.filter fun p => (d.folder? p).isSome else found

end PatternBook.Glob
