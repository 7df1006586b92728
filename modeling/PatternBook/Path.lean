import PatternBook.Text.Utf8

/-!
# Paths

A path is a sequence of bytes in which `/` separates parts; it need not be UTF-8.  Two paths are
the same when they have the same components: repeated and trailing separators and `.` parts that
do not lead do not count (`Path.Same`).
-/

namespace PatternBook

/-- A path, byte by byte. -/
structure Path where
  bytes : Bytes
  deriving DecidableEq, Repr, Inhabited

/-- A part of a path that counts. -/
inductive Component where
  /-- The leading `/`. -/
  | root
  /-- A leading `.`. -/
  | here
  /-- A part `..`. -/
  | up
  /-- Any other part. -/
  | name (bytes : Bytes)
  deriving DecidableEq, Repr

namespace Path

/-- The byte of `/`. -/
def slash : UInt8 := 0x2F

/-- The byte of `.`. -/
def dot : UInt8 := 0x2E

/-- The path spelled by a text. -/
def ofText (t : Text) : Path := ⟨Utf8.encode t⟩

/-- The path as text; bytes that are not UTF-8 are replaced. -/
def toText (p : Path) : Text := Utf8.decode p.bytes

theorem toText_ofText (t : Text) : (ofText t).toText = t := Utf8.decode_encode t

/-- The path starts at the root. -/
def isAbsolute (p : Path) : Bool := p.bytes.head? == some slash

/-- The path that `q` is when looked up from `p`. -/
def join (p q : Path) : Path :=
  if q.isAbsolute || p.bytes.isEmpty then q
  else if p.bytes.getLast? == some slash then ⟨p.bytes ++ q.bytes⟩
  else ⟨p.bytes ++ slash :: q.bytes⟩

/-! ### Parts and components -/

/-- The parts between separators, as written. -/
def splitParts : Bytes → List Bytes
  | [] => [[]]
  | b :: t =>
    if b = slash then [] :: splitParts t
    else match splitParts t with
      | [] => [[b]]
      | part :: rest => (b :: part) :: rest

/-- The component a part stands for, if it counts. -/
def componentOf (part : Bytes) : Option Component :=
  if part = [] ∨ part = [dot] then none
  else if part = [dot, dot] then some .up
  else some (.name part)

/-- The components of the path. -/
def components (p : Path) : List Component :=
  let parts := splitParts p.bytes
  let start : List Component :=
    if p.isAbsolute then [.root] else if parts.head? = some [dot] then [.here] else []
  start ++ parts.filterMap componentOf

/-- A component as written. -/
def componentBytes : Component → Bytes
  | .root => []
  | .here => [dot]
  | .up => [dot, dot]
  | .name bytes => bytes

/-- Parts with separators between them. -/
def joinParts : List Bytes → Bytes
  | [] => []
  | [part] => part
  | part :: rest => part ++ slash :: joinParts rest

/-- The path with those components. -/
def ofComponents : List Component → Path
  | [.root] => ⟨[slash]⟩
  | components => ⟨joinParts (components.map componentBytes)⟩

/-- The paths of components of which the last one is dropped again and again. -/
def droppingLast : (back : List Component) → List Path
  | [] => []
  | _ :: [] => []
  | _ :: back => ofComponents back.reverse :: droppingLast back

/-- The directories that the path is in, from the inside out, as far as the path names them. -/
def parents (p : Path) : List Path := droppingLast p.components.reverse

/-- The paths have the same components. -/
def Same (p q : Path) : Prop := p.components = q.components

instance (p q : Path) : Decidable (Same p q) := inferInstanceAs (Decidable (_ = _))

theorem Same.refl (p : Path) : Same p p := rfl

theorem Same.symm {p q : Path} (h : Same p q) : Same q p := Eq.symm h

theorem Same.trans {p q r : Path} (h : Same p q) (k : Same q r) : Same p r := Eq.trans h k

/-- The last component, if it is a name. -/
def fileName (p : Path) : Option Bytes :=
  match p.components.getLast? with
  | some (.name bytes) => some bytes
  | _ => none

/-- The last component without its last `.` and what follows, and what follows: `none` for a name
without a dot or with one at its start only. -/
def splitExtension (name : Bytes) : Option (Bytes × Bytes) :=
  let back := name.reverse
  match back.dropWhile (· != dot) with
  | [] | [_] => none
  | _ :: stem => some (stem.reverse, (back.takeWhile (· != dot)).reverse)

/-- An ASCII letter in lower case; any other character as it is. -/
def lowerAscii (c : Char) : Char := c.toLower

/-- The lower-case extension of the file name, without its dot; empty if there is none or it is
not UTF-8. -/
def extension (p : Path) : Text :=
  match p.fileName.bind splitExtension with
  | some (_, ext) => ((Utf8.decode? ext).getD []).map lowerAscii
  | none => []

end Path

end PatternBook
