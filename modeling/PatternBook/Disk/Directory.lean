import PatternBook.Text.Utf8

/-!
# Directories

A directory with everything below it, as a value.  Its view is the look-up of a location, which is
the list of names on the way to it; an update at one location is seen there and at the locations
below and above it only.

* `find?_set`: setting a name changes that name and no other.
-/

namespace PatternBook

/-- The names and contents of a directory, in the order of the bytes of the names. -/
inductive Directory where
  | empty
  /-- A file, and the entries after it. -/
  | file (name : Bytes) (content : Bytes) (rest : Directory)
  /-- A directory, and the entries after it. -/
  | folder (name : Bytes) (inner : Directory) (rest : Directory)
  deriving DecidableEq, Repr, Inhabited

/-- What a name stands for. -/
inductive Entry where
  | file (content : Bytes)
  | folder (inner : Directory)
  deriving DecidableEq, Repr

/-- The names on the way from the root. -/
abbrev Location := List Bytes

/-- The first name comes before the second in the order of bytes. -/
def nameBefore : Bytes → Bytes → Bool
  | [], [] => false
  | [], _ :: _ => true
  | _ :: _, [] => false
  | a :: s, b :: t => if a = b then nameBefore s t else a < b

namespace Directory

/-! ### One directory -/

/-- The directory with an entry in front. -/
def cons (name : Bytes) (entry : Entry) (rest : Directory) : Directory :=
  match entry with
  | .file content => .file name content rest
  | .folder inner => .folder name inner rest

/-- What a name of the directory stands for. -/
def find? (name : Bytes) : Directory → Option Entry
  | .empty => none
  | .file n content rest => if n = name then some (.file content) else find? name rest
  | .folder n inner rest => if n = name then some (.folder inner) else find? name rest

/-- The directory with one name set. -/
def set (name : Bytes) (entry : Entry) : Directory → Directory
  | .empty => cons name entry .empty
  | .file n content rest =>
    if n = name then cons name entry rest
    else if nameBefore name n then cons name entry (.file n content rest)
    else .file n content (set name entry rest)
  | .folder n inner rest =>
    if n = name then cons name entry rest
    else if nameBefore name n then cons name entry (.folder n inner rest)
    else .folder n inner (set name entry rest)

@[simp] theorem find?_cons (name other : Bytes) (entry : Entry) (rest : Directory) :
    find? other (cons name entry rest) = if name = other then some entry else find? other rest := by
  cases entry <;> rfl

theorem find?_set (name other : Bytes) (entry : Entry) (d : Directory) :
    find? other (set name entry d) = if name = other then some entry else find? other d := by
  induction d with
  | empty => simp [set]
  | file n content rest ih | folder n _ rest _ ih =>
    simp only [set]
    split
    · next h =>
      subst h
      simp only [find?_cons, find?]
      split <;> simp_all
    · next h =>
      split
      · simp [find?]
      · simp only [find?, ih]
        split
        · next hn =>
          have : name ≠ other := fun e => h (hn.trans e.symm)
          simp [this]
        · rfl

/-! ### Locations -/

/-- What a location stands for. -/
def at? (d : Directory) : Location → Option Entry
  | [] => some (.folder d)
  | name :: rest =>
    match d.find? name with
    | none => none
    | some (.file content) => if rest.isEmpty then some (.file content) else none
    | some (.folder inner) => inner.at? rest

/-- The directory with an entry at a location; nothing changes where the directory of that location
is missing, and the root stays. -/
def put (entry : Entry) (d : Directory) : Location → Directory
  | [] => d
  | name :: rest =>
    if rest.isEmpty then d.set name entry
    else
      match d.find? name with
      | some (.folder inner) => d.set name (.folder (put entry inner rest))
      | _ => d

/-- Everything in a directory that lies at a location, with the contents of files. -/
def listing (here : Location) : Directory → List (Location × Option Bytes)
  | .empty => []
  | .file n content rest => (here ++ [n], some content) :: listing here rest
  | .folder n inner rest =>
    (here ++ [n], none) :: (listing (here ++ [n]) inner ++ listing here rest)

end Directory

end PatternBook
