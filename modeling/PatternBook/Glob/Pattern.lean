import PatternBook.Glob.Matching

/-!
# Glob patterns

A pattern is cut at `/` into parts.  A part with wildcards is matched with names, one without is
looked up, and a part `**` stands for any number of directories.  The whole pattern is checked
first and then each part, from left to right, and the first mistake is the answer.
-/

namespace PatternBook.Glob

/-! ### Parts -/

/-- A part of a pattern. -/
inductive Part where
  /-- A name that is looked up. -/
  | literal (name : Text)
  /-- Pieces that names are matched with. -/
  | wild (pieces : List Piece)
  /-- Any number of directories. -/
  | deep
  deriving DecidableEq, Repr

/-- A part of a pattern. -/
def Part.ofText (t : Text) : Except Mistake Part := do
  let ps ← pieces t
  return if ps = [.deep] then .deep else if isGlob t then .wild ps else .literal t

/-- The part covers a name. -/
def Part.covers : Part → Text → Bool
  | .literal t, name => t == name
  | .wild ps, name => Glob.covers ps name
  | .deep, _ => true

/-- The parts with each run of `**` taken as one. -/
def collapse : List Part → List Part
  | .deep :: rest =>
    match collapse rest with
    | .deep :: rest => .deep :: rest
    | rest => .deep :: rest
  | part :: rest => part :: collapse rest
  | [] => []

/-- The parts between separators; a separator at the end starts none. -/
def cutParts (t : Text) : List Text :=
  let parts := Text.splitOn '/' t
  if parts.getLast? = some [] then parts.dropLast else parts

/-- A pattern. -/
structure Pattern where
  /-- It is looked up from the root. -/
  absolute : Bool
  parts    : List Part
  /-- It matches directories only. -/
  foldersOnly : Bool
  deriving DecidableEq, Repr

/-- The pattern of a text. -/
def Pattern.ofText (t : Text) : Except Mistake Pattern := do
  let _ ← pieces t
  let absolute := t.head? == some '/'
  let parts ← (cutParts (if absolute then t.drop 1 else t)).mapM Part.ofText
  return ⟨absolute, collapse parts, t.getLast? == some '/'⟩

end PatternBook.Glob
