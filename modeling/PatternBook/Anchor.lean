import PatternBook.Text.Alphanumeric
import PatternBook.Text.Lowercase

/-!
# Anchors

The names by which the headings of a page are linked: a slug of the heading, with a number after
it when that slug was used before.
-/

namespace PatternBook

/-- The slug of a text: in lower case, with letters, numbers and hyphens only, and hyphens for
spaces. -/
def slug (t : Text) : Text :=
  ((Text.toLower t).filter fun c => isAlphanumeric c || c == ' ' || c == '-').map
    fun c => if c = ' ' then '-' else c

/-- The slugs handed out so far, each with how often. -/
abbrev Anchors := List (Text × Nat)

namespace Anchors

/-- No slug has been used. -/
def empty : Anchors := []

/-- How often a slug was used. -/
def count (used : Anchors) (base : Text) : Nat :=
  match used with
  | [] => 0
  | (name, n) :: rest => if name = base then n else count rest base

/-- The slug is used once more. -/
def add (used : Anchors) (base : Text) : Anchors :=
  match used with
  | [] => [(base, 1)]
  | (name, n) :: rest => if name = base then (name, n + 1) :: rest else (name, n) :: add rest base

theorem count_add (used : Anchors) (base other : Text) :
    count (add used base) other = count used other + if other = base then 1 else 0 := by
  induction used with
  | nil =>
    by_cases h : other = base
    · simp [add, count, h]
    · simp [add, count, h, Ne.symm h]
  | cons entry rest ih =>
    obtain ⟨name, n⟩ := entry
    by_cases hb : name = base
    · subst hb
      by_cases ho : other = name
      · subst ho
        simp [add, count]
      · simp [add, count, ho, Ne.symm ho]
    · by_cases ho : other = name
      · subst ho
        simp [add, count, hb]
      · simp [add, count, hb, Ne.symm ho, ih]

/-- The slug of a heading, or a word of its own for a heading without one. -/
def base (heading : Text) : Text :=
  let s := slug heading
  if s.isEmpty then "section" else s

/-- The anchor of a heading: its slug, with the number of earlier uses if there were any. -/
def name (used : Anchors) (heading : Text) : Text :=
  let b := base heading
  match used.count b with
  | 0 => b
  | n + 1 => b ++ "-" ++ Text.ofNat (n + 1)

/-- The anchor of a heading, and the slugs used after it. -/
def next (used : Anchors) (heading : Text) : Text × Anchors :=
  (used.name heading, used.add (base heading))

/-- The anchors of headings, one after the other, and the slugs used after them. -/
def nextAll (used : Anchors) : List Text → List Text × Anchors
  | [] => ([], used)
  | heading :: rest =>
    let (anchor, used) := used.next heading
    let (anchors, used) := nextAll used rest
    (anchor :: anchors, used)

end Anchors

end PatternBook
