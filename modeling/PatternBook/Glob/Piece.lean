import PatternBook.Text.Basic

/-!
# The pieces of a pattern

In a pattern `*` stands for any characters, `?` for one, and a bracket for one of a class; `**`
between separators stands for any number of directories.  A pattern is read into such pieces from
left to right, and the first mistake is the answer.
-/

namespace PatternBook.Glob

/-- Whether a pattern has a character with a meaning of its own. -/
def isGlob (pattern : Text) : Bool :=
  pattern.any fun c => c == '*' || c == '?' || c == '['

/-- A mistake in a pattern. -/
inductive Mistake where
  | tooManyStars
  | starsInPart
  | badClass
  deriving DecidableEq, Repr

/-- The wording of a mistake. -/
def Mistake.message : Mistake → Text
  | .tooManyStars => "wildcards are either regular \x60*\x60 or recursive \x60**\x60"
  | .starsInPart => "recursive wildcards must form a single path component"
  | .badClass => "invalid range pattern"

/-- A range of characters; a single one is a range, too. -/
structure Range where
  low  : Char
  high : Char
  deriving DecidableEq, Repr

/-- The character lies in the range. -/
def Range.contains (r : Range) (c : Char) : Bool := r.low ≤ c && c ≤ r.high

/-- A piece of a pattern. -/
inductive Piece where
  | char (c : Char)
  /-- Any character. -/
  | any
  /-- Any characters. -/
  | many
  /-- Any directories. -/
  | deep
  /-- A character in, or else outside, the ranges. -/
  | oneOf (inside : Bool) (ranges : List Range)
  deriving DecidableEq, Repr

/-! ### Reading -/

/-- The ranges between brackets: `a-z` is a range unless a side of the hyphen is missing. -/
def rangesOf : Text → List Range
  | a :: '-' :: b :: t => ⟨a, b⟩ :: rangesOf t
  | a :: t => ⟨a, a⟩ :: rangesOf t
  | [] => []

/-- The class after an opening bracket and what follows it.  A `!` in front turns it around, and
the first character of the class is never its end. -/
def classAt? (t : Text) : Option (Piece × Text) :=
  let (inside, body) : Bool × Text :=
    match t with
    | '!' :: body => (false, body)
    | body => (true, body)
  match body with
  | [] => none
  | c :: body =>
    match Text.splitAt? "]" body with
    | some (inner, rest) => some (.oneOf inside (rangesOf (c :: inner)), rest)
    | none => none

theorem length_classAt? {t rest : Text} {piece : Piece} (h : classAt? t = some (piece, rest)) :
    rest.length < t.length := by
  have key : ∀ (inside : Bool) (body : Text),
      (match body with
        | [] => none
        | c :: body =>
          match Text.splitAt? "]" body with
          | some (inner, rest) => some (Piece.oneOf inside (rangesOf (c :: inner)), rest)
          | none => none) = some (piece, rest) → rest.length < body.length := by
    intro inside body h
    split at h
    · simp at h
    · next c body =>
      split at h
      · next inner r hs =>
        have := congrArg List.length (Text.eq_of_splitAt? hs)
        simp only [Option.some.injEq, Prod.mk.injEq] at h
        obtain ⟨-, rfl⟩ := h
        simp at this ⊢
        omega
      · simp at h
  unfold classAt? at h
  split at h
  next inside body heq =>
  split at heq
  · next b =>
    simp only [Prod.mk.injEq] at heq
    obtain ⟨rfl, rfl⟩ := heq
    have := key _ _ h
    simp only [List.length_cons]
    omega
  · next b _ =>
    simp only [Prod.mk.injEq] at heq
    obtain ⟨rfl, rfl⟩ := heq
    exact key _ _ h

/-- The stars at the start of a text, of which one has been seen; `before` is what stands in front
of that one. -/
def starsAt (before : Option Char) (t : Text) : Except Mistake (Piece × Text) :=
  match t.takeWhile (· == '*') with
  | [] => .ok (.many, t)
  | [_] =>
    if before = none ∨ before = some '/' then
      match t.drop 1 with
      | [] => .ok (.deep, [])
      | '/' :: rest => .ok (.deep, rest)
      | _ => .error .starsInPart
    else .error .starsInPart
  | _ => .error .tooManyStars

theorem length_starsAt {before : Option Char} {t rest : Text} {piece : Piece}
    (h : starsAt before t = .ok (piece, rest)) : rest.length ≤ t.length := by
  unfold starsAt at h
  split at h
  · simp only [Except.ok.injEq, Prod.mk.injEq] at h
    simp [h.2]
  · split at h
    · split at h
      · simp only [Except.ok.injEq, Prod.mk.injEq] at h
        simp [← h.2]
      · next r hd =>
        simp only [Except.ok.injEq, Prod.mk.injEq] at h
        have := congrArg List.length hd
        simp only [List.length_drop, List.length_cons] at this
        rw [← h.2]
        omega
      · simp at h
    · simp at h
  · simp at h

/-- The pieces of a pattern, or of a part of one, after a character. -/
def piecesFrom (before : Option Char) : Text → Except Mistake (List Piece)
  | [] => .ok []
  | c :: t =>
    if c = '?' then do
      let rest ← piecesFrom (some c) t
      return .any :: rest
    else if c = '*' then
      match _h : starsAt before t with
      | .error e => .error e
      | .ok (piece, rest) => do
        let pieces ← piecesFrom (some (if piece = .deep then '/' else '*')) rest
        return piece :: pieces
    else if c = '[' then
      match _h : classAt? t with
      | none => .error .badClass
      | some (piece, rest) => do
        let pieces ← piecesFrom (some ']') rest
        return piece :: pieces
    else do
      let rest ← piecesFrom (some c) t
      return .char c :: rest
  termination_by t => t.length
  decreasing_by
    · simp
    · have := length_starsAt _h
      simp only [List.length_cons]
      omega
    · have := length_classAt? _h
      simp only [List.length_cons]
      omega
    · simp

/-- The pieces of a pattern. -/
def pieces (t : Text) : Except Mistake (List Piece) := piecesFrom none t

end PatternBook.Glob
