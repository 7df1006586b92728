import PatternBook.Glob.Piece

/-!
# Matching names

When the pieces of a pattern cover a name.  `Covers` says it; `covers` decides it (`covers_iff`).

A piece for any characters is tried with ever more of them.  The search gives up as soon as the
pieces behind it have run out of name, because they would run out of any shorter rest as well
(`not_covered_of_exhausted`), so that the work does not multiply with every such piece.
-/

namespace PatternBook.Glob

/-- The piece stands for any number of characters. -/
def Piece.stretches : Piece → Bool
  | .many | .deep => true
  | .char _ | .any | .oneOf _ _ => false

/-- The piece stands for the character. -/
def Piece.takes : Piece → Char → Bool
  | .char d, c => d == c
  | .oneOf inside ranges, c => ranges.any (·.contains c) == inside
  | .any, _ | .many, _ | .deep, _ => true

/-- The pieces stand for the whole name. -/
inductive Covers : List Piece → Text → Prop where
  | nil : Covers [] []
  | one {piece : Piece} {rest : List Piece} {c : Char} {t : Text} (single : piece.stretches = false)
      (takes : piece.takes c = true) (covers : Covers rest t) : Covers (piece :: rest) (c :: t)
  | stretch {piece : Piece} {rest : List Piece} {s t : Text} (stretches : piece.stretches = true)
      (suffix : s <:+ t) (covers : Covers rest s) : Covers (piece :: rest) t

/-- What comes of matching pieces with a name. -/
inductive Attempt where
  | covered
  /-- The pieces and the name differ. -/
  | mismatched
  /-- The name ends before the pieces do. -/
  | exhausted
  deriving DecidableEq, Repr

/-- The first attempt with the text or an end of it that is not a mismatch. -/
def firstSettled (attempt : Text → Attempt) : Text → Attempt
  | [] => attempt []
  | c :: t =>
    match attempt (c :: t) with
    | .mismatched => firstSettled attempt t
    | settled => settled

/-- What comes of matching the pieces with the name. -/
def attempt : List Piece → Text → Attempt
  | [], [] => .covered
  | [], _ :: _ => .mismatched
  | piece :: rest, name =>
    if piece.stretches then firstSettled (attempt rest) name
    else
      match name with
      | [] => .exhausted
      | c :: t => if piece.takes c then attempt rest t else .mismatched

/-- The pieces cover the name. -/
def covers (pieces : List Piece) (name : Text) : Bool := attempt pieces name = .covered

/-! ### Giving up early -/

/-- An attempt that runs out of a text runs out of its ends, too, and covers none of them. -/
def GivesUpSoundly (attempt : Text → Attempt) : Prop :=
  ∀ ⦃s t : Text⦄, s <:+ t → attempt t = .exhausted → attempt s ≠ .covered

theorem firstSettled_eq_covered_iff {p : Text → Attempt} (hp : GivesUpSoundly p) {t : Text} :
    firstSettled p t = .covered ↔ ∃ s, s <:+ t ∧ p s = .covered := by
  induction t with
  | nil => simp [firstSettled]
  | cons c t ih =>
    cases h : p (c :: t) with
    | covered =>
      simp only [firstSettled, h, true_iff]
      exact ⟨c :: t, List.suffix_refl _, h⟩
    | exhausted =>
      simp only [firstSettled, h, reduceCtorEq, false_iff]
      rintro ⟨s, hs, hc⟩
      exact hp hs h hc
    | mismatched =>
      simp only [firstSettled, h, ih, List.suffix_cons_iff]
      constructor
      · rintro ⟨s, hs, hc⟩
        exact ⟨s, .inr hs, hc⟩
      · rintro ⟨s, rfl | hs, hc⟩
        · simp [h] at hc
        · exact ⟨s, hs, hc⟩

theorem givesUpSoundly_firstSettled {p : Text → Attempt} (hp : GivesUpSoundly p) :
    GivesUpSoundly (firstSettled p) := by
  intro s t hs ht hc
  obtain ⟨r, hr, hrc⟩ := (firstSettled_eq_covered_iff hp).1 hc
  have := (firstSettled_eq_covered_iff hp).2 ⟨r, hr.trans hs, hrc⟩
  simp [ht] at this

theorem givesUpSoundly_attempt (pieces : List Piece) : GivesUpSoundly (attempt pieces) := by
  induction pieces with
  | nil =>
    intro s t _ ht
    cases t <;> simp [attempt] at ht
  | cons piece rest ih =>
    cases hp : piece.stretches with
    | true =>
      have key : attempt (piece :: rest) = firstSettled (attempt rest) := by
        funext t
        simp [attempt, hp]
      rw [key]
      exact givesUpSoundly_firstSettled ih
    | false =>
      intro s t hs ht hc
      match s, t with
      | [], _ => simp [attempt, hp] at hc
      | d :: s, [] => simp at hs
      | d :: s, c :: t =>
        simp only [attempt, hp, Bool.false_eq_true, if_false] at ht hc
        split at ht
        · split at hc
          · rcases List.suffix_cons_iff.1 hs with h | h
            · cases h
              simp [ht] at hc
            · exact ih ((List.suffix_cons d s).trans h) ht hc
          · simp at hc
        · simp at ht

/-- Pieces that run out of a name cover no end of it. -/
theorem not_covered_of_exhausted {pieces : List Piece} {s t : Text} (hs : s <:+ t)
    (ht : attempt pieces t = .exhausted) : covers pieces s = false := by
  simpa [covers] using givesUpSoundly_attempt pieces hs ht

/-! ### The decision -/

theorem attempt_eq_covered_iff {pieces : List Piece} {name : Text} :
    attempt pieces name = .covered ↔ Covers pieces name := by
  induction pieces generalizing name with
  | nil =>
    cases name with
    | nil => simpa [attempt] using Covers.nil
    | cons c t =>
      simp only [attempt, reduceCtorEq, false_iff]
      rintro ⟨⟩
  | cons piece rest ih =>
    cases hp : piece.stretches with
    | true =>
      simp only [attempt, hp, if_true, firstSettled_eq_covered_iff (givesUpSoundly_attempt rest), ih]
      constructor
      · rintro ⟨s, hs, hc⟩
        exact .stretch hp hs hc
      · intro h
        cases h with
        | one single _ _ => simp [hp] at single
        | stretch _ hs hc => exact ⟨_, hs, hc⟩
    | false =>
      cases name with
      | nil =>
        simp only [attempt, hp, Bool.false_eq_true, if_false, reduceCtorEq, false_iff]
        intro h
        cases h with
        | stretch stretches _ _ => simp [hp] at stretches
      | cons c t =>
        simp only [attempt, hp, Bool.false_eq_true, if_false]
        constructor
        · intro h
          split at h
          · next takes => exact .one hp takes (ih.1 h)
          · simp at h
        · intro h
          cases h with
          | one _ takes hc => simp [takes, ih.2 hc]
          | stretch stretches _ _ => simp [hp] at stretches

/-- The decision is right. -/
theorem covers_iff {pieces : List Piece} {name : Text} :
    covers pieces name = true ↔ Covers pieces name := by
  simp [covers, attempt_eq_covered_iff]

end PatternBook.Glob
