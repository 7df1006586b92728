/-!
# Texts

A text is a list of characters.  This module holds the cuts that the rest of the library makes:
at a character, at line ends, and at the first place where a given text starts.  Positions in a
text count bytes of its UTF-8 form (`Text.size`).

* `joinWith_splitOn`: cutting at a character and joining with it again gives the text back.
* `eq_of_splitAt?`: a cut at a text loses nothing.
-/

namespace PatternBook

/-- A text, character by character. -/
abbrev Text := List Char

/-- A literal is the text of its characters. -/
instance : Coe String Text := ⟨String.toList⟩

namespace Text

/-- The length of the UTF-8 form, in bytes. -/
def size : Text → Nat
  | [] => 0
  | c :: t => c.utf8Size + size t

/-- The decimal form of a number. -/
def ofNat (n : Nat) : Text := Nat.toDigits 10 n

/-! ### Cutting at a character -/

/-- The pieces between occurrences of `sep`; there is always at least one. -/
def splitOn (sep : Char) : Text → List Text
  | [] => [[]]
  | c :: t =>
    if c = sep then [] :: splitOn sep t
    else match splitOn sep t with
      | [] => [[c]]
      | piece :: rest => (c :: piece) :: rest

/-- The pieces one after the other, with `sep` between them. -/
def joinWith (sep : Text) : List Text → Text
  | [] => []
  | [piece] => piece
  | piece :: rest => piece ++ sep ++ joinWith sep rest

theorem splitOn_ne_nil (sep : Char) (t : Text) : splitOn sep t ≠ [] := by
  cases t with
  | nil => simp [splitOn]
  | cons c t =>
    simp only [splitOn]
    split
    · simp
    · split <;> simp

theorem joinWith_splitOn (sep : Char) (t : Text) : joinWith [sep] (splitOn sep t) = t := by
  induction t with
  | nil => rfl
  | cons c t ih =>
    have hne := splitOn_ne_nil sep t
    simp only [splitOn]
    split
    · next h =>
      subst h
      cases hs : splitOn c t with
      | nil => exact absurd hs hne
      | cons piece rest => rw [hs] at ih; simp [joinWith, ih]
    · cases hs : splitOn sep t with
      | nil => exact absurd hs hne
      | cons piece rest =>
        rw [hs] at ih
        cases rest with
        | nil => simpa [joinWith] using ih
        | cons next rest => simpa [joinWith] using ih

/-! ### Lines -/

/-- A line without the carriage return that stood before its newline. -/
def dropReturn (line : Text) : Text :=
  if line.getLast? = some '\r' then line.dropLast else line

/-- The pieces between newlines as lines: a newline ends a line, so no line follows the last. -/
def endLines : List Text → List Text
  | [] => []
  | [last] => if last.isEmpty then [] else [last]
  | line :: rest => dropReturn line :: endLines rest

/-- The lines of a text, without their ends: a newline, or a carriage return and a newline. -/
def lines (t : Text) : List Text := endLines (splitOn '\n' t)

/-! ### Cutting at a text -/

/-- What follows `start`, if the text starts with it. -/
def after? : (start : Text) → Text → Option Text
  | [], t => some t
  | _ :: _, [] => none
  | s :: start, c :: t => if s = c then after? start t else none

/-- The text before and the text after the first occurrence of `mark`. -/
def splitAt? (mark : Text) : Text → Option (Text × Text)
  | [] => if mark.isEmpty then some ([], []) else none
  | c :: t =>
    match after? mark (c :: t) with
    | some rest => some ([], rest)
    | none => (splitAt? mark t).map fun cut => (c :: cut.1, cut.2)

theorem eq_of_after? {start t rest : Text} (h : after? start t = some rest) :
    t = start ++ rest := by
  induction start generalizing t with
  | nil => simpa [after?] using h
  | cons s start ih =>
    cases t with
    | nil => simp [after?] at h
    | cons c t =>
      simp only [after?] at h
      split at h
      · next hs => subst hs; simp [ih h]
      · simp at h

theorem after?_append (start rest : Text) : after? start (start ++ rest) = some rest := by
  induction start with
  | nil => rfl
  | cons s start ih => simp [after?, ih]

theorem after?_eq_some_iff {start t rest : Text} :
    after? start t = some rest ↔ t = start ++ rest :=
  ⟨eq_of_after?, fun h => h ▸ after?_append start rest⟩

theorem eq_of_splitAt? {mark t before rest : Text} (h : splitAt? mark t = some (before, rest)) :
    t = before ++ mark ++ rest := by
  induction t generalizing before with
  | nil =>
    simp only [splitAt?] at h
    split at h
    · next hm => simp at h hm; simp [h, hm]
    · simp at h
  | cons c t ih =>
    simp only [splitAt?] at h
    split at h
    · next r hr =>
      simp only [Option.some.injEq, Prod.mk.injEq] at h
      obtain ⟨rfl, rfl⟩ := h
      simpa using eq_of_after? hr
    · cases hs : splitAt? mark t with
      | none => simp [hs] at h
      | some cut =>
        simp only [hs, Option.map_some, Option.some.injEq, Prod.mk.injEq] at h
        obtain ⟨rfl, rfl⟩ := h
        simpa using ih hs

end Text

end PatternBook
