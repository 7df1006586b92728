import PatternBook.Proofs.Record.Reading

/-!
# Stanzas

A comment block cut at its marks.  A line is marked if it carries a tag, of the vocabulary or not,
and a stanza is a marked line with the lines that it owns: those up to the next marked line.

* `Cut.of_iff`: the lines of a block are cut in one way.
* `Line.ofText_of_isMarked`, `Line.ofText_of_not_isMarked`: what the reader makes of a line.
-/

namespace PatternBook

/-! ### Marks -/

/-- After its indentation the line is an `@`, a tag name, and nothing more or a blank and the text
of the tag. -/
def IsMarked (line : Text) : Prop :=
  ∃ name rest, Text.trimStart line = '@' :: (name ++ rest) ∧ IsTagName name ∧
    ∀ c ∈ rest.head?, isSpaceOrTab c = true

/-- The name behind the `@` of a marked line. -/
def markName (line : Text) : Text := (Text.trimStart line).tail.takeWhile isTagNameChar

/-- What follows the name on a marked line. -/
def markText (line : Text) : Text := (Text.trimStart line).tail.dropWhile isTagNameChar

theorem isTagNameChar_of_isAlpha {c : Char} (h : c.isAlpha = true) : isTagNameChar c = true := by
  simp only [isTagNameChar, Char.isAlphanum, h, Bool.true_or]

theorem IsTagName.all {name : Text} (h : IsTagName name) : ∀ c ∈ name, isTagNameChar c = true := by
  obtain ⟨c, t, rfl, hc, ht⟩ := h
  intro d hd
  rcases List.mem_cons.1 hd with rfl | hd
  · exact isTagNameChar_of_isAlpha hc
  · exact ht d hd

/-- The name goes as far as it can, since no blank is part of a name. -/
theorem mark_eq {line name rest : Text} (hline : Text.trimStart line = '@' :: (name ++ rest))
    (hname : IsTagName name) (hrest : ∀ c ∈ rest.head?, isSpaceOrTab c = true) :
    markName line = name ∧ markText line = rest := by
  have hstop : ∀ c ∈ rest.head?, isTagNameChar c = false := fun c hc =>
    tagNameChar_of_isSpaceOrTab (hrest c hc)
  rw [markName, markText, hline, List.tail_cons]
  exact ⟨Text.takeWhile_append_of_stop hname.all hstop,
    Text.dropWhile_append_of_stop hname.all hstop⟩

/-- The tag of a marked line is recognized. -/
theorem tagOfLine_of_isMarked {line : Text} (h : IsMarked line) :
    tagOfLine (Text.trimStart line) = some (markName line, (markText line).tail) ∧
      ∀ c ∈ (markText line).head?, isSpaceOrTab c = true := by
  obtain ⟨name, rest, hline, hname, hrest⟩ := h
  obtain ⟨rfl, rfl⟩ := mark_eq hline hname hrest
  exact ⟨hline ▸ tagOfLine_append hname hrest, hrest⟩

theorem isMarked_iff {line : Text} :
    IsMarked line ↔ (tagOfLine (Text.trimStart line)).isSome = true := by
  constructor
  · intro h
    rw [(tagOfLine_of_isMarked h).1]
    rfl
  · intro h
    obtain ⟨⟨name, text⟩, ht⟩ := Option.isSome_iff_exists.1 h
    obtain ⟨rest, hline, hname, -, hrest⟩ := eq_of_tagOfLine ht
    exact ⟨name, rest, hline, hname, hrest⟩

instance : DecidablePred IsMarked := fun _ => decidable_of_iff _ isMarked_iff.symm

/-- A line that is not marked is prose. -/
theorem Line.ofText_of_not_isMarked {line : Text} (h : ¬ IsMarked line) :
    Line.ofText line = .prose line := by
  rw [isMarked_iff, Option.not_isSome_iff_eq_none] at h
  rw [ofText, h]

/-- A marked line is a tag if its name is in the vocabulary. -/
theorem Line.ofText_of_isMarked {line : Text} (h : IsMarked line) :
    Line.ofText line =
      match Keyword.ofName (markName line) with
      | some k => .tag k (Text.trim (markText line))
      | none => .unknownTag line := by
  obtain ⟨ht, hblank⟩ := tagOfLine_of_isMarked h
  cases hk : Keyword.ofName (markName line) with
  | some k => simp only [ofText, ht, hk, trim_tail_of_isSpaceOrTab hblank]
  | none => simp only [ofText, ht, hk]

/-! ### Cuts -/

/-- A marked line with the lines that it owns, each with its number. -/
structure Stanza where
  mark  : Text × Nat
  owned : List (Text × Nat)
  deriving DecidableEq, Repr

/-- The lines of a stanza. -/
def Stanza.lines (s : Stanza) : List (Text × Nat) := s.mark :: s.owned

/-- The lines before the first mark, and the stanzas. -/
structure Cut where
  front   : List (Text × Nat)
  stanzas : List Stanza
  deriving DecidableEq, Repr

namespace Cut

/-- The lines are cut at their marks: no line is lost or moved, each stanza starts with a marked
line, and no other line is marked. -/
structure Of (lines : List (Text × Nat)) (c : Cut) : Prop where
  lines : c.front ++ c.stanzas.flatMap Stanza.lines = lines
  front : ∀ l ∈ c.front, ¬ IsMarked l.1
  marks : ∀ s ∈ c.stanzas, IsMarked s.mark.1
  owned : ∀ s ∈ c.stanzas, ∀ l ∈ s.owned, ¬ IsMarked l.1

/-- The lines cut at their marks. -/
def ofLines : List (Text × Nat) → Cut
  | [] => ⟨[], []⟩
  | line :: rest =>
    let c := ofLines rest
    if IsMarked line.1 then ⟨[], ⟨line, c.front⟩ :: c.stanzas⟩
    else ⟨line :: c.front, c.stanzas⟩

theorem ofLines_of_isMarked {line : Text × Nat} (h : IsMarked line.1) (rest : List (Text × Nat)) :
    ofLines (line :: rest) = ⟨[], ⟨line, (ofLines rest).front⟩ :: (ofLines rest).stanzas⟩ :=
  if_pos h

theorem ofLines_of_not_isMarked {line : Text × Nat} (h : ¬ IsMarked line.1)
    (rest : List (Text × Nat)) :
    ofLines (line :: rest) = ⟨line :: (ofLines rest).front, (ofLines rest).stanzas⟩ :=
  if_neg h

theorem of_ofLines (lines : List (Text × Nat)) : (ofLines lines).Of lines := by
  induction lines with
  | nil => exact ⟨rfl, nofun, nofun, nofun⟩
  | cons line rest ih =>
      by_cases h : IsMarked line.1
      · rw [ofLines_of_isMarked h]
        refine ⟨congrArg (line :: ·) ih.lines, nofun, ?_, ?_⟩
        · exact List.forall_mem_cons.2 ⟨h, ih.marks⟩
        · exact List.forall_mem_cons.2 ⟨ih.front, ih.owned⟩
      · rw [ofLines_of_not_isMarked h]
        refine ⟨congrArg (line :: ·) ih.lines, ?_, ih.marks, ih.owned⟩
        exact List.forall_mem_cons.2 ⟨h, ih.front⟩

/-- Lines without a mark stay in front. -/
theorem ofLines_append {front : List (Text × Nat)} (h : ∀ l ∈ front, ¬ IsMarked l.1)
    (rest : List (Text × Nat)) :
    ofLines (front ++ rest) = ⟨front ++ (ofLines rest).front, (ofLines rest).stanzas⟩ := by
  induction front with
  | nil => rfl
  | cons line front ih =>
      obtain ⟨hline, hfront⟩ := List.forall_mem_cons.1 h
      rw [List.cons_append, ofLines_of_not_isMarked hline, ih hfront]
      rfl

theorem ofLines_stanzas {stanzas : List Stanza} (hmarks : ∀ s ∈ stanzas, IsMarked s.mark.1)
    (howned : ∀ s ∈ stanzas, ∀ l ∈ s.owned, ¬ IsMarked l.1) :
    ofLines (stanzas.flatMap Stanza.lines) = ⟨[], stanzas⟩ := by
  induction stanzas with
  | nil => rfl
  | cons s stanzas ih =>
      obtain ⟨hmark, hmarks⟩ := List.forall_mem_cons.1 hmarks
      obtain ⟨hown, howned⟩ := List.forall_mem_cons.1 howned
      rw [List.flatMap_cons, Stanza.lines, List.cons_append, ofLines_of_isMarked hmark,
        ofLines_append hown, ih hmarks howned, List.append_nil]

/-- **Lines are cut at their marks in one way.** -/
theorem of_iff {lines : List (Text × Nat)} {c : Cut} : c.Of lines ↔ c = ofLines lines := by
  constructor
  · rintro ⟨rfl, hfront, hmarks, howned⟩
    rw [ofLines_append hfront, ofLines_stanzas hmarks howned, List.append_nil]
  · rintro rfl
    exact of_ofLines lines

end Cut

end PatternBook
