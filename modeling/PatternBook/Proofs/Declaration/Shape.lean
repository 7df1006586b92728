import PatternBook.Proofs.Text.Cuts
import PatternBook.Record.Declaration

/-!
# The shape of a declaration

What the reader of declarations accepts, said without the reader: a name, blanks, a colon, a value
that is not empty, and a semicolon.

* `first?_eq_some_iff`: a text starts with a declaration exactly when it has this shape, and then
  name, value and comment are the ones that stand there.
* `inLine_cons_boundary`: behind a boundary a line is read as it is read at its start.
-/

namespace PatternBook.Declaration

/-! ### Names -/

/-- The marks in front of a name. -/
def sigils : List Text := ["--", "$", "@"]

/-- A mark and at least one character of a name. -/
def IsName (t : Text) : Prop :=
  ∃ mark word, mark ∈ sigils ∧ word ≠ [] ∧ (∀ c ∈ word, isNameChar c = true) ∧ t = mark ++ word

theorem sigil?_append {mark : Text} (h : mark ∈ sigils) (t : Text) :
    sigil? (mark ++ t) = some (mark, t) := by
  simp only [sigils, List.mem_cons, List.not_mem_nil, or_false] at h
  rcases h with rfl | rfl | rfl <;> rfl

theorem sigil?_eq_some {t mark rest : Text} (h : sigil? t = some (mark, rest)) :
    mark ∈ sigils ∧ t = mark ++ rest := by
  unfold sigil? at h
  split at h
  · cases h; exact ⟨by decide, rfl⟩
  · cases h; exact ⟨by decide, rfl⟩
  · cases h; exact ⟨by decide, rfl⟩
  · cases h

/-- A text starts with the longest name there is. -/
theorem name?_eq_some_iff {t name rest : Text} :
    name? t = some (name, rest) ↔
      IsName name ∧ t = name ++ rest ∧ ∀ c ∈ rest.head?, isNameChar c = false := by
  constructor
  · intro h
    unfold name? at h
    split at h
    · cases h
    · next mark after hs =>
        obtain ⟨hm, rfl⟩ := sigil?_eq_some hs
        dsimp only at h
        split at h
        · cases h
        · next hw =>
            obtain ⟨rfl, rfl⟩ := Prod.mk.inj (Option.some.inj h)
            refine ⟨⟨mark, _, hm, fun e => hw (by rw [e]; rfl),
              fun c hc => List.mem_takeWhile_imp hc, rfl⟩, ?_, Text.stop_dropWhile _ _⟩
            rw [List.append_assoc, List.takeWhile_append_dropWhile]
  · rintro ⟨⟨mark, word, hm, hne, hw, rfl⟩, rfl, hr⟩
    have htake := Text.takeWhile_append_of_stop hw hr
    have hdrop := Text.dropWhile_append_of_stop hw hr
    rw [List.append_assoc, name?, sigil?_append hm]
    simp [htake, hdrop, hne]

/-! ### Values -/

/-- A value ends at the first character that can end one, and that is a semicolon. -/
theorem value?_eq_some_iff {t value rest : Text} :
    value? t = some (value, rest) ↔
      ∃ raw, raw ≠ [] ∧ (∀ c ∈ raw, endsValue c = false) ∧ t = raw ++ ';' :: rest ∧
        value = Text.trim raw := by
  constructor
  · intro h
    unfold value? at h
    dsimp only at h
    split at h
    · next after hd =>
        split at h
        · cases h
        · next hr =>
            obtain ⟨rfl, rfl⟩ := Prod.mk.inj (Option.some.inj h)
            refine ⟨_, fun e => hr (by rw [e]; rfl),
              fun c hc => by simpa using List.mem_takeWhile_imp hc, ?_, rfl⟩
            rw [← hd, List.takeWhile_append_dropWhile]
    · cases h
  · rintro ⟨raw, hne, hraw, rfl, rfl⟩
    have hraw' : ∀ c ∈ raw, (!endsValue c) = true := fun c hc => by simp [hraw c hc]
    have hstop : ∀ c ∈ (';' :: rest).head?, (!endsValue c) = false := Text.stop_cons rfl rest
    unfold value?
    rw [Text.takeWhile_append_of_stop hraw' hstop, Text.dropWhile_append_of_stop hraw' hstop]
    simp [hne]

/-! ### Declarations -/

/-- A name starts with a character of its mark. -/
theorem IsName.exists_cons {name : Text} (h : IsName name) :
    ∃ c t, name = c :: t ∧ (c = '-' ∨ c = '$' ∨ c = '@') := by
  obtain ⟨mark, word, hm, -, -, rfl⟩ := h
  simp only [sigils, List.mem_cons, List.not_mem_nil, or_false] at hm
  rcases hm with rfl | rfl | rfl
  · exact ⟨_, _, rfl, .inl rfl⟩
  · exact ⟨_, _, rfl, .inr (.inl rfl)⟩
  · exact ⟨_, _, rfl, .inr (.inr rfl)⟩

theorem isNameChar_eq_false_of_isSpaceOrTab {c : Char} (h : isSpaceOrTab c = true) :
    isNameChar c = false := by
  rcases Text.eq_of_isSpaceOrTab h with rfl | rfl <;> rfl

/-- **The shape of a declaration.**  What follows the semicolon is looked at for a comment. -/
theorem first?_eq_some_iff {t rest : Text} {v : Variable} :
    first? t = some (v, rest) ↔
      ∃ name blanks raw after, IsName name ∧ (∀ c ∈ blanks, isSpaceOrTab c = true) ∧ raw ≠ [] ∧
        (∀ c ∈ raw, endsValue c = false) ∧
        t = name ++ blanks ++ ':' :: (raw ++ ';' :: after) ∧
        v = ⟨name, Text.trim raw, (comment after).1⟩ ∧ rest = (comment after).2 := by
  constructor
  · intro h
    unfold first? at h
    split at h
    · cases h
    · next name afterName hn =>
        obtain ⟨hname, rfl, -⟩ := name?_eq_some_iff.1 hn
        split at h
        · next afterColon hd =>
            split at h
            · cases h
            · next value after hv =>
                obtain ⟨raw, hne, hraw, rfl, rfl⟩ := value?_eq_some_iff.1 hv
                obtain ⟨rfl, rfl⟩ := Prod.mk.inj (Option.some.inj h)
                refine ⟨name, afterName.takeWhile isSpaceOrTab, raw, after, hname,
                  fun c hc => List.mem_takeWhile_imp hc, hne, hraw, ?_, rfl, rfl⟩
                rw [List.append_assoc, ← hd, List.takeWhile_append_dropWhile]
        · cases h
  · rintro ⟨name, blanks, raw, after, hname, hblanks, hne, hraw, rfl, rfl, rfl⟩
    have hstop : ∀ c ∈ (blanks ++ ':' :: (raw ++ ';' :: after)).head?, isNameChar c = false := by
      cases blanks with
      | nil => exact Text.stop_cons rfl _
      | cons b blanks =>
          have hb := isNameChar_eq_false_of_isSpaceOrTab (hblanks b List.mem_cons_self)
          exact Text.stop_cons hb _
    have hcolon : ∀ c ∈ (':' :: (raw ++ ';' :: after)).head?, isSpaceOrTab c = false :=
      Text.stop_cons rfl _
    have hn := name?_eq_some_iff.2 ⟨hname, List.append_assoc name blanks _, hstop⟩
    have hv : value? (raw ++ ';' :: after) = some (Text.trim raw, after) :=
      value?_eq_some_iff.2 ⟨raw, hne, hraw, rfl, rfl⟩
    unfold first?
    rw [hn]
    simp only [Text.dropWhile_append_of_stop hblanks hcolon, hv]

/-- A text that starts with a blank starts with no declaration. -/
theorem first?_cons_eq_none {c : Char} (hc : isSpaceOrTab c = true) (t : Text) :
    first? (c :: t) = none := by
  rcases Text.eq_of_isSpaceOrTab hc with rfl | rfl <;> rfl

/-! ### The scan of a line -/

theorem ofLine_of_first? {t rest : Text} {v : Variable} (h : first? t = some (v, rest)) :
    ofLine t = v :: inLine rest := by
  rw [ofLine, h]

theorem ofLine_of_first?_none {t : Text} (h : first? t = none) : ofLine t = inLine t := by
  rw [ofLine, h]

/-- Behind a boundary a line is read as it is read at its start. -/
theorem inLine_cons_boundary {c : Char} (h : isBoundary c = true) (t : Text) :
    inLine (c :: t) = ofLine t := by
  rw [inLine, if_pos h, ofLine]
  split <;> simp_all

theorem inLine_cons_other {c : Char} (h : isBoundary c = false) (t : Text) :
    inLine (c :: t) = inLine t := by
  rw [inLine, h]
  rfl

theorem inLine_nil : inLine [] = [] := by
  rw [inLine]

theorem ofLine_nil : ofLine [] = [] := inLine_nil

end PatternBook.Declaration
