import Mathlib.Data.List.Basic
import PatternBook.Proofs.Page.Nesting

/-!
# Escaping and decoding

Escaping writes an entity for each of four characters (`Markup.entities`).  It can be done in one
pass over the text, or by replacing the characters in turn, each in what the replacements before
have made of the text.  The two agree because of the order: the ampersand, which every entity has,
is replaced before there are any entities, and no other entity has a character that is replaced
after it (`Text.replaceAll_eq_flatMap`).

* `Markup.Inert`: a text in which nothing is markup.
* `Markup.unescape`: reading the entities of a text from left to right.
* `Markup.escape_lossless`: escaping in turn is escaping in one pass, what it writes is inert, and
  reading it gives the text back.
-/

namespace PatternBook

/-! ### Replacing characters -/

namespace Text

/-- The text with another one in place of each `c`. -/
def replace (t : Text) (c : Char) (new : Text) : Text :=
  t.flatMap fun d => if d = c then new else [d]

/-- The text after the replacements of a table, one after the other. -/
def replaceAll (table : List (Char × Text)) (t : Text) : Text :=
  table.foldl (fun t entry => replace t entry.1 entry.2) t

/-- What a table has for a character: the first of its entries, or the character itself. -/
def lookUp (table : List (Char × Text)) (c : Char) : Text := (table.lookup c).getD [c]

theorem lookUp_cons (entry : Char × Text) (table : List (Char × Text)) (c : Char) :
    lookUp (entry :: table) c = if c = entry.1 then entry.2 else lookUp table c := by
  unfold lookUp
  split
  · next h => rw [h, List.lookup_cons_self]; rfl
  · next h => rw [List.lookup_cons, beq_false_of_ne h]

/-- A text without a character of the table is not changed. -/
theorem flatMap_lookUp_eq_self {table : List (Char × Text)} {t : Text}
    (h : ∀ entry ∈ table, entry.1 ∉ t) : t.flatMap (lookUp table) = t := by
  have hself : ∀ c ∈ t, lookUp table c = [c] := fun c hc => by
    have hnone : table.lookup c = none := by
      refine List.lookup_eq_none_iff.2 fun entry hentry => bne_iff_ne.2 ?_
      rintro rfl
      exact h entry hentry hc
    rw [lookUp, hnone]
    rfl
  rw [List.flatMap_congr hself, List.flatMap_singleton']

/-- **Replacing in turn is replacing in one pass**, if no entry puts in a character that a later one
replaces. -/
theorem replaceAll_eq_flatMap {table : List (Char × Text)}
    (h : table.Pairwise fun entry later => later.1 ∉ entry.2) (t : Text) :
    replaceAll table t = t.flatMap (lookUp table) := by
  induction table generalizing t with
  | nil => exact (List.flatMap_singleton' t).symm
  | cons entry table ih =>
      obtain ⟨hentry, htable⟩ := List.pairwise_cons.1 h
      have hstep : ∀ c, (if c = entry.1 then entry.2 else [c]).flatMap (lookUp table)
          = lookUp (entry :: table) c := fun c => by
        rw [lookUp_cons]
        split
        · exact flatMap_lookUp_eq_self hentry
        · exact List.flatMap_singleton _ c
      calc replaceAll (entry :: table) t
          = replaceAll table (replace t entry.1 entry.2) := rfl
        _ = (replace t entry.1 entry.2).flatMap (lookUp table) := ih htable _
        _ = t.flatMap (lookUp (entry :: table)) := by
            rw [replace, List.flatMap_assoc]
            exact congrArg (List.flatMap · t) (funext hstep)

end Text

namespace Markup

/-! ### Entities -/

/-- The characters that are escaped, each with its entity. -/
def entities : List (Char × Text) :=
  [('&', "&amp;"), ('<', "&lt;"), ('>', "&gt;"), ('"', "&quot;")]

/-- A text escaped by one replacement after the other. -/
def escapeInTurn (t : Text) : Text := t.replaceAll entities

/-- Nothing in the text is markup: it has no angle bracket and no quote, and each ampersand is the
first character of an entity. -/
structure Inert (t : Text) : Prop where
  quotable : PageTag.Quotable t
  entity   : ∀ before after, t = before ++ '&' :: after →
    ∃ entry ∈ entities, entry.2 <+: '&' :: after

/-- The character of the entity that a text starts with, and what follows the entity. -/
def entity? (t : Text) : Option (Char × Text) :=
  entities.findSome? fun entry => (Text.after? entry.2 t).map (entry.1, ·)

theorem length_entity? {t rest : Text} {c : Char} (h : entity? t = some (c, rest)) :
    rest.length < t.length := by
  obtain ⟨entry, hentry, hafter⟩ := List.exists_of_findSome?_eq_some h
  obtain ⟨_, hrest, hpair⟩ := Option.map_eq_some_iff.1 hafter
  obtain ⟨-, rfl⟩ := Prod.mk.inj hpair
  have hne : ∀ e ∈ entities, 0 < e.2.length := by decide
  rw [Text.eq_of_after? hrest, List.length_append]
  exact Nat.lt_add_of_pos_left (hne entry hentry)

/-- A text with its entities read from left to right. -/
def unescape : Text → Text
  | [] => []
  | c :: t =>
    match _h : entity? (c :: t) with
    | some (d, rest) => d :: unescape rest
    | none => c :: unescape t
  termination_by t => t.length
  decreasing_by
    · exact length_entity? _h
    · exact Nat.lt_add_one t.length

/-! ### One character -/

theorem escapeChar_eq_lookUp (c : Char) : escapeChar c = Text.lookUp entities c := by
  rw [entities, Text.lookUp_cons, Text.lookUp_cons, Text.lookUp_cons, Text.lookUp_cons]
  rfl

/-- A character is written as its entity, or as it is. -/
theorem escapeChar_cases (c : Char) :
    (∃ entry ∈ entities, c = entry.1 ∧ escapeChar c = entry.2) ∨
      c ≠ '&' ∧ escapeChar c = [c] := by
  by_cases hmem : c ∈ entities.map Prod.fst
  · have hentry : ∀ entry ∈ entities, escapeChar entry.1 = entry.2 := by decide
    obtain ⟨entry, he, rfl⟩ := List.mem_map.1 hmem
    exact .inl ⟨entry, he, rfl, hentry entry he⟩
  · have hplain : c ≠ '&' ∧ c ≠ '<' ∧ c ≠ '>' ∧ c ≠ '"' := by simpa [entities] using hmem
    exact .inr ⟨hplain.1, escapeChar_eq_self hplain⟩

/-- An ampersand in what is written for a character starts it, and it is an entity. -/
theorem eq_nil_of_escapeChar {c : Char} {before after : Text}
    (h : escapeChar c = before ++ '&' :: after) :
    before = [] ∧ ∃ entry ∈ entities, escapeChar c = entry.2 := by
  rcases escapeChar_cases c with ⟨entry, hentry, -, hc⟩ | ⟨hamp, hc⟩
  · refine ⟨?_, entry, hentry, hc⟩
    have hone : ∀ e ∈ entities, e.2.head? = some '&' ∧ '&' ∉ e.2.tail := by decide
    obtain ⟨hhead, htail⟩ := hone entry hentry
    rw [← hc, h] at hhead htail
    cases before with
    | nil => rfl
    | cons d before => exact absurd (List.mem_append_right before List.mem_cons_self) htail
  · rw [hc] at h
    have hmem : '&' ∈ [c] := h ▸ List.mem_append_right before List.mem_cons_self
    exact absurd (List.mem_singleton.1 hmem).symm hamp

theorem entity?_append {entry : Char × Text} (h : entry ∈ entities) (t : Text) :
    entity? (entry.2 ++ t) = some (entry.1, t) := by
  simp only [entities, List.mem_cons, List.not_mem_nil, or_false] at h
  rcases h with rfl | rfl | rfl | rfl <;> rfl

theorem entity?_eq_none {c : Char} (h : c ≠ '&') (t : Text) : entity? (c :: t) = none := by
  have hhead : ∀ entry ∈ entities, entry.2.head? = some '&' := by decide
  refine List.findSome?_eq_none_iff.2 fun entry hentry => Option.map_eq_none_iff.2 ?_
  obtain ⟨u, hu⟩ := List.head?_eq_some_iff.1 (hhead entry hentry)
  rw [hu, Text.after?, if_neg h.symm]

theorem unescape_escapeChar (c : Char) (t : Text) :
    unescape (escapeChar c ++ t) = c :: unescape t := by
  rcases escapeChar_cases c with ⟨entry, hentry, rfl, hc⟩ | ⟨hamp, hc⟩
  · have hread := entity?_append hentry t
    rw [hc]
    cases hcut : entry.2 ++ t with
    | nil => rw [hcut] at hread; cases hread
    | cons d u =>
        rw [hcut] at hread
        rw [unescape]
        split
        · next hsome => rw [hread] at hsome; cases hsome; rfl
        · next hnone => rw [hread] at hnone; cases hnone
  · rw [hc, List.singleton_append, unescape]
    split
    · next hsome => rw [entity?_eq_none hamp] at hsome; cases hsome
    · rfl

/-! ### The whole text -/

theorem escape_eq_flatMap (t : Text) : escape t = t.flatMap (Text.lookUp entities) :=
  congrArg (List.flatMap · t) (funext escapeChar_eq_lookUp)

theorem escapeInTurn_eq_escape (t : Text) : escapeInTurn t = escape t := by
  rw [escapeInTurn, Text.replaceAll_eq_flatMap (by decide), escape_eq_flatMap]

theorem escape_cons (c : Char) (t : Text) : escape (c :: t) = escapeChar c ++ escape t := rfl

theorem entity_of_escape {t before after : Text} (h : escape t = before ++ '&' :: after) :
    ∃ entry ∈ entities, entry.2 <+: '&' :: after := by
  induction t generalizing before with
  | nil => exact absurd h.symm (by simp [escape])
  | cons c t ih =>
      rw [escape_cons] at h
      rcases List.append_eq_append_iff.1 h with ⟨w, -, hw⟩ | ⟨w, hc, hw⟩
      · exact ih hw
      · cases w with
        | nil =>
            have hrest : escape t = [] ++ '&' :: after := hw.symm
            exact ih hrest
        | cons d w =>
            obtain ⟨rfl, hafter⟩ := List.cons.inj hw
            obtain ⟨rfl, entry, hentry, he⟩ := eq_nil_of_escapeChar hc
            refine ⟨entry, hentry, escape t, ?_⟩
            rw [← he, hc, hafter]
            rfl

theorem inert_escape (t : Text) : Inert (escape t) where
  quotable := quotable_escape t
  entity _ _ h := entity_of_escape h

theorem unescape_escape (t : Text) : unescape (escape t) = t := by
  induction t with
  | nil => rw [escape, List.flatMap_nil, unescape]
  | cons c t ih => rw [escape_cons, unescape_escapeChar, ih]

/-- **Escaping is lossless.**  Replacing the characters in turn is escaping, which puts each
character's entity for it in one pass; a text is escaped piece by piece; what is written is inert;
reading it gives the text back, so that no other text is written alike. -/
theorem escape_lossless (s : Text) :
    escapeInTurn s = escape s ∧ escape s = s.flatMap (Text.lookUp entities) ∧
      (∀ t, escape (s ++ t) = escape s ++ escape t) ∧
      Inert (escape s) ∧
      unescape (escape s) = s ∧
      ∀ t, escape s = escape t ↔ s = t := by
  refine ⟨escapeInTurn_eq_escape s, escape_eq_flatMap s, escape_append s, inert_escape s,
    unescape_escape s, fun t => ⟨fun h => ?_, fun h => h ▸ rfl⟩⟩
  rw [← unescape_escape s, h, unescape_escape]

end Markup

end PatternBook
