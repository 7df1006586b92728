import Mathlib.Data.List.Forall2
import PatternBook.Proofs.Record.Canonical

/-!
# Blocks with and without gutters

The lines of a block may each stand behind a gutter or not.  Behind a gutter a line keeps its
indentation and without one it loses it, and that is all: tags are looked for behind the
indentation, values are trimmed, and so is the body as a whole.

* `Text.Reindented`: texts with the same lines, but for what these are indented by.
* `Draft.Reindented.readLines`: lines that are indented in another way are read in the same way.
* `annotate_gutters`: the gutters of a block change the indentation of its body at most.
-/

namespace PatternBook

namespace Text

/-! ### Lines that are indented in another way -/

/-- Both texts have the same lines, but for the blanks at their starts. -/
def Reindented (s t : Text) : Prop :=
  List.Forall₂ (fun l l' => trimStart l = trimStart l') (splitOn '\n' s) (splitOn '\n' t)

/-- Two lines without blanks at their ends, which differ in the blanks at their starts at most. -/
structure Shifted (l l' : Text) : Prop where
  ink   : trimStart l = trimStart l'
  left  : trimEnd l = l ∧ '\n' ∉ l
  right : trimEnd l' = l' ∧ '\n' ∉ l'

theorem trimStart_trim (t : Text) : trimStart t.trim = t.trim :=
  trimStart_eq_self (isTrimmed_trim t).1

/-- The end of a text can be trimmed before its start. -/
theorem trimStart_trimEnd (t : Text) : trimStart (trimEnd t) = t.trim := by
  have hblank : ∀ c ∈ t.takeWhile isBlank, isBlank c = true := fun c hc =>
    List.mem_takeWhile_imp hc
  have ht : t = t.takeWhile isBlank ++ trimStart t := List.takeWhile_append_dropWhile.symm
  conv_lhs => rw [ht, trimEnd_append]
  split
  · next hnil =>
    rw [trim, hnil]
    exact congrArg trimStart (trimEnd_append_of_blank hblank [])
  · rw [trimStart_append_of_blank hblank]
    exact trimStart_trim t

theorem trimEnd_trimStart {l : Text} (h : trimEnd l = l) : trimEnd (trimStart l) = trimStart l := by
  rw [← trim, ← trimStart_trimEnd, h]

theorem trimStart_eq_nil {l : Text} (h : trimEnd l = l) : trimStart l = [] ↔ l = [] := by
  constructor
  · intro hnil
    rw [← h, trimEnd, ← List.reverse_nil, List.reverse_inj, List.dropWhile_eq_nil_iff]
    rw [trimStart, List.dropWhile_eq_nil_iff] at hnil
    exact fun c hc => hnil c (List.mem_reverse.1 hc)
  · rintro rfl
    rfl

namespace Shifted

variable {l l' : Text}

theorem symm (h : Shifted l l') : Shifted l' l := ⟨h.ink.symm, h.right, h.left⟩

theorem trim (h : Shifted l l') : Text.trim l = Text.trim l' := by
  rw [Text.trim, h.ink, ← Text.trim]

theorem eq_nil_iff (h : Shifted l l') : l = [] ↔ l' = [] := by
  rw [← trimStart_eq_nil h.left.1, h.ink, trimStart_eq_nil h.right.1]

theorem trimStart (h : Shifted l l') : Shifted (trimStart l) (Text.trimStart l') where
  ink := congrArg Text.trimStart h.ink
  left := ⟨trimEnd_trimStart h.left.1, fun hn => h.left.2 ((List.dropWhile_sublist _).subset hn)⟩
  right := ⟨trimEnd_trimStart h.right.1,
    fun hn => h.right.2 ((List.dropWhile_sublist _).subset hn)⟩

end Shifted

/-! ### Trimming such lines -/

variable {ls ls' : List Text}

theorem joinWith_eq_nil (h : List.Forall₂ Shifted ls ls') :
    joinWith "\n" ls = [] ↔ joinWith "\n" ls' = [] := by
  cases h with
  | nil => exact Iff.rfl
  | @cons l l' ls ls' hl hls =>
      cases hls with
      | nil => exact hl.eq_nil_iff
      | cons _ _ =>
          rw [joinWith_cons (List.cons_ne_nil _ _), joinWith_cons (List.cons_ne_nil _ _)]
          simp

/-- The lines that are left when the start is trimmed. -/
theorem exists_trimStart_joinWith (h : List.Forall₂ Shifted ls ls') :
    ∃ ks ks', List.Forall₂ Shifted ks ks' ∧ trimStart (joinWith "\n" ls) = joinWith "\n" ks ∧
      trimStart (joinWith "\n" ls') = joinWith "\n" ks' := by
  induction h with
  | nil => exact ⟨[], [], .nil, rfl, rfl⟩
  | @cons l l' ls ls' hl hls ih =>
      by_cases hnil : l = []
      -- an empty line is trimmed with its newline
      · obtain rfl := hl.eq_nil_iff.1 hnil
        obtain rfl := hnil
        cases hls with
        | nil => exact ⟨[], [], .nil, rfl, rfl⟩
        | cons _ _ =>
            rw [joinWith_cons (List.cons_ne_nil _ _), joinWith_cons (List.cons_ne_nil _ _)]
            exact ih
      · have hl₁ : trimStart l ≠ [] := mt (trimStart_eq_nil hl.left.1).1 hnil
        have hl₂ : trimStart l' ≠ [] := hl.ink ▸ hl₁
        refine ⟨trimStart l :: ls, trimStart l' :: ls', .cons hl.trimStart hls, ?_⟩
        cases hls with
        | nil => exact ⟨rfl, rfl⟩
        | cons _ _ =>
            simp only [joinWith_cons (List.cons_ne_nil _ _), List.append_assoc,
              trimStart_append hl₁, trimStart_append hl₂, and_self]

/-- The lines that are left when the end is trimmed. -/
theorem exists_trimEnd_joinWith (h : List.Forall₂ Shifted ls ls') :
    ∃ ks ks', List.Forall₂ Shifted ks ks' ∧ trimEnd (joinWith "\n" ls) = joinWith "\n" ks ∧
      trimEnd (joinWith "\n" ls') = joinWith "\n" ks' := by
  have hnewline : ∀ c ∈ (['\n'] : Text), isBlank c = true := List.forall_mem_singleton.2 rfl
  induction h with
  | nil => exact ⟨[], [], .nil, rfl, rfl⟩
  | @cons l l' ls ls' hl hls ih =>
      cases hls with
      | nil => exact ⟨[l], [l'], .cons hl .nil, hl.left.1, hl.right.1⟩
      | cons _ _ =>
          obtain ⟨ks, ks', hks, hend, hend'⟩ := ih
          have hline (t : Text) : trimEnd (t ++ ['\n']) = trimEnd t :=
            trimEnd_append_of_blank hnewline t
          rw [joinWith_cons (List.cons_ne_nil _ _), joinWith_cons (List.cons_ne_nil _ _),
            trimEnd_append (l ++ _), trimEnd_append (l' ++ _), hend, hend']
          by_cases hnil : joinWith "\n" ks = []
          · rw [if_pos hnil, if_pos ((joinWith_eq_nil hks).1 hnil)]
            exact ⟨[l], [l'], .cons hl .nil, (hline l).trans hl.left.1,
              (hline l').trans hl.right.1⟩
          · have hnil' := mt (joinWith_eq_nil hks).2 hnil
            have hne {us : List Text} (hus : joinWith "\n" us ≠ []) : us ≠ [] := by
              rintro rfl
              exact hus rfl
            rw [if_neg hnil, if_neg hnil']
            exact ⟨l :: ks, l' :: ks', .cons hl hks, (joinWith_cons (hne hnil)).symm,
              (joinWith_cons (hne hnil')).symm⟩

theorem newline_notMem_left (h : List.Forall₂ Shifted ls ls') : ∀ l ∈ ls, '\n' ∉ l := by
  induction h with
  | nil => exact List.forall_mem_nil _
  | cons hl _ ih => exact List.forall_mem_cons.2 ⟨hl.left.2, ih⟩

/-- **A text that is trimmed as a whole** has the same lines however these are indented. -/
theorem reindented_trim (h : List.Forall₂ Shifted ls ls') :
    Reindented (trim (joinWith "\n" ls)) (trim (joinWith "\n" ls')) := by
  obtain ⟨ks, ks', hks, hstart, hstart'⟩ := exists_trimStart_joinWith h
  obtain ⟨ms, ms', hms, hend, hend'⟩ := exists_trimEnd_joinWith hks
  have hleft := newline_notMem_left hms
  have hright := newline_notMem_left (hms.flip.imp fun _ _ hm => Shifted.symm hm)
  rw [trim, trim, hstart, hstart', hend, hend', Reindented]
  by_cases hnil : ms = []
  · obtain rfl := hnil
    obtain rfl := List.forall₂_nil_left_iff.1 hms
    exact .cons rfl .nil
  · have hnil' : ms' ≠ [] := by
      rintro rfl
      exact hnil (List.forall₂_nil_right_iff.1 hms)
    have hsplit : splitOn '\n' (joinWith "\n" ms) = ms := splitOn_joinWith hnil hleft
    have hsplit' : splitOn '\n' (joinWith "\n" ms') = ms' := splitOn_joinWith hnil' hright
    rw [hsplit, hsplit']
    exact hms.imp fun _ _ hm => hm.ink

theorem Reindented.symm {s t : Text} (h : Reindented s t) : Reindented t s :=
  h.flip.imp fun _ _ => Eq.symm

theorem Reindented.trim_eq_nil {t : Text} (h : Reindented [] t) : trim t = [] := by
  rw [Reindented, splitOn] at h
  have ht := joinWith_splitOn '\n' t
  generalize splitOn '\n' t = pieces at h ht
  cases h with
  | cons hl hls =>
      cases hls with
      | nil =>
          rw [← ht, trim, joinWith, ← hl]
          rfl

theorem Reindented.trim_eq_nil_iff {s t : Text} (h : Reindented s.trim t.trim) :
    s.trim = [] ↔ t.trim = [] := by
  constructor
  · intro hs
    rw [hs] at h
    rw [← trim_trim]
    exact h.trim_eq_nil
  · intro ht
    rw [ht] at h
    rw [← trim_trim]
    exact h.symm.trim_eq_nil

end Text

open Text (Shifted)

/-! ### Reading such lines -/

/-- The lines say the same, and prose is indented in another way. -/
inductive Line.Reindented : Line → Line → Prop where
  | tag (k : Keyword) (text : Text) : Reindented (.tag k text) (.tag k text)
  | unknownTag {l l' : Text} (h : Shifted l l') : Reindented (.unknownTag l) (.unknownTag l')
  | prose {l l' : Text} (h : Shifted l l') : Reindented (.prose l) (.prose l')

/-- A tag is looked for behind the indentation. -/
theorem Line.reindented_ofText {l l' : Text} (h : Shifted l l') :
    Reindented (ofText l) (ofText l') := by
  rw [ofText, ofText, h.ink]
  cases tagOfLine (Text.trimStart l') with
  | none => exact .prose h
  | some found =>
      obtain ⟨name, text⟩ := found
      cases hk : Keyword.ofName name with
      | none => simpa only [hk] using .unknownTag h
      | some k => simpa only [hk] using .tag k text.trim

namespace Draft

/-- The draft with another body. -/
def withBody (d : Draft) (b : List Text) : Draft := { d with body := b }

/-- The drafts have read the same, and their prose is indented in another way. -/
inductive Reindented : Draft → Draft → Prop where
  | of (d : Draft) {b b' : List Text} (h : List.Forall₂ Shifted b b') :
    Reindented (d.withBody b) (d.withBody b')

variable {d d' : Draft}

/-- Tags are entered without regard to the body. -/
theorem close_withBody (d : Draft) (b : List Text) :
    (d.withBody b).close = d.close.withBody b := by
  cases hopen : d.open? with
  | none => simp only [close, withBody, hopen]
  | some tag =>
      obtain ⟨keyword, line, parts⟩ := tag
      cases keyword <;> simp only [close, withBody, hopen, enter]

theorem Reindented.close (h : Reindented d d') : Reindented d.close d'.close := by
  cases h with
  | of d h =>
      rw [close_withBody, close_withBody]
      exact .of d.close h

/-- **One line** is read in the same way, however it is indented. -/
theorem Reindented.read (h : Reindented d d') {l l' : Line} (hl : Line.Reindented l l') (n : Nat) :
    Reindented (d.read n l) (d'.read n l') := by
  obtain ⟨d, h⟩ := h
  cases hl with
  | tag k text =>
      simp only [Draft.read, close_withBody]
      exact .of { d.close with recognized := true, open? := some ⟨k, n, partOf text⟩ } h
  | unknownTag hl =>
      simp only [Draft.read, close_withBody]
      exact .of d.close (List.rel_append h (.cons hl .nil))
  | prose hl =>
      cases hopen : d.open? with
      | none =>
          simp only [Draft.read, withBody, hopen]
          exact .of { d with open? := none } (List.rel_append h (.cons hl .nil))
      | some tag =>
          simp only [Draft.read, withBody, hopen, hl.trim]
          exact .of { d with open? := some { tag with parts := _ } } h

/-- **Lines that are indented in another way** are read in the same way. -/
theorem Reindented.readLines (h : Reindented d d') {ls ls' : List Text}
    (hls : List.Forall₂ (fun l l' => Shifted (dropGutter l) (dropGutter l')) ls ls') (n : Nat) :
    Reindented (d.readLines n ls) (d'.readLines n ls') := by
  induction hls generalizing d d' n with
  | nil => exact h
  | cons hl _ ih => exact ih (h.read (Line.reindented_ofText hl) n) (n + 1)

/-- What a block says of which everything has been read. -/
def outcome (policy : UntaggedPolicy) (d : Draft) : Annotated :=
  let body := Text.trim (Text.joinWith "\n" d.body)
  { record? :=
      if d.recognized || (policy = .keep && !body.isEmpty) then
        some { tags := d.tags, variants := d.variants, body := body }
      else none
    diagnostics := d.diagnostics }

end Draft

theorem annotate_eq_outcome (policy : UntaggedPolicy) (n : Nat) (text : Text) :
    annotate policy n text
      = ((Draft.readLines {} n (Text.lines text)).close).outcome policy := rfl

/-- The records say the same, and their bodies are indented in another way. -/
inductive Record.Reindented : Record → Record → Prop where
  | of (r : Record) {b b' : Text} (h : Text.Reindented b b') :
    Reindented { r with body := b } { r with body := b' }

/-- The blocks say the same, and their bodies are indented in another way. -/
structure Annotated.Reindented (a a' : Annotated) : Prop where
  record      : Option.Rel Record.Reindented a.record? a'.record?
  diagnostics : a'.diagnostics = a.diagnostics

theorem Draft.Reindented.outcome {d d' : Draft} (h : Reindented d d') (policy : UntaggedPolicy) :
    Annotated.Reindented (d.outcome policy) (d'.outcome policy) := by
  obtain ⟨d, h⟩ := h
  have hbody := Text.reindented_trim h
  refine ⟨?_, rfl⟩
  simp only [Draft.outcome, withBody, List.isEmpty_eq_false_iff, Bool.or_eq_true, Bool.and_eq_true,
    decide_eq_true_eq, Bool.not_eq_true', ne_eq, hbody.trim_eq_nil_iff]
  split
  · exact .some (.of { tags := d.tags, variants := d.variants } hbody)
  · exact .none

/-! ### Blocks with and without gutters -/

theorem Text.joinWith_concat {sep t : Text} {ts : List Text} (h : ts ≠ []) :
    joinWith sep (ts ++ [t]) = joinWith sep ts ++ sep ++ t := by
  induction ts with
  | nil => exact absurd rfl h
  | cons u us ih =>
      cases us with
      | nil => rfl
      | cons v vs =>
          have hne : v :: vs ≠ [] := List.cons_ne_nil v vs
          rw [List.cons_append, joinWith_cons (List.append_ne_nil_of_left_ne_nil hne _), ih hne,
            joinWith_cons hne]
          simp only [List.append_assoc]

/-- A newline ends a line, so the last line counts only if there is something on it. -/
theorem Text.endLines_concat (ls : List Text) (l : Text) :
    endLines (ls ++ [l]) = ls.map dropReturn ++ partOf l := by
  induction ls with
  | nil => rfl
  | cons k ks ih =>
      rw [List.map_cons, List.cons_append, List.cons_append, ← ih]
      cases ks <;> rfl

theorem Text.trim_joinWith_concat (ts : List Text) :
    trim (joinWith "\n" (ts ++ [[]])) = trim (joinWith "\n" ts) := by
  have hnil : ∀ c ∈ ([] : Text), isBlank c = true := fun _ hc => absurd hc List.not_mem_nil
  have hnewline : ∀ c ∈ (['\n'] : Text), isBlank c = true := List.forall_mem_singleton.2 rfl
  by_cases hne : ts = []
  · rw [hne]
    rfl
  · rw [joinWith_concat hne, List.append_nil]
    exact trim_append_of_blank hnil hnewline (joinWith "\n" ts)

/-- A blank line at the end of a block says nothing. -/
theorem Draft.outcome_readLines_concat {l : Text} (hl : dropGutter l = []) (d : Draft)
    (policy : UntaggedPolicy) (n : Nat) (ls : List Text) :
    (d.readLines n (ls ++ [l])).close.outcome policy
      = (d.readLines n ls).close.outcome policy := by
  have hprose : Line.ofText [] = .prose [] := rfl
  rw [readLines_append, readLines, readLines, hl, hprose]
  generalize d.readLines n ls = e
  cases hopen : e.open? with
  | none =>
      have hread : e.read (n + ls.length) (.prose []) = e.withBody (e.body ++ [[]]) := by
        simp only [read, hopen, withBody]
      have hclose : e.close = e := by rw [close, hopen]
      rw [hread, close_withBody, hclose]
      simp only [outcome, withBody, Text.trim_joinWith_concat]
  | some tag =>
      have hread : e.read (n + ls.length) (.prose []) = e := by
        have hparts : tag.parts ++ partOf (Text.trim []) = tag.parts := List.append_nil _
        rw [read, hopen]
        simp only [hparts, ← hopen]
      rw [hread]

/-- A line that does not start with a star is only trimmed. -/
theorem dropGutter_of_head? {l : Text} (h : (Text.trimStart l).head? ≠ some '*') :
    dropGutter l = Text.trim l := by
  unfold dropGutter
  split
  · next hstar => exact absurd (congrArg List.head? hstar) h
  · next hstar => exact absurd (congrArg List.head? hstar) h
  · rfl

/-- A carriage return at the end of such a line is trimmed with it. -/
theorem dropGutter_dropReturn_of_head? {l : Text} (h : (Text.trimStart l).head? ≠ some '*') :
    dropGutter (Text.dropReturn l) = Text.trim l := by
  have hhead : (Text.trimStart (Text.dropReturn l)).head? ≠ some '*' := by
    intro hstar
    obtain ⟨tail, htail⟩ := Text.dropReturn_isPrefix l
    have hne : Text.trimStart (Text.dropReturn l) ≠ [] := by
      intro hnil
      rw [hnil] at hstar
      cases hstar
    rw [← htail, Text.trimStart, List.dropWhile_append, ← Text.trimStart,
      if_neg (by simpa using hne), List.head?_append_of_ne_nil _ hne] at h
    exact h hstar
  rw [dropGutter_of_head? hhead, ← Text.trim_trimEnd, trimEnd_dropReturn, Text.trim_trimEnd]

theorem Text.shifted_trim {l : Text} (h : '\n' ∉ l) : Shifted (trim l) (trimEnd l) where
  ink := (trimStart_trim l).trans (trimStart_trimEnd l).symm
  left := ⟨trimEnd_trimEnd _, fun hn => h (trim_subset l hn)⟩
  right := ⟨trimEnd_trimEnd l, fun hn => h ((trimEnd_isPrefix l).subset hn)⟩

/-- The lines of lines that are put together, where the last one counts if it is not empty. -/
theorem Text.lines_joinWith {ls : List Text} {l : Text} (h : ∀ k ∈ ls ++ [l], '\n' ∉ k) :
    lines (joinWith "\n" (ls ++ [l])) = ls.map dropReturn ++ partOf l := by
  have hne : ls ++ [l] ≠ [] := List.append_ne_nil_of_right_ne_nil ls (List.cons_ne_nil l [])
  have hsplit : splitOn '\n' (joinWith "\n" (ls ++ [l])) = ls ++ [l] := splitOn_joinWith hne h
  rw [lines, hsplit, endLines_concat]

/-- Lines that do not start with a star are read like the same lines behind gutters. -/
theorem forall₂_shifted_gutter {ls : List Text} {l : Text} (hlines : ∀ k ∈ ls ++ [l], '\n' ∉ k)
    (hplain : ∀ k ∈ ls ++ [l], (Text.trimStart k).head? ≠ some '*') :
    List.Forall₂ (fun k k' => Shifted (dropGutter k) (dropGutter k'))
      (ls.map Text.dropReturn ++ [l])
      ((ls.map (gutter ++ ·)).map Text.dropReturn ++ [gutter ++ l]) := by
  rw [List.forall_mem_append, List.forall_mem_singleton] at hlines hplain
  refine List.rel_append ?_ (.cons ?_ .nil)
  · rw [List.map_map, List.forall₂_map_left_iff, List.forall₂_map_right_iff, List.forall₂_same]
    intro k hk
    rw [dropGutter_dropReturn_of_head? (hplain.1 k hk), Function.comp_apply, dropGutter_dropReturn]
    exact Text.shifted_trim (hlines.1 k hk)
  · rw [dropGutter_of_head? hplain.2, dropGutter_gutter]
    exact Text.shifted_trim hlines.2

/-- **A gutter is decoration.**  Lines that do not start with a star, and the same lines behind
gutters, make a record or not in the same way, with the same diagnostics, tags and variants; and
their bodies have the same lines, but for what these are indented by. -/
theorem annotate_gutters {ls : List Text} (hlines : ∀ l ∈ ls, '\n' ∉ l)
    (hplain : ∀ l ∈ ls, (Text.trimStart l).head? ≠ some '*') (policy : UntaggedPolicy) (n : Nat) :
    Annotated.Reindented (annotate policy n (Text.joinWith "\n" ls))
      (annotate policy n (Text.joinWith "\n" (ls.map (gutter ++ ·)))) := by
  rw [annotate_eq_outcome, annotate_eq_outcome]
  rcases List.eq_nil_or_concat ls with rfl | ⟨ks, l, rfl⟩
  · exact (Draft.Reindented.of {} .nil).close.outcome policy
  · rw [List.concat_eq_append] at hlines hplain ⊢
    have hstarred : ∀ k ∈ ks.map (gutter ++ ·) ++ [gutter ++ l], '\n' ∉ k := by
      rw [← List.map_singleton, ← List.map_append, List.forall_mem_map]
      intro k hk
      rw [List.mem_append, not_or]
      exact ⟨by decide, hlines k hk⟩
    -- behind a gutter an empty last line is a line, and without one it is none
    have hlast : (Draft.readLines {} n (ks.map Text.dropReturn ++ partOf l)).close.outcome policy
        = (Draft.readLines {} n (ks.map Text.dropReturn ++ [l])).close.outcome policy := by
      cases l with
      | nil =>
          rw [Draft.outcome_readLines_concat rfl]
          exact congrArg (fun ms => (Draft.readLines {} n ms).close.outcome policy)
            (List.append_nil _)
      | cons c t => rfl
    rw [Text.lines_joinWith hlines, List.map_append, List.map_singleton,
      Text.lines_joinWith hstarred, hlast]
    exact ((Draft.Reindented.of {} .nil).readLines (forall₂_shifted_gutter hlines hplain)
      n).close.outcome policy

/-- Lines with an indented tag that goes on, a tag that is not in the vocabulary, blank lines, a
wide space and a carriage return. -/
def looseLines : List Text :=
  ["", "  The grid.", "\u3000", "   @title Grid  ", "\t of columns", "", "@see  the book",
    "      from the start\r", " @state :hover  lit", ""]

theorem annotate_gutters_looseLines :
    (∀ l ∈ looseLines, '\n' ∉ l) ∧
      (∀ l ∈ looseLines, (Text.trimStart l).head? ≠ some '*') ∧
      Annotated.Reindented (annotate .drop 3 (Text.joinWith "\n" looseLines))
        (annotate .drop 3 (Text.joinWith "\n" (looseLines.map (gutter ++ ·)))) ∧
      (annotate .drop 3 (Text.joinWith "\n" looseLines)).record?
        = some
          { tags := { title := some "Grid of columns" }
            variants := [⟨.state, ":hover", "lit"⟩]
            body := "The grid.\n\n@see  the book\nfrom the start" } ∧
      (annotate .drop 3 (Text.joinWith "\n" (looseLines.map (gutter ++ ·)))).record?.map
          Record.body
        = some "The grid.\n\n@see  the book\n      from the start".toList := by
  have hlines : ∀ l ∈ looseLines, '\n' ∉ l := by decide +kernel
  have hplain : ∀ l ∈ looseLines, (Text.trimStart l).head? ≠ some '*' := by decide +kernel
  exact ⟨hlines, hplain, annotate_gutters hlines hplain .drop 3, by decide +kernel,
    by decide +kernel⟩

end PatternBook
