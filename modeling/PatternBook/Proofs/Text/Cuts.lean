import Mathlib.Data.List.TakeWhile
import PatternBook.Text.Blank

/-!
# Cuts of a text

Where a text is cut is determined by what stands on the two sides of the cut.

* `takeWhile_append_of_stop`, `dropWhile_append_of_stop`: a run of characters ends where the next
  character is of another kind.
* `prefix_of_splitAt?`: a cut at a text is made at its first occurrence.
* `append_cons_inj`: the first occurrence of a character has one text before it and one after it.
* `countP_trim`: trimming removes blanks only.
-/

namespace PatternBook.Text

/-! ### Runs -/

theorem takeWhile_append_of_stop {p : Char → Bool} {s t : Text} (hs : ∀ c ∈ s, p c = true)
    (ht : ∀ c ∈ t.head?, p c = false) : (s ++ t).takeWhile p = s := by
  rw [List.takeWhile_append_of_pos hs]
  cases t with
  | nil => simp
  | cons c t => simp [ht c rfl]

theorem dropWhile_append_of_stop {p : Char → Bool} {s t : Text} (hs : ∀ c ∈ s, p c = true)
    (ht : ∀ c ∈ t.head?, p c = false) : (s ++ t).dropWhile p = t := by
  rw [List.dropWhile_append_of_pos hs]
  cases t with
  | nil => rfl
  | cons c t => exact List.dropWhile_cons_of_neg (by simp [ht c rfl])

/-- A run ends at a character of another kind. -/
theorem stop_dropWhile (p : Char → Bool) (t : Text) :
    ∀ c ∈ (t.dropWhile p).head?, p c = false := by
  intro c hc
  have h := List.head?_dropWhile_not p t
  rw [Option.mem_def] at hc
  simpa [hc] using h

theorem stop_cons {p : Char → Bool} {c : Char} (h : p c = false) (t : Text) :
    ∀ d ∈ (c :: t).head?, p d = false := by
  rintro d ⟨⟩
  exact h

/-! ### The first occurrence of a character -/

/-- What stands before the first `c` and what stands after it. -/
theorem append_cons_inj {c : Char} {s t u v : Text} (hs : c ∉ s) (ht : c ∉ t)
    (h : s ++ c :: u = t ++ c :: v) : s = t ∧ u = v := by
  induction s generalizing t with
  | nil =>
      cases t with
      | nil => exact ⟨rfl, (List.cons.inj h).2⟩
      | cons d t => exact absurd (List.cons.inj h).1 (List.ne_of_not_mem_cons ht)
  | cons d s ih =>
      cases t with
      | nil => exact absurd (List.cons.inj h).1.symm (List.ne_of_not_mem_cons hs)
      | cons e t =>
          obtain ⟨rfl, htail⟩ := List.cons.inj h
          obtain ⟨rfl, rfl⟩ := ih (List.not_mem_of_not_mem_cons hs)
            (List.not_mem_of_not_mem_cons ht) htail
          exact ⟨rfl, rfl⟩

/-! ### The first occurrence of a text -/

/-- A cut at a text is the first one there is. -/
theorem prefix_of_splitAt? {mark t before rest s r : Text}
    (h : splitAt? mark t = some (before, rest)) (e : t = s ++ mark ++ r) : before <+: s := by
  induction t generalizing before s with
  | nil =>
      simp only [splitAt?] at h
      split at h
      · cases h; exact List.nil_prefix
      · cases h
  | cons c t ih =>
      simp only [splitAt?] at h
      split at h
      · cases h; exact List.nil_prefix
      · next hn =>
          obtain ⟨cut, hcut, hpair⟩ := Option.map_eq_some_iff.1 h
          obtain ⟨rfl, rfl⟩ := Prod.mk.inj hpair
          cases s with
          | nil =>
              rw [e, List.nil_append, after?_append] at hn
              cases hn
          | cons d s =>
              obtain ⟨rfl, et⟩ := List.cons.inj e
              exact List.cons_prefix_cons.2 ⟨rfl, ih hcut et⟩

/-- A text that cannot be cut does not occur. -/
theorem ne_of_splitAt?_eq_none {mark t : Text} (h : splitAt? mark t = none) (s r : Text) :
    t ≠ s ++ mark ++ r := by
  induction t generalizing s with
  | nil =>
      intro e
      have hm : mark = [] := (List.append_eq_nil_iff.1 (List.append_eq_nil_iff.1 e.symm).1).2
      rw [splitAt?, hm] at h
      cases h
  | cons c t ih =>
      intro e
      simp only [splitAt?] at h
      split at h
      · cases h
      · next hn =>
          cases s with
          | nil =>
              rw [e, List.nil_append, after?_append] at hn
              cases hn
          | cons d s => exact ih (Option.map_eq_none_iff.1 h) s (List.cons.inj e).2

/-- A cut stays where it is when the text goes on. -/
theorem splitAt?_append {mark t before rest : Text} (h : splitAt? mark t = some (before, rest))
    (u : Text) : splitAt? mark (t ++ u) = some (before, rest ++ u) := by
  have ht := eq_of_splitAt? h
  have htu : t ++ u = before ++ mark ++ (rest ++ u) := by rw [ht, List.append_assoc]
  cases hcut : splitAt? mark (t ++ u) with
  | none => exact absurd htu (ne_of_splitAt?_eq_none hcut before (rest ++ u))
  | some cut =>
      obtain ⟨s, r⟩ := cut
      have hs := prefix_of_splitAt? hcut htu
      -- what is before `before` and a mark long lies in `t`
      have hin : s ++ mark <+: t := by
        have hmark : s ++ mark <+: t ++ u := ⟨r, (eq_of_splitAt? hcut).symm⟩
        refine List.prefix_of_prefix_length_le hmark (List.prefix_append t u) ?_
        have := hs.length_le
        rw [ht]
        simp only [List.length_append]
        omega
      obtain ⟨v, hv⟩ := hin
      obtain rfl := hs.eq_of_length_le (prefix_of_splitAt? h hv.symm).length_le
      have hr := htu.symm.trans (eq_of_splitAt? hcut)
      rw [List.append_cancel_left hr]

/-- A text without the mark is cut off before it, if it does not end inside of a mark. -/
theorem splitAt?_of_not_infix {mark t : Text} (h : ¬ mark <:+: t)
    (hlast : ∀ c ∈ t.getLast?, c ∉ mark) (rest : Text) :
    splitAt? mark (t ++ mark ++ rest) = some (t, rest) := by
  cases hcut : splitAt? mark (t ++ mark ++ rest) with
  | none => exact absurd rfl (ne_of_splitAt?_eq_none hcut t rest)
  | some cut =>
      obtain ⟨s, r⟩ := cut
      obtain ⟨w, rfl⟩ := prefix_of_splitAt? hcut rfl
      have e := eq_of_splitAt? hcut
      simp only [List.append_assoc, List.append_cancel_left_eq] at e
      rcases List.append_eq_append_iff.1 e with ⟨v, hv, -⟩ | ⟨v, hv, -⟩
      · -- the mark starts in `w` and goes beyond it
        rcases List.eq_nil_or_concat w with rfl | ⟨w', c, rfl⟩
        · rw [List.nil_append] at e
          rw [List.append_cancel_left e, List.append_nil]
        · refine absurd ?_ (hlast c (by simp))
          rw [hv]
          simp
      · exact absurd ⟨s, v, by rw [List.append_assoc, ← hv]⟩ h

/-- Whether a text starts with the mark is settled by a character that the mark does not have. -/
theorem after?_append_of_mem {c : Char} {mark : Text} (hmark : c ∉ mark) {t : Text} (ht : c ∈ t)
    (u : Text) : after? mark (t ++ u) = (after? mark t).map (· ++ u) := by
  induction mark generalizing t with
  | nil => cases t <;> rfl
  | cons m mark ih =>
      cases t with
      | nil => cases ht
      | cons d t =>
          rw [List.cons_append, after?, after?]
          split
          · next hmd =>
              subst hmd
              refine ih (List.not_mem_of_not_mem_cons hmark) ?_
              exact (List.mem_cons.1 ht).resolve_left (List.ne_of_not_mem_cons hmark)
          · rfl

theorem takeWhile_append_of_mem {p : Char → Bool} {c : Char} (hc : p c = false) {t : Text}
    (ht : c ∈ t) (u : Text) : (t ++ u).takeWhile p = t.takeWhile p := by
  obtain ⟨s, r, rfl⟩ := List.append_of_mem ht
  induction s with
  | nil => simp [hc]
  | cons d s ih =>
      have ih := ih (List.mem_append_right s List.mem_cons_self)
      simp only [List.cons_append, List.takeWhile_cons, ih]

theorem dropWhile_append_of_mem {p : Char → Bool} {c : Char} (hc : p c = false) {t : Text}
    (ht : c ∈ t) (u : Text) : (t ++ u).dropWhile p = t.dropWhile p ++ u := by
  obtain ⟨s, r, rfl⟩ := List.append_of_mem ht
  induction s with
  | nil => simp [hc]
  | cons d s ih =>
      rw [List.cons_append, List.cons_append, List.dropWhile_cons, List.dropWhile_cons]
      split
      · exact ih (List.mem_append_right s List.mem_cons_self)
      · rfl

/-! ### Trimming -/

/-- A character other than white space. -/
def isInk (c : Char) : Bool := !isBlank c

theorem countP_dropWhile_isBlank (t : Text) :
    (t.dropWhile isBlank).countP isInk = t.countP isInk := by
  have h : (t.takeWhile isBlank).countP isInk = 0 :=
    List.countP_eq_zero.2 fun c hc => by simp [isInk, List.mem_takeWhile_imp hc]
  calc (t.dropWhile isBlank).countP isInk
      = (t.takeWhile isBlank ++ t.dropWhile isBlank).countP isInk := by
        rw [List.countP_append, h, Nat.zero_add]
    _ = t.countP isInk := by rw [List.takeWhile_append_dropWhile]

/-- Trimming removes blanks only. -/
theorem countP_trim (t : Text) : (trim t).countP isInk = t.countP isInk := by
  rw [trim, trimEnd, List.countP_reverse, countP_dropWhile_isBlank, List.countP_reverse,
    trimStart, countP_dropWhile_isBlank]

theorem trimStart_append_of_blank {s : Text} (hs : ∀ c ∈ s, isBlank c = true) (t : Text) :
    trimStart (s ++ t) = trimStart t :=
  List.dropWhile_append_of_pos hs

theorem trimEnd_append_of_blank {s : Text} (hs : ∀ c ∈ s, isBlank c = true) (t : Text) :
    trimEnd (t ++ s) = trimEnd t := by
  rw [trimEnd, List.reverse_append, List.dropWhile_append_of_pos (by simpa using hs), ← trimEnd]

/-- Blanks around a text are trimmed with it. -/
theorem trim_append_of_blank {s u : Text} (hs : ∀ c ∈ s, isBlank c = true)
    (hu : ∀ c ∈ u, isBlank c = true) (t : Text) : trim (s ++ t ++ u) = trim t := by
  rw [trim, trim, List.append_assoc, trimStart_append_of_blank hs, trimStart, trimStart,
    List.dropWhile_append]
  split
  · next h =>
      rw [List.isEmpty_iff.1 h, List.dropWhile_eq_nil_iff.2 hu]
  · exact trimEnd_append_of_blank hu _

/-- A text is its trimmed start and blanks. -/
theorem trimEnd_append_blanks (t : Text) :
    ∃ s, (∀ c ∈ s, isBlank c = true) ∧ t = trimEnd t ++ s := by
  refine ⟨(t.reverse.takeWhile isBlank).reverse, ?_, ?_⟩
  · intro c hc
    exact List.mem_takeWhile_imp (List.mem_reverse.1 hc)
  · rw [trimEnd, ← List.reverse_append, List.takeWhile_append_dropWhile, List.reverse_reverse]

theorem trim_trimEnd (t : Text) : trim (trimEnd t) = trim t := by
  obtain ⟨s, hs, ht⟩ := trimEnd_append_blanks t
  have hnil : ∀ c ∈ ([] : Text), isBlank c = true := fun _ h => absurd h List.not_mem_nil
  calc trim (trimEnd t) = trim ([] ++ trimEnd t ++ s) := (trim_append_of_blank hnil hs _).symm
    _ = trim t := by rw [List.nil_append, ← ht]

/-- Trimming twice is trimming once. -/
theorem trim_trim (t : Text) : trim (trim t) = trim t := by
  rw [trim.eq_1 t, trim_trimEnd, trim, trimStart_trimStart]

/-- The end of a text is trimmed up to its last character that is not blank. -/
theorem trimEnd_append (s t : Text) :
    trimEnd (s ++ t) = if trimEnd t = [] then trimEnd s else s ++ trimEnd t := by
  simp only [trimEnd, List.reverse_append, List.dropWhile_append, List.isEmpty_iff,
    List.reverse_eq_nil_iff]
  split
  · rfl
  · rw [List.reverse_append, List.reverse_reverse]

theorem trimEnd_isPrefix (t : Text) : trimEnd t <+: t := by
  obtain ⟨s, -, hs⟩ := trimEnd_append_blanks t
  exact ⟨s, hs.symm⟩

/-- The start of a text is trimmed up to its first character that is not blank. -/
theorem trimStart_append {s : Text} (h : trimStart s ≠ []) (t : Text) :
    trimStart (s ++ t) = trimStart s ++ t := by
  rw [trimStart, List.dropWhile_append, ← trimStart, if_neg (by simpa using h)]

/-- A trimmed text goes on from where it ends when the text goes on. -/
theorem trim_prefix_trim_append (s t : Text) : trim s <+: trim (s ++ t) := by
  by_cases hs : trimStart s = []
  · rw [trim, hs]
    exact List.nil_prefix
  rw [trim, trim, trimStart_append hs, trimEnd_append]
  split
  · exact List.prefix_rfl
  · exact (trimEnd_isPrefix _).trans (List.prefix_append _ _)

theorem trimStart_eq_self {t : Text} (h : ∀ c ∈ t.head?, isBlank c = false) : trimStart t = t := by
  cases t with
  | nil => rfl
  | cons c t => exact List.dropWhile_cons_of_neg (by simp [h c rfl])

theorem trimEnd_eq_self {t : Text} (h : ∀ c ∈ t.getLast?, isBlank c = false) : trimEnd t = t := by
  have hr : trimStart t.reverse = t.reverse := trimStart_eq_self (by rwa [List.head?_reverse])
  rw [trimEnd, ← trimStart, hr, List.reverse_reverse]

/-- There is something other than white space in the text. -/
def HasInk (t : Text) : Prop := ∃ c ∈ t, isInk c = true

theorem trim_eq_nil_iff {t : Text} : trim t = [] ↔ ¬ t.HasInk := by
  have hcount := countP_trim t
  constructor
  · intro h
    rw [h, List.countP_nil] at hcount
    rintro ⟨c, hc, hink⟩
    exact List.countP_eq_zero.1 hcount.symm c hc hink
  · intro h
    have hblank : ∀ c ∈ t, isBlank c = true := fun c hc => by
      by_contra hc'
      exact h ⟨c, hc, by simpa [isInk] using hc'⟩
    have hnil : ∀ c ∈ ([] : Text), isBlank c = true := fun _ hc => absurd hc List.not_mem_nil
    calc trim t = trim (t ++ [] ++ []) := by rw [List.append_nil, List.append_nil]
      _ = trim [] := trim_append_of_blank hblank hnil []

theorem HasInk.trim {t : Text} (h : t.HasInk) : (Text.trim t).HasInk := by
  by_contra hblank
  have hnil := trim_eq_nil_iff.2 hblank
  rw [trim_trim] at hnil
  exact trim_eq_nil_iff.1 hnil h

/-! ### Spaces and tabs -/

theorem eq_of_isSpaceOrTab {c : Char} (h : isSpaceOrTab c = true) : c = ' ' ∨ c = '\t' := by
  simpa only [isSpaceOrTab, Bool.or_eq_true, beq_iff_eq] using h

theorem isBlank_of_isSpaceOrTab {c : Char} (h : isSpaceOrTab c = true) : isBlank c = true := by
  rcases eq_of_isSpaceOrTab h with rfl | rfl <;> rfl

end PatternBook.Text
