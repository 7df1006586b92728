import Mathlib.Data.List.Basic
import Mathlib.Data.List.Induction
import PatternBook.Proofs.Text.Cuts
import PatternBook.Proofs.Text.Lines

/-!
# Trimmed texts

A text is trimmed if no blank stands at either end.  Trimmed texts stay so when they are put
together, and trimming a text of several lines does no more to a line than to take blanks from its
start.

* `trim_eq_self_iff`: what is trimmed already.
* `splitOn_joinWith`: pieces that are put together are found again.
* `forall_splitOn_trim`: what holds of the lines of a text and of the lines of the trimmed text.
-/

namespace PatternBook.Text

/-! ### Ends -/

/-- No blank stands at either end. -/
def IsTrimmed (t : Text) : Prop :=
  (∀ c ∈ t.head?, isBlank c = false) ∧ ∀ c ∈ t.getLast?, isBlank c = false

theorem isTrimmed_trim (t : Text) : IsTrimmed t.trim := by
  constructor
  · intro c hc
    obtain ⟨s, hs⟩ := trimEnd_isPrefix t.trimStart
    refine stop_dropWhile isBlank t c ?_
    rw [← trimStart, ← hs]
    exact List.mem_head?_append_of_mem_head? hc
  · intro c hc
    rw [trim, trimEnd, List.getLast?_reverse] at hc
    exact stop_dropWhile isBlank _ c hc

theorem trim_eq_self_iff {t : Text} : t.trim = t ↔ IsTrimmed t := by
  constructor
  · intro h
    exact h ▸ isTrimmed_trim t
  · rintro ⟨hstart, hend⟩
    rw [trim, trimStart_eq_self hstart, trimEnd_eq_self hend]

/-- Trimmed texts with something between them are trimmed together. -/
theorem IsTrimmed.joinWith {sep : Text} {ts : List Text} (h : ∀ t ∈ ts, t ≠ [] ∧ IsTrimmed t) :
    IsTrimmed (joinWith sep ts) := by
  induction ts with
  | nil => exact ⟨nofun, nofun⟩
  | cons t ts ih =>
      obtain ⟨⟨hne, hstart, hend⟩, hrest⟩ := List.forall_mem_cons.1 h
      cases ts with
      | nil => exact ⟨hstart, hend⟩
      | cons u us =>
          obtain ⟨-, hlast⟩ := ih hrest
          have hu : Text.joinWith sep (u :: us) ≠ [] := by
            have hu := (hrest u List.mem_cons_self).1
            cases us with
            | nil => exact hu
            | cons v vs =>
                rw [joinWith_cons (List.cons_ne_nil v vs), List.append_assoc]
                exact List.append_ne_nil_of_left_ne_nil hu _
          rw [joinWith_cons (List.cons_ne_nil u us)]
          refine ⟨fun c hc => hstart c ?_, fun c hc => hlast c ?_⟩
          · rwa [List.append_assoc, List.head?_append_of_ne_nil _ hne] at hc
          · rwa [List.getLast?_append_of_ne_nil _ hu] at hc

/-- What is put together has no more characters than its pieces and what stands between them. -/
theorem mem_of_mem_joinWith {sep : Text} {ts : List Text} {c : Char} (h : c ∈ joinWith sep ts) :
    c ∈ sep ∨ ∃ t ∈ ts, c ∈ t := by
  induction ts with
  | nil => cases h
  | cons t ts ih =>
      cases ts with
      | nil => exact .inr ⟨t, List.mem_cons_self, h⟩
      | cons u us =>
          rw [joinWith_cons (List.cons_ne_nil u us), List.append_assoc] at h
          rcases List.mem_append.1 h with h | h
          · exact .inr ⟨t, List.mem_cons_self, h⟩
          · rcases List.mem_append.1 h with h | h
            · exact .inl h
            · refine (ih h).imp_right ?_
              rintro ⟨v, hv, hc⟩
              exact ⟨v, List.mem_cons_of_mem t hv, hc⟩

/-! ### Pieces -/

/-- Pieces that are put together are found again. -/
theorem splitOn_joinWith {sep : Char} {ts : List Text} (hne : ts ≠ []) (h : ∀ t ∈ ts, sep ∉ t) :
    splitOn sep (joinWith [sep] ts) = ts := by
  induction ts with
  | nil => exact absurd rfl hne
  | cons t ts ih =>
      obtain ⟨ht, hts⟩ := List.forall_mem_cons.1 h
      cases ts with
      | nil => exact splitOn_of_notMem ht
      | cons u us =>
          rw [joinWith_cons (List.cons_ne_nil u us), List.append_assoc, List.singleton_append,
            splitOn_append ht, ih (List.cons_ne_nil u us) hts]

/-- The last character of a text ends a piece. -/
theorem exists_mem_splitOn_concat {sep c : Char} (hc : c ≠ sep) (t : Text) :
    ∃ piece, piece ++ [c] ∈ splitOn sep (t ++ [c]) := by
  induction t with
  | nil => exact ⟨[], by rw [List.nil_append, splitOn, if_neg hc]; exact List.mem_cons_self⟩
  | cons d t ih =>
      obtain ⟨piece, hpiece⟩ := ih
      by_cases hd : d = sep
      · refine ⟨piece, ?_⟩
        rw [List.cons_append, splitOn, if_pos hd]
        exact List.mem_cons_of_mem _ hpiece
      · obtain ⟨first, rest, hs, hcons⟩ := exists_splitOn_cons hd (t ++ [c])
        rw [hs] at hpiece
        rw [List.cons_append, hcons]
        rcases List.mem_cons.1 hpiece with rfl | hpiece
        · exact ⟨d :: piece, List.mem_cons_self⟩
        · exact ⟨piece, List.mem_cons_of_mem _ hpiece⟩

/-! ### Lines of trimmed texts -/

section

variable {P : Text → Prop}

theorem forall_splitOn_trimStart (hstart : ∀ c t, isBlank c = true → P (c :: t) → P t) {t : Text}
    (h : ∀ p ∈ splitOn '\n' t, P p) : ∀ p ∈ splitOn '\n' t.trimStart, P p := by
  induction t with
  | nil => exact h
  | cons c t ih =>
      cases hc : isBlank c with
      | false => rwa [trimStart, List.dropWhile_cons_of_neg (by simp [hc])]
      | true =>
          rw [trimStart, List.dropWhile_cons_of_pos hc, ← trimStart]
          refine ih ?_
          by_cases hn : c = '\n'
          · rw [splitOn, if_pos hn] at h
            exact (List.forall_mem_cons.1 h).2
          · obtain ⟨piece, rest, hs, hcons⟩ := exists_splitOn_cons hn t
            rw [hcons] at h
            obtain ⟨hpiece, hrest⟩ := List.forall_mem_cons.1 h
            rw [hs]
            exact List.forall_mem_cons.2 ⟨hstart c piece hc hpiece, hrest⟩

/-- Where no line ends with a blank, only empty lines are trimmed at the end. -/
theorem forall_splitOn_trimEnd (hend : ∀ t, P t → trimEnd t = t) {t : Text}
    (h : ∀ p ∈ splitOn '\n' t, P p) : ∀ p ∈ splitOn '\n' t.trimEnd, P p := by
  induction t using List.reverseRecOn with
  | nil => exact h
  | append_singleton t c ih =>
      cases hc : isBlank c with
      | false =>
          rwa [trimEnd_eq_self]
          intro d hd
          rw [List.getLast?_concat] at hd
          exact Option.some.inj hd ▸ hc
      | true =>
          have hblank : ∀ d ∈ [c], isBlank d = true := List.forall_mem_singleton.2 hc
          rw [trimEnd_append_of_blank hblank]
          refine ih ?_
          have hn : c = '\n' := by
            by_contra hn
            obtain ⟨piece, hpiece⟩ := exists_mem_splitOn_concat hn t
            have hself := hend _ (h _ hpiece)
            rw [trimEnd_append_of_blank hblank] at hself
            have hlength := (trimEnd_isPrefix piece).length_le
            rw [hself, List.length_append] at hlength
            exact absurd hlength (by simp)
          rw [hn, splitOn_append_cons] at h
          exact fun p hp => h p (List.mem_append_left _ hp)

/-- **The lines of a trimmed text** are as those of the text, but for blanks at their starts. -/
theorem forall_splitOn_trim (hstart : ∀ c t, isBlank c = true → P (c :: t) → P t)
    (hend : ∀ t, P t → trimEnd t = t) {t : Text} (h : ∀ p ∈ splitOn '\n' t, P p) :
    ∀ p ∈ splitOn '\n' t.trim, P p :=
  forall_splitOn_trimEnd hend (forall_splitOn_trimStart hstart h)

end

end PatternBook.Text
