import PatternBook.Proofs.Text.Cuts
import PatternBook.Proofs.Text.Lines

/-!
# Carriage returns

A text whose newlines are each written as a carriage return and a newline has the same lines, and
a cut at a mark or a trimming comes out the same in both forms.

* `withoutReturns_withReturns`: without its carriage returns the text is what it was.
* `lines_withReturns`: the lines of the text.
* `after?_withReturns`, `splitAt?_withReturns`: cuts at a mark that has no line ends.
* `trim_withReturns`: trimming.
-/

namespace PatternBook.Text

/-- A newline with a carriage return in front of it, or another character. -/
def withReturn (c : Char) : Text := if c = '\n' then ['\r', '\n'] else [c]

/-- The text with a carriage return in front of each newline. -/
def withReturns (t : Text) : Text := t.flatMap withReturn

/-- The text without its carriage returns. -/
def withoutReturns (t : Text) : Text := t.filter (· != '\r')

theorem withReturns_nil : withReturns [] = [] := rfl

theorem withReturns_newline (t : Text) :
    withReturns ('\n' :: t) = '\r' :: '\n' :: withReturns t := rfl

theorem withReturns_cons {c : Char} (h : c ≠ '\n') (t : Text) :
    withReturns (c :: t) = c :: withReturns t := by
  rw [withReturns, List.flatMap_cons, withReturn, if_neg h]
  rfl

theorem withReturns_append (s t : Text) : withReturns (s ++ t) = withReturns s ++ withReturns t :=
  List.flatMap_append

theorem withReturns_eq_self {t : Text} (h : '\n' ∉ t) : withReturns t = t := by
  induction t with
  | nil => rfl
  | cons c t ih =>
      rw [withReturns_cons (List.ne_of_not_mem_cons h).symm, ih (List.not_mem_of_not_mem_cons h)]

/-- **Without its carriage returns the text is what it was.** -/
theorem withoutReturns_withReturns {t : Text} (h : '\r' ∉ t) :
    withoutReturns (withReturns t) = t := by
  induction t with
  | nil => rfl
  | cons c t ih =>
      have ih := ih (List.not_mem_of_not_mem_cons h)
      have hc : (c != '\r') = true := bne_iff_ne.2 (List.ne_of_not_mem_cons h).symm
      rw [withoutReturns] at ih ⊢
      by_cases hn : c = '\n'
      · subst hn
        rw [withReturns_newline, List.filter_cons, if_neg (by decide), List.filter_cons, if_pos hc,
          ih]
      · rw [withReturns_cons hn, List.filter_cons, if_pos hc, ih]

/-! ### Lines -/

/-- A text whose first line is known. -/
theorem lines_append_newline {s : Text} (h : '\n' ∉ s) (t : Text) :
    lines (s ++ '\n' :: t) = dropReturn s :: lines t := by
  rw [lines, splitOn_append h, lines]
  cases hs : splitOn '\n' t with
  | nil => exact absurd hs (splitOn_ne_nil _ _)
  | cons first rest => rfl

theorem dropReturn_eq_self {t : Text} (h : '\r' ∉ t) : dropReturn t = t :=
  if_neg fun hlast => h (List.mem_of_getLast? hlast)

theorem dropReturn_append (t : Text) : dropReturn (t ++ ['\r']) = t := by
  rw [dropReturn, List.getLast?_concat, if_pos rfl, List.dropLast_concat]

/-- **The lines of a text** do not depend on how they end. -/
theorem lines_withReturns {t : Text} (h : '\r' ∉ t) : lines (withReturns t) = lines t := by
  -- by the number of characters: what follows the first line is shorter
  induction hn : t.length using Nat.strongRecOn generalizing t with
  | ind n ih =>
      by_cases hmem : '\n' ∈ t
      · obtain ⟨s, u, rfl, hs⟩ := List.eq_append_cons_of_mem hmem
        obtain ⟨hrs, hru⟩ : '\r' ∉ s ∧ '\r' ∉ u :=
          ⟨fun hm => h (List.mem_append_left _ hm),
            fun hm => h (List.mem_append_right s (List.mem_cons_of_mem _ hm))⟩
        have hsr : '\n' ∉ s ++ ['\r'] := by simpa using hs
        have hlines : lines (withReturns u) = lines u :=
          ih u.length (by rw [← hn, List.length_append, List.length_cons]; omega) hru rfl
        calc lines (withReturns (s ++ '\n' :: u))
            = lines ((s ++ ['\r']) ++ '\n' :: withReturns u) := by
              rw [withReturns_append, withReturns_eq_self hs, withReturns_newline,
                List.append_assoc]
              rfl
          _ = s :: lines u := by rw [lines_append_newline hsr, dropReturn_append, hlines]
          _ = lines (s ++ '\n' :: u) := by
              rw [lines_append_newline hs, dropReturn_eq_self hrs]
      · rw [withReturns_eq_self hmem]

/-! ### Cuts at a mark -/

/-- The text has no line ends. -/
def HasNoEnds (t : Text) : Prop := '\n' ∉ t ∧ '\r' ∉ t

section

variable {mark : Text}

theorem after?_withReturns (h : HasNoEnds mark) (t : Text) :
    after? mark (withReturns t) = (after? mark t).map withReturns := by
  induction mark generalizing t with
  | nil => cases t <;> rfl
  | cons m mark ih =>
      have hmark : HasNoEnds mark :=
        ⟨List.not_mem_of_not_mem_cons h.1, List.not_mem_of_not_mem_cons h.2⟩
      have hm : m ≠ '\n' ∧ m ≠ '\r' :=
        ⟨(List.ne_of_not_mem_cons h.1).symm, (List.ne_of_not_mem_cons h.2).symm⟩
      cases t with
      | nil => rfl
      | cons c t =>
          by_cases hc : c = '\n'
          · subst hc
            rw [withReturns_newline, after?, if_neg hm.2, after?, if_neg hm.1]
            rfl
          · rw [withReturns_cons hc, after?, after?]
            split
            · exact ih hmark t
            · rfl

/-- No mark starts at a character that it does not have. -/
theorem after?_cons_of_notMem {c : Char} (h : c ∉ mark) (hne : mark ≠ []) (t : Text) :
    after? mark (c :: t) = none := by
  cases mark with
  | nil => exact absurd rfl hne
  | cons m mark => rw [after?, if_neg (List.ne_of_not_mem_cons h).symm]

theorem splitAt?_cons_of_notMem {c : Char} (h : c ∉ mark) (hne : mark ≠ []) (t : Text) :
    splitAt? mark (c :: t) = (splitAt? mark t).map fun cut => (c :: cut.1, cut.2) := by
  rw [splitAt?, after?_cons_of_notMem h hne]

theorem splitAt?_withReturns (h : HasNoEnds mark) (hne : mark ≠ []) (t : Text) :
    splitAt? mark (withReturns t) =
      (splitAt? mark t).map fun cut => (withReturns cut.1, withReturns cut.2) := by
  induction t with
  | nil =>
      have hmark : mark.isEmpty = false := List.isEmpty_eq_false_iff.2 hne
      rw [withReturns_nil, splitAt?, hmark]
      rfl
  | cons c t ih =>
      by_cases hc : c = '\n'
      · subst hc
        rw [withReturns_newline, splitAt?_cons_of_notMem h.2 hne, splitAt?_cons_of_notMem h.1 hne,
          splitAt?_cons_of_notMem h.1 hne, ih, Option.map_map, Option.map_map, Option.map_map]
        rfl
      · have hafter := after?_withReturns h (c :: t)
        rw [withReturns_cons hc] at hafter ⊢
        rw [splitAt?, hafter, splitAt?]
        cases after? mark (c :: t) with
        | some rest => rfl
        | none =>
            simp only [Option.map_none]
            rw [ih, Option.map_map, Option.map_map]
            refine congrArg (Option.map · _) (funext fun cut => ?_)
            exact congrArg (·, _) (withReturns_cons hc cut.1).symm

end

/-! ### Trimming -/

theorem trimStart_withReturns (t : Text) :
    trimStart (withReturns t) = withReturns (trimStart t) := by
  induction t with
  | nil => rfl
  | cons c t ih =>
      rw [trimStart, trimStart] at ih ⊢
      by_cases hn : c = '\n'
      · subst hn
        exact ih
      · rw [withReturns_cons hn, List.dropWhile_cons, List.dropWhile_cons]
        split
        · exact ih
        · exact (withReturns_cons hn t).symm

theorem getLast?_withReturns (t : Text) : (withReturns t).getLast? = t.getLast? := by
  rcases List.eq_nil_or_concat t with rfl | ⟨t, c, rfl⟩
  · rfl
  · rw [List.concat_eq_append, withReturns_append, List.getLast?_append, List.getLast?_concat]
    by_cases hn : c = '\n'
    · subst hn
      rfl
    · rw [withReturns_cons hn]
      rfl

theorem isBlank_of_mem_withReturns {t : Text} (h : ∀ c ∈ t, isBlank c = true) :
    ∀ c ∈ withReturns t, isBlank c = true := by
  intro c hc
  obtain ⟨d, hd, hc⟩ := List.mem_flatMap.1 hc
  rw [withReturn] at hc
  split at hc
  · rcases List.mem_cons.1 hc with rfl | hc
    · rfl
    · obtain rfl := List.mem_singleton.1 hc
      rfl
  · obtain rfl := List.mem_singleton.1 hc
    exact h c hd

theorem trimEnd_withReturns (t : Text) : trimEnd (withReturns t) = withReturns (trimEnd t) := by
  obtain ⟨s, hs, ht⟩ := trimEnd_append_blanks t
  have hlast : ∀ c ∈ (withReturns (trimEnd t)).getLast?, isBlank c = false := by
    rw [getLast?_withReturns, trimEnd, List.getLast?_reverse]
    exact stop_dropWhile isBlank t.reverse
  calc trimEnd (withReturns t) = trimEnd (withReturns (trimEnd t) ++ withReturns s) := by
        rw [← withReturns_append, ← ht]
    _ = trimEnd (withReturns (trimEnd t)) :=
        trimEnd_append_of_blank (isBlank_of_mem_withReturns hs) _
    _ = withReturns (trimEnd t) := trimEnd_eq_self hlast

/-- **Trimming** comes out the same. -/
theorem trim_withReturns (t : Text) : trim (withReturns t) = withReturns (trim t) := by
  rw [trim, trimStart_withReturns, trimEnd_withReturns, ← trim]

theorem trim_subset (t : Text) : trim t ⊆ t := by
  intro c hc
  have hstart := List.mem_reverse.1 (List.dropWhile_subset _ (List.mem_reverse.1 hc))
  exact List.dropWhile_subset _ hstart

end PatternBook.Text
