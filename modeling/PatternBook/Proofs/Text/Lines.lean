import PatternBook.Text.Basic

/-!
# Lines

The lines of a text whose newlines are known.

* `lines_eq_of_notMem`: a text without a newline is one line, if it is a line at all.
* `lines_ofLines`: lines that are each ended by a newline are read back.
* `exists_lineAt?`, `eq_append_of_lines`: what stands on a line, and where a line stands.
-/

namespace PatternBook.Text

theorem splitOn_of_notMem {sep : Char} {t : Text} (h : sep ∉ t) : splitOn sep t = [t] := by
  induction t with
  | nil => rfl
  | cons c t ih =>
      rw [splitOn, if_neg (List.ne_of_not_mem_cons h).symm, ih (List.not_mem_of_not_mem_cons h)]

/-- A text without a newline has itself as its only line, or no line if it is empty. -/
theorem lines_eq_of_notMem {t : Text} (h : '\n' ∉ t) :
    lines t = if t.isEmpty then [] else [t] := by
  rw [lines, splitOn_of_notMem h, endLines]

theorem splitOn_append {sep : Char} {s : Text} (h : sep ∉ s) (t : Text) :
    splitOn sep (s ++ sep :: t) = s :: splitOn sep t := by
  induction s with
  | nil => rw [List.nil_append, splitOn, if_pos rfl]
  | cons c s ih =>
      rw [List.cons_append, splitOn, if_neg (List.ne_of_not_mem_cons h).symm,
        ih (List.not_mem_of_not_mem_cons h)]

/-- No piece has the character at which the text is cut. -/
theorem notMem_of_mem_splitOn {sep : Char} {t piece : Text} (h : piece ∈ splitOn sep t) :
    sep ∉ piece := by
  induction t generalizing piece with
  | nil =>
      obtain rfl := List.mem_singleton.1 h
      exact List.not_mem_nil
  | cons c t ih =>
      rw [splitOn] at h
      split at h
      · rcases List.mem_cons.1 h with rfl | h
        · exact List.not_mem_nil
        · exact ih h
      · next hc =>
          cases hs : splitOn sep t with
          | nil => exact absurd hs (splitOn_ne_nil sep t)
          | cons first rest =>
              rw [hs] at h ih
              rcases List.mem_cons.1 h with rfl | h
              · exact List.not_mem_cons_of_ne_of_not_mem (Ne.symm hc) (ih List.mem_cons_self)
              · exact ih (List.mem_cons_of_mem first h)

/-- A text is cut at a separator into the cuts of its two sides. -/
theorem splitOn_append_cons (sep : Char) (s t : Text) :
    splitOn sep (s ++ sep :: t) = splitOn sep s ++ splitOn sep t := by
  induction s with
  | nil => simp [splitOn]
  | cons c s ih =>
      rw [List.cons_append, splitOn, splitOn, ih]
      split
      · rfl
      · obtain ⟨piece, rest, hs⟩ := List.exists_cons_of_ne_nil (splitOn_ne_nil sep s)
        rw [hs]
        rfl

/-- The pieces of a text are made of its characters. -/
theorem mem_of_mem_splitOn {sep c : Char} {t piece : Text} (hpiece : piece ∈ splitOn sep t)
    (hc : c ∈ piece) : c ∈ t := by
  induction t generalizing piece with
  | nil =>
      obtain rfl := List.mem_singleton.1 hpiece
      exact hc
  | cons d t ih =>
      rw [splitOn] at hpiece
      split at hpiece
      · rcases List.mem_cons.1 hpiece with rfl | hpiece
        · cases hc
        · exact List.mem_cons_of_mem d (ih hpiece hc)
      · obtain ⟨first, rest, hs⟩ := List.exists_cons_of_ne_nil (splitOn_ne_nil sep t)
        rw [hs] at hpiece ih
        rcases List.mem_cons.1 hpiece with rfl | hpiece
        · rcases List.mem_cons.1 hc with rfl | hc
          · exact List.mem_cons_self
          · exact List.mem_cons_of_mem d (ih List.mem_cons_self hc)
        · exact List.mem_cons_of_mem d (ih (List.mem_cons_of_mem first hpiece) hc)

/-- The text of lines that are each ended by a newline. -/
def ofLines (ls : List Text) : Text := ls.flatMap (· ++ ['\n'])

theorem ofLines_cons (l : Text) (ls : List Text) : ofLines (l :: ls) = l ++ '\n' :: ofLines ls := by
  simp [ofLines]

theorem getLast?_ofLines {ls : List Text} (h : ls ≠ []) : (ofLines ls).getLast? = some '\n' := by
  obtain ⟨ls, l, rfl⟩ := (List.eq_nil_or_concat ls).resolve_left h
  simp [ofLines]

/-- Ended lines are read back, without the carriage returns in front of their newlines. -/
theorem lines_ofLines {ls : List Text} (h : ∀ l ∈ ls, '\n' ∉ l) :
    lines (ofLines ls) = ls.map dropReturn := by
  induction ls with
  | nil => rfl
  | cons l ls ih =>
      have ih := ih fun m hm => h m (List.mem_cons_of_mem l hm)
      rw [lines] at ih ⊢
      rw [ofLines_cons, splitOn_append (h l List.mem_cons_self), List.map_cons, ← ih]
      cases hs : splitOn '\n' (ofLines ls) with
      | nil => exact absurd hs (splitOn_ne_nil _ _)
      | cons first rest => rfl

theorem joinWith_cons {sep piece : Text} {rest : List Text} (h : rest ≠ []) :
    joinWith sep (piece :: rest) = piece ++ sep ++ joinWith sep rest := by
  cases rest with
  | nil => exact absurd rfl h
  | cons next rest => rfl

/-! ### Numbered lines -/

/-- The line with that number, with what stands in front of its newline; the first line is 1. -/
def lineAt? (t : Text) : Nat → Option Text
  | 0 => none
  | n + 1 => (splitOn '\n' t)[n]?

/-- A character at which the text is not cut stands in front of the first piece. -/
theorem exists_splitOn_cons {sep c : Char} (hc : c ≠ sep) (t : Text) :
    ∃ piece rest, splitOn sep t = piece :: rest ∧ splitOn sep (c :: t) = (c :: piece) :: rest := by
  obtain ⟨piece, rest, h⟩ := List.exists_cons_of_ne_nil (splitOn_ne_nil sep t)
  exact ⟨piece, rest, h, by rw [splitOn, if_neg hc, h]⟩

theorem exists_splitOn_append {sep : Char} {t : Text} (ht : sep ∉ t) (u : Text) :
    ∃ piece rest, splitOn sep (t ++ u) = piece :: rest ∧ t <+: piece := by
  induction t with
  | nil =>
      obtain ⟨piece, rest, h⟩ := List.exists_cons_of_ne_nil (splitOn_ne_nil sep u)
      exact ⟨piece, rest, h, List.nil_prefix⟩
  | cons c t ih =>
      obtain ⟨piece, rest, h, hprefix⟩ := ih (List.not_mem_of_not_mem_cons ht)
      obtain ⟨piece', rest', h', hcons⟩ :=
        exists_splitOn_cons (List.ne_of_not_mem_cons ht).symm (t ++ u)
      obtain ⟨rfl, rfl⟩ := List.cons.inj (h.symm.trans h')
      exact ⟨c :: piece, rest, hcons, List.cons_prefix_cons.2 ⟨rfl, hprefix⟩⟩

/-- What has no `sep` in it stands in one piece, after one piece for each `sep` before it. -/
theorem exists_getElem?_splitOn {sep : Char} {t : Text} (ht : sep ∉ t) (s u : Text) :
    ∃ piece, (splitOn sep (s ++ t ++ u))[s.count sep]? = some piece ∧ t <:+: piece := by
  induction s with
  | nil =>
      obtain ⟨piece, rest, h, hprefix⟩ := exists_splitOn_append ht u
      exact ⟨piece, by rw [List.nil_append, h]; rfl, hprefix.isInfix⟩
  | cons c s ih =>
      obtain ⟨piece, hpiece, hinfix⟩ := ih
      by_cases hc : c = sep
      · subst hc
        refine ⟨piece, ?_, hinfix⟩
        rwa [List.cons_append, List.cons_append, splitOn, if_pos rfl, List.count_cons_self,
          List.getElem?_cons_succ]
      · obtain ⟨first, rest, h, hcons⟩ := exists_splitOn_cons hc (s ++ t ++ u)
        rw [List.cons_append, List.cons_append, hcons, List.count_cons_of_ne hc]
        rw [h] at hpiece
        cases hn : s.count sep with
        | zero =>
            rw [hn] at hpiece
            obtain rfl := Option.some.inj hpiece
            exact ⟨c :: first, rfl, hinfix.trans (List.suffix_cons c first).isInfix⟩
        | succ n =>
            rw [hn] at hpiece
            exact ⟨piece, hpiece, hinfix⟩

/-- **What stands on a line**: a text without a newline, on the line that the newlines before it
give. -/
theorem exists_lineAt? {t : Text} (ht : '\n' ∉ t) (s u : Text) :
    ∃ line, lineAt? (s ++ t ++ u) (1 + s.count '\n') = some line ∧ t <:+: line := by
  rw [Nat.add_comm]
  exact exists_getElem?_splitOn ht s u

theorem dropReturn_isPrefix (line : Text) : dropReturn line <+: line := by
  unfold dropReturn
  split
  · exact List.dropLast_prefix line
  · exact List.prefix_rfl

/-- A line is a piece between newlines, but for a carriage return at its end. -/
theorem exists_of_endLines {pieces : List Text} {k : Nat} {line : Text}
    (h : (endLines pieces)[k]? = some line) :
    ∃ piece, pieces[k]? = some piece ∧ line <+: piece := by
  fun_induction endLines pieces generalizing k with
  | case1 | case2 => cases h
  | case3 last hne => exact ⟨line, h, List.prefix_rfl⟩
  | case4 first rest hne ih =>
      cases k with
      | zero =>
          obtain rfl := Option.some.inj h
          exact ⟨first, rfl, dropReturn_isPrefix first⟩
      | succ k => exact ih h

/-- The piece stands behind as many separators as there are pieces before it. -/
theorem exists_of_joinWith {sep : Char} {pieces : List Text} (hsep : ∀ p ∈ pieces, sep ∉ p)
    {k : Nat} {piece : Text} (h : pieces[k]? = some piece) :
    ∃ before after, joinWith [sep] pieces = before ++ piece ++ after ∧ before.count sep = k := by
  induction pieces generalizing k with
  | nil => cases h
  | cons first rest ih =>
      obtain ⟨hfirst, hrest⟩ := List.forall_mem_cons.1 hsep
      cases k with
      | zero =>
          obtain rfl := Option.some.inj h
          cases rest with
          | nil => exact ⟨[], [], (List.append_nil first).symm, rfl⟩
          | cons next rest =>
              exact ⟨[], sep :: joinWith [sep] (next :: rest), List.append_assoc .., rfl⟩
      | succ k =>
          have hne : rest ≠ [] := fun hnil => by rw [hnil] at h; cases h
          obtain ⟨before, after, hjoin, hcount⟩ := ih hrest h
          refine ⟨first ++ sep :: before, after, ?_, ?_⟩
          · rw [joinWith_cons hne, hjoin]
            simp only [List.append_assoc, List.cons_append, List.nil_append]
          · rw [List.count_append, List.count_eq_zero_of_not_mem hfirst, List.count_cons_self,
              hcount, Nat.zero_add]

/-- **Where a line stands**: behind as many newlines as there are lines before it. -/
theorem eq_append_of_lines {t line : Text} {k : Nat} (h : (lines t)[k]? = some line) :
    ∃ before after, t = before ++ line ++ after ∧ before.count '\n' = k ∧ '\n' ∉ line := by
  obtain ⟨piece, hpiece, tail, htail⟩ := exists_of_endLines h
  have hmem : piece ∈ splitOn '\n' t := List.mem_of_getElem? hpiece
  obtain ⟨before, after, ht, hcount⟩ :=
    exists_of_joinWith (fun p hp => notMem_of_mem_splitOn hp) hpiece
  rw [joinWith_splitOn, ← htail] at ht
  refine ⟨before, tail ++ after, by simpa using ht, hcount, fun hn => ?_⟩
  exact notMem_of_mem_splitOn hmem (htail ▸ List.mem_append_left tail hn)

end PatternBook.Text
