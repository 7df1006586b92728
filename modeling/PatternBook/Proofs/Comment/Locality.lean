import PatternBook.Comment.Block
import PatternBook.Proofs.Comment.First
import PatternBook.Proofs.Text.Cuts

/-!
# Scanning is local

A text that ends with a newline is scanned without regard to what follows it, if no backslash
takes the newline into a string and no comment is left open: each token that the scanner cuts off
ends before the end of the text, or with it.

* `Token.Heads.append_of_starts`: when a token ends where it did in a source that goes on.
* `tokens_append`: the tokens of such a text come first, and those of the rest follow.
* `chapters_append`: as long as no block of it heads code, the text belongs to what is before it.
-/

namespace PatternBook

/-- The text is empty, or it ends with a newline that no backslash escapes. -/
def EndsLine (t : Text) : Prop := t = [] ∨ ∃ s, t = s ++ ['\n'] ∧ s.getLast? ≠ some '\\'

theorem EndsLine.suffix {s t : Text} (h : EndsLine (s ++ t)) : EndsLine t := by
  rcases List.eq_nil_or_concat t with rfl | ⟨t, c, rfl⟩
  · exact .inl rfl
  · rcases h with h | ⟨u, hu, hlast⟩
    · simp at h
    · rw [List.concat_eq_append, ← List.append_assoc] at hu
      obtain ⟨rfl, hc⟩ := List.append_inj' hu rfl
      rw [List.concat_eq_append, hc]
      refine .inr ⟨t, rfl, fun ht => hlast ?_⟩
      rw [List.getLast?_append, ht]
      rfl

theorem EndsLine.newline_mem {t : Text} (h : EndsLine t) (hne : t ≠ []) : '\n' ∈ t := by
  rcases h with h | ⟨s, rfl, -⟩
  · exact absurd h hne
  · exact List.mem_append_right s List.mem_cons_self

/-- The last character of such a text is a newline. -/
theorem EndsLine.eq_newline {c : Char} (h : EndsLine [c]) : c = '\n' := by
  have := h.newline_mem (List.cons_ne_nil c [])
  exact (List.mem_singleton.1 this).symm

namespace Token

/-! ### One token -/

theorem quotedTail_cons {quote c : Char} (hc : c ≠ '\\') (t : Text) :
    quotedTail quote (c :: t)
      = if c = '\n' then ([], c :: t)
        else if c = quote then ([c], t)
        else (c :: (quotedTail quote t).1, (quotedTail quote t).2) := by
  rw [quotedTail]
  · rintro rfl
    exact absurd rfl hc
  · rintro _ _ rfl
    exact absurd rfl hc

/-- A string that something follows ends where it does. -/
theorem quotedTail_append_of_ne_nil {quote : Char} {t : Text} (h : (quotedTail quote t).2 ≠ [])
    (u : Text) :
    quotedTail quote (t ++ u) = ((quotedTail quote t).1, (quotedTail quote t).2 ++ u) := by
  fun_induction quotedTail quote t with
  | case1 => exact absurd rfl h
  | case2 => exact absurd rfl h
  | case3 c t cut ih =>
      show quotedTail quote ('\\' :: c :: (t ++ u)) = _
      rw [quotedTail, ih h]
  | case4 t =>
      rw [List.cons_append, quotedTail_cons (by decide), if_pos rfl]
  | case5 t hlone hescape hn =>
      rw [List.cons_append, quotedTail_cons (ne_backslash hlone hescape), if_neg hn, if_pos rfl]
  | case6 c t hlone hescape hn hq cut ih =>
      rw [List.cons_append, quotedTail_cons (ne_backslash hlone hescape), if_neg hn, if_neg hq,
        ih h]

/-- A string ends before the newline at the end. -/
theorem quotedTail_ne_nil {quote : Char} {t : Text} (ht : EndsLine t) (hne : t ≠ []) :
    (quotedTail quote t).2 ≠ [] := by
  fun_induction quotedTail quote t with
  | case1 => exact hne
  | case2 => exact absurd ht.eq_newline (by decide)
  | case3 c t cut ih =>
      refine ih (EndsLine.suffix (s := ['\\', c]) ht) ?_
      rintro rfl
      rcases ht with h | ⟨s, hs, hlast⟩
      · cases h
      · have hcut : ['\\'] ++ [c] = s ++ ['\n'] := hs
        obtain ⟨rfl, -⟩ := List.append_inj' hcut rfl
        exact hlast rfl
  | case4 t => exact List.cons_ne_nil _ _
  | case5 t hlone hescape hn =>
      rintro rfl
      exact hn ht.eq_newline
  | case6 c t hlone hescape hn hq cut ih =>
      refine ih (EndsLine.suffix (s := [c]) ht) ?_
      rintro rfl
      exact hn ht.eq_newline

section

variable {f : Family} {c : Char} {t rest : Text} {x : Token}

/-- **A token ends where it does when the source goes on**, if a line comment and an opener start
with it as they did, and something follows it or it is closed by itself. -/
theorem Heads.append_of_starts {u : Text} (h : Heads f c t x rest)
    (hline : f.StartsLineComment (c :: (t ++ u)) ↔ f.StartsLineComment (c :: t))
    (hopen : Text.after? f.opening (c :: (t ++ u))
      = (Text.after? f.opening (c :: t)).map (· ++ u))
    (hends : rest = [] → (∃ inner, x = .block inner) ∨ ∃ d, x = .plain d) :
    Heads f c (t ++ u) x (rest ++ u) := by
  cases h with
  | quoted hs =>
      have hrest : (quotedTail c t).2 ≠ [] := fun e => by
        rcases hends e with ⟨_, hx⟩ | ⟨_, hx⟩ <;> cases hx
      have hh := Heads.quoted (f := f) (t := t ++ u) hs
      rwa [quotedTail_append_of_ne_nil hrest] at hh
  | lineComment hs hl =>
      have hnl : '\n' ∈ c :: t := by
        by_contra hnl
        have hrest : (c :: t).dropWhile (· != '\n') = [] :=
          List.dropWhile_eq_nil_iff.2 fun d hd => bne_iff_ne.2 fun e => hnl (e ▸ hd)
        rcases hends hrest with ⟨_, hx⟩ | ⟨_, hx⟩ <;> cases hx
      have hh := Heads.lineComment hs (hline.2 hl)
      rwa [← List.cons_append, Text.takeWhile_append_of_mem (c := '\n') (by decide) hnl,
        Text.dropWhile_append_of_mem (c := '\n') (by decide) hnl] at hh
  | block hs hl ho hc =>
      rw [ho] at hopen
      exact .block hs (mt hline.1 hl) hopen (Text.splitAt?_append hc u)
  | unclosed => rcases hends rfl with ⟨_, hx⟩ | ⟨_, hx⟩ <;> cases hx
  | plain hs hl ho =>
      rw [ho] at hopen
      exact .plain hs (mt hline.1 hl) hopen

/-- **A token of a text that ends a line ends in it**, unless a comment is left open. -/
theorem Heads.append (h : Heads f c t x rest) (ht : EndsLine (c :: t))
    (hx : ∀ inner, x ≠ .unclosed inner) (u : Text) : Heads f c (t ++ u) x (rest ++ u) := by
  have hnl : '\n' ∈ c :: t := ht.newline_mem (List.cons_ne_nil c t)
  have hopening : '\n' ∉ f.opening := by cases f <;> decide
  refine h.append_of_starts ?_ (Text.after?_append_of_mem hopening hnl u) fun hrest => ?_
  · unfold Family.StartsLineComment
    rw [← List.cons_append, Text.after?_append_of_mem (by decide) hnl, Option.isSome_map]
  · cases h with
    | quoted hs =>
        have hne : t ≠ [] := by
          rintro rfl
          rcases hs.2 with rfl | rfl <;> exact absurd ht.eq_newline (by decide)
        exact absurd hrest (quotedTail_ne_nil (EndsLine.suffix (s := [c]) ht) hne)
    | lineComment hs hl =>
        exact absurd rfl (bne_iff_ne.1 (List.dropWhile_eq_nil_iff.1 hrest '\n' hnl))
    | block => exact .inl ⟨_, rfl⟩
    | unclosed => exact absurd rfl (hx _)
    | plain => exact .inr ⟨c, rfl⟩

end

end Token

/-! ### All tokens -/

/-- No comment is left open. -/
def AllClosed (xs : List Token) : Prop := ∀ inner, Token.unclosed inner ∉ xs

/-- **Scanning is local.** -/
theorem tokens_append {f : Family} {s : Text} (hs : EndsLine s) (hclosed : AllClosed (tokens f s))
    (u : Text) : tokens f (s ++ u) = tokens f s ++ tokens f u := by
  -- what is left after a token ends with the same newline, or is empty
  induction s using tokens.induct f with
  | case1 => simp [tokens]
  | case2 c t ih =>
      have hh := Token.heads_first f c t
      have hrest : EndsLine (Token.first f c t).2 := by
        rw [← Token.text_first f c t] at hs
        exact hs.suffix
      rw [tokens_of_heads hh] at hclosed ⊢
      have hx : ∀ inner, (Token.first f c t).1 ≠ .unclosed inner := fun inner e =>
        hclosed inner (e ▸ List.mem_cons_self)
      rw [List.cons_append, tokens_of_heads (hh.append hs hx u),
        ih hrest fun inner hm => hclosed inner (List.mem_cons_of_mem _ hm), List.cons_append]

/-! ### Blocks and chapters -/

theorem unclosed_eq_none_iff {f : Family} {p : Place} {xs : List Token} :
    (Extraction.ofTokens f p xs).unclosed = none ↔ AllClosed xs := by
  induction xs generalizing p with
  | nil => exact iff_of_true rfl fun _ h => by cases h
  | cons x xs ih =>
      have hcons : AllClosed (x :: xs) ↔ (∀ inner, x ≠ .unclosed inner) ∧ AllClosed xs := by
        simp only [AllClosed, List.mem_cons, not_or, forall_and, ne_eq, eq_comm]
      rw [hcons]
      cases x with
      | unclosed inner =>
          refine iff_of_false (fun h => ?_) fun h => h.1 inner rfl
          simp [Extraction.ofTokens] at h
      | quoted _ | lineComment _ | plain _ | block _ =>
          exact Iff.trans ih ⟨fun h => ⟨nofun, h⟩, fun h => h.2⟩

/-- Whether code stands before a place on its line does not depend on where its line is. -/
theorem Place.afterCode_past {p q : Place} (h : p.afterCode = q.afterCode) (s : Text) :
    (p.past s).afterCode = (q.past s).afterCode := by
  induction s generalizing p q with
  | nil => exact h
  | cons c s ih =>
      refine ih ?_
      unfold next
      split
      · rfl
      · simp only [h]

/-- What is no block goes with the text around it. -/
theorem Chapter.ofTokens_cons {f : Family} {x : Token} (hx : ∀ inner, x ≠ .block inner) (p : Place)
    (xs : List Token) :
    ofTokens f p (x :: xs) =
      (x.text f ++ (ofTokens f (p.past (x.text f)) xs).1,
        (ofTokens f (p.past (x.text f)) xs).2) := by
  cases x with
  | block inner => exact absurd rfl (hx inner)
  | quoted t | lineComment t | unclosed inner | plain c => rfl

/-- Tokens without a block that heads code belong to what is before them. -/
theorem chapters_append {f : Family} {p q : Place} (h : p.afterCode = q.afterCode)
    {xs : List Token} (hin : ∀ b ∈ (Extraction.ofTokens f q xs).blocks, b.inline = true)
    (ys : List Token) :
    Chapter.ofTokens f p (xs ++ ys)
      = (xs.flatMap (Token.text f)
            ++ (Chapter.ofTokens f (p.past (xs.flatMap (Token.text f))) ys).1,
          (Chapter.ofTokens f (p.past (xs.flatMap (Token.text f))) ys).2) := by
  induction xs generalizing p q with
  | nil => rfl
  | cons x xs ih =>
      have hnext := Place.afterCode_past h (x.text f)
      rw [List.flatMap_cons, Place.past_append, List.append_assoc]
      cases x with
      | quoted _ | lineComment _ | plain _ | unclosed _ =>
          rw [List.cons_append, Chapter.ofTokens, ih hnext hin]
          exact nofun
      | block inner =>
          have hp : p.afterCode = true := h.trans (hin _ List.mem_cons_self)
          rw [List.cons_append, Chapter.ofTokens,
            ih hnext fun b hb => hin b (List.mem_cons_of_mem _ hb)]
          simp only [hp, if_true]

end PatternBook
