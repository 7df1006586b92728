import PatternBook.Proofs.Comment.Joined

/-!
# Closing an open comment

A source that leaves a comment open is scanned as before when it goes on: each token in front of the
open comment is followed by its opener, so that it ends where it did
(`Token.Heads.append_of_length`).  When a closer is put behind the source, the first place where the
comment can end is at that closer.  The closer may follow a part of itself, as in `*` or `--`, but
its last character stands nowhere else in it, so that no closer starts in the source and ends in the
one behind it (`Text.splitAt?_append_self`).

* `tokens_append_closing`: the open comment becomes a block, and all other tokens stay.
* `extract_closed`: the blocks of the closed source.
-/

namespace PatternBook

/-! ### Texts that go on -/

namespace Text

/-- A text of that length has the mark in front of it or not, whatever follows. -/
theorem after?_append_of_length_le {mark t : Text} (h : mark.length ≤ t.length) (u : Text) :
    after? mark (t ++ u) = (after? mark t).map (· ++ u) := by
  induction mark generalizing t with
  | nil => cases t <;> rfl
  | cons m mark ih =>
      cases t with
      | nil => cases h
      | cons c t =>
          rw [List.cons_append, after?, after?]
          split
          · exact ih (Nat.le_of_succ_le_succ h)
          · rfl

/-- A text without the mark is cut off before one that follows it, if the last character of the mark
stands nowhere else in it. -/
theorem splitAt?_append_self {m t : Text} {c : Char} (hc : c ∉ m)
    (h : splitAt? (m ++ [c]) t = none) : splitAt? (m ++ [c]) (t ++ (m ++ [c])) = some (t, []) := by
  cases hcut : splitAt? (m ++ [c]) (t ++ (m ++ [c])) with
  | none => exact absurd (List.append_nil _).symm (ne_of_splitAt?_eq_none hcut t [])
  | some cut =>
      obtain ⟨s, r⟩ := cut
      have e := eq_of_splitAt? hcut
      rcases List.eq_nil_or_concat r with rfl | ⟨r, d, rfl⟩
      · rw [List.append_nil] at e
        rw [List.append_cancel_right e]
      · -- the cut is made before the last character, so its `c` stands in `t` or in `m`
        rw [List.concat_eq_append, ← List.append_assoc, ← List.append_assoc] at e
        obtain ⟨e, -⟩ := List.append_inj' e rfl
        simp only [List.append_assoc] at e
        rw [← List.append_assoc] at e
        rcases List.append_eq_append_iff.1 e with ⟨w, -, hw⟩ | ⟨w, ht, hw⟩
        · exact absurd (hw ▸ List.mem_append_right w List.mem_cons_self) hc
        · cases w with
          | nil =>
              have hm : m = c :: r := hw.symm
              exact absurd (by rw [hm]; exact List.mem_cons_self) hc
          | cons d w =>
              obtain ⟨rfl, -⟩ := List.cons.inj hw
              refine absurd ?_ (ne_of_splitAt?_eq_none h s w)
              rw [ht]
              simp only [List.append_assoc, List.cons_append, List.nil_append]

end Text

variable {f : Family}

theorem two_le_length_opening (f : Family) : 2 ≤ f.opening.length := by
  cases f <;> decide

theorem exists_closing_eq (f : Family) : ∃ m c, f.closing = m ++ [c] ∧ c ∉ m := by
  cases f
  · exact ⟨['*'], '/', rfl, by decide⟩
  · exact ⟨['*'], '/', rfl, by decide⟩
  · exact ⟨['-', '-'], '>', rfl, by decide⟩

/-- Two characters settle whether a line comment starts. -/
theorem startsLineComment_append {t : Text} (h : f.opening.length ≤ t.length) (u : Text) :
    f.StartsLineComment (t ++ u) ↔ f.StartsLineComment t := by
  have hlen : List.length ("//" : Text) ≤ t.length := Nat.le_trans (two_le_length_opening f) h
  unfold Family.StartsLineComment
  rw [Text.after?_append_of_length_le hlen, Option.isSome_map]

namespace Token

/-! ### One token -/

/-- **A token ends where it does when the source goes on**, if an opener fits in what follows it. -/
theorem Heads.append_of_length {c : Char} {t rest : Text} {x : Token} (h : Heads f c t x rest)
    (hlen : f.opening.length ≤ rest.length) (u : Text) : Heads f c (t ++ u) x (rest ++ u) := by
  have hrest : rest ≠ [] := List.ne_nil_of_length_pos
    (Nat.lt_of_lt_of_le Nat.zero_lt_two (Nat.le_trans (two_le_length_opening f) hlen))
  -- what follows the token is a part of the source
  have hct : f.opening.length ≤ (c :: t).length := by
    have hlt := first_length f c t
    rw [h.first_eq] at hlt
    exact Nat.le_trans hlen (Nat.le_of_lt hlt)
  exact h.append_of_starts (startsLineComment_append hct u)
    (Text.after?_append_of_length_le hct u) fun e => absurd e hrest

/-- An open comment is closed by a closer behind the source. -/
theorem Heads.close {c : Char} {t inner : Text} (h : Heads f c t (.unclosed inner) []) :
    Heads f c (t ++ f.closing) (.block inner) [] := by
  cases h with
  | unclosed hs hl ho hc =>
      have hct : f.opening.length ≤ (c :: t).length := by
        rw [Text.eq_of_after? ho, List.length_append]
        exact Nat.le_add_right _ _
      have hopen := Text.after?_append_of_length_le hct f.closing
      rw [ho] at hopen
      refine .block hs (mt (startsLineComment_append hct f.closing).1 hl) hopen ?_
      obtain ⟨m, d, hm, hd⟩ := exists_closing_eq f
      rw [hm] at hc ⊢
      exact Text.splitAt?_append_self hd hc

end Token

/-! ### All tokens -/

/-- **A closer behind the source closes the open comment** and leaves all other tokens. -/
theorem tokens_append_closing {source : Text} (h : ¬ AllClosed (tokens f source)) :
    ∃ xs inner, AllClosed xs ∧ tokens f source = xs ++ [.unclosed inner] ∧
      tokens f (source ++ f.closing) = xs ++ [.block inner] := by
  induction source using tokens.induct f with
  | case1 => exact absurd (fun _ hm => by rw [tokens] at hm; cases hm) h
  | case2 c t ih =>
      have hh := Token.heads_first f c t
      rw [tokens_of_heads hh] at h
      generalize (Token.first f c t).1 = x, (Token.first f c t).2 = rest at *
      by_cases hx : ∃ inner, x = .unclosed inner
      · obtain ⟨inner, rfl⟩ := hx
        obtain rfl : rest = [] := by cases hh; rfl
        refine ⟨[], inner, fun _ => List.not_mem_nil, ?_, ?_⟩
        · rw [tokens_of_heads hh, tokens, List.nil_append]
        · rw [List.cons_append, tokens_of_heads hh.close, tokens, List.nil_append]
      · have hrest : ¬ AllClosed (tokens f rest) := fun hall => h fun inner hm => by
          rcases List.mem_cons.1 hm with rfl | hm
          · exact hx ⟨inner, rfl⟩
          · exact hall inner hm
        obtain ⟨xs, inner, hxs, htokens, hclosed⟩ := ih hrest
        -- the opener of the comment is in what follows the token
        have hlen : f.opening.length ≤ rest.length := by
          have htext := text_tokens f rest
          rw [htokens, List.flatMap_append, List.flatMap_singleton, Token.text] at htext
          rw [← htext]
          simp only [List.length_append]
          omega
        refine ⟨x :: xs, inner, fun other hm => ?_, ?_, ?_⟩
        · rcases List.mem_cons.1 hm with rfl | hm
          · exact hx ⟨other, rfl⟩
          · exact hxs other hm
        · rw [tokens_of_heads hh, htokens, List.cons_append]
        · rw [List.cons_append, tokens_of_heads (hh.append_of_length hlen f.closing), hclosed,
            List.cons_append]

/-! ### Blocks -/

/-- **Closing an open comment recovers its block** and no other.  The scanner leaves a comment open
behind the tokens `xs`; with a closer behind the source its blocks are those of the source and one
more, which starts at that comment's opener and goes to the end. -/
theorem extract_closed {source : Text} {line : Nat} (h : (extract f source).unclosed = some line) :
    ∃ xs b, tokens f source = xs ++ [.unclosed b.text] ∧
      source = xs.flatMap (Token.text f) ++ f.opening ++ b.text ∧
      extract f (source ++ f.closing) = ⟨(extract f source).blocks ++ [b], none⟩ ∧
      b.line = line ∧ b.start = Text.size (xs.flatMap (Token.text f)) ∧
      b.stop = Text.size (source ++ f.closing) := by
  have hopen : ¬ AllClosed (tokens f source) := fun hall => by
    rw [extract, unclosed_eq_none_iff.2 hall] at h
    cases h
  obtain ⟨xs, inner, hxs, htokens, hclosed⟩ := tokens_append_closing hopen
  have htext : source = xs.flatMap (Token.text f) ++ f.opening ++ inner := by
    have htext := text_tokens f source
    rwa [htokens, List.flatMap_append, List.flatMap_singleton, Token.text, ← List.append_assoc,
      eq_comm] at htext
  have hnone : (Extraction.ofTokens f .start xs).unclosed = none := unclosed_eq_none_iff.2 hxs
  have hsource : extract f source = ⟨(Extraction.ofTokens f .start xs).blocks,
      some (Place.start.past (xs.flatMap (Token.text f))).line⟩ := by
    rw [extract, htokens, Extraction.ofTokens_append, Extraction.append, hnone]
    exact congrArg (Extraction.mk · _) (List.append_nil _)
  have hlonger : extract f (source ++ f.closing) = ⟨(Extraction.ofTokens f .start xs).blocks ++
      [Block.at f (Place.start.past (xs.flatMap (Token.text f))) inner], none⟩ := by
    rw [extract, hclosed, Extraction.ofTokens_append, Extraction.append, hnone]
    rfl
  rw [hsource] at h ⊢
  refine ⟨xs, _, htokens, htext, hlonger, Option.some.inj h, ?_, ?_⟩
  · rw [Block.at, Place.offset_past]
    exact Nat.zero_add _
  · show ((Place.start.past _).past ((Token.block inner).text f)).offset = _
    rw [← Place.past_append, Place.offset_past, htext, Token.text]
    simp only [List.append_assoc]
    exact Nat.zero_add _

/-- An open comment behind a string with an opener in it and a block, and its opener is directly
followed by the second half of a closer. -/
def openSheet : Text := "content: '\\'/*'; /* é */\n/*/ b *"

theorem extract_closed_openSheet :
    (extract .css openSheet).unclosed = some 2 ∧
      ∃ xs b, tokens .css openSheet = xs ++ [.unclosed b.text] ∧
        openSheet = xs.flatMap (Token.text .css) ++ Family.css.opening ++ b.text ∧
        extract .css (openSheet ++ Family.css.closing)
          = ⟨(extract .css openSheet).blocks ++ [b], none⟩ ∧
        b.line = 2 ∧ b.start = Text.size (xs.flatMap (Token.text .css)) ∧
        b.stop = Text.size (openSheet ++ Family.css.closing) := by
  have hopen : (extract .css openSheet).unclosed = some 2 := by decide +kernel
  exact ⟨hopen, extract_closed hopen⟩

end PatternBook
