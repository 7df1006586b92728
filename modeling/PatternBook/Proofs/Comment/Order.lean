import PatternBook.Proofs.Comment.First
import PatternBook.Proofs.Comment.Place

/-!
# Blocks and lines

Where the blocks of a source stand.  A block is found where it stands in the source, and one that
heads code starts on a line of which nothing has been used before, not even by the end of another
block; so blocks that head code are on lines of their own.

* `exists_of_mem_blocks`, `exists_of_unclosed`: the source around a block and an open comment.
* `heads_chapters`: the chapters are headed by the blocks behind no code.
* `pairwise_lastLine_lt`: each chapter starts on a line after the last one of the block before it.
-/

namespace PatternBook

variable {f : Family}

/-- The line on which the block ends. -/
def Block.lastLine (b : Block) : Nat := b.line + b.text.count '\n'

/-- The line is one of those of the block. -/
def Block.Spans (b : Block) (line : Nat) : Prop := b.line ≤ line ∧ line ≤ b.lastLine

/-! ### The source around a block -/

theorem Extraction.exists_of_mem_blocks {p : Place} {xs : List Token} {b : Block}
    (h : b ∈ (ofTokens f p xs).blocks) :
    ∃ before after,
      xs.flatMap (Token.text f) = before ++ (Token.block b.text).text f ++ after ∧
        b = Block.at f (p.past before) b.text := by
  induction xs generalizing p with
  | nil => cases h
  | cons x xs ih =>
      -- a block further on has the token in front of it, too
      have further : b ∈ (ofTokens f (p.past (x.text f)) xs).blocks →
          ∃ before after,
            (x :: xs).flatMap (Token.text f) = before ++ (Token.block b.text).text f ++ after ∧
              b = Block.at f (p.past before) b.text := fun hb => by
        obtain ⟨before, after, htext, hat⟩ := ih hb
        refine ⟨x.text f ++ before, after, ?_, by rwa [Place.past_append]⟩
        rw [List.flatMap_cons, htext]
        simp only [List.append_assoc]
      cases x with
      | quoted _ | lineComment _ | plain _ | unclosed _ => exact further h
      | block inner =>
          rcases List.mem_cons.1 h with rfl | h
          · exact ⟨[], xs.flatMap (Token.text f), rfl, rfl⟩
          · exact further h

theorem Extraction.exists_of_unclosed {p : Place} {xs : List Token} {line : Nat}
    (h : (ofTokens f p xs).unclosed = some line) :
    ∃ before after,
      xs.flatMap (Token.text f) = before ++ f.opening ++ after ∧ line = (p.past before).line := by
  induction xs generalizing p with
  | nil => cases h
  | cons x xs ih =>
      have further : (ofTokens f (p.past (x.text f)) xs).unclosed = some line →
          ∃ before after,
            (x :: xs).flatMap (Token.text f) = before ++ f.opening ++ after ∧
              line = (p.past before).line := fun hu => by
        obtain ⟨before, after, htext, hline⟩ := ih hu
        refine ⟨x.text f ++ before, after, ?_, by rwa [Place.past_append]⟩
        rw [List.flatMap_cons, htext]
        simp only [List.append_assoc]
      cases x with
      | quoted _ | lineComment _ | plain _ | block _ => exact further h
      | unclosed inner =>
          obtain rfl := Option.some.inj h
          refine ⟨[], inner ++ xs.flatMap (Token.text f), ?_, rfl⟩
          rw [List.flatMap_cons, Token.text, List.nil_append, List.append_assoc]

/-- **A block stands in its source**, on the line that the newlines before it give. -/
theorem exists_of_mem_blocks {source : Text} {b : Block} (h : b ∈ (extract f source).blocks) :
    ∃ before after, source = before ++ (Token.block b.text).text f ++ after ∧
      b.line = 1 + before.count '\n' := by
  obtain ⟨before, after, htext, hat⟩ := Extraction.exists_of_mem_blocks h
  rw [text_tokens] at htext
  refine ⟨before, after, htext, ?_⟩
  rw [hat, Block.at, Place.line_past]
  rfl

/-- **A comment that is left open** starts with an opener on its line. -/
theorem exists_of_unclosed {source : Text} {line : Nat}
    (h : (extract f source).unclosed = some line) :
    ∃ before after, source = before ++ f.opening ++ after ∧ line = 1 + before.count '\n' := by
  obtain ⟨before, after, htext, hline⟩ := Extraction.exists_of_unclosed h
  rw [text_tokens] at htext
  exact ⟨before, after, htext, by rw [hline, Place.line_past]; rfl⟩

/-! ### The heads of chapters -/

theorem Chapter.heads_ofTokens (p : Place) (xs : List Token) :
    (ofTokens f p xs).2.map Chapter.head
      = (Extraction.ofTokens f p xs).blocks.filter (!·.inline) := by
  induction xs generalizing p with
  | nil => rfl
  | cons x xs ih =>
      cases x with
      | quoted _ | lineComment _ | plain _ | unclosed _ => exact ih _
      | block inner =>
          have ih := ih (p.past ((Token.block inner).text f))
          rw [ofTokens]
          by_cases hp : p.afterCode
          · have hinline : (Block.at f p inner).inline = true := hp
            rw [if_pos hp, Extraction.ofTokens, List.filter_cons_of_neg (by simp [hinline])]
            exact ih
          · have hinline : (Block.at f p inner).inline = false := Bool.eq_false_iff.2 hp
            rw [if_neg hp, Extraction.ofTokens, List.filter_cons_of_pos (by simp [hinline]), ← ih]
            rfl

/-- **The chapters are headed by the blocks behind no code**, in order. -/
theorem heads_chapters (source : Text) :
    (chapters f source).map Chapter.head = (extract f source).blocks.filter (!·.inline) :=
  Chapter.heads_ofTokens .start (tokens f source)

/-- A block heads a chapter exactly if it stands behind no code. -/
theorem exists_chapter_iff {source : Text} {b : Block} :
    (∃ c ∈ chapters f source, c.head = b) ↔ b ∈ (extract f source).blocks ∧ b.inline = false := by
  rw [← List.mem_map, heads_chapters, List.mem_filter, Bool.not_eq_true']

/-! ### Lines that can be headed -/

namespace Place

/-- The first line on which a block that heads code can start. -/
def nextHead (p : Place) : Nat := if p.afterCode then p.line + 1 else p.line

theorem nextHead_le_next (p : Place) (c : Char) : p.nextHead ≤ (p.next c).nextHead := by
  unfold nextHead next
  by_cases hc : c = '\n'
  · rw [if_pos hc]
    split <;> simp
  · rw [if_neg hc]
    by_cases hp : p.afterCode
    · simp [hp]
    · rw [if_neg hp]
      split <;> simp

theorem nextHead_le_past (p : Place) (s : Text) : p.nextHead ≤ (p.past s).nextHead := by
  induction s generalizing p with
  | nil => exact Nat.le_refl _
  | cons c s ih => exact Nat.le_trans (p.nextHead_le_next c) (ih (p.next c))

theorem line_past_block (p : Place) (inner : Text) :
    (p.past ((Token.block inner).text f)).line = (Block.at f p inner).lastLine := by
  have hopening : f.opening.count '\n' = 0 := by cases f <;> decide
  have hclosing : f.closing.count '\n' = 0 := by cases f <;> decide
  rw [line_past, Token.text, List.count_append, List.count_append, hopening, hclosing,
    Nat.zero_add, Nat.add_zero]
  rfl

/-- A block is code for what follows it on its last line. -/
theorem afterCode_past_block (p : Place) (inner : Text) :
    (p.past ((Token.block inner).text f)).afterCode = true := by
  rw [Token.text, past_append]
  cases f <;> simp [Family.closing, past, next, isLayout]

theorem nextHead_past_block (p : Place) (inner : Text) :
    (p.past ((Token.block inner).text f)).nextHead = (Block.at f p inner).lastLine + 1 := by
  rw [nextHead, if_pos (afterCode_past_block p inner), line_past_block]

end Place

/-! ### The order of chapters -/

namespace Chapter

theorem nextHead_le {p : Place} {xs : List Token} {c : Chapter} (h : c ∈ (ofTokens f p xs).2) :
    p.nextHead ≤ c.head.line := by
  induction xs generalizing p with
  | nil => cases h
  | cons x xs ih =>
      have further (h : c ∈ (ofTokens f (p.past (x.text f)) xs).2) : p.nextHead ≤ c.head.line :=
        Nat.le_trans (p.nextHead_le_past (x.text f)) (ih h)
      cases x with
      | quoted _ | lineComment _ | plain _ | unclosed _ => exact further h
      | block inner =>
          rw [ofTokens] at h
          by_cases hp : p.afterCode
          · rw [if_pos hp] at h
            exact further h
          · rw [if_neg hp] at h
            rcases List.mem_cons.1 h with rfl | h
            · rw [Place.nextHead, if_neg hp]
              exact Nat.le_refl _
            · exact further h

/-- A block that heads code starts after the last line of the one before it. -/
theorem pairwise_ofTokens (p : Place) (xs : List Token) :
    (ofTokens f p xs).2.Pairwise fun c d => c.head.lastLine < d.head.line := by
  induction xs generalizing p with
  | nil => exact .nil
  | cons x xs ih =>
      cases x with
      | quoted _ | lineComment _ | plain _ | unclosed _ => exact ih _
      | block inner =>
          have ih := ih (p.past ((Token.block inner).text f))
          rw [ofTokens]
          by_cases hp : p.afterCode
          · rw [if_pos hp]
            exact ih
          · rw [if_neg hp]
            refine List.pairwise_cons.2 ⟨fun d hd => ?_, ih⟩
            have hnext := nextHead_le hd
            rwa [Place.nextHead_past_block] at hnext

/-- No block that heads code goes on behind an opener that is never closed. -/
theorem lastLine_le_of_unclosed {p : Place} {source : Text} {line : Nat}
    (h : (Extraction.ofTokens f p (tokens f source)).unclosed = some line) {c : Chapter}
    (hc : c ∈ (ofTokens f p (tokens f source)).2) : c.head.lastLine ≤ line := by
  induction source using tokens.induct f generalizing p with
  | case1 => rw [tokens] at hc; cases hc
  | case2 d t ih =>
      have hh := Token.heads_first f d t
      rw [tokens_of_heads hh] at h hc
      generalize (Token.first f d t).1 = x, (Token.first f d t).2 = rest at *
      cases hh with
      | quoted _ | lineComment _ _ | plain _ _ _ => exact ih h hc
      | unclosed _ _ _ _ =>
          -- nothing is left behind the opener
          rw [tokens] at hc
          cases hc
      | @block inner _ _ _ _ _ _ =>
          have h : (Extraction.ofTokens f (p.past ((Token.block inner).text f))
            (tokens f rest)).unclosed = some line := h
          rw [ofTokens] at hc
          by_cases hp : p.afterCode
          · rw [if_pos hp] at hc
            exact ih h hc
          · rw [if_neg hp] at hc
            rcases List.mem_cons.1 hc with rfl | hc
            · obtain ⟨before, -, -, hline⟩ := Extraction.exists_of_unclosed h
              rw [hline, Place.line_past, Place.line_past_block]
              exact Nat.le_add_right _ _
            · exact ih h hc

end Chapter

/-- **Each chapter starts on a line after the last one of the block before it.** -/
theorem pairwise_lastLine_lt (source : Text) :
    (chapters f source).Pairwise fun c d => c.head.lastLine < d.head.line :=
  Chapter.pairwise_ofTokens .start (tokens f source)

end PatternBook
