import Mathlib.Data.List.ModifyLast
import PatternBook.Proofs.Comment.Locality
import PatternBook.Proofs.Comment.Place

/-!
# Comments of joined sources

Two sources, one behind the other, where the first ends a line and leaves no comment open.  The
scanner is back at its start between them, so the blocks of both are found; those of the second
stand further on (`Block.behind`).  The chapters are those of both, too, but the code of the last
one of the first source goes on into the second.

* `extract_append`: the blocks and the opener that is never closed.
* `chapters_append_behind`: the chapters.
-/

namespace PatternBook

variable {f : Family} {a : Text}

/-- The block in a source that has a text in front of it. -/
def Block.behind (a : Text) (b : Block) : Block :=
  { b with line := b.line + a.count '\n', start := b.start + a.size, stop := b.stop + a.size }

theorem Block.at_behind (a : Text) (p : Place) (inner : Text) :
    Block.at f (p.behind a) inner = (Block.at f p inner).behind a := by
  rw [Block.at, Place.past_behind]
  rfl

/-- A text that ends a line puts what is behind it at the start of a line. -/
theorem EndsLine.past_start (ha : EndsLine a) : Place.start.past a = Place.start.behind a := by
  have hcode : (Place.start.past a).afterCode = false := by
    rcases ha with rfl | ⟨s, rfl, -⟩
    · rfl
    · exact Place.afterCode_past_newline Place.start s
  calc Place.start.past a
      = ⟨(Place.start.past a).offset, (Place.start.past a).line,
          (Place.start.past a).afterCode⟩ := rfl
    _ = Place.start.behind a := by rw [Place.offset_past, Place.line_past, hcode]; rfl

/-! ### Blocks -/

namespace Extraction

/-- The blocks in a source that has a text in front of it. -/
def behind (a : Text) (e : Extraction) : Extraction :=
  ⟨e.blocks.map (Block.behind a), e.unclosed.map (· + a.count '\n')⟩

/-- Blocks one after the other; what is left open first counts. -/
def append (d e : Extraction) : Extraction := ⟨d.blocks ++ e.blocks, d.unclosed.or e.unclosed⟩

theorem ofTokens_append (p : Place) (xs ys : List Token) :
    ofTokens f p (xs ++ ys)
      = (ofTokens f p xs).append (ofTokens f (p.past (xs.flatMap (Token.text f))) ys) := by
  induction xs generalizing p with
  | nil => rfl
  | cons x xs ih =>
      have ih := ih (p.past (x.text f))
      rw [List.flatMap_cons, Place.past_append]
      cases x with
      | quoted _ | lineComment _ | plain _ => exact ih
      | block inner =>
          rw [List.cons_append, ofTokens, ih]
          rfl
      | unclosed inner =>
          rw [List.cons_append, ofTokens, ih]
          rfl

theorem ofTokens_behind (a : Text) (p : Place) (xs : List Token) :
    ofTokens f (p.behind a) xs = (ofTokens f p xs).behind a := by
  induction xs generalizing p with
  | nil => rfl
  | cons x xs ih =>
      have ih := ih (p.past (x.text f))
      rw [← Place.past_behind] at ih
      cases x with
      | quoted _ | lineComment _ | plain _ => exact ih
      | block inner =>
          rw [ofTokens, ih, Block.at_behind]
          rfl
      | unclosed inner =>
          rw [ofTokens, ih]
          rfl

end Extraction

/-- **The blocks of joined sources** are those of both. -/
theorem extract_append (ha : EndsLine a) (hclosed : (extract f a).unclosed = none) (b : Text) :
    extract f (a ++ b) = (extract f a).append ((extract f b).behind a) := by
  rw [extract, tokens_append ha (unclosed_eq_none_iff.1 hclosed), Extraction.ofTokens_append,
    text_tokens, ha.past_start, Extraction.ofTokens_behind]
  rfl

/-! ### Chapters -/

namespace Chapter

/-- The chapter in a source that has a text in front of it. -/
def behind (a : Text) (c : Chapter) : Chapter := { c with head := c.head.behind a }

/-- The chapter with more code. -/
def extend (more : Text) (c : Chapter) : Chapter := { c with code := c.code ++ more }

/-- A text and chapters, one after the other: the text of the second goes to the last chapter of
the first, or to the text of the first if that has no chapter. -/
def append (u v : Text × List Chapter) : Text × List Chapter :=
  (if u.2 = [] then u.1 ++ v.1 else u.1, u.2.modifyLast (extend v.1) ++ v.2)

/-- A text in front of the first goes to it. -/
theorem append_cons_text (t : Text) (u v : Text × List Chapter) :
    append (t ++ u.1, u.2) v = (t ++ (append u v).1, (append u v).2) := by
  unfold append
  dsimp only
  split
  · rw [List.append_assoc]
  · rfl

/-- A block in front of the first takes the text of it. -/
theorem append_cons_block (b : Block) (u v : Text × List Chapter) :
    append ([], ⟨b, u.1⟩ :: u.2) v = ([], ⟨b, (append u v).1⟩ :: (append u v).2) := by
  unfold append
  dsimp only
  rw [if_neg (List.cons_ne_nil _ _)]
  by_cases hu : u.2 = []
  · rw [if_pos hu, hu]
    rfl
  · rw [if_neg hu, ← List.singleton_append, List.modifyLast_append_of_right_ne_nil _ _ _ hu]
    rfl

theorem ofTokens_append (p : Place) (xs ys : List Token) :
    ofTokens f p (xs ++ ys)
      = append (ofTokens f p xs) (ofTokens f (p.past (xs.flatMap (Token.text f))) ys) := by
  induction xs generalizing p with
  | nil => rfl
  | cons x xs ih =>
      rw [List.flatMap_cons, Place.past_append, List.cons_append]
      cases x with
      | quoted _ | lineComment _ | plain _ | unclosed _ =>
          rw [ofTokens_cons (by simp), ofTokens_cons (by simp), ih, append_cons_text]
      | block inner =>
          rw [ofTokens, ofTokens, ih]
          split
          · rw [append_cons_text]
          · rw [append_cons_block]

theorem ofTokens_behind (a : Text) (p : Place) (xs : List Token) :
    ofTokens f (p.behind a) xs = ((ofTokens f p xs).1, (ofTokens f p xs).2.map (behind a)) := by
  induction xs generalizing p with
  | nil => rfl
  | cons x xs ih =>
      cases x with
      | quoted _ | lineComment _ | plain _ | unclosed _ =>
          rw [ofTokens_cons (by simp), ofTokens_cons (by simp), Place.past_behind, ih]
      | block inner =>
          rw [ofTokens, ofTokens, Place.past_behind, ih, Block.at_behind, Place.behind]
          split <;> rfl

end Chapter

/-- What stands in front of the first chapter of a source. -/
def preamble (f : Family) (source : Text) : Text :=
  (Chapter.ofTokens f .start (tokens f source)).1

/-- **The chapters of joined sources** are those of both. -/
theorem chapters_append_behind (ha : EndsLine a) (hclosed : (extract f a).unclosed = none)
    (b : Text) :
    chapters f (a ++ b)
      = (chapters f a).modifyLast (Chapter.extend (preamble f b)) ++
          (chapters f b).map (Chapter.behind a) := by
  rw [chapters, tokens_append ha (unclosed_eq_none_iff.1 hclosed), Chapter.ofTokens_append,
    text_tokens, ha.past_start, Chapter.ofTokens_behind]
  rfl

end PatternBook
