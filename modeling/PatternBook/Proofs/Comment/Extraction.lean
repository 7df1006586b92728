import PatternBook.Proofs.Comment.Lexemes

/-!
# Blocks and lexemes

The scanner carries a place along the source and updates it at each character; the grammar reads
the place of a block off the bytes before it.

* `past_placeAfter`: the place behind a text is the one that its bytes give.
* `extraction_of_lexemes`: a source falls into lexemes in exactly one way, and the blocks found in
  it are the blocks of these lexemes.
-/

namespace PatternBook

open Utf8

/-! ### Lines and code behind bytes -/

theorem lineAfter_append (u v : Bytes) : lineAfter (u ++ v) = lineAfter u + v.count newline := by
  rw [lineAfter, lineAfter, List.count_append, Nat.add_assoc]

theorem codeAfter_newline (u : Bytes) : codeAfter (u ++ [newline]) = false := by
  simp [codeAfter]

/-- Bytes of the same line add their own code. -/
theorem codeAfter_append {u v : Bytes} (hv : newline ∉ v) :
    codeAfter (u ++ v) = (codeAfter u || v.any (· ∉ asciiSpaces)) := by
  have hpos : ∀ b ∈ v.reverse, decide (b ≠ newline) = true := fun b hb =>
    decide_eq_true fun e => hv (e ▸ List.mem_reverse.1 hb)
  rw [codeAfter, List.reverse_append, List.takeWhile_append_of_pos hpos, List.any_append,
    List.any_reverse, Bool.or_comm, ← codeAfter]

theorem newline_notMem {c : Char} (h : c ≠ '\n') : newline ∉ encode [c] := fun hm =>
  h (eq_of_byteOf_mem (c := '\n') (by decide) hm)

theorem count_newline {c : Char} (h : c ≠ '\n') : (encode [c]).count newline = 0 :=
  List.count_eq_zero_of_not_mem (newline_notMem h)

/-- A character is layout if its bytes are white space. -/
theorem any_notMem_asciiSpaces (c : Char) :
    (encode [c]).any (· ∉ asciiSpaces) = !Place.isLayout c := by
  by_cases hc : c.toNat < 0x80
  · have iff : ∀ d : Char, d.toNat < 0x80 → (byteOf c = byteOf d ↔ c = d) := fun d hd =>
      ⟨byteOf_inj hc hd, congrArg byteOf⟩
    have key : byteOf c ∈ asciiSpaces ↔ Place.isLayout c = true := by
      simp only [Place.isLayout, Bool.or_eq_true, beq_iff_eq, or_assoc]
      rw [← iff ' ' (by decide), ← iff '\t' (by decide), ← iff '\n' (by decide),
        ← iff '\x0C' (by decide), ← iff '\r' (by decide)]
      simp [asciiSpaces, byteOf]
    rw [encode_ascii hc, List.any_cons, List.any_nil, Bool.or_false]
    cases hl : Place.isLayout c with
    | true => simpa using key.2 hl
    | false => simpa [hl] using key
  · obtain ⟨b, w, hbw⟩ := List.exists_cons_of_ne_nil (encode_singleton_ne_nil c)
    have hb : 0x80 ≤ b := encode_wide hc b (hbw ▸ List.mem_cons_self)
    have hspace : b ∉ asciiSpaces := fun hm => by
      have low : asciiSpaces.all (· < 0x80) = true := by decide
      exact absurd hb (UInt8.not_le.2 (of_decide_eq_true (List.all_eq_true.1 low b hm)))
    have hlayout : Place.isLayout c = false := by
      simp only [Place.isLayout, Bool.or_eq_false_iff, beq_eq_false_iff_ne]
      refine ⟨⟨⟨⟨?_, ?_⟩, ?_⟩, ?_⟩, ?_⟩ <;> (rintro rfl; exact hc (by decide))
    rw [hbw, List.any_cons, hlayout, decide_eq_true hspace]
    rfl

/-! ### Places -/

/-- The place behind bytes. -/
def placeAfter (before : Bytes) : Place where
  offset := before.length
  line := lineAfter before
  afterCode := codeAfter before

theorem next_placeAfter (u : Bytes) (c : Char) :
    (placeAfter u).next c = placeAfter (u ++ encode [c]) := by
  by_cases hc : c = '\n'
  · subst hc
    have hnl : encode ['\n'] = [newline] := by decide
    rw [hnl, Place.next, if_pos rfl, placeAfter, placeAfter, lineAfter_append, codeAfter_newline,
      List.length_append]
    rfl
  · rw [Place.next, if_neg hc, placeAfter, placeAfter, lineAfter_append, count_newline hc,
      codeAfter_append (newline_notMem hc), any_notMem_asciiSpaces, List.length_append,
      length_encode_singleton]
    rfl

/-- **The place behind a text** is the one that its bytes give. -/
theorem past_placeAfter (u : Bytes) (s : Text) :
    (placeAfter u).past s = placeAfter (u ++ encode s) := by
  induction s generalizing u with
  | nil => simp [Place.past, encode]
  | cons c s ih =>
      rw [encode_cons, ← List.append_assoc, ← ih, ← next_placeAfter]
      rfl

/-! ### Blocks -/

/-- The block among the bytes of its source. -/
def Block.span (b : Block) : BlockSpan where
  text := encode b.text
  line := b.line
  start := b.start
  stop := b.stop
  inline := b.inline

theorem blocksAfter_byte (f : Family) (u w : Bytes) (xs : List Lexeme) :
    blocksAfter f u (w.map .byte ++ xs) = blocksAfter f (u ++ w) xs := by
  induction w generalizing u with
  | nil => rw [List.append_nil]; rfl
  | cons b w ih => exact (ih (u ++ [b])).trans (by rw [List.append_assoc]; rfl)

theorem unclosedAfter_byte (f : Family) (u w : Bytes) (xs : List Lexeme) :
    unclosedAfter f u (w.map .byte ++ xs) = unclosedAfter f (u ++ w) xs := by
  induction w generalizing u with
  | nil => rw [List.append_nil]; rfl
  | cons b w ih => exact (ih (u ++ [b])).trans (by rw [List.append_assoc]; rfl)

/-- The blocks of tokens are the blocks of their lexemes, behind the same bytes. -/
theorem ofTokens_placeAfter (f : Family) (u : Bytes) (xs : List Token) :
    (Extraction.ofTokens f (placeAfter u) xs).blocks.map Block.span
        = blocksAfter f u (xs.flatMap Token.lexemes) ∧
      (Extraction.ofTokens f (placeAfter u) xs).unclosed
        = unclosedAfter f u (xs.flatMap Token.lexemes) := by
  induction xs generalizing u with
  | nil => exact ⟨rfl, rfl⟩
  | cons x xs ih =>
      have ih := ih (u ++ encode (x.text f))
      rw [← past_placeAfter] at ih
      cases x with
      | quoted _ | lineComment _ => exact ih
      | plain c =>
          rw [List.flatMap_cons, Token.lexemes, blocksAfter_byte, unclosedAfter_byte]
          exact ih
      | unclosed inner =>
          refine ⟨ih.1.trans ?_, rfl⟩
          rw [Token.text, encode_append]
          rfl
      | block inner =>
          have hspan : (Block.at f (placeAfter u) inner).span
              = ⟨encode inner, lineAfter u, u.length,
                u.length + ((Lexeme.block (encode inner)).bytes f).length, codeAfter u⟩ := by
            rw [Block.at, Block.span, past_placeAfter]
            simp [placeAfter, Token.text, Lexeme.bytes, encode_append]
          have hbytes : encode ((Token.block inner).text f)
              = (Lexeme.block (encode inner)).bytes f := by
            rw [Token.text, encode_append, encode_append]
            rfl
          rw [hbytes] at ih
          exact ⟨congrArg₂ List.cons hspan ih.1, ih.2⟩

/-- **The lexical grammar of a source.**  The bytes of a source fall into lexemes in exactly one
way such that at each place the first kind that fits is taken.  The comment blocks of the source
are the blocks of these lexemes in order, each with its text, its line, its bytes and whether code
stands before it; and the line of an opener that is never closed is the one of these lexemes. -/
theorem extraction_of_lexemes (f : Family) (source : Text) :
    ∃ xs : List Lexeme,
      (Lexed f xs ∧ bytesOf f xs = encode source) ∧
      (∀ ys, Lexed f ys ∧ bytesOf f ys = encode source → ys = xs) ∧
      (extract f source).blocks.map Block.span = blocksAfter f [] xs ∧
      (extract f source).unclosed = unclosedAfter f [] xs := by
  have hbytes := bytesOf_lexemes_source f source
  have hlexed := lexed_lexemes f source
  obtain ⟨hblocks, hunclosed⟩ := ofTokens_placeAfter f [] (tokens f source)
  refine ⟨lexemes f source, ⟨hlexed, hbytes⟩, ?_, hblocks, hunclosed⟩
  rintro ys ⟨hys, e⟩
  exact hys.unique hlexed (e.trans hbytes.symm)

end PatternBook
