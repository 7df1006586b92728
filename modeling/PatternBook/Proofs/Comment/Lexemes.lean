import PatternBook.Comment.Block
import PatternBook.Proofs.Comment.First
import PatternBook.Proofs.Comment.Grammar
import PatternBook.Proofs.Text.Bytes
import PatternBook.Proofs.Text.Cuts

/-!
# The tokens of a source as lexemes

The scanner cuts a source into tokens character by character; the grammar is about its bytes.
The bytes of a token are one lexeme, but for a single character, whose bytes are a lexeme each
(`Token.lexemes`).  At each place the token that the scanner cuts off is the lexeme that the
grammar takes there (`lexed_first`): that it fits is read off the scanner's steps, and that no
earlier kind fits follows because what starts such a lexeme is ASCII, so that it stands in the
characters if it stands in the bytes.

* `lexed_lexemes`: the tokens of a source are the lexemes of its bytes.
-/

namespace PatternBook

open Utf8

/-! ### The delimiters are ASCII -/

theorem isAscii_opening (f : Family) : IsAscii f.opening := by
  cases f <;> decide

theorem isAscii_closing (f : Family) : IsAscii f.closing := by
  cases f <;> decide

theorem closing_ne_nil (f : Family) : f.closing ≠ [] := by
  cases f <;> decide

theorem isAscii_slashes : IsAscii "//" := by
  decide

/-- The bytes of an opener start below `0x80`. -/
theorem encode_opening_eq_cons (f : Family) : ∃ b w, encode f.opening = b :: w ∧ b < 0x80 := by
  cases f
  · exact ⟨0x2F, _, rfl, by decide⟩
  · exact ⟨0x2F, _, rfl, by decide⟩
  · exact ⟨0x3C, _, rfl, by decide⟩

/-! ### What fits in the bytes stands in the characters -/

namespace Lexeme

variable {f : Family} {x : Lexeme} {rest : Bytes} {c : Char} {t : Text}

theorem Fits.string_inv {w : Bytes} (h : (string w).Fits f rest)
    (e : (string w).bytes f ++ rest = encode (c :: t)) :
    f.StartsString c := by
  obtain ⟨hf, q, tail, hq, rfl, -⟩ := h
  refine ⟨hf, ?_⟩
  have start : ∀ d : Char, d.toNat < 0x80 → q = byteOf d → c = d := by
    rintro d hd rfl
    obtain ⟨s, r, hct, hs, -⟩ := split_ascii (t := c :: t) (u := []) hd e.symm
    obtain rfl := encode_eq_nil_iff.1 hs.symm
    exact (List.cons.inj hct).1
  rcases hq with hq | hq
  · exact .inl (start '"' (by decide) hq)
  · exact .inr (start '\'' (by decide) hq)

theorem Fits.lineComment_inv {w : Bytes} (h : (lineComment w).Fits f rest)
    (e : (lineComment w).bytes f ++ rest = encode (c :: t)) :
    f.StartsLineComment (c :: t) := by
  obtain ⟨hf, ⟨v, rfl⟩, -, -⟩ := h
  refine ⟨hf, ?_⟩
  obtain ⟨r, hr, -⟩ := prefix_ascii isAscii_slashes (e.symm.trans (List.append_assoc _ _ _))
  rw [Text.after?_eq_some_iff.2 hr]
  rfl

theorem block_inv {inner : Bytes} (e : (block inner).bytes f ++ rest = encode (c :: t)) :
    ∃ s r, Text.after? f.opening (c :: t) = some (s ++ f.closing ++ r) := by
  simp only [bytes, List.append_assoc] at e
  obtain ⟨r, hr, hv⟩ := prefix_ascii (isAscii_opening f) e.symm
  obtain ⟨s, u, rfl, -, -⟩ := infix_ascii (isAscii_closing f) (closing_ne_nil f)
    (hv.symm.trans (List.append_assoc _ _ _).symm)
  exact ⟨s, u, Text.after?_eq_some_iff.2 hr⟩

theorem unclosed_inv {inner : Bytes} (e : (unclosed inner).bytes f ++ rest = encode (c :: t)) :
    (Text.after? f.opening (c :: t)).isSome = true := by
  obtain ⟨r, hr, -⟩ := prefix_ascii (isAscii_opening f)
    (e.symm.trans (List.append_assoc _ _ _))
  rw [Text.after?_eq_some_iff.2 hr]
  rfl

/-- Only a single byte starts at `0x80` or above. -/
theorem Fits.eq_byte_of_wide {b : UInt8} (hb : 0x80 ≤ b) {w : Bytes} (h : x.Fits f rest)
    (e : x.bytes f ++ rest = b :: w) : x = byte b := by
  have low : ∀ d : UInt8, d < 0x80 → d ≠ b := by
    rintro d hd rfl
    exact absurd hb (UInt8.not_le.2 hd)
  obtain ⟨o, w', ho, hlow⟩ := encode_opening_eq_cons f
  cases x with
  | string w =>
      obtain ⟨-, q, tail, hq, rfl, -⟩ := h
      have hq' : q < 0x80 := by rcases hq with rfl | rfl <;> decide
      exact absurd (List.cons.inj e).1 (low q hq')
  | lineComment w =>
      obtain ⟨-, ⟨v, rfl⟩, -, -⟩ := h
      exact absurd (List.cons.inj e).1 (low 0x2F (by decide))
  | block inner =>
      rw [bytes, ho] at e
      exact absurd (List.cons.inj e).1 (low o hlow)
  | unclosed inner =>
      rw [bytes, ho] at e
      exact absurd (List.cons.inj e).1 (low o hlow)
  | byte d => rw [(List.cons.inj e).1]

/-! Each kind that the characters exclude leaves only the later ones. -/

section Ranks

variable {y : Lexeme}

theorem Fits.one_le_rank (h : y.Fits f rest) (e : y.bytes f ++ rest = encode (c :: t))
    (hs : ¬ f.StartsString c) : 1 ≤ y.rank := by
  cases y with
  | string w => exact absurd (h.string_inv e) hs
  | lineComment _ | block _ | unclosed _ | byte _ => simp [rank]

theorem Fits.two_le_rank (h : y.Fits f rest) (e : y.bytes f ++ rest = encode (c :: t))
    (hs : ¬ f.StartsString c) (hl : ¬ f.StartsLineComment (c :: t)) :
    2 ≤ y.rank := by
  have h₁ := h.one_le_rank e hs
  cases y with
  | lineComment w => exact absurd (h.lineComment_inv e) hl
  | string _ => exact absurd h₁ (by simp [rank])
  | block _ | unclosed _ | byte _ => simp [rank]

theorem Fits.three_le_rank (h : y.Fits f rest) (e : y.bytes f ++ rest = encode (c :: t))
    (hs : ¬ f.StartsString c) (hl : ¬ f.StartsLineComment (c :: t))
    (hb : ∀ s r, Text.after? f.opening (c :: t) ≠ some (s ++ f.closing ++ r)) : 3 ≤ y.rank := by
  have h₂ := h.two_le_rank e hs hl
  cases y with
  | block inner =>
      obtain ⟨s, r, hsr⟩ := block_inv e
      exact absurd hsr (hb s r)
  | string _ | lineComment _ => exact absurd h₂ (by simp [rank])
  | unclosed _ | byte _ => simp [rank]

theorem Fits.four_le_rank (h : y.Fits f rest) (e : y.bytes f ++ rest = encode (c :: t))
    (hs : ¬ f.StartsString c) (hl : ¬ f.StartsLineComment (c :: t))
    (ho : Text.after? f.opening (c :: t) = none) : 4 ≤ y.rank := by
  have h₃ := h.three_le_rank e hs hl fun s r hsr => by rw [ho] at hsr; cases hsr
  cases y with
  | unclosed inner =>
      have hu := unclosed_inv e
      rw [ho] at hu
      cases hu
  | string _ | lineComment _ | block _ => exact absurd h₃ (by simp [rank])
  | byte _ => exact Nat.le_refl 4

end Ranks

/-- A byte from `0x80` on is taken as it is. -/
theorem taken_byte_of_wide {b : UInt8} (hb : 0x80 ≤ b) : (byte b).Taken f rest :=
  ⟨trivial, fun _ _ hy e => by rw [hy.eq_byte_of_wide hb e]⟩

end Lexeme

/-! ### Strings -/

theorem byteOf_ne {c d : Char} (hc : c.toNat < 0x80) (hd : d.toNat < 0x80) (h : c ≠ d) :
    byteOf c ≠ byteOf d := fun e => h (byteOf_inj hc hd e)

/-- Bytes from `0x80` on are part of a string. -/
theorem StringTail.wide {q : UInt8} (hq : IsQuote q) {u w r : Bytes} (hu : ∀ b ∈ u, 0x80 ≤ b)
    (h : StringTail q w r) : StringTail q (u ++ w) r := by
  induction u with
  | nil => exact h
  | cons b u ih =>
      have hb : 0x80 ≤ b := hu b List.mem_cons_self
      have low : ∀ d : UInt8, d < 0x80 → b ≠ d := by
        rintro d hd rfl
        exact absurd hb (UInt8.not_le.2 hd)
      refine .other b ?_ (low _ (by decide)) (low _ (by decide))
        (ih fun d hd => hu d (List.mem_cons_of_mem b hd))
      rcases hq with rfl | rfl <;> exact low _ (by decide)

/-- The scanner ends a string where the grammar does. -/
theorem stringTail_quotedTail {quote : Char} (hq : quote = '"' ∨ quote = '\'') (t : Text) :
    StringTail (byteOf quote) (encode (Token.quotedTail quote t).1)
      (encode (Token.quotedTail quote t).2) := by
  have hquote : IsQuote (byteOf quote) := by
    rcases hq with rfl | rfl
    · exact .inl rfl
    · exact .inr rfl
  have hascii : quote.toNat < 0x80 := by rcases hq with rfl | rfl <;> decide
  fun_induction Token.quotedTail quote t with
  | case1 => exact .done
  | case2 => exact .lone
  | case3 c t cut ih =>
      rw [encode_cons, encode_cons c]
      by_cases hc : c.toNat < 0x80
      · rw [encode_ascii hc]
        exact .escape _ ih
      -- the escape takes one byte of the character, and the others stand in the string as they are
      · obtain ⟨b, u, hbu⟩ := List.exists_cons_of_ne_nil (encode_singleton_ne_nil c)
        have hu : ∀ d ∈ u, 0x80 ≤ d := fun d hd =>
          encode_wide hc d (hbu ▸ List.mem_cons_of_mem b hd)
        rw [hbu]
        exact .escape b (ih.wide hquote hu)
  | case4 t => exact .line _
  | case5 t => rw [encode_ascii hascii]; exact .quote _
  | case6 c t hlone hescape hn hne cut ih =>
      have hb : c ≠ '\\' := Token.ne_backslash hlone hescape
      rw [encode_cons]
      by_cases hc : c.toNat < 0x80
      · rw [encode_ascii hc]
        exact .other _ (byteOf_ne hc hascii hne) (byteOf_ne hc (by decide) hb)
          (byteOf_ne hc (by decide) hn) ih
      · exact ih.wide hquote (encode_wide hc)

theorem fits_string {f : Family} {c : Char} (hs : f.StartsString c) (t : Text) :
    (Lexeme.string (encode (c :: (Token.quotedTail c t).1))).Fits f
      (encode (Token.quotedTail c t).2) := by
  have hc : c.toNat < 0x80 := by rcases hs.2 with rfl | rfl <;> decide
  have hquote : IsQuote (byteOf c) := by
    rcases hs.2 with rfl | rfl
    · exact .inl rfl
    · exact .inr rfl
  refine ⟨hs.1, byteOf c, encode (Token.quotedTail c t).1, hquote, ?_,
    stringTail_quotedTail hs.2 t⟩
  rw [encode_cons, encode_ascii hc]
  rfl

/-! ### Blocks and line comments -/

theorem mem_of_byteOf_mem {c : Char} (hc : c.toNat < 0x80) {t : Text}
    (h : byteOf c ∈ encode t) : c ∈ t := by
  obtain ⟨u, v, huv⟩ := List.append_of_mem h
  obtain ⟨s, r, rfl, -, -⟩ := split_ascii hc huv
  exact List.mem_append_right s List.mem_cons_self

/-- The scanner ends a line comment where the grammar does. -/
theorem fits_lineComment {f : Family} (hf : f.hasLineComments = true) {t : Text}
    (h : (Text.after? "//" t).isSome = true) :
    (Lexeme.lineComment (encode (t.takeWhile (· != '\n')))).Fits f
      (encode (t.dropWhile (· != '\n'))) := by
  refine ⟨hf, ?_, fun hm => ?_, ?_⟩
  · obtain ⟨r, hr⟩ := Option.isSome_iff_exists.1 h
    rw [Text.eq_of_after? hr, List.takeWhile_append_of_pos (List.all_eq_true.1 rfl), encode_append]
    exact List.prefix_append _ _
  · have := List.mem_takeWhile_imp (mem_of_byteOf_mem (c := '\n') (by decide) hm)
    simp at this
  · have hstop := Text.stop_dropWhile (· != '\n') t
    intro b hb
    cases hd : t.dropWhile (· != '\n') with
    | nil => rw [hd] at hb; cases hb
    | cons c r =>
        rw [hd] at hstop hb
        obtain rfl : c = '\n' := by simpa using hstop c rfl
        rw [encode_cons, encode_ascii (by decide)] at hb
        exact (Option.some.inj hb).symm

/-- The scanner closes a block where the grammar does. -/
theorem fits_block {f : Family} {t body r : Text}
    (h : Text.splitAt? f.closing t = some (body, r)) :
    (Lexeme.block (encode body)).Fits f (encode r) := by
  intro inner' rest' e
  rw [← encode_append, ← encode_append, ← Text.eq_of_splitAt? h] at e
  obtain ⟨s, u, ht, rfl, -⟩ := infix_ascii (isAscii_closing f) (closing_ne_nil f) e
  obtain ⟨v, rfl⟩ := Text.prefix_of_splitAt? h ht
  rw [encode_append, List.length_append]
  exact Nat.le_add_right _ _

theorem fits_unclosed {f : Family} {t : Text} (h : Text.splitAt? f.closing t = none) :
    (Lexeme.unclosed (encode t)).Fits f (encode []) := by
  refine ⟨rfl, ?_⟩
  rintro ⟨u, v, e⟩
  obtain ⟨s, r, ht, -, -⟩ := infix_ascii (isAscii_closing f) (closing_ne_nil f) e.symm
  exact Text.ne_of_splitAt?_eq_none h s r ht

/-! ### Tokens -/

/-- The lexemes of a token. -/
def Token.lexemes : Token → List Lexeme
  | .quoted t => [.string (encode t)]
  | .lineComment t => [.lineComment (encode t)]
  | .block inner => [.block (encode inner)]
  | .unclosed inner => [.unclosed (encode inner)]
  | .plain c => (encode [c]).map .byte

theorem bytesOf_append (f : Family) (xs ys : List Lexeme) :
    bytesOf f (xs ++ ys) = bytesOf f xs ++ bytesOf f ys :=
  List.flatMap_append

theorem bytesOf_byte (f : Family) (w : Bytes) : bytesOf f (w.map .byte) = w := by
  induction w with
  | nil => rfl
  | cons b w ih => exact congrArg (b :: ·) ih

theorem bytesOf_lexemes (f : Family) (x : Token) : bytesOf f x.lexemes = encode (x.text f) := by
  cases x with
  | plain c => exact bytesOf_byte f _
  | quoted _ | lineComment _ | block _ | unclosed _ =>
      simp [bytesOf, Token.lexemes, Lexeme.bytes, Token.text, encode_append]

theorem lexed_wide {f : Family} {w : Bytes} (hw : ∀ b ∈ w, 0x80 ≤ b) {xs : List Lexeme}
    (h : Lexed f xs) : Lexed f (w.map .byte ++ xs) := by
  induction w with
  | nil => exact h
  | cons b w ih =>
      exact .cons (Lexeme.taken_byte_of_wide (hw b List.mem_cons_self))
        (ih fun d hd => hw d (List.mem_cons_of_mem b hd))

/-- **The first token of a source is what the grammar takes first.** -/
theorem lexed_first {f : Family} {c : Char} {t rest : Text} {x : Token}
    (h : Token.Heads f c t x rest) {xs : List Lexeme} (hxs : Lexed f xs)
    (e : bytesOf f xs = encode rest) : Lexed f (x.lexemes ++ xs) := by
  have whole : bytesOf f (x.lexemes ++ xs) = encode (c :: t) := by
    have ht := Token.text_first f c t
    rw [h.first_eq] at ht
    rw [bytesOf_append, bytesOf_lexemes, e, ← encode_append, ht]
  -- the other lexeme that fits there, against what the rule of the token excludes
  cases h with
  | quoted hs => exact .cons ⟨e ▸ fits_string hs t, fun _ _ _ _ => Nat.zero_le _⟩ hxs
  | lineComment hs hl =>
      exact .cons ⟨e ▸ fits_lineComment hl.1 hl.2,
        fun y r hy ey => hy.one_le_rank (ey.trans whole) hs⟩ hxs
  | block hs hl ho hc =>
      exact .cons ⟨e ▸ fits_block hc,
        fun y r hy ey => hy.two_le_rank (ey.trans whole) hs hl⟩ hxs
  | unclosed hs hl ho hc =>
      refine .cons ⟨e ▸ fits_unclosed hc,
        fun y r hy ey => hy.three_le_rank (ey.trans whole) hs hl fun s u hsu => ?_⟩ hxs
      exact Text.ne_of_splitAt?_eq_none hc s u (Option.some.inj (ho.symm.trans hsu))
  | plain hs hl ho =>
      by_cases hc : c.toNat < 0x80
      · rw [Token.lexemes, encode_ascii hc] at whole ⊢
        exact .cons ⟨trivial, fun y r hy ey => hy.four_le_rank (ey.trans whole) hs hl ho⟩ hxs
      · exact lexed_wide (encode_wide hc) hxs

/-- The lexemes of the tokens of a source. -/
def lexemes (f : Family) (source : Text) : List Lexeme := (tokens f source).flatMap Token.lexemes

theorem bytesOf_tokens (f : Family) (xs : List Token) :
    bytesOf f (xs.flatMap Token.lexemes) = encode (xs.flatMap (Token.text f)) := by
  induction xs with
  | nil => rfl
  | cons x xs ih =>
      rw [List.flatMap_cons, List.flatMap_cons, bytesOf_append, bytesOf_lexemes, ih, encode_append]

theorem bytesOf_lexemes_source (f : Family) (source : Text) :
    bytesOf f (lexemes f source) = encode source := by
  rw [lexemes, bytesOf_tokens, text_tokens]

/-- **The tokens of a source are the lexemes of its bytes.** -/
theorem lexed_lexemes (f : Family) (source : Text) : Lexed f (lexemes f source) := by
  induction source using tokens.induct f with
  | case1 => simpa [lexemes, tokens] using Lexed.nil
  | case2 c t ih =>
      rw [lexemes, tokens, List.flatMap_cons]
      exact lexed_first (Token.heads_first f c t) ih (bytesOf_lexemes_source f _)

end PatternBook
