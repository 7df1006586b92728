import PatternBook.Proofs.Comment.Lexemes

/-!
# Scanning by offset

The scanner as a loop over the bytes of a source, with an index that each of its moves sends on
(`Offsets.move`).  It reads single bytes: a backslash in a string takes the next byte with it, which
may lie inside of a character or behind the end of the source, and outside of comments and strings
the index steps into the middle of characters.  The index always grows and never leaves the source
(`Offsets.move_lt`), for any bytes.

* `Offsets.trail`: the values of the index, one after the other.
* `Offsets.pairwise_trail`, `Offsets.mem_trail`: they grow, up to the length of the source.
* `Offsets.move_string` and the lemmas below it: at a lexeme the index moves behind the lexeme.
-/

namespace PatternBook

open Utf8 (encode backslash newline)

instance : DecidablePred IsQuote := fun q => inferInstanceAs (Decidable (q = 0x22 ∨ q = 0x27))

namespace Offsets

/-! ### The loop -/

/-- The offset behind a string whose bytes up to an offset have been read. -/
def stringEnd (bytes : Bytes) (quote : UInt8) (i : Nat) : Nat :=
  if _h : i < bytes.length then
    if bytes[i] = backslash then stringEnd bytes quote (i + 2)
    else if bytes[i] = newline then i
    else if bytes[i] = quote then i + 1
    else stringEnd bytes quote (i + 1)
  else bytes.length
  termination_by bytes.length - i

/-- The number of bytes in front of the first occurrence of a mark. -/
def before? (mark : Bytes) : Bytes → Option Nat
  | [] => none
  | b :: w => if mark <+: b :: w then some 0 else (before? mark w).map (· + 1)

/-- The offset of the first occurrence of a mark, from an offset on. -/
def find? (bytes mark : Bytes) (start : Nat) : Option Nat :=
  (before? mark (bytes.drop start)).map (start + ·)

/-- What the scanner does at an offset. -/
inductive Move where
  /-- It goes on at another offset. -/
  | on (next : Nat)
  /-- It takes the text of a block, and goes on. -/
  | block (textStart textStop next : Nat)
  /-- It stops at an opener without a closer. -/
  | unclosed
  deriving DecidableEq, Repr

/-- The offset at which it goes on. -/
def Move.next? : Move → Option Nat
  | .on next | .block _ _ next => some next
  | .unclosed => none

/-- The move at an offset. -/
def move (f : Family) (bytes : Bytes) (i : Nat) : Move :=
  let rest := bytes.drop i
  if f.hasStrings = true ∧ IsQuote (rest.headD 0) then
    .on (stringEnd bytes (rest.headD 0) (i + 1))
  else if f.hasLineComments = true ∧ encode "//" <+: rest then
    .on ((find? bytes [newline] i).getD bytes.length)
  else if encode f.opening <+: rest then
    let textStart := i + (encode f.opening).length
    match find? bytes (encode f.closing) textStart with
    | some textStop => .block textStart textStop (textStop + (encode f.closing).length)
    | none => .unclosed
  else .on (i + 1)

/-! ### Bounds -/

theorem stringEnd_le (bytes : Bytes) (quote : UInt8) (i : Nat) :
    stringEnd bytes quote i ≤ bytes.length := by
  fun_induction stringEnd bytes quote i with
  | case1 i h _ ih => exact ih
  | case2 i h _ _ => exact Nat.le_of_lt h
  | case3 i h _ _ _ => exact h
  | case4 i h _ _ _ ih => exact ih
  | case5 i h => exact Nat.le_refl _

/-- A string does not end before an offset that has been reached, if that is in the source. -/
theorem min_le_stringEnd (bytes : Bytes) (quote : UInt8) (i : Nat) :
    min i bytes.length ≤ stringEnd bytes quote i := by
  fun_induction stringEnd bytes quote i with
  | case1 i h _ ih => omega
  | case2 i h _ _ => omega
  | case3 i h _ _ _ => omega
  | case4 i h _ _ _ ih => omega
  | case5 i h => exact Nat.min_le_right _ _

theorem prefix_drop_of_before? {mark w : Bytes} {n : Nat} (h : before? mark w = some n) :
    mark <+: w.drop n := by
  induction w generalizing n with
  | nil => cases h
  | cons b w ih =>
      rw [before?] at h
      split at h
      · next hmark =>
          cases h
          exact hmark
      · obtain ⟨m, hm, rfl⟩ := Option.map_eq_some_iff.1 h
        exact ih hm

theorem find?_bounds {bytes mark : Bytes} {start n : Nat} (hmark : mark ≠ [])
    (h : find? bytes mark start = some n) : start ≤ n ∧ n + mark.length ≤ bytes.length := by
  obtain ⟨m, hm, rfl⟩ := Option.map_eq_some_iff.1 h
  have hlen := (prefix_drop_of_before? hm).length_le
  have hpos := List.length_pos_iff.2 hmark
  rw [List.drop_drop, List.length_drop] at hlen
  omega

/-- **Each move goes forward, and stays in the source.** -/
theorem move_lt {f : Family} {bytes : Bytes} {i j : Nat} (h : i < bytes.length)
    (hmove : (move f bytes i).next? = some j) : i < j ∧ j ≤ bytes.length := by
  have hopening : 0 < (encode f.opening).length := List.length_pos_iff.2 (encode_opening_ne_nil f)
  have hclosing : encode f.closing ≠ [] := by cases f <;> decide
  simp only [move] at hmove
  split at hmove
  · obtain rfl := Option.some.inj hmove
    have hmin := min_le_stringEnd bytes ((bytes.drop i).headD 0) (i + 1)
    exact ⟨by omega, stringEnd_le _ _ _⟩
  split at hmove
  · next hslashes =>
      obtain rfl := Option.some.inj hmove
      cases hfind : find? bytes [newline] i with
      | none => exact ⟨h, Nat.le_refl _⟩
      | some n =>
          obtain ⟨hle, hn⟩ := find?_bounds (List.cons_ne_nil _ _) hfind
          -- the byte at `i` is a slash
          obtain ⟨v, hv⟩ := hslashes.2
          obtain ⟨m, hm, rfl⟩ := Option.map_eq_some_iff.1 hfind
          rw [← hv] at hm
          have hne : m ≠ 0 := by
            rintro rfl
            have hstart := prefix_drop_of_before? hm
            rw [List.drop_zero] at hstart
            exact absurd (List.cons_prefix_cons.1 hstart).1 (by decide)
          simp only [Option.getD_some, List.length_singleton] at hn ⊢
          omega
  split at hmove
  · split at hmove
    · next textStop hfind =>
        obtain rfl := Option.some.inj hmove
        obtain ⟨hle, hn⟩ := find?_bounds hclosing hfind
        omega
    · cases hmove
  · obtain rfl := Option.some.inj hmove
    exact ⟨Nat.lt_add_one i, h⟩

/-- The text of a block that is taken starts behind the opener and goes up to the closer. -/
theorem of_move_block {f : Family} {bytes : Bytes} {i textStart textStop next : Nat}
    (hmove : move f bytes i = .block textStart textStop next) :
    textStart = i + (encode f.opening).length ∧ textStart ≤ textStop ∧
      next = textStop + (encode f.closing).length := by
  have hclosing : encode f.closing ≠ [] := by cases f <;> decide
  simp only [move] at hmove
  split at hmove
  · cases hmove
  split at hmove
  · cases hmove
  split at hmove
  · split at hmove
    · next hfind =>
        cases hmove
        exact ⟨rfl, (find?_bounds hclosing hfind).1, rfl⟩
    · cases hmove
  · cases hmove

/-! ### The values of the index -/

/-- The values of the index from one of them on. -/
def trail (f : Family) (bytes : Bytes) (i : Nat) : List Nat :=
  if _h : i < bytes.length then
    match _hmove : (move f bytes i).next? with
    | some j => i :: trail f bytes j
    | none => [i]
  else [i]
  termination_by bytes.length - i
  decreasing_by
    have := move_lt _h _hmove
    omega

theorem mem_trail {f : Family} {bytes : Bytes} {i j : Nat} (hi : i ≤ bytes.length)
    (h : j ∈ trail f bytes i) : i ≤ j ∧ j ≤ bytes.length := by
  fun_induction trail f bytes i with
  | case1 i hlt next hmove ih =>
      have hnext := move_lt hlt hmove
      rcases List.mem_cons.1 h with rfl | h
      · exact ⟨Nat.le_refl _, hi⟩
      · have := ih hnext.2 h
        omega
  | case2 i hlt hmove =>
      obtain rfl := List.mem_singleton.1 h
      exact ⟨Nat.le_refl _, hi⟩
  | case3 i hlt =>
      obtain rfl := List.mem_singleton.1 h
      exact ⟨Nat.le_refl _, hi⟩

theorem self_mem_trail (f : Family) (bytes : Bytes) (i : Nat) : i ∈ trail f bytes i := by
  rw [trail]
  split
  · split
    · exact List.mem_cons_self
    · exact List.mem_singleton_self i
  · exact List.mem_singleton_self i

theorem trail_subset {f : Family} {bytes : Bytes} {i j : Nat} (h : i < bytes.length)
    (hmove : (move f bytes i).next? = some j) : trail f bytes j ⊆ trail f bytes i := by
  intro k hk
  rw [trail, dif_pos h]
  split
  · next hmove' =>
      rw [hmove] at hmove'
      cases hmove'
      exact List.mem_cons_of_mem i hk
  · next hmove' =>
      rw [hmove] at hmove'
      cases hmove'

/-- **The index grows.** -/
theorem pairwise_trail {f : Family} {bytes : Bytes} {i : Nat} (hi : i ≤ bytes.length) :
    (trail f bytes i).Pairwise (· < ·) := by
  fun_induction trail f bytes i with
  | case1 i hlt next hmove ih =>
      have hnext := move_lt hlt hmove
      refine List.pairwise_cons.2 ⟨fun j hj => ?_, ih hnext.2⟩
      exact Nat.lt_of_lt_of_le hnext.1 (mem_trail hnext.2 hj).1
  | case2 i hlt hmove => exact List.pairwise_singleton _ _
  | case3 i hlt => exact List.pairwise_singleton _ _

/-! ### Occurrences of a mark -/

theorem before?_eq_none {mark w : Bytes} (h : ¬ mark <:+: w) : before? mark w = none := by
  induction w with
  | nil => rfl
  | cons b w ih =>
      rw [before?, if_neg fun hmark => h hmark.isInfix,
        ih fun hmark => h (hmark.trans (List.suffix_cons b w).isInfix)]
      rfl

/-- A mark is found where none starts before it. -/
theorem before?_of_first {mark w r : Bytes} (hmark : mark ≠ [])
    (h : ∀ w' r', w ++ mark ++ r = w' ++ mark ++ r' → w.length ≤ w'.length) :
    before? mark (w ++ mark ++ r) = some w.length := by
  induction w with
  | nil =>
      obtain ⟨b, mark, rfl⟩ := List.exists_cons_of_ne_nil hmark
      exact if_pos (List.prefix_append _ r)
  | cons b w ih =>
      have hb : ¬ mark <+: b :: (w ++ mark ++ r) := by
        rintro ⟨r', hr'⟩
        exact absurd (h [] r' hr'.symm) (by simp)
      have ih := ih fun w' r' e => by
        have := h (b :: w') r' (congrArg (b :: ·) e)
        simpa using this
      show before? mark (b :: (w ++ mark ++ r)) = _
      rw [before?, if_neg hb, ih]
      rfl

theorem find?_append (u v mark : Bytes) :
    find? (u ++ v) mark u.length = (before? mark v).map (u.length + ·) := by
  rw [find?, List.drop_left]

/-- The end of a line is found where the line ends. -/
theorem find?_newline {w r : Bytes} (hw : newline ∉ w) (hr : ∀ b ∈ r.head?, b = newline)
    (u : Bytes) :
    (find? (u ++ (w ++ r)) [newline] u.length).getD (u ++ (w ++ r)).length
      = u.length + w.length := by
  rw [find?_append]
  cases r with
  | nil =>
      have hnone : before? [newline] (w ++ []) = none :=
        before?_eq_none fun h => hw (List.append_nil w ▸ h.subset List.mem_cons_self)
      rw [hnone]
      simp
  | cons b r =>
      obtain rfl := hr b rfl
      have hfirst : before? [newline] (w ++ [newline] ++ r) = some w.length := by
        refine before?_of_first (List.cons_ne_nil _ _) fun w' r' e => ?_
        by_contra hlt
        have hshort : w' ++ [newline] <+: w := by
          have hwhole : w <+: w ++ [newline] ++ r := ⟨[newline] ++ r, (List.append_assoc ..).symm⟩
          refine List.prefix_of_prefix_length_le ⟨r', e.symm⟩ hwhole ?_
          rw [List.length_append, List.length_singleton]
          omega
        exact hw (hshort.subset (List.mem_append_right w' List.mem_cons_self))
      rw [List.append_assoc] at hfirst
      rw [show newline :: r = [newline] ++ r from rfl, hfirst]
      rfl

/-! ### Strings -/

theorem stringEnd_of_le {bytes : Bytes} {i : Nat} (h : bytes.length ≤ i) (q : UInt8) :
    stringEnd bytes q i = bytes.length := by
  rw [stringEnd, dif_neg (Nat.not_lt.2 h)]

theorem stringEnd_append_cons (u v : Bytes) (b q : UInt8) :
    stringEnd (u ++ b :: v) q u.length
      = if b = backslash then stringEnd (u ++ b :: v) q (u.length + 2)
        else if b = newline then u.length
        else if b = q then u.length + 1
        else stringEnd (u ++ b :: v) q (u.length + 1) := by
  have hlt : u.length < (u ++ b :: v).length := by simp
  have hb : (u ++ b :: v)[u.length] = b := by simp
  rw [stringEnd, dif_pos hlt, hb]

/-- **A string is read to its end**, from behind its opening quote. -/
theorem stringEnd_of_stringTail {q : UInt8} (hq : IsQuote q) {w r : Bytes} (h : StringTail q w r)
    (u : Bytes) : stringEnd (u ++ (w ++ r)) q u.length = u.length + w.length := by
  obtain ⟨hqb, hqn⟩ := hq.ne
  induction h generalizing u with
  | quote rest =>
      exact (stringEnd_append_cons u rest q q).trans
        ((if_neg hqb).trans ((if_neg hqn).trans (if_pos rfl)))
  | line rest =>
      exact (stringEnd_append_cons u rest newline q).trans
        ((if_neg (by decide)).trans (if_pos rfl))
  | done => rw [stringEnd_of_le (by simp)]; simp
  | lone =>
      refine (stringEnd_append_cons u [] backslash q).trans ((if_pos rfl).trans ?_)
      rw [stringEnd_of_le (by simp)]
      simp
  | @escape w rest b _ ih =>
      -- the byte behind the backslash is not looked at
      refine (stringEnd_append_cons u (b :: (w ++ rest)) backslash q).trans ((if_pos rfl).trans ?_)
      have ih := ih (u ++ [backslash, b])
      simp only [List.append_assoc, List.length_append, List.length_cons, List.length_nil,
        List.cons_append, List.nil_append] at ih ⊢
      rw [ih]
      omega
  | @other w rest b hbq hb hn _ ih =>
      refine (stringEnd_append_cons u (w ++ rest) b q).trans
        ((if_neg hb).trans ((if_neg hn).trans ((if_neg hbq).trans ?_)))
      have ih := ih (u ++ [b])
      simp only [List.append_assoc, List.length_append, List.length_cons, List.length_nil,
        List.cons_append, List.nil_append] at ih ⊢
      rw [ih]
      omega

/-! ### Moves at lexemes -/

variable {f : Family}

theorem move_append (u v : Bytes) :
    move f (u ++ v) u.length
      = if f.hasStrings = true ∧ IsQuote (v.headD 0) then
          .on (stringEnd (u ++ v) (v.headD 0) (u.length + 1))
        else if f.hasLineComments = true ∧ encode "//" <+: v then
          .on ((find? (u ++ v) [newline] u.length).getD (u ++ v).length)
        else if encode f.opening <+: v then
          match find? (u ++ v) (encode f.closing) (u.length + (encode f.opening).length) with
          | some textStop =>
            .block (u.length + (encode f.opening).length) textStop
              (textStop + (encode f.closing).length)
          | none => .unclosed
        else .on (u.length + 1) := by
  simp only [move, List.drop_left]

theorem move_string {w r : Bytes} (h : (Lexeme.string w).Fits f r) (u : Bytes) :
    move f (u ++ (w ++ r)) u.length = .on (u.length + w.length) := by
  obtain ⟨hf, q, tail, hq, rfl, htail⟩ := h
  rw [move_append, if_pos ⟨hf, hq⟩]
  have hend := stringEnd_of_stringTail hq htail (u ++ [q])
  simp only [List.append_assoc, List.length_append, List.length_singleton,
    List.singleton_append] at hend
  rw [List.cons_append, List.headD_cons, hend, List.length_cons, Nat.add_assoc, Nat.add_comm 1]

theorem move_lineComment {w r : Bytes} (h : (Lexeme.lineComment w).Fits f r) (u : Bytes) :
    move f (u ++ (w ++ r)) u.length = .on (u.length + w.length) := by
  obtain ⟨hf, ⟨v, rfl⟩, hw, hr⟩ := h
  have hslash : ¬ IsQuote 0x2F := by decide
  rw [move_append, if_neg fun hq => hslash hq.2,
    if_pos ⟨hf, (List.prefix_append _ v).trans (List.prefix_append _ r)⟩, find?_newline hw hr]

/-- An opener starts no string and no line comment. -/
theorem move_opening (u v : Bytes) :
    move f (u ++ (encode f.opening ++ v)) u.length
      = match find? (u ++ (encode f.opening ++ v)) (encode f.closing)
            (u.length + (encode f.opening).length) with
        | some textStop =>
          .block (u.length + (encode f.opening).length) textStop
            (textStop + (encode f.closing).length)
        | none => .unclosed := by
  have hquote : ¬ IsQuote ((encode f.opening ++ v).headD 0) := by
    cases f
    · exact (by decide : ¬ IsQuote 0x2F)
    · exact (by decide : ¬ IsQuote 0x2F)
    · exact (by decide : ¬ IsQuote 0x3C)
  have hslashes : ¬ (f.hasLineComments = true ∧ encode "//" <+: encode f.opening ++ v) := by
    rintro ⟨hf, hstart⟩
    cases f
    · cases hf
    · have hsecond : [0x2F, 0x2F] <+: [0x2F, 0x2A] ++ v := hstart
      simp at hsecond
    · cases hf
  rw [move_append, if_neg fun h => hquote h.2, if_neg hslashes, if_pos (List.prefix_append _ v)]

theorem move_block {inner r : Bytes} (h : (Lexeme.block inner).Fits f r) (u : Bytes) :
    move f (u ++ ((Lexeme.block inner).bytes f ++ r)) u.length
      = .block (u.length + (encode f.opening).length)
          (u.length + (encode f.opening).length + inner.length)
          (u.length + ((Lexeme.block inner).bytes f).length) := by
  have hclosing : encode f.closing ≠ [] := by cases f <;> decide
  have hfind := find?_append (u ++ encode f.opening) (inner ++ encode f.closing ++ r)
    (encode f.closing)
  rw [before?_of_first hclosing h, Option.map_some, List.length_append] at hfind
  simp only [Lexeme.bytes, List.append_assoc] at hfind ⊢
  rw [move_opening, hfind]
  simp only [List.length_append, Nat.add_assoc]

theorem move_unclosed {inner r : Bytes} (h : (Lexeme.unclosed inner).Fits f r) (u : Bytes) :
    move f (u ++ ((Lexeme.unclosed inner).bytes f ++ r)) u.length = .unclosed := by
  obtain ⟨rfl, hinner⟩ := h
  have hfind := find?_append (u ++ encode f.opening) inner (encode f.closing)
  rw [before?_eq_none hinner, Option.map_none, List.length_append, List.append_assoc] at hfind
  rw [List.append_nil, Lexeme.bytes, move_opening, hfind]

/-- Where nothing starts, the index moves on by one byte. -/
theorem move_byte {b : UInt8} {v : Bytes} (hs : ¬ (f.hasStrings = true ∧ IsQuote b))
    (hl : ¬ (f.hasLineComments = true ∧ encode "//" <+: b :: v))
    (ho : ¬ encode f.opening <+: b :: v) (u : Bytes) :
    move f (u ++ b :: v) u.length = .on (u.length + 1) := by
  rw [move_append, List.headD_cons, if_neg hs, if_neg hl, if_neg ho]

/-- Nothing starts at a character of ASCII at which nothing starts in the text. -/
theorem move_plain {c : Char} {t : Text} (hc : c.toNat < 0x80)
    (h : Token.Heads f c t (.plain c) t) (u : Bytes) :
    move f (u ++ encode (c :: t)) u.length = .on (u.length + 1) := by
  have hct : encode (c :: t) = Utf8.byteOf c :: encode t := by
    rw [Utf8.encode_cons, Utf8.encode_ascii hc]
    rfl
  cases h with
  | plain hs hl ho =>
      rw [hct]
      refine move_byte ?_ ?_ ?_ u
      · rintro ⟨hf, hq | hq⟩
        · exact hs ⟨hf, .inl (Utf8.byteOf_inj (d := '"') hc (by decide) hq)⟩
        · exact hs ⟨hf, .inr (Utf8.byteOf_inj (d := '\'') hc (by decide) hq)⟩
      · rintro ⟨hf, v, hv⟩
        obtain ⟨r, hr, -⟩ := Utf8.prefix_ascii isAscii_slashes (hct.trans hv.symm)
        refine hl ⟨hf, ?_⟩
        rw [Text.after?_eq_some_iff.2 hr]
        rfl
      · rintro ⟨v, hv⟩
        obtain ⟨r, hr, -⟩ := Utf8.prefix_ascii (isAscii_opening f) (hct.trans hv.symm)
        rw [Text.after?_eq_some_iff.2 hr] at ho
        cases ho

/-- Nothing starts inside of a character, or at one that is not ASCII. -/
theorem move_wide {b : UInt8} (hb : 0x80 ≤ b) (u v : Bytes) :
    move f (u ++ b :: v) u.length = .on (u.length + 1) := by
  have low : ∀ d : UInt8, d < 0x80 → d ≠ b := by
    rintro d hd rfl
    exact absurd hb (UInt8.not_le.2 hd)
  refine move_byte (fun hs => ?_) (fun hl => ?_) (fun ho => ?_) u
  · rcases hs.2 with rfl | rfl
    · exact low 0x22 (by decide) rfl
    · exact low 0x27 (by decide) rfl
  · exact low 0x2F (by decide) (List.cons_prefix_cons.1 hl.2).1
  · obtain ⟨d, w, hd, hlow⟩ := encode_opening_eq_cons f
    rw [hd] at ho
    exact low d hlow (List.cons_prefix_cons.1 ho).1

end Offsets

end PatternBook
