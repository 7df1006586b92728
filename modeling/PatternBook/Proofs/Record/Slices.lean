import PatternBook.Proofs.Comment.Extraction
import PatternBook.Proofs.Comment.Offsets
import PatternBook.Proofs.Record.Segments

/-!
# Cutting a source at offsets

The scanner that moves along the bytes of a source cuts the texts of blocks and the codes of
chapters out of it by their offsets.  Such a cut can fail: its offsets may lie in the wrong order,
behind the end, or inside of a character (`Text.slice?`).  In a source none of them does, and what
comes of scanning by offsets is what comes of scanning by characters.

* `Text.slice?_eq_some_iff`, `Text.exists_slice?_iff`: which cuts can be made.
* `Offsets.extractFrom?_append`: the blocks from any character on.
* `Offsets.chapters?_heads`: the chapters, with the codes between their blocks.
* `Offsets.bounds_of_mem_blocks`: the offsets of a block bound its parts.
* `Offsets.scanning_sound`: index, offsets and cuts of every source.
-/

namespace PatternBook

open Utf8 (encode)

/-! ### Cuts -/

namespace Text

/-- The first `n` bytes of a text and the rest, if there are as many and a character ends there. -/
def cut? : Nat → Text → Option (Text × Text)
  | 0, t => some ([], t)
  | _ + 1, [] => none
  | n + 1, c :: t =>
    if c.utf8Size ≤ n + 1 then
      (cut? (n + 1 - c.utf8Size) t).map fun cut => (c :: cut.1, cut.2)
    else none

/-- The text between two offsets, if they are in order and bound characters of the source. -/
def slice? (source : Text) (start stop : Nat) : Option Text :=
  if start ≤ stop then
    (cut? start source).bind fun cut => (cut? (stop - start) cut.2).map Prod.fst
  else none

/-- The offset is that of a character, or the end. -/
def IsBoundary (source : Text) (i : Nat) : Prop :=
  ∃ before after, source = before ++ after ∧ before.size = i

theorem cut?_size (s t : Text) : cut? s.size (s ++ t) = some (s, t) := by
  induction s with
  | nil => cases t <;> rfl
  | cons c s ih =>
      obtain ⟨n, hn⟩ := Nat.exists_eq_add_one.2 (Nat.add_pos_left c.utf8Size_pos (size s))
      have hle : c.utf8Size ≤ n + 1 := hn ▸ Nat.le_add_right _ _
      rw [size, hn, List.cons_append, cut?, if_pos hle, ← hn, Nat.add_sub_cancel_left, ih]
      rfl

theorem eq_of_cut? {n : Nat} {t s r : Text} (h : cut? n t = some (s, r)) :
    t = s ++ r ∧ s.size = n := by
  induction t generalizing n s with
  | nil =>
      cases n with
      | zero => cases h; exact ⟨rfl, rfl⟩
      | succ n => cases h
  | cons c t ih =>
      cases n with
      | zero => cases h; exact ⟨rfl, rfl⟩
      | succ n =>
          rw [cut?] at h
          split at h
          · next hle =>
              obtain ⟨cut, hcut, hpair⟩ := Option.map_eq_some_iff.1 h
              obtain ⟨rfl, rfl⟩ := Prod.mk.inj hpair
              obtain ⟨rfl, hsize⟩ := ih hcut
              exact ⟨rfl, by rw [size, hsize]; omega⟩
          · cases h

/-- **A cut can be made exactly around a part of the source.** -/
theorem slice?_eq_some_iff {source part : Text} {start stop : Nat} :
    source.slice? start stop = some part ↔ source.Holds start stop part := by
  constructor
  · intro h
    rw [slice?] at h
    split at h
    · next hle =>
        obtain ⟨⟨before, rest⟩, hbefore, hpart⟩ := Option.bind_eq_some_iff.1 h
        obtain ⟨⟨_, after⟩, hcut, rfl⟩ := Option.map_eq_some_iff.1 hpart
        obtain ⟨rfl, rfl⟩ := eq_of_cut? hbefore
        obtain ⟨rfl, hsize⟩ := eq_of_cut? hcut
        exact ⟨before, after, (List.append_assoc ..).symm, rfl, hsize ▸ Nat.add_sub_cancel' hle⟩
    · cases h
  · rintro ⟨before, after, rfl, rfl, rfl⟩
    rw [slice?, if_pos (Nat.le_add_right _ _), List.append_assoc, cut?_size, Option.bind_some,
      Nat.add_sub_cancel_left, cut?_size]
    rfl

/-- **A cut can be made exactly between boundaries in their order.** -/
theorem exists_slice?_iff {source : Text} {start stop : Nat} :
    (∃ part, source.slice? start stop = some part) ↔
      start ≤ stop ∧ source.IsBoundary start ∧ source.IsBoundary stop := by
  constructor
  · rintro ⟨part, h⟩
    obtain ⟨before, after, rfl, rfl, rfl⟩ := slice?_eq_some_iff.1 h
    exact ⟨Nat.le_add_right _ _, ⟨before, part ++ after, List.append_assoc .., rfl⟩,
      ⟨before ++ part, after, rfl, size_append before part⟩⟩
  · rintro ⟨hle, ⟨before, rest, rfl, rfl⟩, ⟨front, after, hsource, rfl⟩⟩
    obtain ⟨part, rfl⟩ := prefix_of_size_le hsource hle
    exact ⟨part, slice?_eq_some_iff.2 ⟨before, after, hsource, rfl, (size_append before part).symm⟩⟩

theorem length_encode (t : Text) : (encode t).length = t.size := by
  induction t with
  | nil => rfl
  | cons c t ih =>
      rw [Utf8.encode_cons, List.length_append, Utf8.length_encode_singleton, ih, size]

end Text

namespace Offsets

/-! ### Scanning -/

variable {f : Family}

/-- The blocks of a source from an offset on, if their texts can be cut out. -/
def extractFrom? (f : Family) (source : Text) (i : Nat) : Option Extraction :=
  if _h : i < (encode source).length then
    match _hmove : move f (encode source) i with
    | .on next => extractFrom? f source next
    | .block textStart textStop next =>
      (source.slice? textStart textStop).bind fun text =>
        (extractFrom? f source next).map fun found =>
          { blocks :=
              { text := text
                line := lineAfter ((encode source).take i)
                start := i
                stop := next
                inline := codeAfter ((encode source).take i) } :: found.blocks
            unclosed := found.unclosed }
    | .unclosed => some ⟨[], some (lineAfter ((encode source).take i))⟩
  else some ⟨[], none⟩
  termination_by (encode source).length - i
  decreasing_by
    all_goals
      have := move_lt _h (congrArg Move.next? _hmove)
      omega

section

variable {source : Text} {i next : Nat}

theorem extractFrom?_on (h : i < (encode source).length)
    (hmove : move f (encode source) i = .on next) :
    extractFrom? f source i = extractFrom? f source next := by
  rw [extractFrom?, dif_pos h]
  split
  · next h' => rw [hmove] at h'; cases h'; rfl
  · next h' => rw [hmove] at h'; cases h'
  · next h' => rw [hmove] at h'; cases h'

theorem extractFrom?_block {textStart textStop : Nat} {text : Text} {found : Extraction}
    (h : i < (encode source).length)
    (hmove : move f (encode source) i = .block textStart textStop next)
    (htext : source.slice? textStart textStop = some text)
    (hfound : extractFrom? f source next = some found) :
    extractFrom? f source i
      = some ⟨⟨text, lineAfter ((encode source).take i), i, next,
          codeAfter ((encode source).take i)⟩ :: found.blocks, found.unclosed⟩ := by
  rw [extractFrom?, dif_pos h]
  split
  · next h' => rw [hmove] at h'; cases h'
  · next h' =>
      rw [hmove] at h'
      cases h'
      rw [htext, hfound]
      rfl
  · next h' => rw [hmove] at h'; cases h'

theorem extractFrom?_unclosed (h : i < (encode source).length)
    (hmove : move f (encode source) i = .unclosed) :
    extractFrom? f source i = some ⟨[], some (lineAfter ((encode source).take i))⟩ := by
  rw [extractFrom?, dif_pos h]
  split
  · next h' => rw [hmove] at h'; cases h'
  · next h' => rw [hmove] at h'; cases h'
  · rfl

/-- The bytes of a character that is not ASCII are passed one by one. -/
theorem extractFrom?_wide {u w v : Bytes} (hbytes : encode source = u ++ (w ++ v))
    (hw : ∀ b ∈ w, 0x80 ≤ b) :
    extractFrom? f source u.length = extractFrom? f source (u.length + w.length) := by
  induction w generalizing u with
  | nil => rfl
  | cons b w ih =>
      have hmove := move_wide (f := f) (hw b List.mem_cons_self) u (w ++ v)
      rw [List.cons_append] at hbytes
      rw [← hbytes] at hmove
      have hlt : u.length < (encode source).length := by rw [hbytes]; simp
      have ih := ih (u := u ++ [b]) (by rw [hbytes]; simp) fun d hd =>
        hw d (List.mem_cons_of_mem b hd)
      rw [List.length_append, List.length_singleton] at ih
      rw [extractFrom?_on hlt hmove, ih, List.length_cons, Nat.add_assoc, Nat.add_comm 1]

end

/-! ### Scanning at a token -/

section

variable {c : Char} {t rest : Text} {x : Token}

/-- The bytes of a source around a token. -/
theorem encode_around (h : Token.Heads f c t x rest) (before : Text) :
    encode (before ++ c :: t) = encode before ++ (encode (x.text f) ++ encode rest) := by
  have htext := Token.text_first f c t
  rw [h.first_eq] at htext
  rw [← htext, Utf8.encode_append, Utf8.encode_append]

theorem length_encode_lt (before : Text) (c : Char) (t : Text) :
    (encode before).length < (encode (before ++ c :: t)).length := by
  rw [Utf8.encode_append, List.length_append]
  exact Nat.lt_add_of_pos_right (List.length_pos_iff.2 (by simp [Utf8.encode_eq_nil_iff]))

/-- What is neither a block nor left open is passed over: in one move, or byte by byte if it is a
character that is not ASCII. -/
theorem extractFrom?_skip (h : Token.Heads f c t x rest) (hblock : ∀ inner, x ≠ .block inner)
    (hopen : ∀ inner, x ≠ .unclosed inner) (before : Text) :
    extractFrom? f (before ++ c :: t) (encode before).length
      = extractFrom? f (before ++ c :: t) (encode (before ++ x.text f)).length := by
  have hlt := length_encode_lt before c t
  have hbytes := encode_around h before
  rw [Utf8.encode_append, List.length_append]
  cases h with
  | quoted hs =>
      have hmove := move_string (fits_string hs t) (encode before)
      rw [Token.text] at hbytes ⊢
      rw [← hbytes] at hmove
      exact extractFrom?_on hlt hmove
  | lineComment hs hl =>
      have hmove := move_lineComment (fits_lineComment hl.1 hl.2) (encode before)
      rw [Token.text] at hbytes ⊢
      rw [← hbytes] at hmove
      exact extractFrom?_on hlt hmove
  | block => exact absurd rfl (hblock _)
  | unclosed => exact absurd rfl (hopen _)
  | plain hs hl ho =>
      by_cases hc : c.toNat < 0x80
      · have hmove := move_plain hc (.plain hs hl ho) (encode before)
        rw [← Utf8.encode_append] at hmove
        rw [Token.text, Utf8.encode_ascii hc]
        exact extractFrom?_on hlt hmove
      · exact extractFrom?_wide hbytes (Utf8.encode_wide hc)

/-- The text of a block is cut out where the block stands. -/
theorem extractFrom?_taken {inner : Text} {found : Extraction}
    (h : Token.Heads f c t (.block inner) rest) (before : Text)
    (hfound : extractFrom? f (before ++ c :: t)
      (encode (before ++ (Token.block inner).text f)).length = some found) :
    extractFrom? f (before ++ c :: t) (encode before).length
      = some ⟨Block.at f (placeAfter (encode before)) inner :: found.blocks, found.unclosed⟩ := by
  have hbytes := encode_around h before
  have htext := Token.text_first f c t
  rw [h.first_eq, Token.text] at htext
  have hslice : Text.slice? (before ++ c :: t)
      ((encode before).length + (encode f.opening).length)
      ((encode before).length + (encode f.opening).length + (encode inner).length)
        = some inner := by
    refine Text.slice?_eq_some_iff.2 ⟨before ++ f.opening, f.closing ++ rest, ?_, ?_, ?_⟩
    · rw [← htext]
      simp only [List.append_assoc]
    · rw [Text.size_append, Text.length_encode, Text.length_encode]
    · rw [Text.length_encode inner]
  have hlexeme := bytesOf_lexemes f (.block inner)
  rw [Token.lexemes, bytesOf, List.flatMap_singleton] at hlexeme
  cases h with
  | block hs hl ho hc =>
      have hmove := move_block (fits_block hc) (encode before)
      rw [hlexeme, ← hbytes] at hmove
      rw [Utf8.encode_append, List.length_append] at hfound
      rw [extractFrom?_block (length_encode_lt before c t) hmove hslice hfound, hbytes,
        List.take_left, Block.at, past_placeAfter, placeAfter, placeAfter, List.length_append]

theorem extractFrom?_open {inner : Text} (h : Token.Heads f c t (.unclosed inner) rest)
    (before : Text) : extractFrom? f (before ++ c :: t) (encode before).length
      = some ⟨[], some (placeAfter (encode before)).line⟩ := by
  have hbytes := encode_around h before
  have hlexeme := bytesOf_lexemes f (.unclosed inner)
  rw [Token.lexemes, bytesOf, List.flatMap_singleton] at hlexeme
  cases h with
  | unclosed hs hl ho hc =>
      have hmove := move_unclosed (fits_unclosed hc) (encode before)
      rw [hlexeme, ← hbytes] at hmove
      rw [extractFrom?_unclosed (length_encode_lt before c t) hmove, hbytes, List.take_left]
      rfl

end

/-- **Scanning by offsets finds the blocks of the characters** from any character on. -/
theorem extractFrom?_append (f : Family) (before t : Text) :
    extractFrom? f (before ++ t) (encode before).length
      = some (Extraction.ofTokens f (placeAfter (encode before)) (tokens f t)) := by
  induction t using tokens.induct f generalizing before with
  | case1 =>
      rw [extractFrom?, dif_neg (by simp), tokens]
      rfl
  | case2 c t ih =>
      have hh := Token.heads_first f c t
      have htext := Token.text_first f c t
      rw [tokens_of_heads hh]
      generalize (Token.first f c t).1 = x, (Token.first f c t).2 = rest at *
      -- what follows the token is scanned from behind it
      have ih := ih (before ++ x.text f)
      rw [List.append_assoc, htext, Utf8.encode_append, ← past_placeAfter,
        ← Utf8.encode_append] at ih
      cases x with
      | quoted _ | lineComment _ | plain _ =>
          rw [extractFrom?_skip hh (by simp) (by simp), ih]
          rfl
      | block inner =>
          rw [extractFrom?_taken hh before ih]
          rfl
      | unclosed inner =>
          obtain rfl : rest = [] := by cases hh; rfl
          rw [extractFrom?_open hh before, tokens]
          rfl

/-- **Scanning by offsets finds the blocks of the source.** -/
theorem extractFrom?_start (f : Family) (source : Text) :
    extractFrom? f source 0 = some (extract f source) :=
  extractFrom?_append f [] source

/-! ### Chapters -/

/-- The chapters of the blocks that head code, if their codes can be cut out of the source. -/
def chapters? (source : Text) (heads : List Block) : Option (List Chapter) :=
  heads.zipIdx.mapM fun (b, i) =>
    (source.slice? b.stop (codeEnd source heads i)).map (Chapter.mk b)

/-- The findings of a source, if the texts and codes of its blocks can be cut out. -/
def parse? (f : Family) (dialect : Dialect) (policy : UntaggedPolicy) (source : Text) :
    Option Findings :=
  (extractFrom? f source 0).bind fun found =>
    (chapters? source (found.blocks.filter (!·.inline))).map fun cs =>
      let parts := cs.map (Findings.ofChapter dialect policy)
      { records := parts.flatMap (·.records)
        diagnostics := parts.flatMap (·.diagnostics) ++
          found.unclosed.toList.map (Findings.unclosedComment f) }

theorem mapM_eq_some_of_map {α β : Type} {g : α → Option β} {as : List α} {bs : List β}
    (h : as.map g = bs.map some) : as.mapM g = some bs := by
  induction as generalizing bs with
  | nil =>
      cases bs with
      | nil => rfl
      | cons b bs => cases h
  | cons a as ih =>
      cases bs with
      | nil => cases h
      | cons b bs =>
          obtain ⟨ha, has⟩ := List.cons.inj h
          rw [List.mapM_cons, ha, ih has]
          rfl

/-- **The codes of all chapters can be cut out.** -/
theorem chapters?_heads (f : Family) (source : Text) :
    chapters? source ((extract f source).blocks.filter (!·.inline)) = some (chapters f source) := by
  refine mapM_eq_some_of_map (List.ext_getElem? fun i => ?_)
  rw [List.getElem?_map, List.getElem?_zipIdx, Chapter.getElem?_heads, List.getElem?_map]
  cases hc : (chapters f source)[i]? with
  | none => rfl
  | some c =>
      have hslice := Text.slice?_eq_some_iff.2 (Chapter.holds_code hc)
      simp only [Option.map_some, Nat.zero_add, hslice]

theorem parse?_eq (f : Family) (dialect : Dialect) (policy : UntaggedPolicy) (source : Text) :
    parse? f dialect policy source = some (Findings.ofSource f dialect policy source) := by
  rw [parse?, extractFrom?_start, Option.bind_some, chapters?_heads]
  rfl

/-! ### Offsets of blocks -/

/-- The offsets of a block and of its text are those at which the scanner takes it.  They are in
order, lie in the source and bound characters, and what stands between them is the opener, the text
and the closer. -/
structure Bounds (f : Family) (source : Text) (b : Block) (textStart textStop : Nat) : Prop where
  reached    : b.start ∈ trail f (encode source) 0
  taken      : move f (encode source) b.start = .block textStart textStop b.stop
  ordered    : b.start < textStart ∧ textStart ≤ textStop ∧ textStop < b.stop
  inside     : b.stop ≤ (encode source).length
  boundaries : ∀ i ∈ [b.start, textStart, textStop, b.stop], source.IsBoundary i
  opener     : source.slice? b.start textStart = some f.opening
  text       : source.slice? textStart textStop = some b.text
  closer     : source.slice? textStop b.stop = some f.closing

/-- Each block that is found has been taken at a value of the index. -/
theorem exists_move_of_mem_blocks {source : Text} {i : Nat} {found : Extraction}
    (h : extractFrom? f source i = some found) {b : Block} (hb : b ∈ found.blocks) :
    b.start ∈ trail f (encode source) i ∧ ∃ textStart textStop,
      move f (encode source) b.start = .block textStart textStop b.stop ∧
        source.slice? textStart textStop = some b.text := by
  fun_induction extractFrom? f source i generalizing found with
  | case1 i hlt next hmove ih =>
      obtain ⟨hmem, htaken⟩ := ih h hb
      exact ⟨trail_subset hlt (congrArg Move.next? hmove) hmem, htaken⟩
  | case2 i hlt textStart textStop next hmove ih =>
      obtain ⟨text, htext, hfound⟩ := Option.bind_eq_some_iff.1 h
      obtain ⟨rest, hrest, rfl⟩ := Option.map_eq_some_iff.1 hfound
      rcases List.mem_cons.1 hb with rfl | hb
      · exact ⟨self_mem_trail f _ i, textStart, textStop, hmove, htext⟩
      · obtain ⟨hmem, htaken⟩ := ih hrest hb
        exact ⟨trail_subset hlt (congrArg Move.next? hmove) hmem, htaken⟩
  | case3 i hlt hmove =>
      cases h
      cases hb
  | case4 i hlt =>
      cases h
      cases hb

/-- A block stands in the source at its offsets. -/
theorem holds_of_mem_blocks {source : Text} {b : Block} (h : b ∈ (extract f source).blocks) :
    source.Holds b.start b.stop ((Token.block b.text).text f) := by
  obtain ⟨before, after, htext, hat⟩ := Extraction.exists_of_mem_blocks h
  rw [text_tokens] at htext
  refine ⟨before, after, htext, ?_, ?_⟩
  · rw [hat, Block.at, Place.offset_past]
    exact (Nat.zero_add _).symm
  · rw [hat]
    exact (Place.offset_past _ _).symm

/-- **The offsets of a block bound its parts.** -/
theorem bounds_of_mem_blocks {source : Text} {b : Block} (h : b ∈ (extract f source).blocks) :
    ∃ textStart textStop, Bounds f source b textStart textStop := by
  obtain ⟨hreached, textStart, textStop, htaken, htext⟩ :=
    exists_move_of_mem_blocks (extractFrom?_start f source) h
  obtain ⟨hopener, hle, hcloser⟩ := of_move_block htaken
  rw [Text.length_encode] at hopener hcloser
  obtain ⟨before, after, hsource, hstart, hstop⟩ := holds_of_mem_blocks h
  rw [Token.text] at hsource hstop
  rw [Text.size_append, Text.size_append] at hstop
  have hpos : 0 < Text.size f.opening ∧ 0 < Text.size f.closing := by cases f <;> decide
  have hopening : source.slice? b.start textStart = some f.opening := by
    refine Text.slice?_eq_some_iff.2
      ⟨before, b.text ++ f.closing ++ after, ?_, hstart, hopener.symm⟩
    rw [hsource]
    simp only [List.append_assoc]
  have hclosing : source.slice? textStop b.stop = some f.closing := by
    refine Text.slice?_eq_some_iff.2 ⟨before ++ f.opening ++ b.text, after, ?_, ?_, hcloser.symm⟩
    · rw [hsource]
      simp only [List.append_assoc]
    · rw [Text.size_append, Text.size_append, hstart]
      omega
  obtain ⟨-, hbefore, hbehind⟩ := Text.exists_slice?_iff.1 ⟨_, hopening⟩
  obtain ⟨-, hfront, hback⟩ := Text.exists_slice?_iff.1 ⟨_, hclosing⟩
  have hinside : b.stop ≤ (encode source).length := by
    rw [Text.length_encode, hsource]
    simp only [Text.size_append]
    omega
  exact ⟨textStart, textStop, hreached, htaken, by omega, hinside,
    by simp [hbefore, hbehind, hfront, hback], hopening, htext, hclosing⟩

/-! ### The whole source -/

/-- Scanning a source goes forward to its end, and whatever is cut out of the source can be. -/
structure Sound (f : Family) (source : Text) : Prop where
  /-- A string does not end behind the source, wherever it starts. -/
  strings  : ∀ quote i, stringEnd (encode source) quote i ≤ (encode source).length
  forward  : ∀ i < (encode source).length, ∀ j,
    (move f (encode source) i).next? = some j → i < j ∧ j ≤ (encode source).length
  indices  : (trail f (encode source) 0).Pairwise (· < ·) ∧
    ∀ i ∈ trail f (encode source) 0, i ≤ (encode source).length
  texts    : extractFrom? f source 0 = some (extract f source)
  bounds   : ∀ b ∈ (extract f source).blocks, ∃ textStart textStop,
    Bounds f source b textStart textStop
  /-- The blocks that head code follow each other. -/
  apart    : ((extract f source).blocks.filter (!·.inline)).Pairwise (·.stop ≤ ·.start)
  findings : ∀ dialect policy,
    parse? f dialect policy source = some (Findings.ofSource f dialect policy source)

/-- **No cut fails in any source.** -/
theorem scanning_sound (f : Family) (source : Text) : Sound f source where
  strings := stringEnd_le (encode source)
  forward := fun _ hi _ hmove => move_lt hi hmove
  indices := ⟨pairwise_trail (Nat.zero_le _), fun _ hi => (mem_trail (Nat.zero_le _) hi).2⟩
  texts := extractFrom?_start f source
  bounds := fun _ => bounds_of_mem_blocks
  apart := by
    rw [← heads_chapters, List.pairwise_map]
    exact (Chapter.pairwise_chapters source).imp fun h => Nat.le_trans (Nat.le_add_right ..) h
  findings := fun dialect policy => parse?_eq f dialect policy source

end Offsets

end PatternBook
