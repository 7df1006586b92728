import Mathlib.Data.List.NodupEquivFin
import PatternBook.Proofs.Comment.Order
import PatternBook.Proofs.Record.Chapters
import PatternBook.Proofs.Text.Cuts

/-!
# Where records stand

The blocks of a source that head code follow each other with a newline between them, so that no two
start on one line, and each one's code goes from its end to the start of the next one.  A record has
the line of its block and the code without the blanks around it, hence the codes of the records have
no byte in common with each other or with such a block.

* `Text.Holds`: what the bytes between two offsets are.
* `Chapter.Runs`: chapters that follow each other.
* `Findings.LaidOut`: how blocks and records lie.
* `Findings.ofSource_laidOut`: those of every source lie so.
-/

namespace PatternBook

variable {f : Family}

/-! ### Parts of a source -/

namespace Text

/-- The bytes from one offset of a source to another one are those of a text. -/
def Holds (source : Text) (start stop : Nat) (part : Text) : Prop :=
  ∃ before after, source = before ++ part ++ after ∧ before.size = start ∧
    start + part.size = stop

theorem size_append (s t : Text) : size (s ++ t) = size s + size t := by
  induction s with
  | nil => exact (Nat.zero_add _).symm
  | cons c s ih =>
      calc c.utf8Size + size (s ++ t) = c.utf8Size + (size s + size t) := by rw [ih]
        _ = (c.utf8Size + size s) + size t := (Nat.add_assoc ..).symm

theorem eq_nil_of_size {t : Text} (h : size t = 0) : t = [] := by
  cases t with
  | nil => rfl
  | cons c t =>
      have := c.utf8Size_pos
      rw [size] at h
      omega

/-- Of two texts with which a source starts, the one with fewer bytes starts the other one. -/
theorem prefix_of_size_le {s t u v : Text} (h : s ++ u = t ++ v) (hsize : size s ≤ size t) :
    s <+: t := by
  rcases List.append_eq_append_iff.1 h with ⟨w, rfl, -⟩ | ⟨w, rfl, -⟩
  · exact List.prefix_append s w
  · rw [size_append] at hsize
    obtain rfl := eq_nil_of_size (t := w) (by omega)
    exact ⟨[], by rw [List.append_nil, List.append_nil]⟩

/-- The blanks in front of a text. -/
def indent (t : Text) : Text := t.takeWhile isBlank

theorem exists_trim (t : Text) : ∃ after, t = t.indent ++ t.trim ++ after := by
  obtain ⟨after, hafter⟩ := trimEnd_isPrefix t.trimStart
  refine ⟨after, ?_⟩
  rw [List.append_assoc]
  calc t = t.indent ++ t.trimStart := List.takeWhile_append_dropWhile.symm
    _ = t.indent ++ (t.trim ++ after) := by rw [← hafter]; rfl

theorem Holds.trim {source part : Text} {start stop : Nat} (h : source.Holds start stop part) :
    source.Holds (start + part.indent.size) (start + part.indent.size + part.trim.size)
      part.trim := by
  obtain ⟨before, after, hsource, hstart, -⟩ := h
  obtain ⟨blanks, hpart⟩ := part.exists_trim
  refine ⟨before ++ part.indent, blanks ++ after, ?_, by rw [size_append, hstart], rfl⟩
  rw [hsource]
  conv_lhs => rw [hpart]
  simp only [List.append_assoc]

theorem size_trim_le (t : Text) : t.indent.size + t.trim.size ≤ t.size := by
  obtain ⟨after, h⟩ := t.exists_trim
  conv_rhs => rw [h, size_append, size_append]
  exact Nat.le_add_right ..

end Text

/-! ### Chapters one after the other -/

namespace Chapter

/-- The block of a chapter and its code. -/
def text (f : Family) (c : Chapter) : Text := (Token.block c.head.text).text f ++ c.code

/-- The chapters follow each other from a place on: each starts behind no code, with its block. -/
inductive Runs (f : Family) : Place → List Chapter → Prop
  | nil (p : Place) : Runs f p []
  | cons {p : Place} {c : Chapter} {cs : List Chapter} : p.afterCode = false →
      c.head = Block.at f p c.head.text → Runs f (p.past (c.text f)) cs → Runs f p (c :: cs)

theorem text_ofTokens (p : Place) (xs : List Token) :
    (ofTokens f p xs).1 ++ (ofTokens f p xs).2.flatMap (text f) = xs.flatMap (Token.text f) := by
  induction xs generalizing p with
  | nil => rfl
  | cons x xs ih =>
      have ih := ih (p.past (x.text f))
      cases x with
      | quoted _ | lineComment _ | plain _ | unclosed _ =>
          exact (List.append_assoc ..).trans (congrArg _ ih)
      | block inner =>
          rw [ofTokens, List.flatMap_cons, ← ih]
          by_cases hp : p.afterCode
          · rw [if_pos hp, List.append_assoc]
          · rw [if_neg hp, List.flatMap_cons, List.nil_append, text, List.append_assoc]
            rfl

theorem runs_ofTokens (p : Place) (xs : List Token) :
    Runs f (p.past (ofTokens f p xs).1) (ofTokens f p xs).2 := by
  induction xs generalizing p with
  | nil => exact .nil _
  | cons x xs ih =>
      have ih := ih (p.past (x.text f))
      rw [← Place.past_append] at ih
      cases x with
      | quoted _ | lineComment _ | plain _ | unclosed _ => exact ih
      | block inner =>
          rw [ofTokens]
          by_cases hp : p.afterCode
          · rw [if_pos hp]
            exact ih
          · rw [if_neg hp]
            exact .cons (Bool.eq_false_iff.2 hp) rfl ih

namespace Runs

variable {p : Place} {c d : Chapter} {cs ds : List Chapter}

theorem drop (h : Runs f p (cs ++ ds)) : Runs f (p.past (cs.flatMap (text f))) ds := by
  induction cs generalizing p with
  | nil => exact h
  | cons c cs ih =>
      cases h with
      | cons _ _ hcs =>
          rw [List.flatMap_cons, Place.past_append]
          exact ih hcs

theorem start_eq (h : Runs f p (c :: cs)) : c.head.start = p.offset := by
  cases h with
  | cons _ hhead _ => rw [hhead]; rfl

theorem stop_eq (h : Runs f p (c :: cs)) :
    c.head.stop = c.head.start + ((Token.block c.head.text).text f).size := by
  rw [h.start_eq]
  cases h with
  | cons _ hhead _ =>
      conv_lhs => rw [hhead]
      exact Place.offset_past ..

/-- The code of a chapter ends where the next one starts. -/
theorem next_eq (h : Runs f p (c :: d :: cs)) : d.head.start = c.head.stop + c.code.size := by
  rw [h.stop_eq, h.start_eq]
  cases h with
  | cons _ _ hcs =>
      rw [hcs.start_eq, Place.offset_past, text, Text.size_append, Nat.add_assoc]

theorem offset_le (h : Runs f p cs) (hc : c ∈ cs) : p.offset ≤ c.head.start := by
  induction h with
  | nil p => cases hc
  | @cons p d ds hp hhead hds ih =>
      rcases List.mem_cons.1 hc with rfl | hc
      · exact (start_eq (.cons hp hhead hds)).ge
      · have hle := ih hc
        rw [Place.offset_past] at hle
        exact Nat.le_trans (Nat.le_add_right ..) hle

/-- **Chapters do not overlap.** -/
theorem pairwise (h : Runs f p cs) :
    cs.Pairwise fun c d => c.head.stop + c.code.size ≤ d.head.start := by
  induction h with
  | nil p => exact .nil
  | @cons p c cs hp hhead hcs ih =>
      refine List.pairwise_cons.2 ⟨fun d hd => ?_, ih⟩
      have hruns : Runs f p (c :: cs) := .cons hp hhead hcs
      have hle := hcs.offset_le hd
      rwa [Place.offset_past, text, Text.size_append, ← Nat.add_assoc, ← hruns.start_eq,
        ← hruns.stop_eq] at hle

end Runs

end Chapter

/-- A place is behind no code only on a line that has started after the code. -/
theorem Place.newline_mem_of_afterCode {p : Place} {s : Text} (hp : p.afterCode = true)
    (hs : (p.past s).afterCode = false) : '\n' ∈ s := by
  induction s generalizing p with
  | nil =>
      rw [past, List.foldl_nil, hp] at hs
      cases hs
  | cons c s ih =>
      by_cases hc : c = '\n'
      · exact hc ▸ List.mem_cons_self
      · refine List.mem_cons_of_mem _ (ih (p := p.next c) ?_ hs)
        rw [next, if_neg hc, hp, Bool.true_or]

/-- There is a newline in the code between two blocks. -/
theorem Chapter.Runs.newline_mem {p : Place} {c d : Chapter} {cs : List Chapter}
    (h : Runs f p (c :: d :: cs)) : '\n' ∈ c.code := by
  cases h with
  | cons _ _ hcs =>
      cases hcs with
      | cons hd _ _ =>
          rw [text, Place.past_append] at hd
          exact Place.newline_mem_of_afterCode (Place.afterCode_past_block p c.head.text) hd

/-! ### Chapters in their source -/

/-- The offset at which the code of a block ends: where the next block starts, or where the source
ends. -/
def codeEnd (source : Text) (heads : List Block) (i : Nat) : Nat :=
  (heads[i + 1]?.map Block.start).getD (Text.size source)

/-- The bytes of a text in a source. -/
structure Segment where
  start : Nat
  stop  : Nat
  deriving DecidableEq, Repr

namespace Chapter

/-- The bytes of the code of a chapter, without the blanks around it. -/
def segment (c : Chapter) : Segment where
  start := c.head.stop + (Text.indent c.code).size
  stop := c.head.stop + (Text.indent c.code).size + (Text.trim c.code).size

theorem stop_segment_le (c : Chapter) : c.segment.stop ≤ c.head.stop + Text.size c.code := by
  have hle := Text.size_trim_le c.code
  rw [segment, Nat.add_assoc]
  exact Nat.add_le_add_left hle _

variable {source : Text} {i : Nat} {c : Chapter}

/-- The source around a chapter. -/
theorem exists_of_getElem? (h : (chapters f source)[i]? = some c) :
    ∃ before, source = before ++ (c :: (chapters f source).drop (i + 1)).flatMap (text f) ∧
      Runs f (Place.start.past before) (c :: (chapters f source).drop (i + 1)) := by
  obtain ⟨hlt, rfl⟩ := List.getElem?_eq_some_iff.1 h
  have hcut : (chapters f source).take i ++ (chapters f source)[i] ::
      (chapters f source).drop (i + 1) = chapters f source := by
    rw [List.getElem_cons_drop, List.take_append_drop]
  have htext := text_ofTokens (f := f) .start (tokens f source)
  have hruns := runs_ofTokens (f := f) .start (tokens f source)
  rw [text_tokens] at htext
  rw [← chapters, ← hcut] at hruns
  refine ⟨(ofTokens f .start (tokens f source)).1 ++
    ((chapters f source).take i).flatMap (text f), ?_, ?_⟩
  · rw [List.append_assoc, ← List.flatMap_append, hcut, chapters, htext]
  · rw [Place.past_append]
    exact hruns.drop

theorem getElem?_heads (source : Text) (i : Nat) :
    ((extract f source).blocks.filter (!·.inline))[i]? = ((chapters f source)[i]?).map head := by
  rw [← heads_chapters, List.getElem?_map]

/-- A block stands in the source at its offsets. -/
theorem holds_head (h : (chapters f source)[i]? = some c) :
    Text.Holds source c.head.start c.head.stop ((Token.block c.head.text).text f) := by
  obtain ⟨before, hsource, hruns⟩ := exists_of_getElem? h
  refine ⟨before, c.code ++ ((chapters f source).drop (i + 1)).flatMap (text f), ?_, ?_,
    hruns.stop_eq.symm⟩
  · rw [List.flatMap_cons, text] at hsource
    rw [List.append_assoc, ← List.append_assoc _ c.code]
    exact hsource
  · rw [hruns.start_eq, Place.offset_past]
    exact (Nat.zero_add _).symm

/-- The code of a chapter goes from the end of its block to the next block, or to the end. -/
theorem holds_code (h : (chapters f source)[i]? = some c) :
    Text.Holds source c.head.stop
      (codeEnd source ((extract f source).blocks.filter (!·.inline)) i) c.code := by
  obtain ⟨before, hsource, hruns⟩ := exists_of_getElem? h
  have hstop : c.head.stop = before.size + ((Token.block c.head.text).text f).size := by
    rw [hruns.stop_eq, hruns.start_eq, Place.offset_past]
    exact congrArg (· + _) (Nat.zero_add _)
  rw [List.flatMap_cons, text] at hsource
  refine ⟨before ++ (Token.block c.head.text).text f,
    ((chapters f source).drop (i + 1)).flatMap (text f), ?_, ?_, ?_⟩
  · simp only [List.append_assoc] at hsource ⊢
    exact hsource
  · rw [Text.size_append, hstop]
  · rw [codeEnd, getElem?_heads]
    cases hnext : (chapters f source)[i + 1]? with
    | none =>
        have hdrop := List.drop_eq_nil_iff.2 (List.getElem?_eq_none_iff.1 hnext)
        rw [hdrop, List.flatMap_nil, List.append_nil] at hsource
        rw [hstop]
        conv_rhs => rw [hsource]
        rw [Text.size_append, Text.size_append, Nat.add_assoc]
        rfl
    | some d =>
        obtain ⟨hlt, rfl⟩ := List.getElem?_eq_some_iff.1 hnext
        rw [← List.getElem_cons_drop hlt] at hruns
        exact hruns.next_eq.symm

theorem newline_mem_code {d : Chapter} (h : (chapters f source)[i]? = some c)
    (hd : (chapters f source)[i + 1]? = some d) : '\n' ∈ c.code := by
  obtain ⟨before, -, hruns⟩ := exists_of_getElem? h
  obtain ⟨hlt, rfl⟩ := List.getElem?_eq_some_iff.1 hd
  rw [← List.getElem_cons_drop hlt] at hruns
  exact hruns.newline_mem

/-- **The chapters of a source do not overlap.** -/
theorem pairwise_chapters (source : Text) :
    (chapters f source).Pairwise fun c d => c.head.stop + Text.size c.code ≤ d.head.start :=
  (runs_ofTokens .start (tokens f source)).pairwise

theorem start_le_segment (h : c ∈ chapters f source) : c.head.start ≤ c.segment.start := by
  obtain ⟨i, hi⟩ := List.mem_iff_getElem?.1 h
  obtain ⟨_, _, -, -, hstop⟩ := holds_head hi
  rw [segment, ← hstop, Nat.add_assoc]
  exact Nat.le_add_right ..

/-- Of two chapters one ends before the other starts. -/
theorem eq_or_apart {d : Chapter} (hc : c ∈ chapters f source) (hd : d ∈ chapters f source) :
    c = d ∨ c.head.stop + Text.size c.code ≤ d.head.start ∨
      d.head.stop + Text.size d.code ≤ c.head.start := by
  obtain ⟨i, hi, rfl⟩ := List.getElem_of_mem hc
  obtain ⟨j, hj, rfl⟩ := List.getElem_of_mem hd
  have hpairwise := List.pairwise_iff_getElem.1 (pairwise_chapters (f := f) source)
  rcases Nat.lt_trichotomy i j with hlt | rfl | hlt
  · exact .inr (.inl (hpairwise i j hi hj hlt))
  · exact .inl rfl
  · exact .inr (.inr (hpairwise j i hj hi hlt))

end Chapter

/-! ### The records of a source -/

/-- What is left of a list stands, in the same order, where it stood in the list. -/
theorem exists_index_filterMap {α β : Type} (g : α → Option β) (as : List α) :
    ∃ index : Nat → Nat, StrictMono index ∧
      ∀ k b, (as.filterMap g)[k]? = some b → ∃ a, as[index k]? = some a ∧ g a = some b := by
  have hsome : (as.filterMap g).map some = (as.filter (g · |>.isSome)).map g := by
    induction as with
    | nil => rfl
    | cons a as ih => cases h : g a <;> simp [h, ih]
  obtain ⟨index, hindex⟩ :=
    List.sublist_iff_exists_orderEmbedding_getElem?_eq.1
      (List.filter_sublist (p := (g · |>.isSome)) (l := as))
  refine ⟨index, index.strictMono, fun k b hb => ?_⟩
  have hk := congrArg (·[k]?) hsome
  simp only [List.getElem?_map, hb, hindex, Option.map_some] at hk
  exact Option.map_eq_some_iff.1 hk.symm

namespace Findings

variable {dialect : Dialect} {policy : UntaggedPolicy} {source : Text}

/-- The chapter with its record, if it has one. -/
def recorded? (dialect : Dialect) (policy : UntaggedPolicy) (c : Chapter) :
    Option (Chapter × Record) :=
  (ofChapter dialect policy c).records.head?.map (c, ·)

/-- The chapters of a source that have records. -/
def recorded (f : Family) (dialect : Dialect) (policy : UntaggedPolicy) (source : Text) :
    List (Chapter × Record) :=
  (chapters f source).filterMap (recorded? dialect policy)

/-- The bytes of the codes of the records. -/
def segments (f : Family) (dialect : Dialect) (policy : UntaggedPolicy) (source : Text) :
    List Segment :=
  (recorded f dialect policy source).map (·.1.segment)

/-- The record is that of a block: it has its line, and its code is what stands between the block
and the next one, or the end of the source, less the blanks around it. -/
structure StandsBehind (source : Text) (heads : List Block) (r : Record) (s : Segment) (i : Nat) :
    Prop where
  block : ∃ b, heads[i]? = some b ∧ r.line = b.line ∧ b.stop ≤ s.start ∧
    ∃ code, Text.Holds source b.stop (codeEnd source heads i) code ∧ r.code = Text.trim code
  code  : Text.Holds source s.start s.stop r.code
  stop  : s.stop ≤ codeEnd source heads i

/-- How the blocks of a source that head code lie, and the records with their codes. -/
structure LaidOut (f : Family) (source : Text) (heads : List Block) (records : List Record)
    (segments : List Segment) : Prop where
  placed      : ∀ b ∈ heads, Text.Holds source b.start b.stop ((Token.block b.text).text f)
  /-- Between two blocks there is a newline, which belongs to neither. -/
  apart       : ∀ i b d, heads[i]? = some b → heads[i + 1]? = some d →
    ∃ between, Text.Holds source b.stop d.start between ∧ '\n' ∈ between
  lines       : heads.Pairwise (·.line < ·.line)
  recordLines : records.Pairwise (·.line < ·.line)
  /-- Each record has a block, and those come in the order of the records. -/
  index       : ∃ index : Nat → Nat, StrictMono index ∧ ∀ k r, records[k]? = some r →
    ∃ s, segments[k]? = some s ∧ StandsBehind source heads r s (index k)
  /-- No two codes have a byte in common, -/
  disjoint    : segments.Pairwise (·.stop ≤ ·.start)
  /-- nor do a code and a block. -/
  outside     : ∀ s ∈ segments, ∀ b ∈ heads, s.stop ≤ b.start ∨ b.stop ≤ s.start

theorem records_eq_recorded (source : Text) :
    (ofSource f dialect policy source).records
      = (recorded f dialect policy source).map (·.2) := by
  rw [records_ofSource, recorded, List.map_filterMap, List.filterMap_eq_flatMap_toList]
  refine congrArg (List.flatMap · _) (funext fun c => ?_)
  rcases records_ofChapter dialect policy c with h | ⟨r, h⟩ <;> rw [recorded?, h] <;> rfl

theorem of_recorded?_eq_some {c : Chapter} {e : Chapter × Record}
    (h : recorded? dialect policy c = some e) :
    e.1 = c ∧ e.2.line = c.head.line ∧ e.2.code = Text.trim c.code := by
  obtain ⟨r, hr, rfl⟩ := Option.map_eq_some_iff.1 h
  have hmem := List.mem_of_head? hr
  exact ⟨rfl, line_of_mem_ofChapter hmem, (of_mem_ofChapter hmem).1⟩

/-- What holds between chapters holds between the chapters of records. -/
theorem pairwise_recorded {R : Chapter → Chapter → Prop} (h : (chapters f source).Pairwise R) :
    (recorded f dialect policy source).Pairwise fun x y =>
      x.2.line = x.1.head.line ∧ y.2.line = y.1.head.line ∧ R x.1 y.1 := by
  refine List.Pairwise.filterMap _ (fun c d hcd x hx y hy => ?_) h
  obtain ⟨rfl, hx, -⟩ := of_recorded?_eq_some hx
  obtain ⟨rfl, hy, -⟩ := of_recorded?_eq_some hy
  exact ⟨hx, hy, hcd⟩

theorem fst_mem_chapters {e : Chapter × Record} (h : e ∈ recorded f dialect policy source) :
    e.1 ∈ chapters f source := by
  obtain ⟨c, hc, hentry⟩ := List.mem_filterMap.1 h
  exact (of_recorded?_eq_some hentry).1 ▸ hc

/-- **Blocks and records lie one behind the other** in every source. -/
theorem ofSource_laidOut (f : Family) (dialect : Dialect) (policy : UntaggedPolicy)
    (source : Text) :
    LaidOut f source ((extract f source).blocks.filter (!·.inline))
      (ofSource f dialect policy source).records (segments f dialect policy source) where
  placed := by
    intro b hb
    rw [← heads_chapters] at hb
    obtain ⟨c, hc, rfl⟩ := List.mem_map.1 hb
    obtain ⟨i, hi⟩ := List.mem_iff_getElem?.1 hc
    exact Chapter.holds_head hi
  apart := by
    intro i b d hb hd
    rw [Chapter.getElem?_heads] at hb
    obtain ⟨c, hc, rfl⟩ := Option.map_eq_some_iff.1 hb
    have hcode := Chapter.holds_code hc
    rw [codeEnd, hd] at hcode
    rw [Chapter.getElem?_heads] at hd
    obtain ⟨e, he, rfl⟩ := Option.map_eq_some_iff.1 hd
    exact ⟨c.code, hcode, Chapter.newline_mem_code hc he⟩
  lines := by
    rw [← heads_chapters, List.pairwise_map]
    exact (pairwise_lastLine_lt source).imp fun h => Nat.lt_of_le_of_lt (Nat.le_add_right ..) h
  recordLines := by
    rw [records_eq_recorded, List.pairwise_map]
    refine (pairwise_recorded (pairwise_lastLine_lt source)).imp fun {x y} ⟨hx, hy, hlt⟩ => ?_
    rw [hx, hy]
    exact Nat.lt_of_le_of_lt (Nat.le_add_right ..) hlt
  index := by
    obtain ⟨index, hmono, hindex⟩ :=
      exists_index_filterMap (recorded? dialect policy) (chapters f source)
    refine ⟨index, hmono, fun k r hr => ?_⟩
    rw [records_eq_recorded, List.getElem?_map] at hr
    obtain ⟨e, he, rfl⟩ := Option.map_eq_some_iff.1 hr
    obtain ⟨c, hc, hentry⟩ := hindex k e he
    obtain ⟨rfl, hline, hcode⟩ := of_recorded?_eq_some hentry
    have hholds := Chapter.holds_code hc
    refine ⟨e.1.segment, ?_, ⟨e.1.head, ?_, hline, Nat.le_add_right .., e.1.code, hholds, hcode⟩,
      ?_, ?_⟩
    · rw [segments, List.getElem?_map, he]
      rfl
    · rw [Chapter.getElem?_heads, hc]
      rfl
    · rw [hcode]
      exact hholds.trim
    · obtain ⟨_, _, -, -, hstop⟩ := hholds
      rw [← hstop]
      exact e.1.stop_segment_le
  disjoint := by
    rw [segments, List.pairwise_map]
    refine (pairwise_recorded (Chapter.pairwise_chapters source)).imp_of_mem
      fun {x y} _ hy ⟨_, _, hle⟩ => ?_
    calc x.1.segment.stop
        ≤ x.1.head.stop + Text.size x.1.code := x.1.stop_segment_le
      _ ≤ y.1.head.start := hle
      _ ≤ y.1.segment.start := Chapter.start_le_segment (fst_mem_chapters hy)
  outside := by
    intro s hs b hb
    rw [← heads_chapters] at hb
    obtain ⟨e, he, rfl⟩ := List.mem_map.1 hs
    obtain ⟨d, hd, rfl⟩ := List.mem_map.1 hb
    have hc := fst_mem_chapters he
    rcases Chapter.eq_or_apart hc hd with heq | hle | hle
    · exact .inr (heq ▸ Nat.le_add_right ..)
    · exact .inl (Nat.le_trans e.1.stop_segment_le hle)
    · exact .inr <| calc d.head.stop
          ≤ d.head.stop + Text.size d.code := Nat.le_add_right ..
        _ ≤ e.1.head.start := hle
        _ ≤ e.1.segment.start := Chapter.start_le_segment hc

end Findings

end PatternBook
