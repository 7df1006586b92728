import PatternBook.Proofs.Comment.Order
import PatternBook.Proofs.Record.Chapters
import PatternBook.Proofs.Record.Meaning
import PatternBook.Proofs.Text.Lines

/-!
# Diagnostics and the lines of a source

The number of a line is put together from two counts: the lines in front of a block, and the lines
of the block in front of a tag.  The tag that a diagnostic is about stands on the line with the
number that comes out, inside the block, and so before the record of the next block.

* `exists_of_mem_annotate`: the tag of a diagnostic, in the text of its block.
* `Findings.PointsAtTag`: what a diagnostic about a tag says about the source.
* `Findings.diagnostics_located`: the lines of all diagnostics of a source.
-/

namespace PatternBook

/-! ### Marks in their lines -/

theorem dropGutter_isInfix (line : Text) : dropGutter line <:+: line := by
  have hstart : Text.trimStart line <:+ line := List.dropWhile_suffix isBlank
  unfold dropGutter
  split
  · next rest h =>
      rw [h] at hstart
      exact (Text.trimEnd_isPrefix rest).isInfix.trans
        (((List.suffix_append ['*', ' '] rest).trans hstart).isInfix)
  · next rest _ h =>
      rw [h] at hstart
      exact (Text.trimEnd_isPrefix rest).isInfix.trans
        (((List.suffix_cons '*' rest).trans hstart).isInfix)
  · exact (Text.trimEnd_isPrefix _).isInfix.trans hstart.isInfix

theorem mark_isInfix {line : Text} (h : IsMarked line) : '@' :: markName line <:+: line := by
  obtain ⟨name, rest, hline, hname, hrest⟩ := h
  rw [(mark_eq hline hname hrest).1]
  have hstart : Text.trimStart line <:+ line := List.dropWhile_suffix isBlank
  rw [hline] at hstart
  exact (List.prefix_append ('@' :: name) rest).isInfix.trans hstart.isInfix

theorem Stanza.of_occurrence? {s : Stanza} {o : Occurrence} (h : s.occurrence? = some o) :
    o.number = s.mark.2 ∧ o.keyword.name = markName s.mark.1 := by
  obtain ⟨k, hk, rfl⟩ := Option.map_eq_some_iff.1 h
  exact ⟨rfl, Keyword.name_of_ofName hk⟩

/-- The marks are among the lines, in their order. -/
theorem Cut.marks_sublist (lines : List (Text × Nat)) :
    ((ofLines lines).stanzas.map Stanza.mark).Sublist lines := by
  induction lines with
  | nil => exact .slnil
  | cons line rest ih =>
      by_cases h : IsMarked line.1
      · rw [ofLines_of_isMarked h]
        exact ih.cons_cons line
      · rw [ofLines_of_not_isMarked h]
        exact ih.cons line

/-! ### Occurrences in their block -/

section

variable {n : Nat} {text : Text}

/-- **A tag stands in the text of its block**, behind as many newlines as its number says. -/
theorem exists_of_mem_occurrences {o : Occurrence}
    (h : o ∈ (Cut.ofLines (numberedLines n text)).occurrences) :
    ∃ before after, text = before ++ ('@' :: o.keyword.name) ++ after ∧
      o.number = n + before.count '\n' := by
  obtain ⟨s, hs, ho⟩ := List.mem_filterMap.1 h
  obtain ⟨hnumber, hname⟩ := Stanza.of_occurrence? ho
  have hmark : s.mark ∈ numberedLines n text :=
    (Cut.marks_sublist _).subset (List.mem_map_of_mem hs)
  obtain ⟨k, line, hline, hmarkeq⟩ : ∃ k line, (Text.lines text)[k]? = some line ∧
      s.mark = (dropGutter line, n + k) := by
    obtain ⟨k, hk⟩ := List.mem_iff_getElem?.1 hmark
    rw [numberedLines, List.getElem?_zipIdx, List.getElem?_map, Option.map_map] at hk
    obtain ⟨line, hline, hpair⟩ := Option.map_eq_some_iff.1 hk
    exact ⟨k, line, hline, hpair.symm⟩
  have hinfix : '@' :: o.keyword.name <:+: line := by
    have hmarked : IsMarked s.mark.1 := (Cut.of_ofLines _).marks s hs
    rw [hname]
    exact (mark_isInfix hmarked).trans (hmarkeq ▸ dropGutter_isInfix line)
  obtain ⟨front, back, hat⟩ := hinfix
  obtain ⟨before, after, htext, hcount, hnl⟩ := Text.eq_append_of_lines hline
  refine ⟨before ++ front, back ++ after, ?_, ?_⟩
  · rw [htext, ← hat]
    simp only [List.append_assoc]
  · have hfront : front.count '\n' = 0 := by
      refine List.count_eq_zero_of_not_mem fun hm => hnl ?_
      rw [← hat]
      exact List.mem_append_left _ (List.mem_append_left _ hm)
    rw [hnumber, hmarkeq, List.count_append, hcount, hfront, Nat.add_zero]

/-- The occurrences come in the order of their lines. -/
theorem pairwise_number (n : Nat) (text : Text) :
    (Cut.ofLines (numberedLines n text)).occurrences.Pairwise fun o p => o.number < p.number := by
  have hlines : (numberedLines n text).Pairwise fun l m => l.2 < m.2 := by
    rw [← List.pairwise_map, numberedLines, List.zipIdx_map_snd]
    exact List.pairwise_lt_range'
  have hmarks := List.pairwise_map.1 (hlines.sublist (Cut.marks_sublist _))
  rw [Cut.occurrences, List.pairwise_filterMap]
  refine hmarks.imp fun hlt o ho p hp => ?_
  rw [(Stanza.of_occurrence? ho).1, (Stanza.of_occurrence? hp).1]
  exact hlt

end

/-! ### Diagnostics of a block -/

/-- The diagnostic names the tag and its line. -/
def Diagnostic.IsAbout (d : Diagnostic) (k : Keyword) (line : Nat) : Prop :=
  d = .emptyTag k line ∨ ∃ tag, k = .single tag ∧ d = .duplicateTag tag line

theorem Diagnostic.IsAbout.line_eq {d : Diagnostic} {k : Keyword} {line : Nat}
    (h : d.IsAbout k line) : d.line = some line := by
  rcases h with rfl | ⟨tag, -, rfl⟩ <;> rfl

/-- The line of the diagnostic is not after that of the other. -/
def Diagnostic.Precedes (d e : Diagnostic) : Prop :=
  ∀ k, d.line = some k → ∀ l, e.line = some l → k ≤ l

namespace Occurrence

theorem isAbout_of_mem {seen : Tag → Bool} {o : Occurrence} {d : Diagnostic}
    (h : d ∈ o.diagnostics seen) : d.IsAbout o.keyword o.number := by
  obtain ⟨keyword, number, value⟩ := o
  rcases List.mem_append.1 h with h | h
  · split at h
    · exact .inl (List.mem_singleton.1 h)
    · cases h
  · cases keyword with
    | variant kind => cases h
    | single tag =>
        dsimp only at h
        split at h
        · exact .inr ⟨tag, rfl, List.mem_singleton.1 h⟩
        · cases h

theorem exists_of_mem_diagnosticsAfter {earlier os : List Occurrence} {d : Diagnostic}
    (h : d ∈ diagnosticsAfter earlier os) : ∃ o ∈ os, d.IsAbout o.keyword o.number := by
  induction os generalizing earlier with
  | nil => cases h
  | cons o os ih =>
      rcases List.mem_append.1 h with h | h
      · exact ⟨o, List.mem_cons_self, isAbout_of_mem h⟩
      · obtain ⟨p, hp, habout⟩ := ih h
        exact ⟨p, List.mem_cons_of_mem o hp, habout⟩

theorem pairwise_diagnosticsAfter {earlier os : List Occurrence}
    (h : os.Pairwise fun o p => o.number < p.number) :
    (diagnosticsAfter earlier os).Pairwise Diagnostic.Precedes := by
  induction os generalizing earlier with
  | nil => exact .nil
  | cons o os ih =>
      obtain ⟨hfirst, hrest⟩ := List.pairwise_cons.1 h
      refine List.pairwise_append.2 ⟨?_, ih hrest, ?_⟩
      · refine List.pairwise_of_forall_mem_list fun d hd e he k hk l hl => ?_
        rw [(isAbout_of_mem hd).line_eq] at hk
        rw [(isAbout_of_mem he).line_eq] at hl
        exact Nat.le_of_eq (Option.some.inj (hk.symm.trans hl))
      · intro d hd e he k hk l hl
        obtain ⟨p, hp, habout⟩ := exists_of_mem_diagnosticsAfter he
        rw [(isAbout_of_mem hd).line_eq] at hk
        rw [habout.line_eq] at hl
        obtain rfl := Option.some.inj hk
        obtain rfl := Option.some.inj hl
        exact Nat.le_of_lt (hfirst p hp)

end Occurrence

section

variable {policy : UntaggedPolicy} {n : Nat} {text : Text}

/-- A block is read as its occurrences, beside its prose. -/
theorem close_readLines_lines (n : Nat) (text : Text) :
    (Draft.readLines {} n (Text.lines text)).close =
      { (Cut.ofLines (numberedLines n text)).occurrences.foldl Draft.note
          { body := (Cut.ofLines (numberedLines n text)).front.map Prod.fst } with
        body := (Cut.ofLines (numberedLines n text)).prose } := by
  rw [Draft.close_readLines, Draft.foldl_take]
  rfl

theorem diagnostics_annotate (policy : UntaggedPolicy) (n : Nat) (text : Text) :
    (annotate policy n text).diagnostics
      = Occurrence.diagnosticsAfter [] (Cut.ofLines (numberedLines n text)).occurrences := by
  have hseen : ∀ (body : List Text) (tag : Tag),
      (({ body := body } : Draft).tags.get tag).isSome = Occurrence.among [] tag := by
    intro body tag
    cases tag <;> rfl
  simp only [annotate, close_readLines_lines, Draft.diagnostics_foldl_note (hseen _),
    List.nil_append]

/-- A block with something to complain about has a tag, and so it is a record. -/
theorem exists_record?_annotate {d : Diagnostic} (h : d ∈ (annotate policy n text).diagnostics) :
    ∃ r, (annotate policy n text).record? = some r := by
  rw [diagnostics_annotate] at h
  obtain ⟨o, ho, -⟩ := Occurrence.exists_of_mem_diagnosticsAfter h
  have hne := List.isEmpty_eq_false_iff.2 (List.ne_nil_of_mem ho)
  simp only [annotate, close_readLines_lines, Draft.recognized_foldl_note, hne, Bool.not_false,
    Bool.or_true, Bool.true_or, if_true]
  exact ⟨_, rfl⟩

theorem exists_of_mem_annotate {d : Diagnostic} (h : d ∈ (annotate policy n text).diagnostics) :
    ∃ k before after, text = before ++ ('@' :: Keyword.name k) ++ after ∧
      d.IsAbout k (n + before.count '\n') := by
  rw [diagnostics_annotate] at h
  obtain ⟨o, ho, habout⟩ := Occurrence.exists_of_mem_diagnosticsAfter h
  obtain ⟨before, after, htext, hnumber⟩ := exists_of_mem_occurrences ho
  exact ⟨o.keyword, before, after, htext, hnumber ▸ habout⟩

theorem pairwise_annotate (policy : UntaggedPolicy) (n : Nat) (text : Text) :
    (annotate policy n text).diagnostics.Pairwise Diagnostic.Precedes := by
  rw [diagnostics_annotate]
  exact Occurrence.pairwise_diagnosticsAfter (pairwise_number n text)

end

namespace Findings

variable {f : Family} {dialect : Dialect} {policy : UntaggedPolicy} {source : Text}

/-! ### Diagnostics of a chapter -/

/-- A diagnostic of a chapter is about a tag on one of the lines of its block. -/
theorem exists_of_mem_ofChapter {c : Chapter} {d : Diagnostic}
    (h : d ∈ (ofChapter dialect policy c).diagnostics) :
    ∃ k line, d.IsAbout k line ∧ c.head.Spans line := by
  rw [diagnostics_ofChapter] at h
  obtain ⟨k, before, after, htext, habout⟩ := exists_of_mem_annotate h
  refine ⟨k, _, habout, Nat.le_add_right _ _, ?_⟩
  rw [Block.lastLine, htext, List.count_append, List.count_append]
  omega

/-- **The tag of a diagnostic stands on its line.** -/
theorem exists_lineAt?_of_mem {c : Chapter} (hc : c ∈ chapters f source) {d : Diagnostic}
    (h : d ∈ (ofChapter dialect policy c).diagnostics) :
    ∃ k line l, d.IsAbout k line ∧ source.lineAt? line = some l ∧ '@' :: Keyword.name k <:+: l := by
  rw [diagnostics_ofChapter] at h
  obtain ⟨k, before, after, htext, habout⟩ := exists_of_mem_annotate h
  obtain ⟨front, back, hsource, hline⟩ := exists_of_mem_blocks (exists_chapter_iff.1 ⟨c, hc, rfl⟩).1
  have hname : '\n' ∉ '@' :: k.name := k.forall_name (P := ('\n' ∉ '@' :: ·)) (by decide)
  have hopening : f.opening.count '\n' = 0 := by cases f <;> decide
  -- the two counts of lines are one, over all that stands before the tag
  have hcount : c.head.line + before.count '\n'
      = 1 + (front ++ f.opening ++ before).count '\n' := by
    rw [hline, List.count_append, List.count_append, hopening, Nat.add_zero, Nat.add_assoc]
  have hat : source = (front ++ f.opening ++ before) ++ ('@' :: k.name) ++
      (after ++ f.closing ++ back) := by
    rw [hsource, Token.text, htext]
    simp only [List.append_assoc]
  obtain ⟨l, hl, hinfix⟩ :=
    Text.exists_lineAt? hname (front ++ f.opening ++ before) (after ++ f.closing ++ back)
  rw [← hat, ← hcount] at hl
  exact ⟨k, _, l, habout, hl, hinfix⟩

/-! ### Tags -/

/-- What a diagnostic about a tag says about the source: the tag stands on its line, which is one
of exactly one block that heads code; that block is a record, and the records after it start on
later lines. -/
structure PointsAtTag (f : Family) (dialect : Dialect) (policy : UntaggedPolicy) (source : Text)
    (d : Diagnostic) (line : Nat) : Prop where
  line_eq : d.line = some line
  tag     : ∃ (k : Keyword) (l : Text), d.IsAbout k line ∧ source.lineAt? line = some l ∧
    '@' :: k.name <:+: l
  block   : ∃ b ∈ (extract f source).blocks, b.inline = false ∧ b.Spans line ∧
    (∀ other ∈ (extract f source).blocks, other.inline = false → other.Spans line → other = b) ∧
    ∃ earlier r later, (ofSource f dialect policy source).records = earlier ++ r :: later ∧
      (∃ s, (annotate policy b.line b.text).record? = some s ∧
        r = { s with line := b.line, code := r.code, declared := r.declared }) ∧
      r.line ≤ line ∧ ∀ s ∈ later, line < s.line

section

variable {earlier later : List Chapter} {c : Chapter} {line : Nat}

/-- The block of a chapter is between those of the chapters around it. -/
theorem lastLine_lt_of_split (hsplit : chapters f source = earlier ++ c :: later) :
    (∀ e ∈ earlier, e.head.lastLine < c.head.line) ∧
      ∀ e ∈ later, c.head.lastLine < e.head.line := by
  have horder := pairwise_lastLine_lt (f := f) source
  rw [hsplit, List.pairwise_append, List.pairwise_cons] at horder
  obtain ⟨-, ⟨hlater, -⟩, hearlier⟩ := horder
  exact ⟨fun e he => hearlier e he c List.mem_cons_self, hlater⟩

/-- A line is one of at most one block that heads code. -/
theorem head_unique (hsplit : chapters f source = earlier ++ c :: later)
    (hspans : c.head.Spans line) {other : Block} (hother : other ∈ (extract f source).blocks)
    (hinline : other.inline = false) (hspans' : other.Spans line) : other = c.head := by
  obtain ⟨hearlier, hlater⟩ := lastLine_lt_of_split hsplit
  obtain ⟨e, he, rfl⟩ := exists_chapter_iff.2 ⟨hother, hinline⟩
  rw [hsplit, List.mem_append, List.mem_cons] at he
  obtain ⟨hfirst, hlast⟩ := hspans
  obtain ⟨hfirst', hlast'⟩ := hspans'
  rcases he with he | rfl | he
  · have hlt := hearlier e he
    omega
  · rfl
  · have hlt := hlater e he
    omega

/-- The records behind a chapter start after the last line of its block. -/
theorem lastLine_lt_line (hsplit : chapters f source = earlier ++ c :: later) {r : Record}
    (h : r ∈ later.flatMap (ofChapter dialect policy · |>.records)) : c.head.lastLine < r.line := by
  obtain ⟨e, he, hr⟩ := List.mem_flatMap.1 h
  rw [line_of_mem_ofChapter hr]
  exact (lastLine_lt_of_split hsplit).2 e he

end

theorem exists_pointsAtTag {c : Chapter} (hc : c ∈ chapters f source) {d : Diagnostic}
    (h : d ∈ (ofChapter dialect policy c).diagnostics) :
    ∃ line, PointsAtTag f dialect policy source d line := by
  obtain ⟨k, line, l, habout, hl, hinfix⟩ := exists_lineAt?_of_mem hc h
  obtain ⟨k', line', habout', hspans⟩ := exists_of_mem_ofChapter h
  obtain rfl : line' = line := Option.some.inj (habout'.line_eq.symm.trans habout.line_eq)
  rw [diagnostics_ofChapter] at h
  obtain ⟨s, hs⟩ := exists_record?_annotate h
  obtain ⟨hblock, hinline⟩ := exists_chapter_iff.1 ⟨c, hc, rfl⟩
  obtain ⟨earlier, later, hsplit⟩ := List.append_of_mem hc
  have hrecords : (ofSource f dialect policy source).records
      = earlier.flatMap (ofChapter dialect policy · |>.records) ++
        { s with
          line := c.head.line
          code := Text.trim c.code
          declared := declarations dialect (Text.trim c.code) } ::
        later.flatMap (ofChapter dialect policy · |>.records) := by
    rw [records_ofSource, hsplit, List.flatMap_append, List.flatMap_cons]
    congr 1
    rw [ofChapter, hs]
    rfl
  exact ⟨line', {
    line_eq := habout'.line_eq
    tag := ⟨k, l, habout, hl, hinfix⟩
    block := ⟨c.head, hblock, hinline, hspans, fun other => head_unique hsplit hspans,
      _, _, _, hrecords, ⟨s, hs, rfl⟩, hspans.1,
      fun r hr => Nat.lt_of_le_of_lt hspans.2 (lastLine_lt_line hsplit hr)⟩ }⟩

/-! ### The diagnostics of a source -/

/-- A diagnostic is one of a chapter, or the last and about an opener. -/
theorem mem_diagnostics {d : Diagnostic} :
    d ∈ (ofSource f dialect policy source).diagnostics ↔
      (∃ c ∈ chapters f source, d ∈ (ofChapter dialect policy c).diagnostics) ∨
        ∃ line, (extract f source).unclosed = some line ∧ d = unclosedComment f line := by
  simp [diagnostics_ofSource, eq_comm]

theorem problem_of_mem_ofChapter {c : Chapter} {d : Diagnostic}
    (h : d ∈ (ofChapter dialect policy c).diagnostics) : d.problem ≠ .unclosedComment := by
  obtain ⟨k, line, rfl | ⟨tag, -, rfl⟩, -⟩ := exists_of_mem_ofChapter h
  · nofun
  · nofun

/-- All but the last are diagnostics of chapters. -/
theorem exists_of_mem_dropLast {d : Diagnostic}
    (h : d ∈ (ofSource f dialect policy source).diagnostics.dropLast) :
    ∃ c, d ∈ (ofChapter dialect policy c).diagnostics := by
  suffices hmem : d ∈ (chapters f source).flatMap (ofChapter dialect policy · |>.diagnostics) by
    obtain ⟨c, -, hd⟩ := List.mem_flatMap.1 hmem
    exact ⟨c, hd⟩
  rw [diagnostics_ofSource] at h
  cases hunclosed : (extract f source).unclosed with
  | none =>
      rw [hunclosed, Option.toList_none, List.map_nil, List.append_nil] at h
      exact (List.dropLast_prefix _).mem h
  | some line => rwa [hunclosed, Option.toList_some, List.map_singleton, List.dropLast_concat] at h

theorem exists_line_of_mem {d : Diagnostic}
    (h : d ∈ (ofSource f dialect policy source).diagnostics) : ∃ line, d.line = some line := by
  rcases mem_diagnostics.1 h with ⟨c, -, h⟩ | ⟨line, -, rfl⟩
  · obtain ⟨k, line, habout, -⟩ := exists_of_mem_ofChapter h
    exact ⟨line, habout.line_eq⟩
  · exact ⟨line, rfl⟩

theorem map_line_eq {ds : List Diagnostic} (h : ∀ d ∈ ds, ∃ line, d.line = some line) :
    ds.map (·.line) = (ds.filterMap (·.line)).map some := by
  induction ds with
  | nil => rfl
  | cons d ds ih =>
      obtain ⟨⟨line, hline⟩, hrest⟩ := List.forall_mem_cons.1 h
      rw [List.map_cons, List.filterMap_cons_some hline, List.map_cons, ih hrest, hline]

/-- **The diagnostics come in the order of their lines.** -/
theorem pairwise_diagnostics (f : Family) (dialect : Dialect) (policy : UntaggedPolicy)
    (source : Text) :
    (ofSource f dialect policy source).diagnostics.Pairwise Diagnostic.Precedes := by
  rw [diagnostics_ofSource, List.pairwise_append, List.pairwise_flatMap]
  refine ⟨⟨fun c _ => pairwise_annotate policy c.head.line c.head.text, ?_⟩, ?_, ?_⟩
  · -- one chapter after the other
    refine (pairwise_lastLine_lt source).imp fun hlt d hd e he k hk l hl => ?_
    obtain ⟨_, _, habout, -, hlast⟩ := exists_of_mem_ofChapter hd
    obtain ⟨_, _, habout', hfirst, -⟩ := exists_of_mem_ofChapter he
    obtain rfl := Option.some.inj (hk.symm.trans habout.line_eq)
    obtain rfl := Option.some.inj (hl.symm.trans habout'.line_eq)
    omega
  · cases (extract f source).unclosed with
    | none => exact .nil
    | some line => exact List.pairwise_singleton _ _
  · -- the opener behind all blocks
    intro d hd e he k hk l hl
    obtain ⟨c, hc, hd⟩ := List.mem_flatMap.1 hd
    obtain ⟨_, _, habout, -, hlast⟩ := exists_of_mem_ofChapter hd
    obtain ⟨line, hline, rfl⟩ := List.mem_map.1 he
    have hopen := Chapter.lastLine_le_of_unclosed (Option.mem_toList.1 hline) hc
    obtain rfl := Option.some.inj (hk.symm.trans habout.line_eq)
    obtain rfl := Option.some.inj hl
    exact Nat.le_trans hlast hopen

/-- What is complained about, and where: empty and repeated tags on the lines of their blocks, line
after line, and behind them at most one opener, on its line. -/
structure Located (f : Family) (dialect : Dialect) (policy : UntaggedPolicy) (source : Text)
    (found : List Diagnostic) : Prop where
  tags    : ∀ d ∈ found, d.problem = .emptyTag ∨ d.problem = .duplicateTag →
    ∃ line, PointsAtTag f dialect policy source d line
  ordered : ∃ lines : List Nat, found.map (·.line) = lines.map some ∧ lines.Pairwise (· ≤ ·)
  last    : ∀ d ∈ found.dropLast, d.problem ≠ .unclosedComment
  opener  : ∀ d ∈ found, d.problem = .unclosedComment →
    ∃ line l, d.line = some line ∧ source.lineAt? line = some l ∧ f.opening <:+: l

/-- **Diagnostics point at their lines**, in every source. -/
theorem diagnostics_located (f : Family) (dialect : Dialect) (policy : UntaggedPolicy)
    (source : Text) :
    Located f dialect policy source (ofSource f dialect policy source).diagnostics where
  tags d hd hproblem := by
    rcases mem_diagnostics.1 hd with ⟨c, hc, hd⟩ | ⟨line, -, rfl⟩
    · exact exists_pointsAtTag hc hd
    · rcases hproblem with h | h <;> cases h
  ordered := ⟨_, map_line_eq fun _ => exists_line_of_mem,
    List.pairwise_filterMap.2 (pairwise_diagnostics f dialect policy source)⟩
  last d hd := by
    obtain ⟨c, hd⟩ := exists_of_mem_dropLast hd
    exact problem_of_mem_ofChapter hd
  opener d hd hproblem := by
    rcases mem_diagnostics.1 hd with ⟨c, -, hd⟩ | ⟨line, hline, rfl⟩
    · exact absurd hproblem (problem_of_mem_ofChapter hd)
    · obtain ⟨before, after, hsource, rfl⟩ := exists_of_unclosed hline
      have hopening : '\n' ∉ f.opening := by cases f <;> decide
      obtain ⟨l, hl, hinfix⟩ := Text.exists_lineAt? hopening before after
      exact ⟨_, l, rfl, hsource ▸ hl, hinfix⟩

/-- A script with a repeated tag, an empty one in a remark behind code and in a block, and an
opener at its end. -/
def faultySheet : Text :=
  "/* @title A\n   @title B */ a /* @usage */\n\n/*\n * @state s\n * @usage */ b\n/* c"

theorem diagnostics_located_faultySheet :
    (ofSource .script .standard .drop faultySheet).diagnostics.map (fun d => (d.problem, d.line))
        = [(.duplicateTag, some 2), (.emptyTag, some 6), (.unclosedComment, some 7)] ∧
      ∀ d ∈ (ofSource .script .standard .drop faultySheet).diagnostics,
        d.problem = .emptyTag ∨ d.problem = .duplicateTag →
          ∃ line, PointsAtTag .script .standard .drop faultySheet d line :=
  ⟨by decide +kernel, (diagnostics_located .script .standard .drop faultySheet).tags⟩

end Findings

end PatternBook
