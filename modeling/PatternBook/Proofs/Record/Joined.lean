import PatternBook.Proofs.Comment.Joined
import PatternBook.Proofs.Record.Chapters

/-!
# Findings of joined sources

What two sources say, one behind the other, where the first ends a line and leaves no comment open.
A block says the same wherever it starts, and its diagnostics move with it.  So the findings are
those of both sources, and only the code of the last record of the first goes on.

* `annotate_later`: a block that starts further on.
* `Findings.extract_findings_append`: blocks, diagnostics and records of joined sources.
-/

namespace PatternBook

/-! ### Further on -/

/-- The diagnostic so many lines further on. -/
def Diagnostic.later (k : Nat) (d : Diagnostic) : Diagnostic :=
  { d with line := d.line.map (· + k) }

/-- The record so many lines further on. -/
def Record.later (k : Nat) (r : Record) : Record := { r with line := r.line + k }

namespace Draft

/-- The draft of a block that starts so many lines further on. -/
def later (k : Nat) (d : Draft) : Draft :=
  { d with
    diagnostics := d.diagnostics.map (Diagnostic.later k)
    open? := d.open?.map fun tag => { tag with line := tag.line + k } }

variable (k : Nat)

theorem enter_later (d : Draft) (tag : OpenTag) :
    (d.later k).enter { tag with line := tag.line + k } = (d.enter tag).later k := by
  obtain ⟨keyword, line, parts⟩ := tag
  cases keyword with
  | single tag =>
      simp only [enter, later, List.map_append, apply_ite (List.map (Diagnostic.later k)),
        List.map_cons, List.map_nil]
      rfl
  | variant kind =>
      simp only [enter, later, List.map_append, apply_ite (List.map (Diagnostic.later k)),
        List.map_cons, List.map_nil]
      rfl

theorem close_later (d : Draft) : (d.later k).close = d.close.later k := by
  cases h : d.open? with
  | none =>
      have hlater : (d.later k).open? = none := by rw [later, h]; rfl
      rw [close, hlater, close, h]
  | some tag =>
      have hlater : (d.later k).open? = some { tag with line := tag.line + k } := by
        rw [later, h]
        rfl
      rw [close, hlater, close, h]
      dsimp only
      rw [enter_later]
      rfl

theorem read_later (d : Draft) (n : Nat) (l : Line) :
    (d.later k).read (n + k) l = (d.read n l).later k := by
  cases l with
  | tag keyword text => rw [read, close_later]; rfl
  | unknownTag text => rw [read, close_later]; rfl
  | prose text =>
      cases h : d.open? with
      | none =>
          have hlater : (d.later k).open? = none := by rw [later, h]; rfl
          rw [read, hlater, read, h]
          rfl
      | some tag =>
          have hlater : (d.later k).open? = some { tag with line := tag.line + k } := by
            rw [later, h]
            rfl
          rw [read, hlater, read, h]
          rfl

theorem readLines_later (d : Draft) (n : Nat) (ls : List Text) :
    (d.later k).readLines (n + k) ls = (d.readLines n ls).later k := by
  induction ls generalizing d n with
  | nil => rfl
  | cons l ls ih => rw [readLines, readLines, read_later, Nat.add_right_comm, ih]

end Draft

/-- **A block that starts further on** says the same, with its diagnostics further on. -/
theorem annotate_later (k : Nat) (policy : UntaggedPolicy) (n : Nat) (text : Text) :
    annotate policy (n + k) text
      = { annotate policy n text with
          diagnostics := (annotate policy n text).diagnostics.map (Diagnostic.later k) } := by
  have hread : (Draft.readLines {} (n + k) (Text.lines text)).close
      = (Draft.readLines {} n (Text.lines text)).close.later k := by
    rw [← Draft.close_later, ← Draft.readLines_later]
    rfl
  rw [annotate, hread]
  rfl

namespace Findings

/-! ### Chapters -/

section

variable (dialect : Dialect) (policy : UntaggedPolicy) (a more : Text)

theorem ofChapter_behind (c : Chapter) :
    ofChapter dialect policy (c.behind a)
      = { records := (ofChapter dialect policy c).records.map (Record.later (a.count '\n'))
          diagnostics :=
            (ofChapter dialect policy c).diagnostics.map (Diagnostic.later (a.count '\n')) } := by
  have hblock := annotate_later (a.count '\n') policy c.head.line c.head.text
  simp only [ofChapter, Chapter.behind, Block.behind, hblock, List.map_map]
  rfl

/-- More code in a chapter changes the code of its record, if it has one. -/
theorem ofChapter_extend (c : Chapter) :
    ofChapter dialect policy (c.extend more)
      = { ofChapter dialect policy c with
          records := (ofChapter dialect policy c).records.map
            (recode dialect (Text.trim (c.code ++ more))) } := by
  simp only [ofChapter, Chapter.extend, List.map_map]
  rfl

theorem records_behind (cs : List Chapter) :
    (cs.map (Chapter.behind a)).flatMap (ofChapter dialect policy · |>.records)
      = (cs.flatMap (ofChapter dialect policy · |>.records)).map (Record.later (a.count '\n')) := by
  simp only [List.flatMap_map, List.map_flatMap, ofChapter_behind]

theorem diagnostics_behind (cs : List Chapter) :
    (cs.map (Chapter.behind a)).flatMap (ofChapter dialect policy · |>.diagnostics)
      = (cs.flatMap (ofChapter dialect policy · |>.diagnostics)).map
          (Diagnostic.later (a.count '\n')) := by
  simp only [List.flatMap_map, List.map_flatMap, ofChapter_behind]

theorem diagnostics_modifyLast (cs : List Chapter) :
    (cs.modifyLast (Chapter.extend more)).flatMap (ofChapter dialect policy · |>.diagnostics)
      = cs.flatMap (ofChapter dialect policy · |>.diagnostics) := by
  rcases List.eq_nil_or_concat cs with rfl | ⟨cs, c, rfl⟩
  · rfl
  · rw [List.concat_eq_append, List.modifyLast_concat, List.flatMap_append, List.flatMap_append,
      List.flatMap_singleton, List.flatMap_singleton, ofChapter_extend]

/-- The last record of some chapters has the code that it has, and what is declared there. -/
theorem exists_recode_self (cs : List Chapter) :
    ∃ code, (∀ r ∈ (cs.flatMap (ofChapter dialect policy · |>.records)).getLast?, r.code <+: code) ∧
      (cs.flatMap (ofChapter dialect policy · |>.records)).modifyLast (recode dialect code)
        = cs.flatMap (ofChapter dialect policy · |>.records) := by
  rcases List.eq_nil_or_concat (cs.flatMap (ofChapter dialect policy · |>.records)) with
    hrs | ⟨rs, r, hrs⟩
  · rw [hrs]
    exact ⟨[], nofun, rfl⟩
  rw [List.concat_eq_append] at hrs
  have hmem : r ∈ cs.flatMap (ofChapter dialect policy · |>.records) :=
    hrs ▸ List.mem_append_right rs List.mem_cons_self
  obtain ⟨c, -, hc⟩ := List.mem_flatMap.1 hmem
  refine ⟨r.code, ?_, ?_⟩
  · rw [hrs, List.getLast?_concat]
    rintro _ ⟨⟩
    exact List.prefix_rfl
  · rw [hrs, List.modifyLast_concat, (of_mem_ofChapter hc).2]

/-- More code in the last chapter goes to the last record at most, whose code goes on. -/
theorem exists_records_modifyLast (cs : List Chapter) :
    ∃ code, (∀ r ∈ (cs.flatMap (ofChapter dialect policy · |>.records)).getLast?, r.code <+: code) ∧
      (cs.modifyLast (Chapter.extend more)).flatMap (ofChapter dialect policy · |>.records)
        = (cs.flatMap (ofChapter dialect policy · |>.records)).modifyLast
            (recode dialect code) := by
  rcases List.eq_nil_or_concat cs with rfl | ⟨cs, c, rfl⟩
  · exact ⟨[], nofun, rfl⟩
  rw [List.concat_eq_append, List.modifyLast_concat, List.flatMap_append, List.flatMap_append,
    List.flatMap_singleton, List.flatMap_singleton, ofChapter_extend]
  rcases records_ofChapter dialect policy c with hnil | ⟨r, hr⟩
  · -- the last chapter is no record, so that no record changes
    rw [hnil, List.append_nil, List.map_nil, List.append_nil]
    obtain ⟨code, hcode, hself⟩ := exists_recode_self dialect policy cs
    exact ⟨code, hcode, hself.symm⟩
  · refine ⟨Text.trim (c.code ++ more), ?_, ?_⟩
    · rw [hr, List.getLast?_concat]
      rintro _ ⟨⟩
      rw [(of_mem_ofChapter (hr ▸ List.mem_cons_self)).1]
      exact Text.trim_prefix_trim_append c.code more
    · rw [hr, List.modifyLast_concat]
      rfl

end

/-! ### Joined sources -/

/-- **Scanning and reading are local.**  Behind a text that ends a line and leaves no comment open,
a source has the blocks, the diagnostics and the records that it has alone, further on by the bytes
and the lines of the text; in front of it the text keeps its own, but for the code of its last
record and what is declared there, which may go on. -/
theorem extract_findings_append {f : Family} {a : Text} (ha : EndsLine a)
    (hclosed : (extract f a).unclosed = none) (b : Text) :
    ((extract f (a ++ b)).blocks
          = (extract f a).blocks ++ (extract f b).blocks.map (Block.behind a) ∧
        (extract f (a ++ b)).unclosed = (extract f b).unclosed.map (· + a.count '\n')) ∧
      ∀ (dialect : Dialect) (policy : UntaggedPolicy),
        (ofSource f dialect policy (a ++ b)).diagnostics
            = (ofSource f dialect policy a).diagnostics ++
              (ofSource f dialect policy b).diagnostics.map (Diagnostic.later (a.count '\n')) ∧
          ∃ code,
            (∀ r ∈ (ofSource f dialect policy a).records.getLast?, r.code <+: code) ∧
            (ofSource f dialect policy (a ++ b)).records
              = (ofSource f dialect policy a).records.modifyLast (recode dialect code) ++
                (ofSource f dialect policy b).records.map (Record.later (a.count '\n')) := by
  have hextract := extract_append ha hclosed b
  have hunclosed : (extract f (a ++ b)).unclosed
      = (extract f b).unclosed.map (· + a.count '\n') := by
    rw [hextract, Extraction.append, hclosed]
    rfl
  refine ⟨⟨by rw [hextract]; rfl, hunclosed⟩, fun dialect policy => ⟨?_, ?_⟩⟩
  · have hopen : ((extract f b).unclosed.map (· + a.count '\n')).toList.map (unclosedComment f)
        = ((extract f b).unclosed.toList.map (unclosedComment f)).map
            (Diagnostic.later (a.count '\n')) := by
      cases (extract f b).unclosed <;> rfl
    rw [diagnostics_ofSource, diagnostics_ofSource, diagnostics_ofSource,
      chapters_append_behind ha hclosed, List.flatMap_append, diagnostics_modifyLast,
      diagnostics_behind, hunclosed, hopen, hclosed, List.map_append, Option.toList_none,
      List.map_nil, List.append_nil, List.append_assoc]
  · obtain ⟨code, hcode, hlast⟩ :=
      exists_records_modifyLast dialect policy (preamble f b) (chapters f a)
    rw [records_ofSource, records_ofSource, records_ofSource, chapters_append_behind ha hclosed,
      List.flatMap_append, records_behind, hlast]
    exact ⟨code, hcode, rfl⟩

/-- A script with openers in a string and in a line comment, and with a remark behind code. -/
def upperSheet : Text := "/* @title A\n   @title Ä */\n$a: \"/*\"; // it's /*\nb /* c */\n"

/-- A script that starts with code, says nothing of one tag, and ends in a comment. -/
def lowerSheet : Text := "$d: 1px;\n/* @usage\n   @state e */ f\n/* g"

theorem extract_findings_append_sheets :
    EndsLine upperSheet ∧ (extract .script upperSheet).unclosed = none ∧
      (extract .script (upperSheet ++ lowerSheet)).blocks
        = (extract .script upperSheet).blocks ++
          (extract .script lowerSheet).blocks.map (Block.behind upperSheet) ∧
      (ofSource .script .variable .drop (upperSheet ++ lowerSheet)).diagnostics
        = (ofSource .script .variable .drop upperSheet).diagnostics ++
          (ofSource .script .variable .drop lowerSheet).diagnostics.map (Diagnostic.later 4) ∧
      (ofSource .script .variable .drop (upperSheet ++ lowerSheet)).records.map (·.line)
        = [1, 6] := by
  have hends : EndsLine upperSheet :=
    .inr ⟨upperSheet.dropLast, by decide +kernel, by decide +kernel⟩
  have hclosed : (extract .script upperSheet).unclosed = none := by decide +kernel
  have hjoined := extract_findings_append hends hclosed lowerSheet
  exact ⟨hends, hclosed, hjoined.1.1, (hjoined.2 .variable .drop).1, by decide +kernel⟩

end Findings

end PatternBook
