import PatternBook.Proofs.Record.Canonical
import PatternBook.Proofs.Record.Chapters

/-!
# What the policy and the dialect change

Four ways of reading one source, and how what they find is related.  A block that carries a tag of
the vocabulary leaves a tag or a variant in its record, and no other block does; so the policy that
drops blocks without tags keeps of the records just those that have one.  The dialect is asked for
only after a record has its code.

* `Findings.Filtered`: what dropping the blocks without tags leaves of what keeping them finds.
* `Findings.Declaring`: what collecting declarations adds to what is found without.
* `Findings.ofSource_filtered_declaring`: the four readings of every source are related so.
-/

namespace PatternBook

/-- The record has a tag or a variant. -/
def Record.isAnnotated (r : Record) : Bool := !r.tags.toList.isEmpty || !r.variants.isEmpty

theorem Tags.toList_eq_nil_iff {tags : Tags} : tags.toList = [] ↔ tags = .empty := by
  constructor
  · intro h
    refine Tags.ext_get fun tag => ?_
    rw [Tags.get_empty, Option.eq_none_iff_forall_not_mem]
    intro value hvalue
    have hmem : (tag, value) ∈ tags.toList := Tags.mem_toList.2 hvalue
    rw [h] at hmem
    cases hmem
  · rintro rfl
    rfl

theorem Record.isAnnotated_iff {r : Record} :
    r.isAnnotated = true ↔ r.tags ≠ .empty ∨ r.variants ≠ [] := by
  simp only [isAnnotated, Bool.or_eq_true, Bool.not_eq_true', List.isEmpty_eq_false_iff, ne_eq,
    Tags.toList_eq_nil_iff]

theorem Record.isAnnotated_eq_false_iff {r : Record} :
    r.isAnnotated = false ↔ r.tags = .empty ∧ r.variants = [] := by
  rw [← Bool.not_eq_true, isAnnotated_iff, not_or, not_not, not_not]

/-! ### One block -/

/-- The record of a cut, if it is one. -/
def Cut.record (c : Cut) : Record where
  tags := .ofValues (Occurrence.lastValue c.occurrences)
  variants := c.occurrences.filterMap Occurrence.variant?
  body := c.body

/-- A record has a tag or a variant exactly if a tag of the vocabulary occurs in its block. -/
theorem Cut.isAnnotated_record (c : Cut) : c.record.isAnnotated = true ↔ c.occurrences ≠ [] := by
  rw [Record.isAnnotated_iff]
  refine ⟨fun h hnil => ?_, Passage.annotated_of_occurrences⟩
  rw [record, hnil] at h
  exact h.elim (fun htags => htags rfl) fun hvariants => hvariants rfl

section

variable (n : Nat) (text : Text)

theorem record?_annotate (policy : UntaggedPolicy) :
    (annotate policy n text).record? =
      let r := (Cut.ofLines (numberedLines n text)).record
      if r.isAnnotated = true ∨ policy = .keep ∧ r.body ≠ [] then some r else none := by
  rw [annotate_eq_meaning_ofLines]
  exact if_congr (or_congr_left (Cut.isAnnotated_record _).symm) rfl rfl

/-- Of the record of a block, dropping leaves what has a tag or a variant. -/
theorem record?_drop :
    (annotate .drop n text).record?
      = (annotate .keep n text).record?.filter Record.isAnnotated := by
  rw [record?_annotate, record?_annotate]
  generalize (Cut.ofLines (numberedLines n text)).record = r
  cases h : r.isAnnotated with
  | true => simp [Option.filter_some, h]
  | false => by_cases hbody : r.body = [] <;> simp [Option.filter_some, h, hbody]

theorem diagnostics_drop :
    (annotate .drop n text).diagnostics = (annotate .keep n text).diagnostics := by
  rw [annotate_eq_meaning_ofLines, annotate_eq_meaning_ofLines]
  rfl

/-- A record without a tag or a variant is a record for its body. -/
theorem body_ne_nil_of_record? {policy : UntaggedPolicy} {r : Record}
    (h : (annotate policy n text).record? = some r) (hbare : r.isAnnotated = false) :
    r.body ≠ [] := by
  rw [record?_annotate] at h
  dsimp only at h
  split at h
  · next hrecord =>
    obtain rfl := Option.some.inj h
    refine (hrecord.resolve_left ?_).2
    rw [hbare]
    exact Bool.false_ne_true
  · cases h

end

/-! ### A whole source -/

namespace Findings

/-- What is left where blocks without a tag are dropped, of what is found where they are kept. -/
structure Filtered (drop keep : Findings) : Prop where
  records     : drop.records = keep.records.filter Record.isAnnotated
  /-- A record that is filtered away has nothing but prose. -/
  added       : ∀ r ∈ keep.records, r.isAnnotated = false →
    r.tags = .empty ∧ r.variants = [] ∧ r.body ≠ []
  diagnostics : drop.diagnostics = keep.diagnostics

/-- What is found where declarations are collected, besides what is found where they are not. -/
structure Declaring (bare full : Findings) : Prop where
  records     : full.records = bare.records.map fun r =>
    { r with declared := Declaration.ofCode r.code }
  undeclared  : ∀ r ∈ bare.records, r.declared = []
  diagnostics : full.diagnostics = bare.diagnostics

variable (f : Family) (dialect : Dialect) (policy : UntaggedPolicy) (source : Text)

theorem records_ofChapter_drop (c : Chapter) :
    (ofChapter dialect .drop c).records
      = (ofChapter dialect .keep c).records.filter Record.isAnnotated := by
  simp only [ofChapter, record?_drop]
  cases (annotate .keep c.head.line c.head.text).record? with
  | none => rfl
  | some r =>
      have hsame : Record.isAnnotated { r with
          line := c.head.line, code := Text.trim c.code,
          declared := declarations dialect (Text.trim c.code) } = r.isAnnotated := rfl
      cases h : r.isAnnotated with
      | true => simp [Option.filter_some, hsame, h]
      | false => simp [Option.filter_some, hsame, h]

theorem filtered_ofSource : (ofSource f dialect .drop source).Filtered
    (ofSource f dialect .keep source) where
  records := by
    rw [records_ofSource, records_ofSource, List.filter_flatMap]
    exact congrArg (List.flatMap · _) (funext fun c => records_ofChapter_drop dialect c)
  added := by
    intro r hr hbare
    rw [records_ofSource] at hr
    obtain ⟨c, -, hc⟩ := List.mem_flatMap.1 hr
    obtain ⟨s, hs, rfl⟩ := List.mem_map.1 hc
    have hbody := body_ne_nil_of_record? _ _ (Option.mem_toList.1 hs)
    obtain ⟨htags, hvariants⟩ := Record.isAnnotated_eq_false_iff.1 hbare
    exact ⟨htags, hvariants, hbody hbare⟩
  diagnostics := by
    rw [diagnostics_ofSource, diagnostics_ofSource]
    simp only [diagnostics_ofChapter, diagnostics_drop]

theorem records_ofChapter_variable (c : Chapter) :
    (ofChapter .variable policy c).records
      = (ofChapter .standard policy c).records.map
          fun r => { r with declared := Declaration.ofCode r.code } := by
  simp only [ofChapter, List.map_map]
  rfl

theorem declaring_ofSource : (ofSource f .standard policy source).Declaring
    (ofSource f .variable policy source) where
  records := by
    rw [records_ofSource, records_ofSource, List.map_flatMap]
    exact congrArg (List.flatMap · _) (funext fun c => records_ofChapter_variable policy c)
  undeclared := by
    intro r hr
    rw [records_ofSource] at hr
    obtain ⟨c, -, hc⟩ := List.mem_flatMap.1 hr
    rw [← (of_mem_ofChapter hc).2]
    rfl
  diagnostics := by
    rw [diagnostics_ofSource, diagnostics_ofSource]
    rfl

/-- **The policy only filters, and the dialect only adds declarations**, for every source. -/
theorem ofSource_filtered_declaring :
    (∀ dialect, (ofSource f dialect .drop source).Filtered (ofSource f dialect .keep source)) ∧
      ∀ policy, (ofSource f .standard policy source).Declaring
        (ofSource f .variable policy source) :=
  ⟨fun dialect => filtered_ofSource f dialect source,
    fun policy => declaring_ofSource f policy source⟩

end Findings

end PatternBook
