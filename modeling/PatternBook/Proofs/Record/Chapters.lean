import PatternBook.Record.Findings

/-!
# Findings chapter by chapter

The findings of a source are those of its chapters, one after the other.

* `records_ofSource`, `diagnostics_ofSource`: what the chapters give.
* `records_ofChapter`, `of_mem_ofChapter`: the record of a chapter.
-/

namespace PatternBook.Findings

variable {f : Family} {dialect : Dialect} {policy : UntaggedPolicy}

/-- The record with other code, and with what that declares. -/
def recode (dialect : Dialect) (code : Text) (r : Record) : Record :=
  { r with code := code, declared := declarations dialect code }

theorem records_ofSource (source : Text) :
    (ofSource f dialect policy source).records
      = (chapters f source).flatMap (ofChapter dialect policy · |>.records) := by
  simp only [ofSource, List.flatMap_map]

theorem diagnostics_ofSource (source : Text) :
    (ofSource f dialect policy source).diagnostics
      = (chapters f source).flatMap (ofChapter dialect policy · |>.diagnostics) ++
        (extract f source).unclosed.toList.map (unclosedComment f) := by
  simp only [ofSource, List.flatMap_map]

/-- The diagnostics of a chapter are those of its block. -/
theorem diagnostics_ofChapter (c : Chapter) :
    (ofChapter dialect policy c).diagnostics
      = (annotate policy c.head.line c.head.text).diagnostics := rfl

/-- A chapter has one record or none. -/
theorem records_ofChapter (dialect : Dialect) (policy : UntaggedPolicy) (c : Chapter) :
    (ofChapter dialect policy c).records = [] ∨
      ∃ r, (ofChapter dialect policy c).records = [r] := by
  cases hrecord : (annotate policy c.head.line c.head.text).record? with
  | none => exact .inl (by rw [ofChapter, hrecord]; rfl)
  | some s => exact .inr ⟨_, by rw [ofChapter, hrecord]; rfl⟩

/-- The record of a chapter has the code of the chapter and what is declared there. -/
theorem of_mem_ofChapter {c : Chapter} {r : Record} (h : r ∈ (ofChapter dialect policy c).records) :
    r.code = Text.trim c.code ∧ recode dialect r.code r = r := by
  obtain ⟨s, -, rfl⟩ := List.mem_map.1 h
  exact ⟨rfl, rfl⟩

/-- It stands where the block of the chapter starts. -/
theorem line_of_mem_ofChapter {c : Chapter} {r : Record}
    (h : r ∈ (ofChapter dialect policy c).records) : r.line = c.head.line := by
  obtain ⟨s, -, rfl⟩ := List.mem_map.1 h
  rfl

end PatternBook.Findings
