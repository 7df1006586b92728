import PatternBook.Proofs.Comment.Returns
import PatternBook.Record.Findings

/-!
# Carriage returns in a source

A source with a carriage return in front of each of its newlines says the same, as long as no
string of it goes over the end of a line.  Where one does, the backslash in front of the newline
takes the newline with it in one form and only the carriage return in the other, and what follows
is read as more of the string, or is not.

* `Findings.ofSource_withReturns`: the records and the diagnostics of both forms.
* `Findings.exists_swallowed_comment`: a source whose two forms say different things.
-/

namespace PatternBook

open Text (lines_withReturns trim_withReturns withReturns withoutReturns withoutReturns_withReturns)

/-- The record without the carriage returns in its code. -/
def Record.withoutReturns (r : Record) : Record := { r with code := Text.withoutReturns r.code }

theorem annotate_withReturns (policy : UntaggedPolicy) (firstLine : Nat) {t : Text}
    (h : '\r' ∉ t) : annotate policy firstLine (withReturns t) = annotate policy firstLine t := by
  rw [annotate, lines_withReturns h, annotate]

namespace Findings

/-- The findings without the carriage returns in the code of their records. -/
def withoutReturns (x : Findings) : Findings :=
  { x with records := x.records.map Record.withoutReturns }

theorem declarations_withReturns (dialect : Dialect) {code : Text} (h : '\r' ∉ code) :
    declarations dialect (withReturns code) = declarations dialect code := by
  cases dialect with
  | standard => rfl
  | «variable» => rw [declarations, Declaration.ofCode, lines_withReturns h]; rfl

/-- A chapter says the same in both forms. -/
theorem ofChapter_returned {c c' : Chapter} (h : c.Returned c') (htext : '\r' ∉ c.head.text)
    (hcode : '\r' ∉ c.code) (dialect : Dialect) (policy : UntaggedPolicy) :
    (ofChapter dialect policy c').withoutReturns = ofChapter dialect policy c := by
  have htrim : '\r' ∉ Text.trim c.code := fun hm => hcode (Text.trim_subset c.code hm)
  have hblock : annotate policy c'.head.line c'.head.text =
      annotate policy c.head.line c.head.text := by
    rw [h.line, h.text, annotate_withReturns policy _ htext]
  have hreturns : Text.withoutReturns (withReturns (Text.trim c.code)) = Text.trim c.code :=
    withoutReturns_withReturns htrim
  rw [withoutReturns, ofChapter, ofChapter, hblock, h.code, trim_withReturns,
    declarations_withReturns dialect htrim, h.line, List.map_map]
  simp only [Function.comp_def, Record.withoutReturns, hreturns]

/-- So do chapters, one after the other. -/
theorem map_ofChapter_returned {cs cs' : List Chapter} (h : List.Forall₂ Chapter.Returned cs cs')
    (hcs : ∀ c ∈ cs, '\r' ∉ c.head.text ∧ '\r' ∉ c.code) (dialect : Dialect)
    (policy : UntaggedPolicy) :
    (cs'.map (ofChapter dialect policy)).map withoutReturns
      = cs.map (ofChapter dialect policy) := by
  induction h with
  | nil => rfl
  | cons h _ ih =>
      obtain ⟨⟨htext, hcode⟩, hrest⟩ := List.forall_mem_cons.1 hcs
      rw [List.map_cons, List.map_cons, List.map_cons, ih hrest, ofChapter_returned h htext hcode]

/-- **A source says the same in both forms**, if no string of it goes over the end of a line. -/
theorem ofSource_withReturns {f : Family} {source : Text} (hreturn : '\r' ∉ source)
    (hstrings : ∀ t, Token.quoted t ∈ tokens f source → '\n' ∉ t) (dialect : Dialect)
    (policy : UntaggedPolicy) :
    (ofSource f dialect policy (withReturns source)).withoutReturns =
      ofSource f dialect policy source := by
  have hclean : ∀ c ∈ chapters f source, '\r' ∉ c.head.text ∧ '\r' ∉ c.code := fun c hc =>
    ⟨fun hm => hreturn ((subset_chapters c hc).1 hm),
      fun hm => hreturn ((subset_chapters c hc).2 hm)⟩
  have hparts := map_ofChapter_returned (chapters_withReturns hstrings) hclean dialect policy
  rw [ofSource, withoutReturns, unclosed_withReturns hstrings, ofSource, ← hparts]
  simp only [List.flatMap_map, List.map_flatMap]
  rfl

/-- Two strings that end with their lines, one of them with its quote; a comment with a tag; and one
that is never closed. -/
def bothForms : Text :=
  "a \"b\nc 'd'\n/* @title A\n   B */\n--x: 1px;\n--y: 2px; // z\n/* w\n"

theorem ofSource_withReturns_bothForms :
    '\r' ∉ bothForms ∧ (∀ t, Token.quoted t ∈ tokens .css bothForms → '\n' ∉ t) ∧
      (ofSource .css .variable .keep (withReturns bothForms)).withoutReturns =
        ofSource .css .variable .keep bothForms ∧
      (ofSource .css .variable .keep bothForms).records.map (·.line) = [3] := by
  have hstring : ∀ x ∈ tokens .css bothForms,
      (match x with | .quoted t => !t.contains '\n' | _ => true) = true := by decide +kernel
  have hstrings : ∀ t, Token.quoted t ∈ tokens .css bothForms → '\n' ∉ t := fun t ht => by
    simpa using hstring _ ht
  have hreturn : '\r' ∉ bothForms := by decide +kernel
  exact ⟨hreturn, hstrings, ofSource_withReturns hreturn hstrings .variable .keep,
    by decide +kernel⟩

/-! ### Strings over the end of a line -/

/-- **A comment is swallowed in one form only**: behind a backslash a newline that stands alone is
part of a string, while one behind a carriage return ends it. -/
theorem exists_swallowed_comment :
    ∃ source : Text, '\r' ∉ source ∧ (ofSource .css .standard .drop source).records.length = 0 ∧
      (ofSource .css .standard .drop (withReturns source)).records.length = 1 :=
  ⟨"\"\\\n/* @title A */\n", by decide +kernel, by decide +kernel, by decide +kernel⟩

end Findings

end PatternBook
