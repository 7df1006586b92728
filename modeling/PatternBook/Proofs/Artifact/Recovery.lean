import PatternBook.Proofs.Artifact.Decoding
import PatternBook.Proofs.Config.Verdict
import PatternBook.Proofs.Json.Reading
import PatternBook.Proofs.Json.Writing

/-!
# The document loses nothing

The JSON document of a library is one value and a newline, and whoever reads that value has the
library back as far as it is shown: paths as texts, and files without their source texts.

* `plain_ofLibrary`: nothing in the value is open to interpretation.
* `document_shown`: what is not shown has no part in the document.
* `document_recovers`: the document is JSON, and the library is read back from it.
-/

namespace PatternBook

/-- The line numbers of the library fit into 64 bits. -/
def Library.LinesFit (l : Library) : Prop :=
  ∀ f ∈ l.files, (∀ r ∈ f.records, r.line < 2 ^ 64) ∧ ∀ d ∈ f.diagnostics, ∀ n ∈ d.line, n < 2 ^ 64

/-- A validated destination is told by its text. -/
theorem Settings.told_of_validate {s : Settings} {c : Config} (h : s.validate = .ok c) :
    c.destination.Told := by
  obtain ⟨d, -, -, hdestination⟩ := (validate_eq_ok_iff.1 h).destination
  rw [hdestination, Destination.named]
  split
  · trivial
  · next hne => rwa [Destination.Told, Path.toText_ofText]

namespace Artifact

open Json (Value SpellsValue SpellsText)
open Json.Value (Plain AllPlain AllPlainFields PlainField allPlain_iff allPlainFields_iff)

/-! ### The value is plain -/

theorem plain_string (t : Text) : Plain (.string t) := trivial

theorem plain_nat {n : Nat} (h : n < 2 ^ 64) : Plain (.nat n) := by
  refine ⟨?_, ?_⟩ <;> omega

theorem plain_strings (texts : List Text) : Plain (.strings texts) := by
  refine allPlain_iff.2 fun v hv => ?_
  obtain ⟨t, -, rfl⟩ := List.mem_map.1 hv
  exact plain_string t

theorem plain_optional (t : Option Text) : Plain (optional t) := by
  cases t <;> trivial

theorem plain_map {α : Type} {write : α → Value} {items : List α}
    (h : ∀ a ∈ items, Plain (write a)) : Plain (.array (items.map write)) := by
  refine allPlain_iff.2 fun v hv => ?_
  obtain ⟨a, ha, rfl⟩ := List.mem_map.1 hv
  exact h a ha

theorem plain_ofTags (tags : Tags) : Plain (ofTags tags) := by
  refine ⟨?_, allPlainFields_iff.2 fun field hfield => ?_⟩
  · have hnames : (tags.toList.map fun e => (e.1.name, Value.string e.2)).map Prod.fst =
        (tags.toList.map Prod.fst).map Tag.name := by
      simp only [List.map_map]
      rfl
    rw [hnames]
    exact (Tags.nodup_toList tags).map fun _ _ => tag_name_injective
  · obtain ⟨e, -, rfl⟩ := List.mem_map.1 hfield
    exact plain_string e.2

theorem plain_ofVariant (v : Variant) : Plain (ofVariant v) :=
  ⟨by simp, trivial, trivial, trivial, trivial⟩

theorem plain_ofVariable (v : Variable) : Plain (ofVariable v) := by
  obtain ⟨name, value, comment⟩ := v
  cases comment with
  | none => exact ⟨by simp [fieldIfAny], trivial, trivial, trivial⟩
  | some => exact ⟨by simp [fieldIfAny], trivial, trivial, trivial, trivial⟩

theorem plain_ofDiagnostic {d : Diagnostic} (h : ∀ n ∈ d.line, n < 2 ^ 64) :
    Plain (ofDiagnostic d) := by
  obtain ⟨problem, line, message⟩ := d
  cases line with
  | none => exact ⟨by simp [fieldIfAny], trivial, trivial, trivial⟩
  | some n => exact ⟨by simp [fieldIfAny], trivial, plain_nat (h n rfl), trivial, trivial⟩

theorem plain_ofRecord {r : Record} (h : r.line < 2 ^ 64) : Plain (ofRecord r) :=
  ⟨by simp, plain_ofTags r.tags, plain_map fun v _ => plain_ofVariant v, trivial, trivial,
    plain_nat h, plain_map fun v _ => plain_ofVariable v, trivial, trivial, trivial⟩

theorem plain_ofFile {f : SourceFile} (h : (∀ r ∈ f.records, r.line < 2 ^ 64) ∧
    ∀ d ∈ f.diagnostics, ∀ n ∈ d.line, n < 2 ^ 64) : Plain (ofFile f) :=
  ⟨by simp, trivial, trivial, plain_map fun r hr => plain_ofRecord (h.1 r hr),
    plain_map fun d hd => plain_ofDiagnostic (h.2 d hd), trivial⟩

theorem plain_ofSection {s : Section} (h : ∀ f ∈ s.files, Plain (ofFile f)) :
    Plain (ofSection s) :=
  ⟨by simp, trivial, plain_optional _, trivial, plain_map h, trivial⟩

theorem plain_ofLibrary {l : Library} (h : l.LinesFit) : Plain (ofLibrary l) := by
  have sections : ∀ s ∈ l.sections, Plain (ofSection s) := fun s hs =>
    plain_ofSection fun f hf => plain_ofFile (h f (List.mem_flatMap.2 ⟨s, hs, hf⟩))
  have template : Plain (ofTemplate l.template) :=
    ⟨by simp, trivial, plain_optional _, plain_strings _, trivial⟩
  have includes : Plain (ofIncludes l.includes) :=
    ⟨by simp, plain_strings _, plain_strings _, trivial⟩
  exact ⟨by simp, trivial, template, includes, plain_map sections, plain_optional _, trivial⟩

/-! ### The document -/

/-- What is not shown has no part in the document. -/
theorem ofLibrary_shown (l : Library) : ofLibrary l.shown = ofLibrary l := by
  have path : ∀ p : Path, p.shown.toText = p.toText := fun p => Path.toText_ofText p.toText
  have record : ∀ r : Record, ofRecord r.shown = ofRecord r := fun r => by
    simp only [ofRecord, Record.shown, path]
  have file : ∀ f : SourceFile, ofFile f.shown = ofFile f := fun f => by
    simp only [ofFile, SourceFile.shown, path, List.map_map, Function.comp_def, record]
  have section_ : ∀ s : Section, ofSection s.shown = ofSection s := fun s => by
    simp only [ofSection, Section.shown, List.map_map, Function.comp_def, file]
  have destination : l.destination.shown.toText = l.destination.toText := by
    cases l.destination with
    | nowhere => rfl
    | directory p => exact path p
  simp only [ofLibrary, Library.shown, destination, List.map_map, Function.comp_def, section_,
    Option.map_map, path]

theorem spells_document {l : Library} (h : l.LinesFit) :
    ∃ t, document l = t ++ "\n" ∧ SpellsValue (ofLibrary l) t :=
  ⟨(ofLibrary l).print, rfl, Json.Value.spells_printAt 0 (plain_ofLibrary h)⟩

theorem spellsText_document {l : Library} (h : l.LinesFit) :
    SpellsText (ofLibrary l) (document l) := by
  obtain ⟨t, ht, hspells⟩ := spells_document h
  rw [ht]
  exact .mk Json.blanks_nil hspells (by simp [Json.Blanks])

/-- **The JSON document loses nothing.**  The document of a library is one value and a newline;
whatever value it is read as, the library is found in it as far as it is shown; so two libraries
have one document exactly when they are shown alike.  No validated destination is lost. -/
theorem document_recovers {l : Library} (hlines : l.LinesFit) (htold : l.destination.Told) :
    (∃ t, document l = t ++ "\n" ∧ SpellsValue (ofLibrary l) t ∧ Plain (ofLibrary l)) ∧
      (∀ v, SpellsText v (document l) → toLibrary? v = some l.shown) ∧
      (∀ l' : Library, l'.LinesFit → l'.destination.Told →
        (document l = document l' ↔ l.shown = l'.shown)) ∧
      ∀ (s : Settings) (c : Config), s.validate = .ok c → c.destination.Told := by
  have recovers : ∀ {l : Library}, l.LinesFit → l.destination.Told →
      ∀ v, SpellsText v (document l) → toLibrary? v = some l.shown := by
    intro l hlines htold v hv
    rw [hv.unique (spellsText_document hlines), toLibrary?_ofLibrary htold]
  obtain ⟨t, ht, hspells⟩ := spells_document hlines
  refine ⟨⟨t, ht, hspells, plain_ofLibrary hlines⟩, recovers hlines htold,
    fun l' hlines' htold' => ⟨fun hsame => ?_, fun hshown => ?_⟩,
    fun _ _ => Settings.told_of_validate⟩
  · have hl := recovers hlines htold _ (spellsText_document hlines)
    have hl' := recovers hlines' htold' _ (hsame ▸ spellsText_document hlines)
    exact Option.some.inj (hl.symm.trans hl')
  · rw [document, document, ← ofLibrary_shown l, hshown, ofLibrary_shown]

/-- A library with all that may go wrong on the way: quotes, backslashes, control characters and
characters above the first plane, a path that is no text, empty lists, a comment and a line that
are there and ones that are not, and the greatest line. -/
def troublesome : Library where
  destination := .directory (.ofText "none/of these")
  template := { title := "\"\\\x01\n", selectorPrefix := some [] }
  includes := { js := ["/* \u007f */", "😀"] }
  sections := [
    { title := "none", mode := none, layout := .declarations, files := [] },
    { title := "null", mode := some .variable, layout := .patterns, files := [
      { path := ⟨[0x61, 0xFF]⟩, extension := "css", text? := some "lost", records := [
        { tags := { sample := some "\x7b\x7d", hidden := some [] }, line := 2 ^ 64 - 1,
          variants := [⟨.state, ":hover", []⟩],
          declared := [⟨"--a", "1", none⟩, ⟨"--b", "2", some []⟩] }],
        diagnostics := [⟨.emptyTag, some 0, "\t"⟩, ⟨.unreadable, none, []⟩] }] }]
  output := none

theorem document_recovers_troublesome :
    troublesome.LinesFit ∧ troublesome.destination.Told ∧
      (∃ t, document troublesome = t ++ "\n" ∧ SpellsValue (ofLibrary troublesome) t ∧
        Plain (ofLibrary troublesome)) ∧
      ∀ v, SpellsText v (document troublesome) → toLibrary? v = some troublesome.shown := by
  have hlines : troublesome.LinesFit := by
    simp [Library.LinesFit, Library.files, troublesome]
  have htold : troublesome.destination.Told := by
    rw [troublesome, Destination.Told, Path.toText_ofText]
    decide
  obtain ⟨hdocument, hrecovers, -⟩ := document_recovers hlines htold
  exact ⟨hlines, htold, hdocument, hrecovers⟩

end Artifact

end PatternBook
