import PatternBook.Artifact
import PatternBook.Proofs.Record.Printer

/-!
# The library read back

The library that a JSON value stands for, found by looking its fields up by name.  What comes back
is the library as far as it is shown: a path as the text that it is written as, and a file without
its source text.

* `toLibrary?_ofLibrary`: the value of a library gives back all that is shown of it.
-/

namespace PatternBook

/-! ### What is shown -/

/-- The path of the text that the path is written as. -/
def Path.shown (p : Path) : Path := .ofText p.toText

/-- Texts are shown as they are, and no other paths. -/
theorem Path.shown_eq_self_iff {p : Path} : p.shown = p ↔ ∃ t, p = .ofText t := by
  refine ⟨fun h => ⟨p.toText, h.symm⟩, ?_⟩
  rintro ⟨t, rfl⟩
  rw [shown, toText_ofText]

/-- The destination as it is shown. -/
def Destination.shown : Destination → Destination
  | .nowhere => .nowhere
  | .directory path => .directory path.shown

/-- The destination is told by its text: no directory has the name for writing nothing. -/
def Destination.Told : Destination → Prop
  | .nowhere => True
  | .directory path => path.toText ≠ nowhereName

/-- The record as it is shown. -/
def Record.shown (r : Record) : Record := { r with sourcePath := r.sourcePath.shown }

/-- The file as it is shown. -/
def SourceFile.shown (f : SourceFile) : SourceFile :=
  { f with path := f.path.shown, text? := none, records := f.records.map Record.shown }

/-- The section as it is shown. -/
def Section.shown (s : Section) : Section := { s with files := s.files.map SourceFile.shown }

/-- The library as it is shown. -/
def Library.shown (l : Library) : Library :=
  { l with
    destination := l.destination.shown
    sections := l.sections.map Section.shown
    output := l.output.map Path.shown }

namespace Artifact

open Json (Value Number)

/-! ### Decoding -/

/-- A text. -/
def text? : Value → Option Text
  | .string t => some t
  | _ => none

/-- A natural number. -/
def nat? : Value → Option Nat
  | .number (.integer n) => if 0 ≤ n then some n.toNat else none
  | _ => none

section

variable {α β : Type} (read? : Value → Option α)

/-- A list, if all of its items can be read. -/
def list? : Value → Option (List α)
  | .array items => items.mapM read?
  | _ => none

/-- Something or null. -/
def nullable? : Value → Option (Option α)
  | .null => some none
  | v => (read? v).map some

/-- A field that has to be there. -/
def field? (name : Text) (v : Value) : Option α := (v.field? name).bind read?

/-- A field that may be left out. -/
def fieldIfAny? (name : Text) (v : Value) : Option (Option α) :=
  match v.field? name with
  | none => some none
  | some w => (read? w).map some

end

/-- The first of some things with that name. -/
def named? {α : Type} (things : List α) (name : α → Text) (v : Value) : Option α := do
  let t ← text? v
  things.find? fun thing => name thing = t

/-- The destination of a text. -/
def toDestination? (v : Value) : Option Destination := do
  let t ← text? v
  return if t = Destination.nowhereName then .nowhere else .directory (.ofText t)

/-- A path. -/
def toPath? (v : Value) : Option Path := (text? v).map .ofText

/-- The tags of an object; a tag that is not there has no value. -/
def toTags? (v : Value) : Option Tags := do
  let title ← fieldIfAny? text? Tag.title.name v
  let description ← fieldIfAny? text? Tag.description.name v
  let usage ← fieldIfAny? text? Tag.usage.name v
  let sample ← fieldIfAny? text? Tag.sample.name v
  let hidden ← fieldIfAny? text? Tag.hidden.name v
  let deprecated ← fieldIfAny? text? Tag.deprecated.name v
  return { title, description, usage, sample, hidden, deprecated }

/-- A variant. -/
def toVariant? (v : Value) : Option Variant := do
  let kind ← field? (named? [.modifier, .state] VariantKind.name) "kind" v
  let name ← field? text? "name" v
  let description ← field? text? "description" v
  return { kind, name, description }

/-- A variable. -/
def toVariable? (v : Value) : Option Variable := do
  let name ← field? text? "name" v
  let value ← field? text? "value" v
  let comment ← fieldIfAny? text? "comment" v
  return { name, value, comment }

/-- A diagnostic. -/
def toDiagnostic? (v : Value) : Option Diagnostic := do
  let problem ← field?
    (named? [.unreadable, .unclosedComment, .emptyTag, .duplicateTag] Problem.name) "kind" v
  let line ← fieldIfAny? nat? "line" v
  let message ← field? text? "message" v
  return { problem, line, message }

/-- A record. -/
def toRecord? (v : Value) : Option Record := do
  let tags ← field? toTags? "tags" v
  let variants ← field? (list? toVariant?) "variants" v
  let body ← field? text? "body" v
  let code ← field? text? "code" v
  let line ← field? nat? "line" v
  let declared ← field? (list? toVariable?) "variables" v
  let sourcePath ← field? toPath? "sourcePath" v
  let sourceExtension ← field? text? "sourceExtension" v
  return { tags, variants, body, code, line, declared, sourcePath, sourceExtension }

/-- A file. -/
def toFile? (v : Value) : Option SourceFile := do
  let path ← field? toPath? "path" v
  let extension ← field? text? "extension" v
  let records ← field? (list? toRecord?) "records" v
  let diagnostics ← field? (list? toDiagnostic?) "diagnostics" v
  return { path, extension, records, diagnostics }

/-- A section. -/
def toSection? (v : Value) : Option Section := do
  let title ← field? text? "title" v
  let mode ← field? (nullable? (named? [.css, .script, .markup, .variable] Mode.name)) "mode" v
  let layout ← field? (named? [.patterns, .declarations] Layout.name) "layout" v
  let files ← field? (list? toFile?) "files" v
  return { title, mode, layout, files }

/-- The template options. -/
def toTemplate? (v : Value) : Option TemplateOptions := do
  let title ← field? text? "title" v
  let selectorPrefix ← field? (nullable? text?) "selectorPrefix" v
  let assets ← field? (list? text?) "assets" v
  return { title, selectorPrefix, assets }

/-- The linked stylesheets and scripts. -/
def toIncludes? (v : Value) : Option Includes := do
  let css ← field? (list? text?) "css" v
  let js ← field? (list? text?) "js" v
  return { css, js }

/-- The library that a value stands for. -/
def toLibrary? (v : Value) : Option Library := do
  let destination ← field? toDestination? "destination" v
  let template ← field? toTemplate? "template" v
  let includes ← field? toIncludes? "include" v
  let sections ← field? (list? toSection?) "sections" v
  let output ← field? (nullable? toPath?) "output" v
  return { destination, template, includes, sections, output }

/-! ### Parts of a value -/

theorem text?_string (t : Text) : text? (.string t) = some t := rfl

theorem nat?_nat (n : Nat) : nat? (.nat n) = some n := by
  rw [Value.nat, nat?, if_pos (Int.natCast_nonneg n), Int.toNat_natCast]

theorem list?_map {α β : Type} {read? : Value → Option β} {write : α → Value}
    {show' : α → β} (h : ∀ a, read? (write a) = some (show' a)) (items : List α) :
    list? read? (.array (items.map write)) = some (items.map show') := by
  rw [list?]
  induction items with
  | nil => rfl
  | cons a rest ih =>
      rw [List.map_cons, List.mapM_cons, h, ih]
      rfl

/-- A list of things that are read back is read back. -/
theorem list?_map_self {α : Type} {read? : Value → Option α} {write : α → Value}
    (h : ∀ a, read? (write a) = some a) (items : List α) :
    list? read? (.array (items.map write)) = some items :=
  (list?_map h items).trans (congrArg some (List.map_id items))

theorem list?_strings (texts : List Text) : list? text? (.strings texts) = some texts :=
  list?_map_self text?_string texts

theorem nullable?_optional {α : Type} {read? : Value → Option α} {x : Option α}
    {word : α → Text} {show' : α → α} (h : ∀ a, read? (.string (word a)) = some (show' a)) :
    nullable? read? (optional (x.map word)) = some (x.map show') := by
  cases x with
  | none => rfl
  | some a =>
      have hread : nullable? read? (.string (word a)) = (read? (.string (word a))).map some := rfl
      rw [Option.map_some, optional, hread, h]
      rfl

/-! ### Records -/

theorem tag_name_injective {s t : Tag} (h : s.name = t.name) : s = t := by
  cases s <;> cases t <;> first | rfl | exact absurd h (by decide)

theorem find?_toList (tags : Tags) (tag : Tag) :
    tags.toList.find? (fun e => decide (e.1 = tag)) = (tags.get tag).map (tag, ·) := by
  cases hfind : tags.toList.find? (fun e => decide (e.1 = tag)) with
  | some e =>
      have hmem := Tags.mem_toList.1 (List.mem_of_find?_eq_some hfind)
      obtain rfl : e.1 = tag := by simpa using List.find?_some hfind
      rw [hmem]
      rfl
  | none =>
      cases hget : tags.get tag with
      | none => rfl
      | some t =>
          have hne := List.find?_eq_none.1 hfind (tag, t) (Tags.mem_toList.2 hget)
          exact absurd (decide_eq_true rfl) hne

/-- A tag is looked up by its name. -/
theorem field?_ofTags (tags : Tags) (tag : Tag) :
    (ofTags tags).field? tag.name = (tags.get tag).map .string := by
  have hname : ∀ e : Tag × Text, (e.1.name = tag.name) = (e.1 = tag) := fun e =>
    propext ⟨tag_name_injective, congrArg Tag.name⟩
  simp only [ofTags, Value.field?, List.find?_map, Function.comp_def, hname, find?_toList,
    Option.map_map]

theorem toTags?_ofTags (tags : Tags) : toTags? (ofTags tags) = some tags := by
  have look : ∀ tag, fieldIfAny? text? tag.name (ofTags tags) = some (tags.get tag) := by
    intro tag
    rw [fieldIfAny?, field?_ofTags]
    cases tags.get tag <;> rfl
  simp only [toTags?, look]
  rfl

theorem toVariant?_ofVariant (v : Variant) : toVariant? (ofVariant v) = some v := by
  have kind : field? (named? [.modifier, .state] VariantKind.name) "kind" (ofVariant v)
      = some v.kind := by
    cases v with
    | mk kind => cases kind <;> rfl
  have name : field? text? "name" (ofVariant v) = some v.name := rfl
  have description : field? text? "description" (ofVariant v) = some v.description := rfl
  rw [toVariant?, kind, name, description]
  rfl

theorem toVariable?_ofVariable (v : Variable) : toVariable? (ofVariable v) = some v := by
  have name : field? text? "name" (ofVariable v) = some v.name := rfl
  have value : field? text? "value" (ofVariable v) = some v.value := rfl
  have comment : fieldIfAny? text? "comment" (ofVariable v) = some v.comment := by
    cases v with
    | mk name value comment => cases comment <;> rfl
  rw [toVariable?, name, value, comment]
  rfl

theorem toDiagnostic?_ofDiagnostic (d : Diagnostic) : toDiagnostic? (ofDiagnostic d) = some d := by
  obtain ⟨problem, line, message⟩ := d
  have kind : field?
      (named? [.unreadable, .unclosedComment, .emptyTag, .duplicateTag] Problem.name) "kind"
      (ofDiagnostic ⟨problem, line, message⟩) = some problem := by
    cases problem <;> rfl
  have line' : fieldIfAny? nat? "line" (ofDiagnostic ⟨problem, line, message⟩) = some line := by
    cases line with
    | none => rfl
    | some n => exact congrArg (Option.map some) (nat?_nat n)
  have message' : field? text? "message" (ofDiagnostic ⟨problem, line, message⟩)
      = some message := by
    cases line <;> rfl
  rw [toDiagnostic?, kind, line', message']
  rfl

theorem toRecord?_ofRecord (r : Record) : toRecord? (ofRecord r) = some r.shown := by
  have tags : field? toTags? "tags" (ofRecord r) = some r.tags := toTags?_ofTags r.tags
  have variants : field? (list? toVariant?) "variants" (ofRecord r) = some r.variants :=
    list?_map_self toVariant?_ofVariant r.variants
  have body : field? text? "body" (ofRecord r) = some r.body := rfl
  have code : field? text? "code" (ofRecord r) = some r.code := rfl
  have line : field? nat? "line" (ofRecord r) = some r.line := nat?_nat r.line
  have declared : field? (list? toVariable?) "variables" (ofRecord r) = some r.declared :=
    list?_map_self toVariable?_ofVariable r.declared
  have sourcePath : field? toPath? "sourcePath" (ofRecord r) = some r.sourcePath.shown := rfl
  have sourceExtension : field? text? "sourceExtension" (ofRecord r) = some r.sourceExtension := rfl
  rw [toRecord?, tags, variants, body, code, line, declared, sourcePath, sourceExtension]
  rfl

/-! ### The library -/

theorem toFile?_ofFile (f : SourceFile) : toFile? (ofFile f) = some f.shown := by
  have path : field? toPath? "path" (ofFile f) = some f.path.shown := rfl
  have extension : field? text? "extension" (ofFile f) = some f.extension := rfl
  have records : field? (list? toRecord?) "records" (ofFile f)
      = some (f.records.map Record.shown) :=
    list?_map toRecord?_ofRecord f.records
  have diagnostics : field? (list? toDiagnostic?) "diagnostics" (ofFile f) = some f.diagnostics :=
    list?_map_self toDiagnostic?_ofDiagnostic f.diagnostics
  rw [toFile?, path, extension, records, diagnostics]
  rfl

theorem toSection?_ofSection (s : Section) : toSection? (ofSection s) = some s.shown := by
  have title : field? text? "title" (ofSection s) = some s.title := rfl
  have mode : field? (nullable? (named? [.css, .script, .markup, .variable] Mode.name)) "mode"
      (ofSection s) = some s.mode := by
    obtain ⟨title, mode, layout, files⟩ := s
    rcases mode with - | (- | - | - | -) <;> rfl
  have layout : field? (named? [.patterns, .declarations] Layout.name) "layout" (ofSection s)
      = some s.layout := by
    obtain ⟨title, mode, layout, files⟩ := s
    cases layout <;> rfl
  have files : field? (list? toFile?) "files" (ofSection s)
      = some (s.files.map SourceFile.shown) :=
    list?_map toFile?_ofFile s.files
  rw [toSection?, title, mode, layout, files]
  rfl

theorem toTemplate?_ofTemplate (t : TemplateOptions) : toTemplate? (ofTemplate t) = some t := by
  have title : field? text? "title" (ofTemplate t) = some t.title := rfl
  have selector : field? (nullable? text?) "selectorPrefix" (ofTemplate t)
      = some t.selectorPrefix := by
    obtain ⟨title, selector, assets⟩ := t
    cases selector <;> rfl
  have assets : field? (list? text?) "assets" (ofTemplate t) = some t.assets :=
    list?_strings t.assets
  rw [toTemplate?, title, selector, assets]
  rfl

theorem toIncludes?_ofIncludes (i : Includes) : toIncludes? (ofIncludes i) = some i := by
  have css : field? (list? text?) "css" (ofIncludes i) = some i.css := list?_strings i.css
  have js : field? (list? text?) "js" (ofIncludes i) = some i.js := list?_strings i.js
  rw [toIncludes?, css, js]
  rfl

theorem toDestination?_toText {d : Destination} (h : d.Told) :
    toDestination? (.string d.toText) = some d.shown := by
  cases d with
  | nowhere => rfl
  | directory path =>
      exact congrArg some (if_neg h)

/-- The value of a library gives back all that is shown of it. -/
theorem toLibrary?_ofLibrary {l : Library} (h : l.destination.Told) :
    toLibrary? (ofLibrary l) = some l.shown := by
  have destination : field? toDestination? "destination" (ofLibrary l)
      = some l.destination.shown :=
    toDestination?_toText h
  have template : field? toTemplate? "template" (ofLibrary l) = some l.template :=
    toTemplate?_ofTemplate l.template
  have includes : field? toIncludes? "include" (ofLibrary l) = some l.includes :=
    toIncludes?_ofIncludes l.includes
  have sections : field? (list? toSection?) "sections" (ofLibrary l)
      = some (l.sections.map Section.shown) :=
    list?_map toSection?_ofSection l.sections
  have output : field? (nullable? toPath?) "output" (ofLibrary l)
      = some (l.output.map Path.shown) :=
    nullable?_optional fun _ => rfl
  rw [toLibrary?, destination, template, includes, sections, output]
  rfl

end Artifact

end PatternBook
