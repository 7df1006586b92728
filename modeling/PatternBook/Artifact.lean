import PatternBook.Json.Printer
import PatternBook.Library

/-!
# The library as JSON

The whole library as one JSON value, in the order sections, files, records; a comment or a line
that is not there is left out, and paths are written as text.
-/

namespace PatternBook

open Json (Value)

namespace Artifact

/-- A text, or null. -/
def optional : Option Text → Value
  | some t => .string t
  | none => .null

/-- A field that is left out when there is nothing to say. -/
def fieldIfAny (name : Text) : Option Value → List (Text × Value)
  | some v => [(name, v)]
  | none => []

/-- The tags that are present. -/
def ofTags (tags : Tags) : Value :=
  .object (tags.toList.map fun entry => (entry.1.name, .string entry.2))

/-- A variant. -/
def ofVariant (v : Variant) : Value :=
  .object [("kind", .string v.kind.name), ("name", .string v.name),
    ("description", .string v.description)]

/-- A variable. -/
def ofVariable (v : Variable) : Value :=
  .object (("name", .string v.name) :: ("value", .string v.value) ::
    fieldIfAny "comment" (v.comment.map .string))

/-- A diagnostic. -/
def ofDiagnostic (d : Diagnostic) : Value :=
  .object (("kind", .string d.problem.name) ::
    (fieldIfAny "line" (d.line.map .nat)).append [("message", .string d.message)])

/-- A record. -/
def ofRecord (r : Record) : Value :=
  .object [("tags", ofTags r.tags), ("variants", .array (r.variants.map ofVariant)),
    ("body", .string r.body), ("code", .string r.code), ("line", .nat r.line),
    ("variables", .array (r.declared.map ofVariable)),
    ("sourcePath", .string r.sourcePath.toText), ("sourceExtension", .string r.sourceExtension)]

/-- A file. -/
def ofFile (f : SourceFile) : Value :=
  .object [("path", .string f.path.toText), ("extension", .string f.extension),
    ("records", .array (f.records.map ofRecord)),
    ("diagnostics", .array (f.diagnostics.map ofDiagnostic))]

/-- A section. -/
def ofSection (s : Section) : Value :=
  .object [("title", .string s.title), ("mode", optional (s.mode.map (·.name))),
    ("layout", .string s.layout.name), ("files", .array (s.files.map ofFile))]

/-- The template options. -/
def ofTemplate (t : TemplateOptions) : Value :=
  .object [("title", .string t.title), ("selectorPrefix", optional t.selectorPrefix),
    ("assets", .strings t.assets)]

/-- The linked stylesheets and scripts. -/
def ofIncludes (i : Includes) : Value :=
  .object [("css", .strings i.css), ("js", .strings i.js)]

/-- The library. -/
def ofLibrary (l : Library) : Value :=
  .object [("destination", .string l.destination.toText), ("template", ofTemplate l.template),
    ("include", ofIncludes l.includes), ("sections", .array (l.sections.map ofSection)),
    ("output", optional (l.output.map (·.toText)))]

/-- The document: the value and a newline. -/
def document (l : Library) : Text := (ofLibrary l).print ++ "\n"

end Artifact

end PatternBook
