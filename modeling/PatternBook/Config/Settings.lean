import PatternBook.Config.Shape
import PatternBook.Json.Reader
import PatternBook.Library

/-!
# Settings

The configuration as its author wrote it, before any rule is checked.  Sections stay JSON, so that
a missing list, an empty one and an entry of the wrong kind can be told apart.
-/

namespace PatternBook

open Json (Document Fault Value)

/-- The template options as written. -/
structure TemplateSettings where
  title          : Option Text := none
  selectorPrefix : Option Text := none
  assets         : Option (List Text) := none
  deriving DecidableEq, Repr

/-- The configuration as written. -/
structure Settings where
  dest     : Option Text := none
  template : Option TemplateSettings := none
  includes : Option Includes := none
  untagged : Option UntaggedPolicy := none
  sections : Option Value := none
  deriving Repr

/-- A section as written. -/
structure SectionSettings where
  title  : Option Text := none
  files  : Option (List Text) := none
  mode   : Option Text := none
  /-- The layout that its template asks for. -/
  layout : Option Text := none
  deriving DecidableEq, Repr

/-! ### Reading -/

/-- The words for the policies. -/
def UntaggedPolicy.ofText? (t : Text) : Option UntaggedPolicy :=
  if t = "drop" then some .drop else if t = "keep" then some .keep else none

/-- The word for a policy. -/
def UntaggedPolicy.name : UntaggedPolicy → Text
  | .drop => "drop"
  | .keep => "keep"

namespace UntaggedPolicy

/-- A policy by its word. -/
def ofWord (t : Text) : Typed UntaggedPolicy :=
  match ofText? t with
  | some policy => .ok policy
  | none => .error (.shape (.unknownWord t "\x60drop\x60 or \x60keep\x60"))

/-- The null beside a policy that is written as a field. -/
def unit : Document → Typed Unit
  | .null => .ok ()
  | d => Typed.unexpected "unit" d

/-- A policy: its word, or an object with the word as its only key and null as its value. -/
def read (origin : Origin) : Document → Typed UntaggedPolicy
  | .string s => ofWord s
  | .object fields stop =>
    match origin, fields with
    | .value, [(.ok key, d)] => do
      let policy ← ofWord key
      unit d
      return policy
    | .value, _ => .error (.shape (.wrongValue .map "map with a single key"))
    | .text, [] => do
      Typed.ended stop
      .error (.fault .malformed)
    | .text, (.error f, _) :: _ => .error (.fault f)
    | .text, (.ok key, d) :: rest => do
      let policy ← ofWord key
      unit d
      if rest.isEmpty then
        Typed.ended stop
        return policy
      else .error (.fault .malformed)
  | .flawed flaw => .error (.fault flaw.choosing)
  | d =>
    match origin with
    | .value => Typed.unexpected "string or map" d
    | .text => .error (.fault .malformed)

end UntaggedPolicy

/-- How linked stylesheets and scripts are read. -/
def Includes.schema : Schema Includes where
  label := "struct Includes"
  fields := ["css", "js"]
  lenient := true
  initial := {}
  set i name d :=
    if name = "css" then (Typed.texts d).map fun ts => { i with css := ts }
    else (Typed.texts d).map fun ts => { i with js := ts }

/-- How template options are read. -/
def TemplateSettings.schema (origin : Origin) : Schema TemplateSettings where
  label := "struct RawTemplate"
  fields := ["title", "selectorPrefix", "assets"]
  aliases := [("assetsPath", "assets")]
  initial := {}
  set t name d :=
    if name = "title" then (Typed.optional Typed.text d).map fun v => { t with title := v }
    else if name = "selectorPrefix" then
      (Typed.optional Typed.text d).map fun v => { t with selectorPrefix := v }
    else
      (Typed.optional (Typed.oneOrMany origin 125) d).map fun v => { t with assets := v }

/-- The sections, kept as JSON. -/
def Settings.sectionsValue (origin : Origin) (d : Document) : Typed Value :=
  match d.toValue (if origin = .text then some 126 else none) with
  | .ok v => .ok v
  | .error f => .error (.fault f)

/-- How the configuration is read. -/
def Settings.schema (origin : Origin) : Schema Settings where
  label := "struct RawConfig"
  fields := ["dest", "template", "include", "untaggedBlocks", "sections"]
  aliases := [("destination", "dest")]
  initial := {}
  set s name d :=
    if name = "dest" then (Typed.optional Typed.text d).map fun v => { s with dest := v }
    else if name = "template" then
      (Typed.optional ((TemplateSettings.schema origin).read origin) d).map
        fun v => { s with template := v }
    else if name = "include" then
      (Typed.optional (Includes.schema.read origin) d).map fun v => { s with includes := v }
    else if name = "untaggedBlocks" then
      (Typed.optional (UntaggedPolicy.read origin) d).map fun v => { s with untagged := v }
    else
      (Typed.optional (Settings.sectionsValue origin) d).map fun v => { s with sections := v }

/-- How the template of a section is read. -/
def SectionSettings.templateSchema : Schema (Option Text) where
  label := "struct RawSectionTemplate"
  fields := ["layout"]
  initial := none
  set _ _ d := Typed.optional Typed.text d

/-- How a section is read. -/
def SectionSettings.schema : Schema SectionSettings where
  label := "struct RawSection"
  fields := ["title", "files", "mode", "template"]
  initial := {}
  set s name d :=
    if name = "title" then (Typed.optional Typed.text d).map fun v => { s with title := v }
    else if name = "files" then
      (Typed.optional (Typed.oneOrMany .value 0) d).map fun v => { s with files := v }
    else if name = "mode" then (Typed.optional Typed.text d).map fun v => { s with mode := v }
    else
      (Typed.optional (SectionSettings.templateSchema.read .value) d).map
        fun v => { s with layout := v.join }

namespace Settings

/-- The settings of a value. -/
def ofValue (v : Value) : Typed Settings :=
  (schema .value).read .value (Document.ofValue v)

/-- The settings of a text. -/
def ofText (t : Text) : Typed Settings :=
  match Document.ofText t with
  | (d, fault) => do
    let settings ← (schema .text).read .text d
    match fault with
    | some f => .error (.fault f)
    | none => return settings

end Settings

end PatternBook
