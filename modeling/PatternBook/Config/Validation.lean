import PatternBook.Config.Settings

/-!
# Checked configurations

The rules for settings.  They are checked in a fixed order before anything else is done, and the
first violation is the answer.
-/

namespace PatternBook

open Json (Document Value)

/-- A section of a checked configuration. -/
structure SectionConfig where
  title  : Text
  /-- File patterns; at least one, and none of them blank. -/
  files  : List Text
  mode   : Option Mode
  layout : Layout
  deriving DecidableEq, Repr

/-- A checked configuration. -/
structure Config where
  destination : Destination
  template    : TemplateOptions
  includes    : Includes
  untagged    : UntaggedPolicy
  sections    : List SectionConfig
  deriving DecidableEq, Repr

/-! ### Violations -/

/-- A rule that settings break; `index` is the section, counted from zero. -/
inductive Violation where
  | noDestination
  | sectionsNotAList
  | noSectionObject
  | noTitle (index : Nat)
  | noFiles (index : Nat)
  | unknownMode (index : Nat) (mode : Text)
  | unknownLayout (index : Nat) (layout : Text)
  | malformedSection (index : Nat) (reason : Text)
  | noAssets
  | noTemplateOptions
  deriving DecidableEq, Repr

namespace Violation

/-- The wording of a violation. -/
def message : Violation → Text
  | .noDestination => "config.dest is required; use \"none\" to skip writing output"
  | .sectionsNotAList => "config.sections must be an array of section objects"
  | .noSectionObject => "config.sections must contain at least one section object"
  | .noTitle _ => "every section requires a title"
  | .noFiles _ => "every section requires files"
  | .unknownMode _ mode => "unknown section mode \"" ++ mode ++ "\""
  | .unknownLayout _ layout => "unknown section template layout \"" ++ layout ++ "\""
  | .malformedSection _ reason => "section is malformed: " ++ reason
  | .noAssets => "template.selectorPrefix requires template.assets"
  | .noTemplateOptions =>
    "template.selectorPrefix with include requires template options (template.assets)"

/-- The name of the broken rule. -/
def kind : Violation → Text
  | .noDestination => "ConfigDestMissing"
  | .sectionsNotAList => "ConfigSectionArrayMissing"
  | .noSectionObject => "ConfigSectionObjectMissing"
  | .noTitle _ => "ConfigSectionTitleMissing"
  | .noFiles _ => "ConfigSectionFileMissing"
  | .unknownMode _ _ => "ConfigSectionModeInvalid"
  | .unknownLayout _ _ => "ConfigSectionTemplateInvalid"
  | .malformedSection _ _ => "ConfigSectionMalformed"
  | .noAssets => "ConfigPrefixAssetsMissing"
  | .noTemplateOptions => "ConfigTemplateOptionsMissing"

/-- The section at fault, if the rule is about one. -/
def sectionIndex : Violation → Option Nat
  | .noTitle index | .noFiles index | .unknownMode index _ | .unknownLayout index _
  | .malformedSection index _ => some index
  | _ => none

end Violation

/-! ### The rules -/

/-- A text that is not blank. -/
def notBlank (t : Text) : Bool := !(Text.trim t).isEmpty

/-- The destination that settings name; blanks around it do not count. -/
def checkDestination (dest : Option Text) : Except Violation Destination :=
  match dest.map Text.trim with
  | none => .error .noDestination
  | some t =>
    if t.isEmpty then .error .noDestination
    else if t = Destination.nowhereName then .ok .nowhere
    else .ok (.directory (.ofText t))

/-- The mode of a section. -/
def checkMode (index : Nat) (mode : Option Text) : Except Violation (Option Mode) :=
  match mode with
  | none => .ok none
  | some word =>
    match Mode.ofText? word with
    | some m => .ok (some m)
    | none => .error (.unknownMode index word)

/-- The layout of a section: what it asks for, or else what suits its mode. -/
def checkLayout (index : Nat) (mode : Option Mode) (layout : Option Text) :
    Except Violation Layout :=
  match layout with
  | none => .ok (if mode = some .variable then .declarations else .patterns)
  | some word =>
    match Layout.ofText? word with
    | some l => .ok l
    | none => .error (.unknownLayout index word)

/-- A section whose fields have been read. -/
def checkSectionSettings (index : Nat) (s : SectionSettings) : Except Violation SectionConfig := do
  let title ←
    match s.title with
    | some t => if notBlank t then .ok t else .error (.noTitle index)
    | none => .error (.noTitle index)
  let files := (s.files.getD []).filter notBlank
  if files.isEmpty then .error (.noFiles index)
  let mode ← checkMode index s.mode
  let layout ← checkLayout index mode s.layout
  return ⟨title, files, mode, layout⟩

/-- An entry of the list of sections. -/
def checkSection (index : Nat) (v : Value) : Except Violation SectionConfig :=
  match v with
  | .object _ =>
    match SectionSettings.schema.read .value (Document.ofValue v) with
    | .ok s => checkSectionSettings index s
    | .error e => .error (.malformedSection index e.message)
  | _ => .error .noSectionObject

/-- The entries of the list of sections from an index on. -/
def checkSections (index : Nat) : List Value → Except Violation (List SectionConfig)
  | [] => .ok []
  | v :: rest => do
    let s ← checkSection index v
    let ss ← checkSections (index + 1) rest
    return s :: ss

/-- The template options: a selector prefix needs assets to apply to. -/
def checkTemplate (template : Option TemplateSettings) (hasIncludes : Bool) :
    Except Violation TemplateOptions :=
  match template with
  | none => .ok {}
  | some t =>
    let assets := t.assets.getD []
    let selectorPrefix := t.selectorPrefix.filter notBlank
    if selectorPrefix.isSome ∧ assets.isEmpty then
      .error (if hasIncludes then .noTemplateOptions else .noAssets)
    else
      .ok { title := (t.title.filter notBlank).getD defaultTitle
            selectorPrefix := selectorPrefix
            assets := assets }

namespace Settings

/-- The sections of settings as a list of JSON values, which is not empty. -/
def sectionList (s : Settings) : Except Violation (List Value) :=
  match s.sections with
  | some (.array []) => .error .noSectionObject
  | some (.array items) => .ok items
  | _ => .error .sectionsNotAList

/-- The configuration that settings describe, or the first rule they break. -/
def validate (s : Settings) : Except Violation Config := do
  let destination ← checkDestination s.dest
  let items ← s.sectionList
  let sections ← checkSections 0 items
  let template ← checkTemplate s.template s.includes.isSome
  return { destination := destination
           template := template
           includes := s.includes.getD {}
           untagged := s.untagged.getD .drop
           sections := sections }

end Settings

end PatternBook
