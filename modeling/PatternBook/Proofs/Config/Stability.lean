import PatternBook.Proofs.Config.Verdict

/-!
# Validation is stable

A checked configuration can be written down as settings again: everything is spelled out in them,
modes and layouts by their own words.  These settings describe the configuration that they were
written from, since it has nothing left that validation would change: no blanks around its
destination, no blank titles, patterns or prefixes, and assets wherever there is a prefix.

* `Config.toSettings`: the settings of a checked configuration.
* `SectionConfig.becomes_toValue`: the entry of a checked section reads as that section.
* `Settings.validate_toSettings`: the settings of a checked configuration validate to it.
-/

namespace PatternBook

open Json (Document Value)

/-! ### Checked configurations as settings -/

/-- The section as it is written, with its keys in order. -/
def SectionConfig.toValue (c : SectionConfig) : Value :=
  let fields : List (Text × Value) := [
    ("files", .strings c.files),
    ("template", .object [("layout", .string c.layout.name)]),
    ("title", .string c.title)]
  .object (match c.mode with
    | none => fields
    | some m => Json.insertField "mode" (.string m.name) fields)

/-- The fields of the section as it is written. -/
def SectionConfig.toSettings (c : SectionConfig) : SectionSettings where
  title := some c.title
  files := some c.files
  mode := c.mode.map Mode.name
  layout := some c.layout.name

/-- The configuration as it is written. -/
def Config.toSettings (c : Config) : Settings where
  dest := some c.destination.toText
  template := some
    { title := some c.template.title
      selectorPrefix := c.template.selectorPrefix
      assets := some c.template.assets }
  includes := some c.includes
  untagged := some c.untagged
  sections := some (.array (c.sections.map SectionConfig.toValue))

/-! ### Destinations -/

theorem Destination.toText_named (d : Text) : (named d).toText = d.trim := by
  unfold named
  split
  · next h => exact h.symm
  · exact Path.toText_ofText d.trim

/-- A destination is named by its own text. -/
theorem Destination.named_toText_named (d : Text) : named (named d).toText = named d := by
  rw [toText_named, named, Text.trim_trim, named]

/-! ### Sections -/

theorem Document.ofItems_strings (texts : List Text) :
    Document.ofItems (texts.map .string) = texts.map .string := by
  induction texts with
  | nil => rfl
  | cons t texts ih =>
      rw [List.map_cons, Document.ofItems, ih]
      rfl

theorem Typed.oneOrMany_strings (texts : List Text) :
    Typed.optional (Typed.oneOrMany .value 0) (Document.ofValue (.strings texts))
      = .ok (some texts) := by
  have hmany : Typed.oneOrMany? (Document.ofValue (.strings texts)) = some texts := by
    rw [Value.strings, Document.ofValue, Document.ofItems_strings, Typed.oneOrMany?]
    induction texts with
    | nil => rfl
    | cons t texts ih =>
        rw [List.map_cons, List.mapM_cons, ih]
        rfl
  have hread : Typed.oneOrMany .value 0 (Document.ofValue (.strings texts)) = .ok texts := by
    rw [Typed.oneOrMany, hmany]
    rfl
  change (Typed.oneOrMany .value 0 (Document.ofValue (.strings texts))).map some = _
  rw [hread]
  rfl

namespace SectionConfig

/-- The files come first, whatever else is written. -/
theorem readFields_files (files : List Text) (rest : List (Text × Value)) :
    SectionSettings.schema.readFields [] {} (Document.ofFields (("files", .strings files) :: rest))
      = SectionSettings.schema.readFields ["files"] { files := some files }
          (Document.ofFields rest) := by
  change (Typed.optional (Typed.oneOrMany .value 0) (Document.ofValue (.strings files))).map
      (fun v => ({ files := v } : SectionSettings)) >>=
    (SectionSettings.schema.readFields ["files"] · (Document.ofFields rest)) = _
  rw [Typed.oneOrMany_strings]
  rfl

theorem reads_of_readFields {files : List Text} {rest : List (Text × Value)}
    {s : SectionSettings}
    (h : SectionSettings.schema.readFields ["files"] { files := some files }
      (Document.ofFields rest) = .ok s) :
    SectionSettings.Reads (.object (("files", .strings files) :: rest)) s := by
  refine ⟨⟨_, rfl⟩, ?_⟩
  rw [Document.ofValue, Schema.read]
  exact bind_eq_ok_iff.2 ⟨s, (readFields_files files rest).trans h, rfl⟩

/-- The entry of a section reads as the fields that were written. -/
theorem reads_toValue (c : SectionConfig) : SectionSettings.Reads c.toValue c.toSettings := by
  obtain ⟨title, files, mode, layout⟩ := c
  cases mode with
  | none => exact reads_of_readFields rfl
  | some m => exact reads_of_readFields rfl

/-- A section that passed the checks passes them again. -/
theorem describes_toSettings {s : SectionSettings} {c : SectionConfig} (h : s.Describes c) :
    c.toSettings.Describes c where
  title := ⟨rfl, h.title.2⟩
  files := by
    refine ⟨?_, h.files.2⟩
    have hink : ∀ p ∈ c.files, p.any Text.isInk = true := fun p hp => by
      rw [h.files.1] at hp
      exact (List.mem_filter.1 hp).2
    exact (List.filter_eq_self.2 hink).symm
  mode := by
    cases hmode : c.mode with
    | none => exact .inl ⟨by rw [toSettings, hmode]; rfl, rfl⟩
    | some m =>
        exact .inr ⟨m.name, m, by rw [toSettings, hmode]; rfl, rfl,
          Mode.ofText?_eq_some_iff.1 (Mode.ofText?_name m)⟩
  known := by
    rintro word ⟨⟩
    exact ⟨c.layout, rfl⟩
  layout := by
    have hname : ∀ l : Layout, l = .declarations ↔ some l.name = some Layout.declarations.name := by
      intro l
      cases l <;> decide
    exact (hname c.layout).trans ⟨.inl, fun h => h.resolve_right nofun⟩

theorem becomes_toValue {v : Value} {c : SectionConfig} (h : SectionSettings.Becomes v c) :
    SectionSettings.Becomes c.toValue c := by
  obtain ⟨s, -, hs⟩ := h
  exact ⟨c.toSettings, c.reads_toValue, describes_toSettings hs⟩

theorem forall₂_becomes_toValue {items : List Value} {cs : List SectionConfig}
    (h : List.Forall₂ SectionSettings.Becomes items cs) :
    List.Forall₂ SectionSettings.Becomes (cs.map toValue) cs := by
  induction h with
  | nil => exact .nil
  | cons hc _ ih => exact .cons (becomes_toValue hc) ih

end SectionConfig

/-! ### Validation -/

namespace Settings

/-- The title that is chosen is not blank. -/
theorem any_isInk_title {s : Settings} {c : Config} (h : s.Describes c) :
    c.template.title.any Text.isInk = true := by
  rw [h.template]
  cases htitle : (s.template.bind (·.title)).filter (·.any Text.isInk) with
  | none =>
      change defaultTitle.any Text.isInk = true
      decide
  | some t => exact (Option.filter_eq_some_iff.1 htitle).2

theorem describes_toSettings {s : Settings} {c : Config} (h : s.Describes c) :
    c.toSettings.Describes c where
  destination := by
    obtain ⟨d, -, hink, hd⟩ := h.destination
    refine ⟨c.destination.toText, rfl, ?_, ?_⟩
    · rw [hd, Destination.toText_named]
      exact hink.trim
    · rw [hd, Destination.named_toText_named]
  sections := by
    obtain ⟨items, -, hne, hitems⟩ := h.sections
    refine ⟨_, rfl, fun hnil => hne ?_, SectionConfig.forall₂_becomes_toValue hitems⟩
    rw [List.map_eq_nil_iff] at hnil
    rw [hnil] at hitems
    exact List.forall₂_nil_right_iff.1 hitems
  assets := by
    rintro ⟨t, ⟨⟩, ⟨selector, hselector, hink⟩, hassets⟩
    have hselector : selector ∈ c.template.selectorPrefix := hselector
    rw [h.template, Option.mem_filter_iff] at hselector
    obtain ⟨t, ht, hasked⟩ := Option.bind_eq_some_iff.1 hselector.1
    refine h.assets ⟨t, ht, ⟨selector, hasked, hink⟩, ?_⟩
    have hassets : c.template.assets = [] := hassets
    rw [h.template, ht] at hassets
    exact hassets
  template := by
    have htitle := any_isInk_title h
    have hselector : c.template.selectorPrefix.filter (·.any Text.isInk)
        = c.template.selectorPrefix := by
      rw [h.template]
      simp
    simp only [Config.toSettings, Option.bind_some, hselector, Option.filter_some, htitle, if_true,
      Option.getD_some]
  includes := rfl
  untagged := rfl

/-- **Validation is an idempotent normalization**: the settings of a checked configuration validate,
and to just that configuration. -/
theorem validate_toSettings {s : Settings} {c : Config} (h : s.validate = .ok c) :
    c.toSettings.validate = .ok c :=
  validate_eq_ok_iff.2 (describes_toSettings (validate_eq_ok_iff.1 h))

/-- Settings with blanks around the destination, blank template options, other words for the modes,
and patterns as one text or with a blank one among them. -/
def untidySettings : Settings where
  dest := some " site "
  template := some { title := some " ", selectorPrefix := some "\t", assets := none }
  sections := some (.array [
    .object [("files", .string "a.js"), ("mode", .string "javascript"), ("title", .string " A")],
    .object [("files", .strings [" ", "b.scss"]), ("mode", .string "variables"),
      ("title", .string "B")]])

/-- The configuration of the untidy settings. -/
def tidyConfig : Config where
  destination := .directory (.ofText "site")
  template := {}
  includes := {}
  untagged := .drop
  sections := [
    { title := " A", files := ["a.js"], mode := some .script, layout := .patterns },
    { title := "B", files := ["b.scss"], mode := some .variable, layout := .declarations }]

theorem validate_toSettings_untidy :
    untidySettings.validate = .ok tidyConfig ∧ tidyConfig.toSettings.validate = .ok tidyConfig := by
  have hvalid : untidySettings.validate = .ok tidyConfig := rfl
  exact ⟨hvalid, validate_toSettings hvalid⟩

end Settings

end PatternBook
