import PatternBook.Config.Validation
import PatternBook.Proofs.Text.Cuts

/-!
# The rules for a section

Which rule an entry of the list of sections breaks first, and which section it is if it breaks none,
said without the checks.  How the fields of an object are read is taken as it is
(`SectionSettings.Reads`).

* `SectionSettings.Breaks`: the first rule that an entry breaks.
* `SectionSettings.Becomes`: the section of an entry that breaks no rule.
* `checkSection_eq_error_iff`, `checkSection_eq_ok_iff`: the check of an entry answers just that.
-/

namespace PatternBook

open Json (Document Value)

/-! ### One check after another -/

section

variable {ε α β : Type} {x : Except ε α} {f : α → Except ε β}

theorem bind_eq_ok_iff {b : β} : x >>= f = .ok b ↔ ∃ a, x = .ok a ∧ f a = .ok b := by
  cases x <;> simp [bind, Except.bind]

theorem bind_eq_error_iff {e : ε} :
    x >>= f = .error e ↔ x = .error e ∨ ∃ a, x = .ok a ∧ f a = .error e := by
  cases x <;> simp [bind, Except.bind]

end

/-! ### Blank texts -/

theorem notBlank_iff {t : Text} : notBlank t = true ↔ t.HasInk := by
  rw [notBlank, Bool.not_eq_true', ← Bool.not_eq_true, List.isEmpty_iff, Text.trim_eq_nil_iff,
    not_not]

theorem any_isInk : (fun t : Text => t.any Text.isInk) = notBlank := by
  funext t
  rw [Bool.eq_iff_iff, notBlank_iff, List.any_eq_true]
  rfl

/-! ### Words -/

/-- The words for a mode. -/
def Mode.words : Mode → List Text
  | .css => ["css"]
  | .script => ["script", "js", "javascript", "scss", "less"]
  | .markup => ["markup", "html"]
  | .variable => ["variable", "variables"]

theorem Mode.ofText?_eq_some_iff {t : Text} {m : Mode} : Mode.ofText? t = some m ↔ t ∈ m.words := by
  constructor
  · intro h
    unfold Mode.ofText? at h
    split at h
    · next ht => cases h; simpa [words] using ht
    split at h
    · next ht => cases h; simpa [words] using ht
    split at h
    · next ht => cases h; simpa [words] using ht
    split at h
    · next ht => cases h; simpa [words] using ht
    · cases h
  · have hwords : ∀ t ∈ m.words, Mode.ofText? t = some m := by cases m <;> decide
    exact hwords t

theorem Layout.ofText?_eq_some_iff {t : Text} {l : Layout} :
    Layout.ofText? t = some l ↔ t = l.name := by
  constructor
  · intro h
    unfold Layout.ofText? at h
    split at h
    · next ht => cases h; exact ht
    split at h
    · next ht => cases h; exact ht
    · cases h
  · rintro rfl
    exact Layout.ofText?_name l

theorem Mode.ofText?_eq_none_iff {t : Text} :
    Mode.ofText? t = none ↔ ∀ m : Mode, t ∉ m.words := by
  simp only [Option.eq_none_iff_forall_ne_some, ne_eq, Mode.ofText?_eq_some_iff]

theorem Layout.ofText?_eq_none_iff {t : Text} :
    Layout.ofText? t = none ↔ ∀ l : Layout, t ≠ l.name := by
  simp only [Option.eq_none_iff_forall_ne_some, ne_eq, Layout.ofText?_eq_some_iff]

/-! ### Entries of the list of sections -/

namespace SectionSettings

/-- The entry is an object whose fields read as those of a section. -/
def Reads (v : Value) (s : SectionSettings) : Prop :=
  (∃ fields, v = .object fields) ∧
    SectionSettings.schema.read .value (Document.ofValue v) = .ok s

variable (s : SectionSettings)

/-- The section has a title that is not blank. -/
def HasTitle : Prop := ∃ t ∈ s.title, t.HasInk

/-- The section has a file pattern that is not blank. -/
def HasFiles : Prop := ∃ p ∈ s.files.getD [], p.HasInk

/-- The mode that the section asks for, if it asks for one. -/
def AsksMode (mode : Option Mode) : Prop :=
  (s.mode = none ∧ mode = none) ∨ ∃ word m, s.mode = some word ∧ mode = some m ∧ word ∈ m.words

/-- The first rule that an entry breaks, if it is the one at the index. -/
inductive Breaks (index : Nat) : Value → Violation → Prop where
  | notAnObject {v : Value} (h : ∀ fields, v ≠ .object fields) : Breaks index v .noSectionObject
  | malformed {fields : List (Text × Value)} {e : Refusal}
      (h : SectionSettings.schema.read .value (Document.ofValue (.object fields)) = .error e) :
      Breaks index (.object fields) (.malformedSection index e.message)
  | noTitle {v : Value} {s : SectionSettings} (reads : Reads v s) (h : ¬ s.HasTitle) :
      Breaks index v (.noTitle index)
  | noFiles {v : Value} {s : SectionSettings} (reads : Reads v s) (title : s.HasTitle)
      (h : ¬ s.HasFiles) : Breaks index v (.noFiles index)
  | unknownMode {v : Value} {s : SectionSettings} {word : Text} (reads : Reads v s)
      (title : s.HasTitle) (files : s.HasFiles) (asks : s.mode = some word)
      (h : ∀ m : Mode, word ∉ m.words) : Breaks index v (.unknownMode index word)
  | unknownLayout {v : Value} {s : SectionSettings} {mode : Option Mode} {word : Text}
      (reads : Reads v s) (title : s.HasTitle) (files : s.HasFiles) (known : s.AsksMode mode)
      (asks : s.layout = some word) (h : ∀ l : Layout, word ≠ l.name) :
      Breaks index v (.unknownLayout index word)

/-- The section that settings describe: the blank patterns and no others are left out, and records
are laid out as declarations if this is asked for, or if the mode is the one for variables and
nothing is asked for. -/
structure Describes (c : SectionConfig) : Prop where
  title  : s.title = some c.title ∧ c.title.HasInk
  files  : c.files = (s.files.getD []).filter (fun p => p.any Text.isInk) ∧ c.files ≠ []
  mode   : s.AsksMode c.mode
  known  : ∀ word ∈ s.layout, ∃ l : Layout, word = l.name
  layout : c.layout = .declarations ↔
    s.layout = some Layout.declarations.name ∨ s.layout = none ∧ c.mode = some .variable

/-- The section of an entry that breaks no rule. -/
def Becomes (v : Value) (c : SectionConfig) : Prop := ∃ s, Reads v s ∧ s.Describes c

end SectionSettings

/-! ### The checks of a section -/

section

variable {s : SectionSettings} {index : Nat} {v : Violation}

theorem checkMode_eq_ok_iff {mode : Option Mode} :
    checkMode index s.mode = .ok mode ↔ s.AsksMode mode := by
  unfold SectionSettings.AsksMode checkMode
  cases s.mode with
  | none => simp [eq_comm]
  | some word =>
      cases h : Mode.ofText? word with
      | none => simp [h, Mode.ofText?_eq_none_iff.1 h]
      | some m =>
          have hword : ∀ m' : Mode, word ∈ m'.words ↔ m = m' := fun m' => by
            rw [← Mode.ofText?_eq_some_iff, h, Option.some_inj]
          simp [h, hword, eq_comm]

theorem checkMode_eq_error_iff :
    checkMode index s.mode = .error v ↔
      ∃ word, s.mode = some word ∧ (∀ m : Mode, word ∉ m.words) ∧ .unknownMode index word = v := by
  unfold checkMode
  cases s.mode with
  | none => simp
  | some word => cases h : Mode.ofText? word <;> simp [h, ← Mode.ofText?_eq_none_iff]

theorem checkLayout_eq_ok_iff {mode : Option Mode} {l : Layout} :
    checkLayout index mode s.layout = .ok l ↔
      (∀ word ∈ s.layout, ∃ l' : Layout, word = l'.name) ∧
        (l = .declarations ↔
          s.layout = some Layout.declarations.name ∨ s.layout = none ∧ mode = some .variable) := by
  unfold checkLayout
  cases s.layout with
  | none =>
      by_cases hmode : mode = some .variable
      · simp [hmode, eq_comm]
      · cases l <;> simp [hmode]
  | some word =>
      cases h : Layout.ofText? word with
      | none => simp [h, Layout.ofText?_eq_none_iff.1 h]
      | some l' =>
          obtain rfl := Layout.ofText?_eq_some_iff.1 h
          cases l' <;> cases l <;> simp [h] <;> decide

theorem checkLayout_eq_error_iff {mode : Option Mode} :
    checkLayout index mode s.layout = .error v ↔
      ∃ word, s.layout = some word ∧ (∀ l : Layout, word ≠ l.name) ∧
        .unknownLayout index word = v := by
  unfold checkLayout
  cases s.layout with
  | none => simp
  | some word => cases h : Layout.ofText? word <;> simp [h, ← Layout.ofText?_eq_none_iff]

theorem filter_notBlank_eq_nil_iff : (s.files.getD []).filter notBlank = [] ↔ ¬ s.HasFiles := by
  simp [SectionSettings.HasFiles, notBlank_iff]

theorem checkSectionSettings_of_noTitle (h : ¬ s.HasTitle) :
    checkSectionSettings index s = .error (.noTitle index) := by
  rw [checkSectionSettings]
  cases ht : s.title with
  | none => rfl
  | some t =>
      have hblank : ¬ notBlank t = true := fun hink => h ⟨t, ht, notBlank_iff.1 hink⟩
      simp only [hblank]
      rfl

theorem checkSectionSettings_of_noFiles (title : s.HasTitle) (h : ¬ s.HasFiles) :
    checkSectionSettings index s = .error (.noFiles index) := by
  obtain ⟨t, ht, hink⟩ := title
  rw [Option.mem_def] at ht
  rw [checkSectionSettings]
  simp only [ht, notBlank_iff.2 hink, filter_notBlank_eq_nil_iff.2 h]
  rfl

/-- With a title and files what is left to check is the mode and then the layout. -/
theorem checkSectionSettings_of_files {t : Text} (ht : s.title = some t) (hink : t.HasInk)
    (files : s.HasFiles) :
    checkSectionSettings index s = (do
      let mode ← checkMode index s.mode
      let layout ← checkLayout index mode s.layout
      return ⟨t, (s.files.getD []).filter notBlank, mode, layout⟩) := by
  have hfiles : (List.filter notBlank (s.files.getD [])).isEmpty = false := by
    rw [List.isEmpty_eq_false_iff]
    exact fun h => filter_notBlank_eq_nil_iff.1 h files
  rw [checkSectionSettings]
  simp only [ht, notBlank_iff.2 hink, hfiles]
  rfl

theorem checkSectionSettings_eq_ok_iff {c : SectionConfig} :
    checkSectionSettings index s = .ok c ↔ s.Describes c := by
  constructor
  · intro h
    by_cases title : s.HasTitle
    case neg => rw [checkSectionSettings_of_noTitle title] at h; cases h
    by_cases files : s.HasFiles
    case neg => rw [checkSectionSettings_of_noFiles title files] at h; cases h
    obtain ⟨t, ht, hink⟩ := title
    rw [checkSectionSettings_of_files ht hink files] at h
    obtain ⟨mode, hmode, h⟩ := bind_eq_ok_iff.1 h
    obtain ⟨layout, hlayout, h⟩ := bind_eq_ok_iff.1 h
    obtain ⟨hknown, hlayout⟩ := checkLayout_eq_ok_iff.1 hlayout
    cases h
    exact ⟨⟨ht, hink⟩, ⟨by rw [any_isInk], fun h => filter_notBlank_eq_nil_iff.1 h files⟩,
      checkMode_eq_ok_iff.1 hmode, hknown, hlayout⟩
  · rintro ⟨⟨ht, hink⟩, ⟨hfiles, hne⟩, hmode, hknown, hlayout⟩
    rw [any_isInk] at hfiles
    have files : s.HasFiles := by
      by_contra h
      exact hne (hfiles.trans (filter_notBlank_eq_nil_iff.2 h))
    rw [checkSectionSettings_of_files ht hink files, ← hfiles]
    refine bind_eq_ok_iff.2 ⟨_, checkMode_eq_ok_iff.2 hmode, ?_⟩
    exact bind_eq_ok_iff.2 ⟨_, checkLayout_eq_ok_iff.2 ⟨hknown, hlayout⟩, rfl⟩

/-- The first rule that settings with readable fields break. -/
theorem breaks_of_checkSectionSettings {entry : Value} (reads : SectionSettings.Reads entry s)
    (h : checkSectionSettings index s = .error v) : SectionSettings.Breaks index entry v := by
  by_cases title : s.HasTitle
  case neg =>
    rw [checkSectionSettings_of_noTitle title] at h
    cases h
    exact .noTitle reads title
  by_cases files : s.HasFiles
  case neg =>
    rw [checkSectionSettings_of_noFiles title files] at h
    cases h
    exact .noFiles reads title files
  obtain ⟨t, ht, hink⟩ := title
  rw [checkSectionSettings_of_files ht hink files] at h
  rcases bind_eq_error_iff.1 h with hmode | ⟨mode, hmode, h⟩
  · obtain ⟨word, asks, hword, rfl⟩ := checkMode_eq_error_iff.1 hmode
    exact .unknownMode reads ⟨t, ht, hink⟩ files asks hword
  rcases bind_eq_error_iff.1 h with hlayout | ⟨layout, -, h⟩
  · obtain ⟨word, asks, hword, rfl⟩ := checkLayout_eq_error_iff.1 hlayout
    exact .unknownLayout reads ⟨t, ht, hink⟩ files (checkMode_eq_ok_iff.1 hmode) asks hword
  · cases h

end

/-! ### The check of an entry -/

section

variable {index : Nat} {v : Value}

theorem checkSection_of_reads {s : SectionSettings} (h : SectionSettings.Reads v s) :
    checkSection index v = checkSectionSettings index s := by
  obtain ⟨⟨fields, rfl⟩, hread⟩ := h
  simp only [checkSection, hread]

/-- **The check of an entry reports the first rule that the entry breaks.** -/
theorem checkSection_eq_error_iff {w : Violation} :
    checkSection index v = .error w ↔ SectionSettings.Breaks index v w := by
  constructor
  · intro h
    by_cases hobject : ∃ fields, v = .object fields
    case neg =>
      have hw : w = .noSectionObject := by
        unfold checkSection at h
        split at h
        · exact absurd ⟨_, rfl⟩ hobject
        · cases h; rfl
      exact hw ▸ .notAnObject fun fields hv => hobject ⟨fields, hv⟩
    obtain ⟨fields, rfl⟩ := hobject
    cases hread : SectionSettings.schema.read .value (Document.ofValue (.object fields)) with
    | error e =>
        simp only [checkSection, hread] at h
        cases h
        exact .malformed hread
    | ok s =>
        have reads : SectionSettings.Reads (.object fields) s := ⟨⟨fields, rfl⟩, hread⟩
        rw [checkSection_of_reads reads] at h
        exact breaks_of_checkSectionSettings reads h
  · intro h
    cases h with
    | notAnObject hobject =>
        cases v with
        | object fields => exact absurd rfl (hobject fields)
        | _ => rfl
    | malformed hread => simp only [checkSection, hread]
    | noTitle reads title => rw [checkSection_of_reads reads, checkSectionSettings_of_noTitle title]
    | noFiles reads title files =>
        rw [checkSection_of_reads reads, checkSectionSettings_of_noFiles title files]
    | unknownMode reads title files asks hword =>
        obtain ⟨t, ht, hink⟩ := title
        rw [checkSection_of_reads reads, checkSectionSettings_of_files ht hink files]
        exact bind_eq_error_iff.2 (.inl (checkMode_eq_error_iff.2 ⟨_, asks, hword, rfl⟩))
    | unknownLayout reads title files known asks hword =>
        obtain ⟨t, ht, hink⟩ := title
        rw [checkSection_of_reads reads, checkSectionSettings_of_files ht hink files]
        refine bind_eq_error_iff.2 (.inr ⟨_, checkMode_eq_ok_iff.2 known, ?_⟩)
        exact bind_eq_error_iff.2 (.inl (checkLayout_eq_error_iff.2 ⟨_, asks, hword, rfl⟩))

/-- **The check of an entry that breaks no rule answers its section.** -/
theorem checkSection_eq_ok_iff {c : SectionConfig} :
    checkSection index v = .ok c ↔ SectionSettings.Becomes v c := by
  constructor
  · intro h
    unfold checkSection at h
    split at h
    · next fields =>
        split at h
        · next s hread => exact ⟨s, ⟨⟨fields, rfl⟩, hread⟩, checkSectionSettings_eq_ok_iff.1 h⟩
        · cases h
    · cases h
  · rintro ⟨s, reads, hs⟩
    rw [checkSection_of_reads reads, checkSectionSettings_eq_ok_iff.2 hs]

end

end PatternBook
