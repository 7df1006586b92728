import Mathlib.Data.List.Forall2
import Mathlib.Data.Nat.Find
import PatternBook.Proofs.Config.Rules

/-!
# The first violation

Settings break a rule or describe a configuration, and of several broken rules one is reported: the
destination comes before the sections, the sections come in their order, the rules for one section
in theirs, and the template options come last.

* `Settings.FirstViolation`: the rule that is reported.
* `Settings.Describes`: the configuration of settings that break no rule.
* `Settings.validate_iff`: validation answers just that.
-/

namespace PatternBook

open Json (Value)

/-- The destination that a text names; blanks around it do not count. -/
def Destination.named (d : Text) : Destination :=
  if d.trim = nowhereName then .nowhere else .directory (.ofText d.trim)

namespace Settings

variable (s : Settings)

/-- The settings name a destination. -/
def HasDestination : Prop := ∃ d ∈ s.dest, d.HasInk

/-- The settings ask for a selector prefix and have no assets for it. -/
def LacksAssets : Prop :=
  ∃ t ∈ s.template, (∃ selector ∈ t.selectorPrefix, selector.HasInk) ∧ t.assets.getD [] = []

/-- The rule that is reported. -/
inductive FirstViolation : Violation → Prop where
  | noDestination (h : ¬ s.HasDestination) : FirstViolation .noDestination
  | sectionsNotAList (destination : s.HasDestination)
      (h : ∀ items, s.sections ≠ some (.array items)) : FirstViolation .sectionsNotAList
  | noSections (destination : s.HasDestination) (h : s.sections = some (.array [])) :
      FirstViolation .noSectionObject
  /-- The entry is the first one that breaks a rule. -/
  | entry {items : List Value} {index : Nat} {entry : Value} {v : Violation}
      (destination : s.HasDestination) (sections : s.sections = some (.array items))
      (found : items[index]? = some entry) (breaks : SectionSettings.Breaks index entry v)
      (least : ∀ j < index, ∀ other ∈ items[j]?, ∀ w, ¬ SectionSettings.Breaks j other w) :
      FirstViolation v
  | template {items : List Value} (destination : s.HasDestination)
      (sections : s.sections = some (.array items)) (some_entry : items ≠ [])
      (entries : ∀ j, ∀ other ∈ items[j]?, ∀ w, ¬ SectionSettings.Breaks j other w)
      (h : s.LacksAssets) :
      FirstViolation (if s.includes.isSome then .noTemplateOptions else .noAssets)

/-- The configuration of settings that break no rule: one section for each entry, in their order. -/
structure Describes (c : Config) : Prop where
  destination : ∃ d ∈ s.dest, d.HasInk ∧ c.destination = .named d
  sections : ∃ items, s.sections = some (.array items) ∧ items ≠ [] ∧
    List.Forall₂ SectionSettings.Becomes items c.sections
  assets : ¬ s.LacksAssets
  /-- A blank title or selector prefix counts as none. -/
  template : c.template =
    { title := ((s.template.bind (·.title)).filter (·.any Text.isInk)).getD defaultTitle
      selectorPrefix := (s.template.bind (·.selectorPrefix)).filter (·.any Text.isInk)
      assets := (s.template.bind (·.assets)).getD [] }
  includes : c.includes = s.includes.getD {}
  untagged : c.untagged = s.untagged.getD .drop

end Settings

/-! ### The destination -/

theorem checkDestination_some {d : Text} (h : d.HasInk) :
    checkDestination (some d) = .ok (.named d) := by
  have hne : d.trim.isEmpty = false := by
    rw [List.isEmpty_eq_false_iff]
    exact fun hnil => Text.trim_eq_nil_iff.1 hnil h
  simp only [checkDestination, Option.map_some, hne, Bool.false_eq_true, if_false,
    Destination.named]
  split <;> rfl

theorem checkDestination_of_blank {dest : Option Text} (h : ¬ ∃ d ∈ dest, d.HasInk) :
    checkDestination dest = .error .noDestination := by
  cases dest with
  | none => rfl
  | some d =>
      have hnil : d.trim = [] := Text.trim_eq_nil_iff.2 fun hink => h ⟨d, rfl, hink⟩
      rw [checkDestination, Option.map_some, hnil]
      rfl

theorem checkDestination_eq_ok_iff {dest : Option Text} {l : Destination} :
    checkDestination dest = .ok l ↔ ∃ d ∈ dest, d.HasInk ∧ l = .named d := by
  by_cases h : ∃ d ∈ dest, d.HasInk
  · obtain ⟨d, hd, hink⟩ := h
    cases hd
    simp [checkDestination_some hink, hink, eq_comm]
  · rw [checkDestination_of_blank h]
    refine iff_of_false nofun ?_
    rintro ⟨d, hd, hink, -⟩
    exact h ⟨d, hd, hink⟩

/-! ### The sections -/

theorem checkSections_eq_ok_iff {index : Nat} {items : List Value} {sections : List SectionConfig} :
    checkSections index items = .ok sections ↔
      List.Forall₂ SectionSettings.Becomes items sections := by
  induction items generalizing index sections with
  | nil => simp [checkSections, eq_comm]
  | cons entry rest ih =>
      simp only [checkSections, bind_eq_ok_iff, checkSection_eq_ok_iff, ih,
        List.forall₂_cons_left_iff]
      constructor
      · rintro ⟨c, hc, cs, hcs, h⟩
        cases h
        exact ⟨c, cs, hc, hcs, rfl⟩
      · rintro ⟨c, cs, hc, hcs, rfl⟩
        exact ⟨c, hc, cs, hcs, rfl⟩

/-- The first entry that breaks a rule is reported. -/
theorem checkSections_eq_error_iff {index : Nat} {items : List Value} {v : Violation} :
    checkSections index items = .error v ↔
      ∃ i entry, items[i]? = some entry ∧ SectionSettings.Breaks (index + i) entry v ∧
        ∀ j < i, ∀ other ∈ items[j]?, ∀ w, ¬ SectionSettings.Breaks (index + j) other w := by
  induction items generalizing index with
  | nil => simp [checkSections]
  | cons entry rest ih =>
      rw [checkSections, bind_eq_error_iff, checkSection_eq_error_iff]
      constructor
      · rintro (hbreaks | ⟨c, hc, h⟩)
        · exact ⟨0, entry, rfl, hbreaks, fun j hj => absurd hj (Nat.not_lt_zero j)⟩
        · rcases bind_eq_error_iff.1 h with h | ⟨cs, -, h⟩
          · obtain ⟨i, other, hi, hbreaks, hleast⟩ := ih.1 h
            refine ⟨i + 1, other, hi, by rwa [Nat.add_right_comm] at hbreaks, ?_⟩
            rintro (_ | j) hj another hanother w hw
            · cases hanother
              rw [Nat.add_zero, ← checkSection_eq_error_iff, hc] at hw
              cases hw
            · refine hleast j (Nat.lt_of_succ_lt_succ hj) another hanother w ?_
              rwa [Nat.add_right_comm]
          · cases h
      · rintro ⟨_ | i, other, hi, hbreaks, hleast⟩
        · cases hi
          exact .inl hbreaks
        · cases hc : checkSection index entry with
          | error w =>
              exact absurd (checkSection_eq_error_iff.1 hc) (hleast 0 i.succ_pos entry rfl w)
          | ok c =>
              refine .inr ⟨c, rfl, bind_eq_error_iff.2 (.inl (ih.2 ⟨i, other, hi, ?_, ?_⟩))⟩
              · rwa [Nat.add_right_comm]
              · intro j hj another hanother w hw
                refine hleast (j + 1) (Nat.succ_lt_succ hj) another hanother w ?_
                rwa [Nat.add_right_comm] at hw

/-- There are sections exactly if no entry breaks a rule. -/
theorem exists_checkSections_eq_ok_iff {items : List Value} :
    (∃ sections, checkSections 0 items = .ok sections) ↔
      ∀ j, ∀ other ∈ items[j]?, ∀ w, ¬ SectionSettings.Breaks j other w := by
  classical
  constructor
  · rintro ⟨sections, hsections⟩ j other hother w hbreaks
    -- some entry breaks a rule, so the first one to do so is reported
    have hbroken : ∃ j, ∃ other ∈ items[j]?, ∃ w, SectionSettings.Breaks j other w :=
      ⟨j, other, hother, w, hbreaks⟩
    obtain ⟨first, hfirst, v, hv⟩ := Nat.find_spec hbroken
    have herror : checkSections 0 items = .error v := by
      refine checkSections_eq_error_iff.2 ⟨_, first, hfirst, by rwa [Nat.zero_add], ?_⟩
      intro i hi another hanother w hw
      rw [Nat.zero_add] at hw
      exact Nat.find_min hbroken hi ⟨another, hanother, w, hw⟩
    rw [herror] at hsections
    cases hsections
  · intro h
    cases hsections : checkSections 0 items with
    | ok sections => exact ⟨sections, rfl⟩
    | error v =>
        obtain ⟨i, entry, hi, hbreaks, -⟩ := checkSections_eq_error_iff.1 hsections
        rw [Nat.zero_add] at hbreaks
        exact absurd hbreaks (h i entry hi v)

/-! ### The template options -/

section

variable {s : Settings} {hasIncludes : Bool}

theorem isSome_filter_notBlank {t : Option Text} :
    (t.filter notBlank).isSome = true ↔ ∃ x ∈ t, x.HasInk := by
  cases t with
  | none => simp
  | some x => simp [notBlank_iff]

theorem checkTemplate_of_lacksAssets (h : s.LacksAssets) :
    checkTemplate s.template hasIncludes
      = .error (if hasIncludes then .noTemplateOptions else .noAssets) := by
  obtain ⟨t, ht, hselector, hassets⟩ := h
  rw [Option.mem_def] at ht
  rw [ht]
  exact if_pos ⟨isSome_filter_notBlank.2 hselector, by rw [hassets]; rfl⟩

theorem checkTemplate_of_not_lacksAssets (h : ¬ s.LacksAssets) :
    checkTemplate s.template hasIncludes = .ok
      { title := ((s.template.bind (·.title)).filter (·.any Text.isInk)).getD defaultTitle
        selectorPrefix := (s.template.bind (·.selectorPrefix)).filter (·.any Text.isInk)
        assets := (s.template.bind (·.assets)).getD [] } := by
  cases ht : s.template with
  | none => rfl
  | some t =>
      rw [any_isInk]
      refine if_neg ?_
      rintro ⟨hselector, hassets⟩
      exact h ⟨t, ht, isSome_filter_notBlank.1 hselector, List.isEmpty_iff.1 hassets⟩

end

/-! ### The sections as a list -/

section

variable {s : Settings} {v : Violation}

theorem sectionList_eq_ok_iff {items : List Value} :
    s.sectionList = .ok items ↔ s.sections = some (.array items) ∧ items ≠ [] := by
  unfold Settings.sectionList
  cases s.sections with
  | none => simp
  | some sections =>
      cases sections with
      | array entries => cases entries <;> simp +contextual [eq_comm]
      | _ => simp

theorem sectionList_eq_error_iff :
    s.sectionList = .error v ↔
      (∀ items, s.sections ≠ some (.array items)) ∧ .sectionsNotAList = v ∨
        s.sections = some (.array []) ∧ .noSectionObject = v := by
  unfold Settings.sectionList
  cases s.sections with
  | none => simp
  | some sections =>
      cases sections with
      | array entries => cases entries <;> simp
      | _ => simp

end

/-! ### The whole validation -/

namespace Settings

variable {s : Settings}

/-- What is left to check once the destination is known. -/
def configure (s : Settings) (destination : Destination) : Except Violation Config := do
  let items ← s.sectionList
  let sections ← checkSections 0 items
  let template ← checkTemplate s.template s.includes.isSome
  return ⟨destination, template, s.includes.getD {}, s.untagged.getD .drop, sections⟩

theorem validate_eq (s : Settings) : s.validate = checkDestination s.dest >>= s.configure := rfl

theorem validate_of_destination (h : s.HasDestination) :
    ∃ d ∈ s.dest, d.HasInk ∧ s.validate = s.configure (.named d) := by
  obtain ⟨d, hd, hink⟩ := h
  refine ⟨d, hd, hink, ?_⟩
  rw [Option.mem_def] at hd
  rw [validate_eq, hd, checkDestination_some hink]
  rfl

theorem validate_eq_error_of_destination {v : Violation} (h : s.HasDestination)
    (hv : ∀ destination, s.configure destination = .error v) : s.validate = .error v := by
  obtain ⟨d, -, -, hvalidate⟩ := validate_of_destination h
  rw [hvalidate]
  exact hv _

theorem firstViolation_of_validate {v : Violation} (h : s.validate = .error v) :
    s.FirstViolation v := by
  by_cases hdestination : s.HasDestination
  case neg =>
    rw [validate, checkDestination_of_blank hdestination] at h
    cases h
    exact .noDestination hdestination
  obtain ⟨d, -, -, hvalidate⟩ := validate_of_destination hdestination
  rw [hvalidate] at h
  -- each check that fails is a violation of its own, with all the checks before it passed
  rcases bind_eq_error_iff.1 h with h | ⟨items, hitems, h⟩
  · rcases sectionList_eq_error_iff.1 h with ⟨hnot, rfl⟩ | ⟨hnil, rfl⟩
    · exact .sectionsNotAList hdestination hnot
    · exact .noSections hdestination hnil
  obtain ⟨hitems, hne⟩ := sectionList_eq_ok_iff.1 hitems
  rcases bind_eq_error_iff.1 h with h | ⟨sections, hsections, h⟩
  · obtain ⟨i, entry, hi, hbreaks, hleast⟩ := checkSections_eq_error_iff.1 h
    simp only [Nat.zero_add] at hbreaks hleast
    exact .entry hdestination hitems hi hbreaks hleast
  have hentries := exists_checkSections_eq_ok_iff.1 ⟨sections, hsections⟩
  by_cases hlacks : s.LacksAssets
  · rw [checkTemplate_of_lacksAssets hlacks] at h
    cases h
    exact .template hdestination hitems hne hentries hlacks
  · rw [checkTemplate_of_not_lacksAssets hlacks] at h
    cases h

theorem validate_of_firstViolation {v : Violation} (h : s.FirstViolation v) :
    s.validate = .error v := by
  cases h with
  | noDestination hblank =>
      rw [validate, checkDestination_of_blank hblank]
      rfl
  | sectionsNotAList hdestination hnot =>
      refine validate_eq_error_of_destination hdestination fun d => ?_
      exact bind_eq_error_iff.2 (.inl (sectionList_eq_error_iff.2 (.inl ⟨hnot, rfl⟩)))
  | noSections hdestination hnil =>
      refine validate_eq_error_of_destination hdestination fun d => ?_
      exact bind_eq_error_iff.2 (.inl (sectionList_eq_error_iff.2 (.inr ⟨hnil, rfl⟩)))
  | entry hdestination hitems hi hbreaks hleast =>
      have hne : _ ≠ [] := List.ne_nil_of_mem (List.mem_of_getElem? hi)
      refine validate_eq_error_of_destination hdestination fun d => ?_
      refine bind_eq_error_iff.2 (.inr ⟨_, sectionList_eq_ok_iff.2 ⟨hitems, hne⟩, ?_⟩)
      refine bind_eq_error_iff.2 (.inl (checkSections_eq_error_iff.2 ⟨_, _, hi, ?_, ?_⟩))
      · rwa [Nat.zero_add]
      · simpa only [Nat.zero_add] using hleast
  | template hdestination hitems hne hentries hlacks =>
      obtain ⟨sections, hsections⟩ := exists_checkSections_eq_ok_iff.2 hentries
      refine validate_eq_error_of_destination hdestination fun d => ?_
      refine bind_eq_error_iff.2 (.inr ⟨_, sectionList_eq_ok_iff.2 ⟨hitems, hne⟩, ?_⟩)
      refine bind_eq_error_iff.2 (.inr ⟨_, hsections, ?_⟩)
      rw [checkTemplate_of_lacksAssets hlacks]
      rfl

theorem validate_eq_ok_iff {c : Config} : s.validate = .ok c ↔ s.Describes c := by
  constructor
  · intro h
    rw [validate] at h
    obtain ⟨destination, hdestination, h⟩ := bind_eq_ok_iff.1 h
    obtain ⟨items, hitems, h⟩ := bind_eq_ok_iff.1 h
    obtain ⟨sections, hsections, h⟩ := bind_eq_ok_iff.1 h
    obtain ⟨template, htemplate, h⟩ := bind_eq_ok_iff.1 h
    cases h
    obtain ⟨hitems, hne⟩ := sectionList_eq_ok_iff.1 hitems
    have hassets : ¬ s.LacksAssets := fun hlacks => by
      rw [checkTemplate_of_lacksAssets hlacks] at htemplate
      cases htemplate
    rw [checkTemplate_of_not_lacksAssets hassets] at htemplate
    cases htemplate
    exact ⟨checkDestination_eq_ok_iff.1 hdestination,
      ⟨items, hitems, hne, checkSections_eq_ok_iff.1 hsections⟩, hassets, rfl, rfl, rfl⟩
  · rintro ⟨⟨d, hd, hink, hdestination⟩, ⟨items, hitems, hne, hsections⟩, hassets, htemplate,
      hincludes, huntagged⟩
    obtain ⟨d', hd', -, hvalidate⟩ := validate_of_destination ⟨d, hd, hink⟩
    obtain rfl := Option.mem_unique hd hd'
    rw [hvalidate, ← hdestination, configure, ← hincludes, ← huntagged]
    refine bind_eq_ok_iff.2 ⟨_, sectionList_eq_ok_iff.2 ⟨hitems, hne⟩, ?_⟩
    refine bind_eq_ok_iff.2 ⟨_, checkSections_eq_ok_iff.2 hsections, ?_⟩
    rw [checkTemplate_of_not_lacksAssets hassets, ← htemplate]
    rfl

end Settings

/-- **Validation reports the first violation and otherwise answers the configuration that the
settings describe**, whatever the settings are. -/
theorem Settings.validate_iff (s : Settings) :
    (∀ v, s.validate = .error v ↔ s.FirstViolation v) ∧
      ∀ c, s.validate = .ok c ↔ s.Describes c :=
  ⟨fun _ => ⟨firstViolation_of_validate, validate_of_firstViolation⟩, fun _ => validate_eq_ok_iff⟩

end PatternBook
