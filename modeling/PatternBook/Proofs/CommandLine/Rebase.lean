import PatternBook.CommandLine.Execution
import PatternBook.Proofs.Config.Verdict
import PatternBook.Proofs.Path.Spelling

/-!
# Destinations and the root

With a root on the command line a destination is looked up from there.  That is settled before the
settings are checked, and blanks around the destination are trimmed only then, so what the
destination says may be taken in two ways.

* `rebase_agrees_iff`: it is taken in one way exactly if it does not start with a blank and is not
  the word for writing nothing with blanks behind it.
* `exists_rebased_sentinel`: a destination with a blank in front of that word is written to.
-/

namespace PatternBook

/-- The destination as looked up from a root. -/
def Destination.lookedUpFrom (root : Path) : Destination → Destination
  | .nowhere => .nowhere
  | .directory p => .directory (if p.isAbsolute then p else root.join p)

/-- The configuration with its destination looked up from a root. -/
def Config.lookedUpFrom (root : Path) (c : Config) : Config :=
  { c with destination := c.destination.lookedUpFrom root }

/-! ### Trimmed texts -/

namespace Text

variable {t : Text}

theorem head?_trimEnd (h : t.HasInk) : t.trimEnd.head? = t.head? := by
  have hne : t.trimEnd ≠ [] := fun hnil => by
    refine trim_eq_nil_iff.1 ?_ h
    rw [← trim_trimEnd, hnil]
    rfl
  obtain ⟨s, -, hs⟩ := trimEnd_append_blanks t
  conv_rhs => rw [hs, List.head?_append_of_ne_nil _ hne]

theorem hasInk_trimStart (h : t.HasInk) : t.trimStart.HasInk := by
  by_contra hblank
  refine trim_eq_nil_iff.1 ?_ h
  rw [trim, ← trimStart_trimStart]
  exact trim_eq_nil_iff.2 hblank

/-- There is nothing to trim in front exactly if the text does not start with a blank. -/
theorem trim_eq_trimEnd_iff (h : t.HasInk) :
    t.trim = t.trimEnd ↔ ∀ c ∈ t.head?, isBlank c = false := by
  constructor
  · intro htrim c hc
    rw [← head?_trimEnd h, ← htrim, trim, head?_trimEnd (hasInk_trimStart h)] at hc
    exact stop_dropWhile isBlank t c hc
  · intro hhead
    rw [trim, trimStart_eq_self hhead]

theorem countP_trimEnd (t : Text) : t.trimEnd.countP isInk = t.trim.countP isInk := by
  rw [← countP_trim t.trimEnd, trim_trimEnd]

end Text

/-! ### The two ways -/

namespace CommandLine

/-- The destination is taken in one way: it does not start with a blank, and no blanks stand behind
the word for writing nothing. -/
def IsTight (t : Text) : Prop :=
  (∀ c ∈ t.head?, isBlank c = false) ∧
    (t.trimEnd = Destination.nowhereName → t = Destination.nowhereName)

section

variable {root t : Text}

theorem rebase_of_relative (hroot : root ≠ []) (hword : t ≠ Destination.nowhereName) (hne : t ≠ [])
    (hrelative : t.head? ≠ some '/') :
    rebase (.ofText root) t = root ++ Path.separator root ++ t := by
  rw [rebase, if_neg, Path.join_ofText hroot hrelative, Path.toText_ofText]
  rintro (h | h | h)
  · exact hword h
  · exact hne (List.isEmpty_iff.1 h)
  · exact hrelative ((Path.isAbsolute_ofText t).1 h)

/-- Blanks behind a destination below a root are trimmed, those in front of it are not. -/
theorem trim_below (hroot : ∃ c ∈ root.head?, isBlank c = false) (t : Text) :
    Text.trim (root ++ Path.separator root ++ t) = root ++ Path.separator root ++ t.trimEnd := by
  have hstart : ∀ c ∈ (root ++ Path.separator root ++ t).head?, isBlank c = false := by
    obtain ⟨c, hc, hblank⟩ := hroot
    obtain ⟨r, rfl⟩ := List.head?_eq_some_iff.1 hc
    rintro d ⟨⟩
    exact hblank
  have hend : Text.trimEnd (root ++ Path.separator root) = root ++ Path.separator root := by
    refine Text.trimEnd_eq_self fun c hc => ?_
    rw [Path.getLast?_append_separator] at hc
    cases hc
    rfl
  rw [Text.trim, Text.trimStart_eq_self hstart, Text.trimEnd_append, hend]
  split
  · next h => rw [h, List.append_nil]
  · rfl

theorem slash_mem_below (root : Text) : '/' ∈ root ++ Path.separator root :=
  List.mem_of_getLast? (Path.getLast?_append_separator root)

theorem named_below (hroot : ∃ c ∈ root.head?, isBlank c = false) (t : Text) :
    Destination.named (root ++ Path.separator root ++ t) =
      .directory (.ofText (root ++ Path.separator root ++ t.trimEnd)) := by
  rw [Destination.named, trim_below hroot, if_neg]
  intro h
  have hmem := List.mem_append_left t.trimEnd (slash_mem_below root)
  rw [h] at hmem
  revert hmem
  decide

theorem ofText_inj {s t : Text} (h : Path.ofText s = Path.ofText t) : s = t := by
  rw [← Path.toText_ofText s, h, Path.toText_ofText]

theorem lookedUpFrom_ofText (hroot : root ≠ []) (u : Text) :
    (Destination.directory (.ofText u)).lookedUpFrom (.ofText root) =
      .directory
        (.ofText (if u.head? = some '/' then u else root ++ Path.separator root ++ u)) := by
  rw [Destination.lookedUpFrom]
  by_cases h : u.head? = some '/'
  · rw [if_pos ((Path.isAbsolute_ofText u).2 h), if_pos h]
  · rw [if_neg (fun h' => h ((Path.isAbsolute_ofText u).1 h')), if_neg h, Path.join_ofText hroot h]

/-- An absolute destination is tight, and it stays where it is. -/
theorem isTight_of_absolute (hroot : root ≠ []) (h : t.head? = some '/') :
    IsTight t ∧ checkDestination (some (rebase (.ofText root) t))
      = (checkDestination (some t)).map (Destination.lookedUpFrom (.ofText root)) := by
  have hink : t.HasInk := ⟨'/', List.mem_of_head? h, rfl⟩
  have hstart : ∀ c ∈ t.head?, isBlank c = false := by
    rw [h]
    rintro c ⟨⟩
    rfl
  have hhead : t.trimEnd.head? = some '/' := (Text.head?_trimEnd hink).trans h
  have hword : t.trimEnd ≠ Destination.nowhereName := fun hword => by
    rw [hword] at hhead
    revert hhead
    decide
  refine ⟨⟨hstart, fun h' => absurd h' hword⟩, ?_⟩
  have hkept : rebase (.ofText root) t = t := if_pos (.inr (.inr ((Path.isAbsolute_ofText t).2 h)))
  have htrim := (Text.trim_eq_trimEnd_iff hink).2 hstart
  rw [hkept, checkDestination_some hink, Destination.named, htrim, if_neg hword, Except.map,
    lookedUpFrom_ofText hroot, if_pos hhead]

/-- A destination of blanks only is missing, and below a root it is that root. -/
theorem not_isTight_of_blank (hnil : t ≠ []) (hblank : ¬ t.HasInk) : ¬ IsTight t := fun htight => by
  obtain ⟨c, r, rfl⟩ := List.exists_cons_of_ne_nil hnil
  have hc : Text.isInk c = true := by simp [Text.isInk, htight.1 c rfl]
  exact hblank ⟨c, List.mem_cons_self, hc⟩

/-- A relative destination is put below the root with all its blanks, so that trimming finds only
those behind it. -/
theorem isTight_of_relative (hroot : root ≠ []) (hink : t.HasInk)
    (hword : t ≠ Destination.nowhereName) (hrelative : t.head? ≠ some '/') :
    (.ok (.directory (.ofText (root ++ Path.separator root ++ t.trimEnd))) =
        (Except.ok (Destination.named t) : Except Violation Destination).map
          (Destination.lookedUpFrom (.ofText root))) ↔
      IsTight t := by
  have htrim := Text.trim_eq_trimEnd_iff hink
  rw [Destination.named, Except.map]
  by_cases hsentinel : t.trim = Destination.nowhereName
  · rw [if_pos hsentinel]
    refine iff_of_false (fun h => by cases h) fun htight => hword (htight.2 ?_)
    rw [← htrim.2 htight.1, hsentinel]
  have htight : IsTight t ↔ t.trim = t.trimEnd := by
    rw [IsTight, ← htrim]
    refine ⟨fun h => h.1, fun h => ⟨h, fun hword' => ?_⟩⟩
    exact absurd (h.trans hword') hsentinel
  rw [if_neg hsentinel, lookedUpFrom_ofText hroot, htight, Except.ok.injEq,
    Destination.directory.injEq]
  by_cases hslash : t.trim.head? = some '/'
  · -- Only a blank can have hidden the slash, and the root in front of it is one text too many.
    rw [if_pos hslash]
    refine iff_of_false (fun h => ?_) (fun h => hrelative ?_)
    · have hcount := congrArg (List.countP Text.isInk) (ofText_inj h)
      rw [List.countP_append, Text.countP_trimEnd] at hcount
      have hpos : 0 < (root ++ Path.separator root).countP Text.isInk :=
        List.countP_pos_iff.2 ⟨'/', slash_mem_below root, rfl⟩
      omega
    · rw [← Text.head?_trimEnd hink, ← h, hslash]
  · rw [if_neg hslash]
    refine ⟨fun h => ?_, fun h => by rw [h]⟩
    exact (List.append_cancel_left (ofText_inj h)).symm

/-- Rebasing agrees with trimming for tight destinations and for no others. -/
theorem checkDestination_rebase_iff (hroot : ∃ c ∈ root.head?, isBlank c = false) :
    checkDestination (some (rebase (.ofText root) t))
        = (checkDestination (some t)).map (Destination.lookedUpFrom (.ofText root)) ↔
      IsTight t := by
  have hne : root ≠ [] := by
    rintro rfl
    obtain ⟨c, ⟨⟩, -⟩ := hroot
  by_cases hword : t = Destination.nowhereName
  · subst hword
    refine iff_of_true rfl ⟨?_, fun _ => rfl⟩
    rintro c ⟨⟩
    rfl
  by_cases hnil : t = []
  · subst hnil
    exact iff_of_true rfl ⟨by simp, by decide⟩
  by_cases habsolute : t.head? = some '/'
  · obtain ⟨htight, hagrees⟩ := isTight_of_absolute hne habsolute
    exact iff_of_true hagrees htight
  have hbelow : Text.HasInk (root ++ Path.separator root ++ t) :=
    ⟨'/', List.mem_append_left t (slash_mem_below root), rfl⟩
  rw [rebase_of_relative hne hword hnil habsolute, checkDestination_some hbelow, named_below hroot]
  by_cases hink : t.HasInk
  · rw [checkDestination_some hink]
    exact isTight_of_relative hne hink hword habsolute
  · rw [checkDestination_of_blank (by rintro ⟨d, ⟨⟩, hd⟩; exact hink hd)]
    exact iff_of_false nofun (not_isTight_of_blank hnil hink)

end

/-! ### Whole settings -/

/-- The destination has no part in the rest of the checks. -/
theorem configure_lookedUpFrom (s : Settings) (root : Path) (l : Destination) :
    s.configure (l.lookedUpFrom root) = (s.configure l).map (Config.lookedUpFrom root) := by
  unfold Settings.configure
  cases s.sectionList with
  | error v => rfl
  | ok items =>
      simp only [bind, Except.bind]
      cases checkSections 0 items with
      | error v => rfl
      | ok sections =>
          cases checkTemplate s.template s.includes.isSome <;> rfl

/-- Settings that lack nothing but a destination. -/
def sampleSettings : Settings where
  sections := some (.array [.object [("title", .string "Base"), ("files", .string "base.css")]])

theorem configure_sampleSettings (l : Destination) :
    sampleSettings.configure l
      = .ok ⟨l, {}, {}, .drop, [⟨"Base", ["base.css"], none, .patterns⟩]⟩ := rfl

/-- Whether settings with one destination agree with settings with another is settled by the check
of the destination. -/
theorem validate_agrees_iff (root : Path) (dest other : Option Text) :
    (∀ s : Settings, Settings.validate { s with dest := other } =
        (Settings.validate { s with dest := dest }).map (Config.lookedUpFrom root)) ↔
      checkDestination other = (checkDestination dest).map (Destination.lookedUpFrom root) := by
  constructor
  · intro h
    -- the sample passes all other checks, so that its result shows that of the destination
    have hsample := h sampleSettings
    have hconfigure : ∀ (d : Option Text) (l : Destination),
        Settings.configure { sampleSettings with dest := d } l = sampleSettings.configure l :=
      fun _ _ => rfl
    simp only [Settings.validate_eq] at hsample
    cases hother : checkDestination other <;> cases hdest : checkDestination dest <;>
      simp [hother, hdest, bind, Except.bind, Except.map, hconfigure, configure_sampleSettings,
        Config.lookedUpFrom] at hsample ⊢
    · exact hsample
    · exact hsample
  · intro h s
    rw [Settings.validate_eq, Settings.validate_eq, h]
    cases checkDestination dest with
    | error v => rfl
    | ok l => exact configure_lookedUpFrom s root l

/-- **Validating the rebased destination agrees with rebasing the validated one**, whatever else the
settings say, exactly if the destination is tight or missing. -/
theorem rebase_agrees_iff {root : Text} (hroot : ∃ c ∈ root.head?, isBlank c = false)
    (dest : Option Text) :
    (∀ s : Settings, Settings.validate { s with dest := dest.map (rebase (.ofText root)) } =
        (Settings.validate { s with dest := dest }).map (Config.lookedUpFrom (.ofText root))) ↔
      ∀ t ∈ dest, IsTight t := by
  rw [validate_agrees_iff]
  cases dest with
  | none => exact iff_of_true rfl nofun
  | some t =>
      rw [Option.map_some, checkDestination_rebase_iff hroot]
      exact ⟨fun h u hu => Option.some.inj hu ▸ h, fun h => h t rfl⟩

/-- Blanks behind a destination do no harm. -/
theorem rebase_agrees_docs :
    (∃ c ∈ List.head? ("site" : Text), isBlank c = false) ∧
      ∀ s : Settings,
        Settings.validate { s with dest := (some "docs ").map (rebase (.ofText "site")) } =
          (Settings.validate { s with dest := some "docs " }).map
            (Config.lookedUpFrom (.ofText "site")) := by
  have hroot : ∃ c ∈ List.head? ("site" : Text), isBlank c = false := ⟨'s', rfl, rfl⟩
  refine ⟨hroot, (rebase_agrees_iff hroot (some "docs ")).2 ?_⟩
  rintro t ⟨⟩
  refine ⟨?_, by decide⟩
  rintro c ⟨⟩
  rfl

/-- A blank in front of the word for writing nothing: validation would take it for that word, but
below the root it has become a directory. -/
theorem exists_rebased_sentinel :
    Settings.validate { sampleSettings with dest := some " none" } =
        .ok ⟨.nowhere, {}, {}, .drop, [⟨"Base", ["base.css"], none, .patterns⟩]⟩ ∧
      Settings.validate
          { sampleSettings with dest := (some " none").map (rebase (.ofText "site")) } =
        .ok ⟨.directory (.ofText "site/ none"), {}, {}, .drop,
          [⟨"Base", ["base.css"], none, .patterns⟩]⟩ := by
  decide

end CommandLine

end PatternBook
