import PatternBook.Proofs.CommandLine.Meaning
import PatternBook.Proofs.Run.Effects

/-!
# What the program does to the disk

The settings are loaded, the format is looked up, and only then does a run begin; only what the run
does reaches the disk, and only the path of a document that has been written reaches standard
output.

* `CommandLine.Options.Succeeds`: what it takes for the options to lead to a library.
* `CommandLine.Settled`: the exit code, the output and the disk that go with it.
* `CommandLine.program_settled`: the program is settled for all arguments that ask for a run.
-/

namespace PatternBook.CommandLine

/-! ### What options lead to -/

/-- The options lead to a library: the settings can be loaded, there is a format of that name, and
the run that the options make of the settings succeeds.  The configuration is that of the run. -/
def Options.Succeeds (o : Options) (schedule : Schedule) (d : Disk) (config : Config)
    (l : Library) : Prop :=
  ∃ settings c, Loads d o.configFile settings ∧ IsFormat o.formatName ∧ o.Asks d c ∧
    (o.settingsOf settings).validate = .ok config ∧
    (run c schedule (o.settingsOf settings) d).result = .ok l

/-- The document in a directory. -/
def Options.documentIn (o : Options) (folder : Path) : Path :=
  folder.join (.ofText ("index." ++ o.formatName))

/-- What the program leaves behind is what the options lead to. -/
structure Settled (o : Options) (schedule : Schedule) (d : Disk) (outcome : Outcome) : Prop where
  /-- The exit code tells whether the options lead to a library. -/
  code : outcome.code = 0 ↔ ∃ config l, o.Succeeds schedule d config l
  /-- Where nothing is to be written, nothing is, and nothing is printed. -/
  nowhere : ∀ config l, o.Succeeds schedule d config l → config.destination = .nowhere →
    outcome.output = [] ∧ outcome.disk = d
  /-- A document that is written is that of the library before its output was known, and its path
  is printed. -/
  written : ∀ config l folder, o.Succeeds schedule d config l →
    config.destination = .directory folder →
    outcome.output = (o.documentIn folder).toText ++ "\n" ∧
      ∃ document, Renders o.formatName { l with output := none } document ∧
        Run.Wrote d outcome.disk folder (o.documentIn folder) (Utf8.encode document)
  /-- A failure prints nothing, and there is nothing on the disk that was not there before but for
  some directories. -/
  failed : outcome.code ≠ 0 → outcome.output = [] ∧ d.GrownBy (fun _ => True) outcome.disk
  /-- Without settings or without a format the disk stays as it is. -/
  unusable : (∀ settings, ¬ Loads d o.configFile settings) ∨ ¬ IsFormat o.formatName →
    outcome.code ≠ 0 ∧ outcome.disk = d

/-! ### Reports -/

section

variable {o : Options} {r : Report}

theorem code_ofReport_eq_zero_iff : (ofReport o r).code = 0 ↔ ∃ l, r.result = .ok l := by
  rw [ofReport]
  cases r.result <;> simp

theorem disk_ofReport (o : Options) (r : Report) : (ofReport o r).disk = r.disk := by
  rw [ofReport]
  cases r.result <;> rfl

theorem output_ofReport_of_error {e : Rejection} (h : r.result = .error e) :
    (ofReport o r).output = [] := by
  rw [ofReport, h]

theorem output_ofReport_of_unwritten {l : Library} (h : r.result = .ok l) (hl : l.output = none) :
    (ofReport o r).output = [] := by
  simp only [ofReport, h, hl]

theorem output_ofReport_of_written {l : Library} {path : Path} (h : r.result = .ok l)
    (hl : l.output = some path) : (ofReport o r).output = path.toText ++ "\n" := by
  simp only [ofReport, h, hl]

end

/-! ### Runs -/

section

variable {c : Collaborators} {schedule : Schedule} {settings : Settings} {d : Disk}

/-- A run that is rejected leaves nothing behind but directories. -/
theorem grownBy_run {r : Rejection} (h : (run c schedule settings d).result = .error r) :
    d.GrownBy (fun _ => True) (run c schedule settings d).disk := by
  cases hvalid : settings.validate with
  | error v =>
      rw [run_of_invalid hvalid]
      exact .refl _ d
  | ok config =>
      cases hdestination : config.destination with
      | nowhere =>
          rw [run_of_nowhere hvalid hdestination]
          exact .refl _ d
      | directory folder =>
          rcases run_of_directory hvalid hdestination d with
            ⟨_, -, hsame | ⟨-, hgrown⟩⟩ | ⟨l, hl, -⟩
          · rw [hsame]
            exact .refl _ d
          · exact hgrown.mono fun _ _ => trivial
          · rw [hl] at h
            cases h

/-- Only settings that keep the rules lead to a library. -/
theorem exists_config_of_run {l : Library} (h : (run c schedule settings d).result = .ok l) :
    ∃ config, settings.validate = .ok config := by
  cases hvalid : settings.validate with
  | error v =>
      rw [run_of_invalid hvalid] at h
      cases h
  | ok config => exact ⟨config, rfl⟩

/-- The library of a run that writes nothing has no output. -/
theorem output_of_nowhere {config : Config} {l : Library} (hvalid : settings.validate = .ok config)
    (hdestination : config.destination = .nowhere)
    (h : (run c schedule settings d).result = .ok l) : l.output = none := by
  rw [result_run_of_valid hvalid] at h
  cases hfound : Run.populate c schedule config with
  | error r =>
      rw [hfound] at h
      cases h
  | ok found =>
      obtain ⟨hnowhere, houtput⟩ := Run.populate_keeps hfound
      rw [hfound, Run.finish] at h
      cases hrender : c.renderer.render found with
      | error causes =>
          rw [Run.write_of_error hrender] at h
          cases h
      | ok document =>
          rw [Run.write_of_nowhere hrender (hnowhere.trans hdestination)] at h
          cases h
          exact houtput

end

/-! ### Execution -/

section

variable {o : Options} {schedule : Schedule} {d : Disk} {config : Config} {l : Library}

/-- The program fails before the run, for want of settings or of a format, or it does the run that
the options make of the settings. -/
theorem execute_cases (o : Options) (schedule : Schedule) (d : Disk) :
    (((∀ settings, ¬ Loads d o.configFile settings) ∨ ¬ IsFormat o.formatName) ∧
      ∃ message, execute o d schedule = failed message d) ∨
    ∃ settings c, Loads d o.configFile settings ∧ IsFormat o.formatName ∧ o.Asks d c ∧
      execute o d schedule = ofReport o (run c schedule (o.settingsOf settings) d) := by
  simp only [execute, ← apply_eq]
  cases hload : loadSettings d o.configPath with
  | error fault =>
      refine .inl ⟨.inl fun settings hsettings => ?_, _, rfl⟩
      cases hload.symm.trans (loadSettings_eq_ok_iff.2 hsettings)
  | ok settings =>
      have hsettings : Loads d o.configFile settings := loadSettings_eq_ok_iff.1 hload
      cases hname : Renderer.ofName? (o.format.getD defaultFormat) with
      | none => exact .inl ⟨.inr (ofName?_eq_none_iff.1 hname), _, rfl⟩
      | some renderer =>
          have hformat : IsFormat o.formatName := by
            by_contra hno
            cases hname.symm.trans (ofName?_eq_none_iff.2 hno)
          exact .inr ⟨settings, _, hsettings, hformat, asks_onDisk hname d, rfl⟩

/-- Without settings or without a format there is no run. -/
theorem execute_of_unusable (schedule : Schedule)
    (h : (∀ settings, ¬ Loads d o.configFile settings) ∨ ¬ IsFormat o.formatName) :
    ∃ message, execute o d schedule = failed message d := by
  rcases execute_cases o schedule d with ⟨-, hfailed⟩ | ⟨settings, c, hload, hformat, -, -⟩
  · exact hfailed
  · rcases h with h | h
    · exact absurd hload (h settings)
    · exact absurd hformat h

/-- If the options lead to a library, then the program does the run that leads there. -/
theorem Options.Succeeds.execute_eq (h : o.Succeeds schedule d config l) :
    ∃ settings c, o.Asks d c ∧ (o.settingsOf settings).validate = .ok config ∧
      (run c schedule (o.settingsOf settings) d).result = .ok l ∧
      execute o d schedule = ofReport o (run c schedule (o.settingsOf settings) d) := by
  obtain ⟨settings, c, hload, hformat, hasks, hvalid, hl⟩ := h
  rcases execute_cases o schedule d with ⟨hno, -⟩ | ⟨settings', c', hload', -, hasks', hexecute⟩
  · exact (hno.elim (fun hno => hno settings hload) fun hno => hno hformat).elim
  · obtain rfl := hload.unique hload'
    obtain rfl := hasks.unique hasks'
    exact ⟨settings, c, hasks, hvalid, hl, hexecute⟩

/-- The exit code is 0 exactly if the options lead to a library. -/
theorem code_execute_eq_zero_iff :
    (execute o d schedule).code = 0 ↔ ∃ config l, o.Succeeds schedule d config l := by
  constructor
  · intro hcode
    rcases execute_cases o schedule d with
      ⟨-, message, hfailed⟩ | ⟨settings, c, hload, hformat, hasks, hexecute⟩
    · rw [hfailed] at hcode
      cases hcode
    · rw [hexecute] at hcode
      obtain ⟨l, hl⟩ := code_ofReport_eq_zero_iff.1 hcode
      obtain ⟨config, hvalid⟩ := exists_config_of_run hl
      exact ⟨config, l, settings, c, hload, hformat, hasks, hvalid, hl⟩
  · rintro ⟨config, l, hsucceeds⟩
    obtain ⟨settings, c, -, -, hl, hexecute⟩ := hsucceeds.execute_eq
    rw [hexecute]
    exact code_ofReport_eq_zero_iff.2 ⟨l, hl⟩

theorem execute_settled (o : Options) (schedule : Schedule) (d : Disk) :
    Settled o schedule d (execute o d schedule) where
  code := code_execute_eq_zero_iff
  nowhere := by
    intro config l hsucceeds hdestination
    obtain ⟨settings, c, -, hvalid, hl, hexecute⟩ := hsucceeds.execute_eq
    rw [hexecute, disk_ofReport]
    exact ⟨output_ofReport_of_unwritten hl (output_of_nowhere hvalid hdestination hl),
      run_of_nowhere hvalid hdestination d⟩
  written := by
    intro config l folder hsucceeds hdestination
    obtain ⟨settings, c, hasks, hvalid, hl, hexecute⟩ := hsucceeds.execute_eq
    rcases run_of_directory hvalid hdestination d with
      ⟨r, hr, -⟩ | ⟨l', hl', houtput, document, hrender, hwrote⟩
    · rw [hr] at hl
      cases hl
    · obtain rfl : l' = l := Except.ok.inj (hl'.symm.trans hl)
      rw [Run.documentPath, hasks.extension] at houtput hwrote
      rw [hexecute, disk_ofReport]
      refine ⟨output_ofReport_of_written hl houtput, document, ?_, hwrote⟩
      obtain ⟨document', hrender', hrenders⟩ := hasks.render { l' with output := none }
      obtain rfl : document' = document := Except.ok.inj (hrender'.symm.trans hrender)
      exact hrenders
  failed := by
    intro hcode
    rcases execute_cases o schedule d with
      ⟨-, message, hfailed⟩ | ⟨settings, c, -, -, -, hexecute⟩
    · rw [hfailed]
      exact ⟨rfl, .refl _ d⟩
    · rw [hexecute] at hcode ⊢
      cases hresult : (run c schedule (o.settingsOf settings) d).result with
      | ok l => exact absurd (code_ofReport_eq_zero_iff.2 ⟨l, hresult⟩) hcode
      | error r =>
          rw [disk_ofReport]
          exact ⟨output_ofReport_of_error hresult, grownBy_run hresult⟩
  unusable := by
    intro hno
    obtain ⟨message, hfailed⟩ := execute_of_unusable schedule hno
    rw [hfailed]
    exact ⟨nofun, rfl⟩

end

/-- **The exit code, the output and the disk agree**, whatever the arguments that ask for a run,
the configuration file, the files around it and the order of the tasks are. -/
theorem program_settled {arguments : List Text} {o : Options}
    (h : readArguments arguments = .run o) (d : Disk) (schedule : Schedule) :
    Settled o schedule d (program arguments d schedule) := by
  rw [program, h]
  exact execute_settled o schedule d

/-- A configuration file, and a source in a directory beside it. -/
def siteDisk : Disk :=
  let config : Text :=
    "\x7b\"dest\": \"other\", \"sections\": [\x7b\"title\": \"Base\", \"files\": \"*.css\"\x7d]\x7d"
  let bare : Disk := ⟨.empty, []⟩
  ((bare.put [Utf8.encode "library.json"] (.file (Utf8.encode config))).put
    [Utf8.encode "site"] (.folder .empty)).put
    [Utf8.encode "site", Utf8.encode "base.css"] (.file (Utf8.encode "a \x7b\x7d"))

/-- The file, the destination, the format and the directory that the rest is looked up from. -/
def siteArguments : List Text :=
  ["-q", "library.json", "-d", "docs", "--format=json", "--root", "site"]

def siteOptions : Options where
  config := some "library.json"
  dest := some "docs"
  format := some "json"
  root := some "site"
  quiet := true

/-- What the program writes into the directory. -/
def siteDocument : Text :=
  "\x7b\n  \"destination\": \"site/docs\",\n" ++
  "  \"template\": \x7b\n    \"title\": \"Pattern Library\",\n" ++
  "    \"selectorPrefix\": null,\n    \"assets\": []\n  \x7d,\n" ++
  "  \"include\": \x7b\n    \"css\": [],\n    \"js\": []\n  \x7d,\n" ++
  "  \"sections\": [\n    \x7b\n      \"title\": \"Base\",\n      \"mode\": null,\n" ++
  "      \"layout\": \"patterns\",\n      \"files\": [\n        \x7b\n" ++
  "          \"path\": \"site/base.css\",\n          \"extension\": \"css\",\n" ++
  "          \"records\": [],\n          \"diagnostics\": []\n" ++
  "        \x7d\n      ]\n    \x7d\n  ],\n  \"output\": null\n\x7d\n"

theorem program_settled_site :
    readArguments siteArguments = .run siteOptions ∧
      (∃ config l, siteOptions.Succeeds {} siteDisk config l) ∧
      (program siteArguments siteDisk).output = "site/docs/index.json\n" ∧
      (program siteArguments siteDisk).disk.readText (.ofText "site/docs/index.json")
        = .ok siteDocument := by
  have harguments : readArguments siteArguments = .run siteOptions := by decide
  have hcode : (program siteArguments siteDisk).code = 0 := by decide +kernel
  have hsettled := program_settled harguments siteDisk {}
  exact ⟨harguments, hsettled.code.1 hcode, by decide +kernel, by decide +kernel⟩

end PatternBook.CommandLine
