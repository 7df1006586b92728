import PatternBook.Proofs.Disk.Making
import PatternBook.Proofs.Run.Order

/-!
# What a run does to the disk

Each stage of a run happens only after the one before it has succeeded, and only the last one
touches the disk.

* `Run.write_of_directory`: what writing does, whether it succeeds or not.
* `Run.Gated`: the stages that a run has passed, and what they may have done.
* `run_gated`: every run is of that kind.
-/

namespace PatternBook

/-- The location is that of a path or of a directory that the path names on the way. -/
def Disk.OnTheWay (d : Disk) (p : Path) (l : Location) : Prop :=
  ∃ q ∈ p :: p.parents, d.locate q = .ok l

namespace Run

/-! ### What populating keeps -/

/-- Reading does not change where the document goes. -/
theorem readAll_keeps {read : Reader} {l l' : Library} {log : List Notice}
    {finished : List (Nat × Nat)} (h : (readAll read l log finished).1 = .ok l') :
    l'.destination = l.destination ∧ l'.output = l.output := by
  induction finished generalizing l log with
  | nil => cases h; exact ⟨rfl, rfl⟩
  | cons place rest ih =>
      cases hfile : fileAt? l place with
      | none => rw [readAll_of_none hfile] at h; exact ih h
      | some file =>
          cases hread : read file.path with
          | ok text =>
              rw [readAll_of_text hfile hread] at h
              exact (ih h :)
          | error mishap =>
              cases mishap with
              | failure e =>
                  rw [readAll_of_failure hfile hread] at h
                  exact (ih h :)
              | crash reason => rw [readAll_of_crash hfile hread] at h; cases h

theorem populate_keeps {c : Collaborators} {schedule : Schedule} {config : Config} {l : Library}
    (h : populate c schedule config = .ok l) :
    l.destination = config.destination ∧ l.output = none := by
  rw [populate] at h
  split at h
  · cases h
  · next found hfound =>
    cases hread : (readAll c.read (layOut config found) []
        (schedule.files (places (layOut config found)))).1 with
    | error r => simp only [hread] at h; cases h
    | ok read =>
        simp only [hread] at h
        cases h
        exact readAll_keeps hread

/-! ### Writing -/

section

variable {renderer : Renderer} {l : Library} {document : Text}

theorem write_of_error {causes : List Text} (h : renderer.render l = .error causes) (d : Disk) :
    write renderer l d = (.error (.format renderer.extension causes), [], d) := by
  rw [write, h]

theorem write_of_nowhere (h : renderer.render l = .ok document) (hl : l.destination = .nowhere)
    (d : Disk) : write renderer l d = (.ok l, [Notice.nothingWritten], d) := by
  simp only [write, h, hl]

/-- The document is written into a directory: the file is at its path, and there is nothing else
that was not there before, but for directories on the way. -/
structure Wrote (d d' : Disk) (folder : Path) (path : Path) (content : Bytes) : Prop where
  current : d'.current = d.current
  target  : ∃ target, d'.locate path = .ok target ∧ d'.look target = some (some content) ∧
    ∀ l, l ≠ target → d'.look l = d.look l ∨
      d.look l = none ∧ d'.look l = some none ∧ d'.OnTheWay folder l

/-- **Writing into a directory** makes the directories on the way, if it fails, and the document
besides, if it succeeds. -/
theorem write_of_directory {folder : Path} (h : renderer.render l = .ok document)
    (hl : l.destination = .directory folder) (d : Disk) :
    (∃ path e, (write renderer l d).1 = .error (.write path e) ∧
      d.GrownBy ((write renderer l d).2.2.OnTheWay folder) (write renderer l d).2.2) ∨
    (write renderer l d).1
        = .ok { l with output := some (documentPath folder renderer.extension) } ∧
      Wrote d (write renderer l d).2.2 folder (documentPath folder renderer.extension)
        (Utf8.encode document) := by
  have hgrown := Disk.grownBy_makeFolders d folder
  simp only [write, h, hl]
  split
  · next made e hmade =>
    rw [hmade] at hgrown
    exact .inl ⟨folder, e, rfl, hgrown⟩
  · next made hmade =>
    rw [hmade] at hgrown
    split
    · next e hwritten =>
      exact .inl ⟨_, e, rfl, hgrown⟩
    · next written hwritten =>
      obtain ⟨target, htarget, hextends, hlook⟩ := Disk.writeFile_ok hwritten
      refine .inr ⟨rfl, hextends.current.trans hgrown.current, target, htarget, ?_, ?_⟩
      · rw [hlook, if_pos rfl]
      · intro l' hne
        rw [hlook, if_neg hne]
        rcases hgrown.look l' with hsame | ⟨hnone, hsome, q, hq, hl'⟩
        · exact .inl hsame
        · -- The file does not change what the paths of the new directories stand for.
          exact .inr ⟨hnone, hsome, q, hq, hextends.locate hl'⟩

end

/-! ### The whole run -/

/-- The stages of a run gate each other: what a run may ask for and change, by the stage at which it
ends. -/
structure Gated (c : Collaborators) (schedule : Schedule) (settings : Settings) (d : Disk) :
    Prop where
  /-- With settings that break a rule nobody is asked for anything, so that the collaborators do
  not matter. -/
  invalid : ∀ v, settings.validate = .error v →
    (run c schedule settings d).result = .error (.config v) ∧
      (run c schedule settings d).patterns = [] ∧ (run c schedule settings d).reads = [] ∧
      (run c schedule settings d).disk = d ∧
      ∀ c' schedule', run c' schedule' settings d = run c schedule settings d
  /-- With patterns that cannot be expanded no file is read, so that the reader and the renderer do
  not matter. -/
  undiscovered : ∀ config, settings.validate = .ok config →
    (∃ s ∈ config.sections, ¬ Discovery.Expands c.expand s.files) →
    (∃ r, (run c schedule settings d).result = .error r) ∧
      (run c schedule settings d).reads = [] ∧ (run c schedule settings d).disk = d ∧
      ∀ read renderer,
        run ⟨c.expand, read, renderer⟩ schedule settings d = run c schedule settings d
  /-- A document that cannot be rendered is not written. -/
  unrendered : ∀ config l causes, settings.validate = .ok config →
    populate c schedule config = .ok l → c.renderer.render l = .error causes →
    (run c schedule settings d).result = .error (.format c.renderer.extension causes) ∧
      (run c schedule settings d).disk = d
  /-- Where nothing is to be written, nothing is. -/
  nowhere : ∀ config, settings.validate = .ok config → config.destination = .nowhere →
    (run c schedule settings d).disk = d
  /-- A run that is rejected before it writes leaves the disk as it is. -/
  rejected : ∀ r, (run c schedule settings d).result = .error r →
    (∀ path e, r ≠ .write path e) → (run c schedule settings d).disk = d
  /-- A run that is rejected when it writes leaves nothing behind but directories on the way. -/
  unwritten : ∀ config folder r, settings.validate = .ok config →
    config.destination = .directory folder → (run c schedule settings d).result = .error r →
    d.GrownBy ((run c schedule settings d).disk.OnTheWay folder) (run c schedule settings d).disk
  /-- A run that succeeds has written the document for its library, as it was before the output
  was known. -/
  written : ∀ config folder l, settings.validate = .ok config →
    config.destination = .directory folder → (run c schedule settings d).result = .ok l →
    l.output = some (documentPath folder c.renderer.extension) ∧
      ∃ document, c.renderer.render { l with output := none } = .ok document ∧
        Wrote d (run c schedule settings d).disk folder (documentPath folder c.renderer.extension)
          (Utf8.encode document)

theorem finish_of_nowhere {renderer : Renderer} {found : Except Rejection Library}
    (hfound : ∀ l, found = .ok l → l.destination = .nowhere) (d : Disk) :
    (finish renderer found d).2 = d := by
  cases found with
  | error r => rfl
  | ok l =>
      rw [finish]
      cases hrender : renderer.render l with
      | error causes => rw [write_of_error hrender]
      | ok document => rw [write_of_nowhere hrender (hfound l rfl)]

/-- What is left to do for a library that goes into a directory: the run is rejected, with new
directories at most, or the document is written. -/
theorem finish_of_directory (renderer : Renderer) {found : Except Rejection Library}
    {folder : Path}
    (hfound : ∀ l, found = .ok l → l.destination = .directory folder ∧ l.output = none)
    (d : Disk) :
    (∃ r, (finish renderer found d).1 = .error r ∧
      ((finish renderer found d).2 = d ∨ (∃ path e, r = .write path e) ∧
        d.GrownBy ((finish renderer found d).2.OnTheWay folder) (finish renderer found d).2)) ∨
    ∃ l, (finish renderer found d).1 = .ok l ∧
      l.output = some (documentPath folder renderer.extension) ∧
      ∃ document, renderer.render { l with output := none } = .ok document ∧
        Wrote d (finish renderer found d).2 folder (documentPath folder renderer.extension)
          (Utf8.encode document) := by
  cases found with
  | error r => exact .inl ⟨r, rfl, .inl rfl⟩
  | ok l =>
      obtain ⟨hdestination, houtput⟩ := hfound l rfl
      rw [finish]
      cases hrender : renderer.render l with
      | error causes =>
          rw [write_of_error hrender]
          exact .inl ⟨_, rfl, .inl rfl⟩
      | ok document =>
          rcases write_of_directory hrender hdestination d with ⟨path, e, hr, hgrown⟩ | ⟨hl, hwrote⟩
          · exact .inl ⟨_, hr, .inr ⟨⟨path, e, rfl⟩, hgrown⟩⟩
          · refine .inr ⟨_, hl, rfl, document, ?_, hwrote⟩
            rw [← houtput]
            exact hrender

end Run

section

variable {c : Collaborators} {schedule : Schedule} {settings : Settings} {config : Config}

/-- A run that is to write nothing leaves the disk as it is. -/
theorem run_of_nowhere (hconfig : settings.validate = .ok config)
    (hdestination : config.destination = .nowhere) (d : Disk) :
    (run c schedule settings d).disk = d := by
  rw [disk_run_of_valid hconfig]
  refine Run.finish_of_nowhere (fun l hl => ?_) d
  exact (Run.populate_keeps hl).1.trans hdestination

/-- A run that is to write into a directory is rejected, with new directories at most if it was to
write already, or it has written the document. -/
theorem run_of_directory {folder : Path} (hconfig : settings.validate = .ok config)
    (hdestination : config.destination = .directory folder) (d : Disk) :
    (∃ r, (run c schedule settings d).result = .error r ∧
      ((run c schedule settings d).disk = d ∨ (∃ path e, r = .write path e) ∧
        d.GrownBy ((run c schedule settings d).disk.OnTheWay folder)
          (run c schedule settings d).disk)) ∨
    ∃ l, (run c schedule settings d).result = .ok l ∧
      l.output = some (Run.documentPath folder c.renderer.extension) ∧
      ∃ document, c.renderer.render { l with output := none } = .ok document ∧
        Run.Wrote d (run c schedule settings d).disk folder
          (Run.documentPath folder c.renderer.extension) (Utf8.encode document) := by
  rw [result_run_of_valid hconfig, disk_run_of_valid hconfig]
  refine Run.finish_of_directory c.renderer (fun l hl => ?_) d
  obtain ⟨hl, houtput⟩ := Run.populate_keeps hl
  exact ⟨hl.trans hdestination, houtput⟩

end

/-- **The stages of every run gate each other**, whatever the settings, the collaborators and the
disk are. -/
theorem run_gated {schedule : Schedule} (h : schedule.Complete) (c : Collaborators)
    (settings : Settings) (d : Disk) : Run.Gated c schedule settings d := by
  constructor
  case invalid =>
    intro v hv
    rw [run_of_invalid hv]
    exact ⟨rfl, rfl, rfl, rfl, fun c' schedule' => run_of_invalid hv d⟩
  case undiscovered =>
    rintro config hconfig ⟨s, hmem, hs⟩
    obtain ⟨r, hr⟩ := Run.discover_of_not_expands h hmem hs
    rw [run_of_undiscovered hconfig hr]
    exact ⟨⟨r, rfl⟩, rfl, rfl, fun read renderer =>
      run_of_undiscovered (c := ⟨c.expand, read, renderer⟩) hconfig hr d⟩
  case unrendered =>
    intro config l causes hconfig hl hcauses
    have hrun : ((run c schedule settings d).result, (run c schedule settings d).disk)
        = Run.finish c.renderer (Run.populate c schedule config) d := run_of_valid hconfig d
    rw [hl, Run.finish, Run.write_of_error hcauses] at hrun
    exact Prod.ext_iff.1 hrun
  case nowhere => exact fun config hconfig hdestination => run_of_nowhere hconfig hdestination d
  case rejected =>
    intro r hr hwrite
    -- The stage at which the run was rejected is one of those before the last.
    cases hsettings : settings.validate with
    | error v => rw [run_of_invalid hsettings]; rfl
    | ok config =>
        cases hdestination : config.destination with
        | nowhere => exact run_of_nowhere hsettings hdestination d
        | directory folder =>
            rcases run_of_directory hsettings hdestination d with
              ⟨r', hr', hsame | ⟨⟨path, e, rfl⟩, -⟩⟩ | ⟨l, hl, -⟩
            · exact hsame
            · rw [hr'] at hr
              exact absurd (Except.error.inj hr).symm (hwrite path e)
            · rw [hl] at hr
              cases hr
  case unwritten =>
    intro config folder r hconfig hdestination hr
    rcases run_of_directory hconfig hdestination d with
      ⟨r', -, hsame | ⟨-, hgrown⟩⟩ | ⟨l, hl, -⟩
    · rw [hsame]
      exact .refl _ d
    · exact hgrown
    · rw [hl] at hr
      cases hr
  case written =>
    intro config folder l hconfig hdestination hl
    rcases run_of_directory hconfig hdestination d with ⟨r, hr, -⟩ | ⟨l', hl', hwritten⟩
    · rw [hr] at hl
      cases hl
    · rw [hl'] at hl
      cases hl
      exact hwritten

/-- A file that is not there, and a document that does not depend on it. -/
def plainCollaborators : Collaborators where
  expand pattern := .ok [.ofText pattern]
  read _ := .error (.failure .notFound)
  renderer := ⟨"txt", fun _ => .ok "page"⟩

/-- One section, written below directories that are not there yet. -/
def plainSettings : Settings where
  dest := some "out/site"
  sections := some (.array [.object [("title", .string "Base"), ("files", .string "base.css")]])

theorem run_gated_outSite :
    ∃ l, (run plainCollaborators {} plainSettings ⟨.empty, []⟩).result = .ok l ∧
      Run.Wrote ⟨.empty, []⟩ (run plainCollaborators {} plainSettings ⟨.empty, []⟩).disk
        (.ofText "out/site") (.ofText "out/site/index.txt") (Utf8.encode "page") := by
  have hcomplete : ({} : Schedule).Complete := ⟨.refl, .refl⟩
  have hgated := run_gated hcomplete plainCollaborators plainSettings ⟨.empty, []⟩
  obtain ⟨-, document, hrender, hwrote⟩ := hgated.written _ _ _ rfl rfl rfl
  cases hrender
  exact ⟨_, rfl, hwrote⟩

end PatternBook
