import Mathlib.Data.List.Nodup
import PatternBook.Proofs.Run.Stages

/-!
# The order in which tasks finish

The tasks of a step write into places of their own, so that the library does not depend on the order
in which they finish: it is the one that a run without tasks would give, section by section and
file by file.

* `Library.sequential`: the library of a run without tasks.
* `Run.gather_filled`, `Run.readAll_answered`: what has been found after some tasks.
* `run_of_complete`: every order leads to the same library, or to no library at all.
-/

namespace PatternBook

/-! ### The sequential library -/

/-- The files that patterns stand for, as far as they can be expanded. -/
def Discovery.found (expand : Globber) (patterns : List Text) : List Path :=
  match expandAll expand patterns with
  | .ok paths => paths
  | .error _ => []

/-- The patterns can be expanded. -/
def Discovery.Expands (expand : Globber) (patterns : List Text) : Prop :=
  ∃ paths, expandAll expand patterns = .ok paths

theorem Discovery.Expands.eq {expand : Globber} {patterns : List Text}
    (h : Expands expand patterns) : expandAll expand patterns = .ok (found expand patterns) := by
  obtain ⟨paths, hpaths⟩ := h
  rw [found, hpaths]

/-- The task that reads the path does not break down. -/
def Reader.Answers (read : Reader) (path : Path) : Prop :=
  ∀ reason, read path ≠ .error (.crash reason)

theorem Reader.answers_of_text {read : Reader} {path : Path} {text : Text}
    (h : read path = .ok text) : Answers read path := fun reason hcrash => by
  rw [h] at hcrash
  cases hcrash

theorem Reader.answers_of_failure {read : Reader} {path : Path} {e : FileError}
    (h : read path = .error (.failure e)) : Answers read path := fun reason hcrash => by
  rw [h] at hcrash
  cases hcrash

instance (read : Reader) (path : Path) : Decidable (Reader.Answers read path) :=
  match h : read path with
  | .error (.crash reason) => isFalse fun hanswers => hanswers reason h
  | .error (.failure _) => isTrue (Reader.answers_of_failure h)
  | .ok _ => isTrue (Reader.answers_of_text h)

/-- The file at a path with what reading it gives: what its text says, or the one diagnostic that
it cannot be read. -/
def SourceFile.asRead (read : Reader) (mode : Option Mode) (policy : UntaggedPolicy)
    (path : Path) : SourceFile :=
  match read path with
  | .ok text =>
    let (family, dialect) := Mode.resolve mode path.extension
    let found := Findings.ofSource family dialect policy text
    { path := path
      extension := path.extension
      text? := some text
      records := found.records.map fun r =>
        { r with sourcePath := path, sourceExtension := path.extension }
      diagnostics := found.diagnostics }
  | .error (.failure e) =>
    { path := path, extension := path.extension, diagnostics := [Run.unreadable e] }
  | .error (.crash _) => ofPath path

/-- A section with the files that its patterns stand for, read one after the other. -/
def Section.sequential (c : Collaborators) (policy : UntaggedPolicy) (s : SectionConfig) :
    Section where
  title := s.title
  mode := s.mode
  layout := s.layout
  files := (Discovery.found c.expand s.files).map (SourceFile.asRead c.read s.mode policy)

/-- The library of a configuration, section by section. -/
def Library.sequential (c : Collaborators) (config : Config) : Library where
  destination := config.destination
  template := config.template
  includes := config.includes
  sections := config.sections.map (Section.sequential c config.untagged)
  output := none

/-- Every task finishes once. -/
structure Schedule.Complete (schedule : Schedule) : Prop where
  sections : ∀ tasks, (schedule.sections tasks).Perm tasks
  files : ∀ tasks, (schedule.files tasks).Perm tasks

namespace Run

/-! ### Discovery -/

section

variable {expand : Globber} {sections : List SectionConfig}

/-- The slots of the sections after some tasks. -/
def filled (expand : Globber) (sections : List SectionConfig) (done : List Nat) :
    List (List Path) :=
  sections.mapIdx fun i s => if i ∈ done then Discovery.found expand s.files else []

theorem getElem?_filled (done : List Nat) (i : Nat) :
    (filled expand sections done)[i]? =
      sections[i]?.map fun s => if i ∈ done then Discovery.found expand s.files else [] :=
  List.getElem?_mapIdx

theorem filled_nil (expand : Globber) (sections : List SectionConfig) :
    filled expand sections [] = sections.map fun _ => [] := by
  refine List.ext_getElem? fun i => ?_
  rw [getElem?_filled, List.getElem?_map]
  simp only [List.not_mem_nil, if_false]

/-- After all tasks every slot is filled. -/
theorem filled_all {done : List Nat} (h : ∀ i < sections.length, i ∈ done) :
    filled expand sections done = sections.map fun s => Discovery.found expand s.files := by
  refine List.ext_getElem? fun i => ?_
  rw [getElem?_filled, List.getElem?_map]
  cases hi : sections[i]? with
  | none => rfl
  | some s => rw [Option.map_some, if_pos (h i (List.getElem?_eq_some_iff.1 hi).1), Option.map_some]

/-- A task fills the slot of its section and no other. -/
theorem set_filled {i : Nat} {s : SectionConfig} (hi : sections[i]? = some s) (done : List Nat) :
    (filled expand sections done).set i (Discovery.found expand s.files)
      = filled expand sections (i :: done) := by
  refine List.ext_getElem? fun j => ?_
  rw [List.getElem?_set, getElem?_filled, getElem?_filled, filled, List.length_mapIdx]
  by_cases h : i = j
  · obtain ⟨hlt, rfl⟩ := List.getElem?_eq_some_iff.1 hi
    subst h
    simp [hlt]
  · simp [h, Ne.symm h]

theorem filled_of_none {i : Nat} (hi : sections[i]? = none) (done : List Nat) :
    filled expand sections done = filled expand sections (i :: done) := by
  refine List.ext_getElem? fun j => ?_
  rw [getElem?_filled, getElem?_filled]
  by_cases h : j = i
  · rw [h, hi]
    rfl
  · simp [h]

/-- **Tasks fill their slots**, in whatever order they finish. -/
theorem gather_filled (hs : ∀ s ∈ sections, Discovery.Expands expand s.files)
    (done finished : List Nat) :
    gather expand sections (filled expand sections done) finished
      = .ok (filled expand sections (finished.reverse ++ done)) := by
  induction finished generalizing done with
  | nil => rfl
  | cons i rest ih =>
      -- The tasks that are done stand in a list with the last one first.
      rw [List.reverse_cons, List.append_assoc, List.singleton_append, ← ih (i :: done)]
      cases hi : sections[i]? with
      | none =>
          rw [← filled_of_none hi, gather]
          simp only [hi]
      | some s =>
          have hexpands := (hs s (List.mem_of_getElem? hi)).eq
          rw [← set_filled hi, gather]
          simp only [hi, hexpands]

/-- A task whose patterns cannot be expanded ends the step, whatever finishes before it. -/
theorem gather_of_not_expands {i : Nat} {s : SectionConfig} (hi : sections[i]? = some s)
    (hs : ¬ Discovery.Expands expand s.files) {finished : List Nat} (hmem : i ∈ finished)
    (slots : List (List Path)) :
    ∃ r, gather expand sections slots finished = .error r := by
  induction finished generalizing slots with
  | nil => cases hmem
  | cons j rest ih =>
      rw [gather]
      by_cases hj : i ∈ rest
      · cases sections[j]? with
        | none => exact ih hj slots
        | some t =>
            simp only
            split
            · exact ih hj _
            · exact ⟨_, rfl⟩
            · exact ⟨_, rfl⟩
      · obtain rfl : i = j := (List.mem_cons.1 hmem).resolve_right hj
        simp only [hi]
        split
        · next paths h => exact absurd ⟨paths, h⟩ hs
        · exact ⟨_, rfl⟩
        · exact ⟨_, rfl⟩

end

section

variable {c : Collaborators} {schedule : Schedule} {config : Config}

theorem discover_of_complete (h : schedule.Complete)
    (hs : ∀ s ∈ config.sections, Discovery.Expands c.expand s.files) :
    discover c.expand schedule config
      = .ok (config.sections.map fun s => Discovery.found c.expand s.files) := by
  rw [discover, ← filled_nil c.expand, gather_filled hs, filled_all]
  intro i hi
  rw [List.append_nil, List.mem_reverse, (h.sections _).mem_iff]
  exact List.mem_range.2 hi

theorem discover_of_not_expands (h : schedule.Complete) {s : SectionConfig}
    (hmem : s ∈ config.sections) (hs : ¬ Discovery.Expands c.expand s.files) :
    ∃ r, discover c.expand schedule config = .error r := by
  obtain ⟨i, hi, rfl⟩ := List.getElem_of_mem hmem
  refine gather_of_not_expands (List.getElem?_eq_getElem hi) hs ?_ _
  exact (h.sections _).mem_iff.2 (List.mem_range.2 hi)

end

/-! ### Files by their places -/

/-- The library with every file changed, each as its place asks for. -/
def mapFiles (change : Nat × Nat → SourceFile → SourceFile) (l : Library) : Library :=
  { l with sections := l.sections.mapIdx fun i s =>
      { s with files := s.files.mapIdx fun j file => change (i, j) file } }

section

variable {l : Library} {change change' : Nat × Nat → SourceFile → SourceFile}

theorem fileAt?_mapFiles (place : Nat × Nat) :
    fileAt? (mapFiles change l) place = (fileAt? l place).map (change place) := by
  rw [fileAt?, mapFiles, List.getElem?_mapIdx, fileAt?]
  cases l.sections[place.1]? with
  | none => rfl
  | some s => exact List.getElem?_mapIdx

/-- Only what happens to the files of the library counts. -/
theorem mapFiles_congr
    (h : ∀ place file, fileAt? l place = some file → change place file = change' place file) :
    mapFiles change l = mapFiles change' l := by
  suffices hs : ∀ i : Nat, (mapFiles change l).sections[i]? = (mapFiles change' l).sections[i]? from
    congrArg (fun ss => { l with sections := ss }) (List.ext_getElem? hs)
  intro i
  rw [mapFiles, mapFiles, List.getElem?_mapIdx, List.getElem?_mapIdx]
  cases hi : l.sections[i]? with
  | none => rfl
  | some s =>
      suffices hf : s.files.mapIdx (fun j file => change (i, j) file)
          = s.files.mapIdx (fun j file => change' (i, j) file) by
        rw [Option.map_some, Option.map_some, hf]
      refine List.ext_getElem? fun j => ?_
      rw [List.getElem?_mapIdx, List.getElem?_mapIdx]
      cases hj : s.files[j]? with
      | none => rfl
      | some file =>
          refine congrArg some (h (i, j) file ?_)
          rw [fileAt?, hi]
          exact hj

/-- A change that does not look at places. -/
theorem mapFiles_const (change : SourceFile → SourceFile) (l : Library) :
    mapFiles (fun _ => change) l =
      { l with sections := l.sections.map fun s => { s with files := s.files.map change } } := by
  refine congrArg (fun ss => { l with sections := ss }) (List.ext_getElem? fun i => ?_)
  rw [List.getElem?_mapIdx, List.getElem?_map]
  cases l.sections[i]? with
  | none => rfl
  | some s =>
      refine congrArg (fun files => some { s with files := files }) (List.ext_getElem? fun j => ?_)
      rw [List.getElem?_mapIdx, List.getElem?_map]

theorem mapFiles_id (l : Library) : mapFiles (fun _ file => file) l = l := by
  simp only [mapFiles_const, List.map_id']

theorem modify_mapIdx {α β : Type} (g : Nat → α → β) (f : β → β) (k : Nat) (as : List α) :
    (as.mapIdx g).modify k f = as.mapIdx fun i a => if i = k then f (g i a) else g i a := by
  refine List.ext_getElem? fun i => ?_
  rw [List.getElem?_modify, List.getElem?_mapIdx, List.getElem?_mapIdx]
  by_cases h : k = i <;> cases as[i]? <;> simp [h, Ne.symm]

/-- One more change at a place. -/
theorem updateFile_mapFiles (place : Nat × Nat) (f : SourceFile → SourceFile) :
    updateFile (mapFiles change l) place f
      = mapFiles (fun q file => if q = place then f (change q file) else change q file) l := by
  obtain ⟨i, j⟩ := place
  rw [updateFile, mapFiles, modify_mapIdx]
  refine congrArg (fun g => { l with sections := l.sections.mapIdx g }) ?_
  refine funext fun i' => funext fun s => ?_
  by_cases h : i' = i
  · subst h
    simp only [if_pos, modify_mapIdx, Prod.mk.injEq, true_and]
  · simp only [Prod.mk.injEq, h, false_and, if_false]

theorem mem_places {place : Nat × Nat} {file : SourceFile} (h : fileAt? l place = some file) :
    place ∈ places l := by
  obtain ⟨i, j⟩ := place
  obtain ⟨s, hs, hfile⟩ := Option.bind_eq_some_iff.1 h
  refine List.mem_flatMap.2 ⟨i, List.mem_range.2 (List.getElem?_eq_some_iff.1 hs).1, ?_⟩
  refine List.mem_map.2 ⟨j, List.mem_range.2 ?_, rfl⟩
  rw [hs]
  exact (List.getElem?_eq_some_iff.1 hfile).1

/-- Every file has one place. -/
theorem nodup_places (l : Library) : (places l).Nodup := by
  refine List.nodup_flatMap.2 ⟨fun i _ => ?_, ?_⟩
  · exact List.nodup_range.map fun j j' h => (Prod.mk.inj h).2
  · refine List.Pairwise.imp (fun {i i'} hne => ?_) List.nodup_range
    intro place hi hi'
    obtain ⟨j, -, rfl⟩ := List.mem_map.1 hi
    obtain ⟨j', -, heq⟩ := List.mem_map.1 hi'
    exact hne (Prod.mk.inj heq).1.symm

end

/-! ### Reading -/

section

variable {read : Reader} {l : Library}

/-- The file after its task. -/
def answer (read : Reader) (file : SourceFile) : SourceFile :=
  match read file.path with
  | .ok text => { file with text? := some text }
  | .error (.failure e) => { file with diagnostics := file.diagnostics ++ [unreadable e] }
  | .error (.crash _) => file

/-- The library after some tasks. -/
def answered (read : Reader) (l : Library) (done : List (Nat × Nat)) : Library :=
  mapFiles (fun place file => if place ∈ done then answer read file else file) l

theorem answered_nil : answered read l [] = l := by
  simp only [answered, List.not_mem_nil, if_false, mapFiles_id]

/-- After all tasks every file has its answer. -/
theorem answered_all {done : List (Nat × Nat)} (h : ∀ place ∈ places l, place ∈ done) :
    answered read l done = mapFiles (fun _ => answer read) l :=
  mapFiles_congr fun place _ hfile => if_pos (h place (mem_places hfile))

/-- The task of a file changes that file only. -/
theorem readAll_cons {place : Nat × Nat} {file : SourceFile} (h : fileAt? l place = some file)
    (hanswers : Reader.Answers read file.path) (log : List Notice) (rest : List (Nat × Nat)) :
    (readAll read l log (place :: rest)).1
      = (readAll read (updateFile l place (answer read)) log rest).1 := by
  have hsame : ∀ f : SourceFile → SourceFile, f file = answer read file →
      updateFile l place f = updateFile l place (answer read) := by
    intro f hf
    rw [← mapFiles_id l, updateFile_mapFiles, updateFile_mapFiles]
    refine mapFiles_congr fun q file' hq => ?_
    by_cases hqp : q = place
    · rw [if_pos hqp, if_pos hqp]
      rw [hqp, h] at hq
      cases hq
      exact hf
    · rw [if_neg hqp, if_neg hqp]
  cases hread : read file.path with
  | ok text =>
      rw [readAll_of_text h hread, hsame _ (by rw [answer, hread])]
  | error mishap =>
      cases mishap with
      | failure e =>
          rw [readAll_of_failure h hread, hsame _ (by rw [answer, hread])]
          exact readAll_log ..
      | crash reason => exact absurd hread (hanswers reason)

/-- **Tasks answer for their files**, in whatever order they finish. -/
theorem readAll_answered
    (hanswers : ∀ place file, fileAt? l place = some file → Reader.Answers read file.path)
    {done finished : List (Nat × Nat)} (h : (finished.reverse ++ done).Nodup)
    (log : List Notice) :
    (readAll read (answered read l done) log finished).1
      = .ok (answered read l (finished.reverse ++ done)) := by
  induction finished generalizing done with
  | nil => rfl
  | cons place rest ih =>
      rw [List.reverse_cons, List.append_assoc, List.singleton_append] at h ⊢
      -- Each task finishes once, so that its file is still as it was laid out.
      have hnew : place ∉ done := (List.nodup_cons.1 (List.nodup_append.1 h).2.1).1
      have hfile : fileAt? (answered read l done) place = fileAt? l place := by
        simp only [answered, fileAt?_mapFiles, hnew, if_false, Option.map_id']
      cases hat : fileAt? l place with
      | none =>
          have hdone : answered read l done = answered read l (place :: done) := by
            refine mapFiles_congr fun q file hq => ?_
            have hne : q ≠ place := by
              rintro rfl
              rw [hat] at hq
              cases hq
            simp [hne]
          rw [readAll_of_none (hfile.trans hat), hdone]
          exact ih h
      | some file =>
          have hdone : updateFile (answered read l done) place (answer read)
              = answered read l (place :: done) := by
            rw [answered, updateFile_mapFiles]
            refine mapFiles_congr fun q file hq => ?_
            by_cases hq : q = place
            · simp [hq, hnew]
            · simp [hq]
          rw [readAll_cons (hfile.trans hat) (hanswers place file hat), hdone]
          exact ih h

theorem readAll_of_complete {schedule : Schedule} (h : schedule.Complete)
    (hanswers : ∀ place file, fileAt? l place = some file → Reader.Answers read file.path)
    (log : List Notice) :
    (readAll read l log (schedule.files (places l))).1
      = .ok (mapFiles (fun _ => answer read) l) := by
  have hperm := h.files (places l)
  have hnodup : ((schedule.files (places l)).reverse ++ []).Nodup := by
    rw [List.append_nil, List.nodup_reverse, hperm.nodup_iff]
    exact nodup_places l
  have hread := readAll_answered hanswers hnodup log
  rw [answered_nil, answered_all] at hread
  · exact hread
  · intro place hplace
    rw [List.append_nil, List.mem_reverse, hperm.mem_iff]
    exact hplace

end

/-! ### The library -/

/-- What a task and the collecting of its file give together. -/
theorem process_answer (read : Reader) (mode : Option Mode) (policy : UntaggedPolicy)
    (path : Path) :
    SourceFile.process mode policy (answer read (.ofPath path))
      = SourceFile.asRead read mode policy path := by
  rw [answer, SourceFile.asRead, SourceFile.ofPath]
  cases read path with
  | ok text => rfl
  | error mishap => cases mishap <;> rfl

theorem layOut_map (config : Config) (found : SectionConfig → List Path) :
    (layOut config (config.sections.map found)).sections = config.sections.map fun s =>
      ⟨s.title, s.mode, s.layout, (found s).map SourceFile.ofPath⟩ := by
  have hzip : config.sections.zip (config.sections.map found)
      = config.sections.map fun s => (s, found s) := by
    simpa using List.zip_map' (f := id) (l := config.sections)
  rw [layOut, hzip, List.map_map]
  rfl

/-- The files that are read are those that the patterns stand for. -/
theorem exists_path_of_fileAt? {config : Config} {found : SectionConfig → List Path}
    {place : Nat × Nat} {file : SourceFile}
    (h : fileAt? (layOut config (config.sections.map found)) place = some file) :
    ∃ s ∈ config.sections, file.path ∈ found s := by
  obtain ⟨t, ht, hfile⟩ := Option.bind_eq_some_iff.1 h
  have hmem := List.mem_of_getElem? ht
  rw [layOut_map] at hmem
  obtain ⟨s, hs, rfl⟩ := List.mem_map.1 hmem
  obtain ⟨path, hpath, rfl⟩ := List.mem_map.1 (List.mem_of_getElem? hfile)
  exact ⟨s, hs, hpath⟩

/-- Where the tasks for the paths that the patterns stand for do not break down, no task does. -/
theorem answers_layOut {c : Collaborators} {config : Config}
    (h : ∀ s ∈ config.sections, ∀ path ∈ Discovery.found c.expand s.files,
      Reader.Answers c.read path) (place : Nat × Nat) (file : SourceFile)
    (hfile : fileAt? (layOut config (config.sections.map fun s => Discovery.found c.expand s.files))
      place = some file) : Reader.Answers c.read file.path := by
  obtain ⟨s, hmem, hpath⟩ := exists_path_of_fileAt? hfile
  exact h s hmem _ hpath

theorem collect_layOut (c : Collaborators) (config : Config) :
    collect config.untagged (mapFiles (fun _ => answer c.read)
        (layOut config (config.sections.map fun s => Discovery.found c.expand s.files)))
      = Library.sequential c config := by
  have hfiles : ∀ s : SectionConfig,
      (Discovery.found c.expand s.files).map (fun path =>
          SourceFile.process s.mode config.untagged (answer c.read (.ofPath path)))
        = (Section.sequential c config.untagged s).files := fun s =>
    List.map_congr_left fun path _ => process_answer ..
  rw [mapFiles_const, collect, layOut_map]
  simp only [Section.process, List.map_map, Function.comp_def, hfiles]
  rfl

/-- **Every complete schedule leads to the sequential library.** -/
theorem populate_of_complete {c : Collaborators} {schedule : Schedule} {config : Config}
    (h : schedule.Complete)
    (hs : ∀ s ∈ config.sections, Discovery.Expands c.expand s.files)
    (hanswers : ∀ s ∈ config.sections, ∀ path ∈ Discovery.found c.expand s.files,
      Reader.Answers c.read path) :
    populate c schedule config = .ok (Library.sequential c config) := by
  rw [populate, discover_of_complete h hs]
  simp only [readAll_of_complete h (answers_layOut hanswers), Except.map, collect_layOut]

end Run

/-! ### The whole run -/

/-- **The order in which tasks finish does not matter.**  Where all patterns can be expanded and no
reader breaks down, every complete schedule leads to the sequential library, and the run is the
writing of that library.  Where some patterns cannot be expanded, every complete schedule leads to
a rejection before anything is read, so that the reader does not matter. -/
theorem run_of_complete {c : Collaborators} {schedule : Schedule} {settings : Settings}
    {config : Config} (h : schedule.Complete) (hvalid : settings.validate = .ok config)
    (d : Disk) :
    ((∀ s ∈ config.sections, Discovery.Expands c.expand s.files) →
      (∀ s ∈ config.sections, ∀ path ∈ Discovery.found c.expand s.files,
        Reader.Answers c.read path) →
      Run.populate c schedule config = .ok (Library.sequential c config) ∧
        ((run c schedule settings d).result, (run c schedule settings d).disk)
          = Run.finish c.renderer (.ok (Library.sequential c config)) d) ∧
    ((∃ s ∈ config.sections, ¬ Discovery.Expands c.expand s.files) →
      (∃ r, (run c schedule settings d).result = .error r) ∧
        (run c schedule settings d).reads = [] ∧
        ∀ read, run { c with read := read } schedule settings d = run c schedule settings d) := by
  constructor
  · intro hs hanswers
    have hl := Run.populate_of_complete h hs hanswers
    refine ⟨hl, ?_⟩
    rw [run_of_valid hvalid, hl]
  · rintro ⟨s, hmem, hs⟩
    obtain ⟨r, hr⟩ := Run.discover_of_not_expands h hmem hs
    rw [run_of_undiscovered hvalid hr]
    exact ⟨⟨r, rfl⟩, rfl, fun read =>
      run_of_undiscovered (c := { c with read := read }) hvalid hr d⟩

/-- Two sections that share a file. -/
def sharedSettings : Settings where
  dest := some " none "
  untagged := some .keep
  sections := some (.array
    [.object [("title", .string "Base"), ("files", .string "base.css"), ("mode", .string "css")],
      .object [("title", .string "All"),
        ("files", .array [.string "theme.css", .string "base.css"])]])

def sharedConfig : Config where
  destination := .nowhere
  template := {}
  includes := {}
  untagged := .keep
  sections := [⟨"Base", ["base.css"], some .css, .patterns⟩,
    ⟨"All", ["theme.css", "base.css"], none, .patterns⟩]

/-- A file that can be read, and others that cannot. -/
def sharedCollaborators (expand : Globber) : Collaborators where
  expand := expand
  read path :=
    if path = .ofText "base.css" then .ok "/** @title Base */ a {}"
    else .error (.failure .notFound)
  renderer := .html

theorem run_of_complete_reversed :
    Run.populate (sharedCollaborators fun pattern => .ok [.ofText pattern])
        ⟨List.reverse, List.reverse⟩ sharedConfig
      = .ok (Library.sequential (sharedCollaborators fun pattern => .ok [.ofText pattern])
          sharedConfig) ∧
    (run (sharedCollaborators fun pattern => .error (.failure ⟨pattern, "unbalanced"⟩))
      ⟨List.reverse, List.reverse⟩ sharedSettings ⟨.empty, []⟩).reads = [] := by
  have hcomplete : (Schedule.mk List.reverse List.reverse).Complete :=
    ⟨List.reverse_perm, List.reverse_perm⟩
  have hvalid : sharedSettings.validate = .ok sharedConfig := rfl
  refine ⟨((run_of_complete hcomplete hvalid ⟨.empty, []⟩).1 ?_ ?_).1,
    ((run_of_complete hcomplete hvalid ⟨.empty, []⟩).2 ?_).2.1⟩
  · exact List.forall_mem_cons.2 ⟨⟨_, rfl⟩, List.forall_mem_cons.2 ⟨⟨_, rfl⟩, nofun⟩⟩
  · intro s hs path hpath reason
    simp only [sharedCollaborators]
    split <;> nofun
  · refine ⟨_, List.mem_cons_self, ?_⟩
    rintro ⟨paths, hpaths⟩
    cases hpaths

end PatternBook
