import Mathlib.Data.List.Forall2
import PatternBook.Proofs.Run.Effects

/-!
# Files that cannot be read

A file that cannot be read says so in its own place and changes nothing else.  Two runs are compared
whose readers differ only in that the second one fails on some paths; a path may belong to several
sections, and the tasks of the two runs may finish in different orders.

* `SourceFile.Spared`, `Section.Spared`, `Library.Spared`: what the second run may differ in.
* `Library.spared_sequential`: the libraries that are read one file after the other are so related.
* `run_spares`: both runs succeed, and so are their libraries.
-/

namespace PatternBook

/-- The second reader fails on some paths and agrees with the first one on all others. -/
structure Reader.LosesOnly (lost : Path → Prop) (read read' : Reader) : Prop where
  fails  : ∀ path, lost path → ∃ e, read' path = .error (.failure e)
  agrees : ∀ path, ¬ lost path → read' path = read path

/-- A file before and after some paths are lost: where its path is among them there are no records
and one diagnostic with the words of the error, and otherwise the file is the same. -/
structure SourceFile.Spared (lost : Path → Prop) (read' : Reader) (file file' : SourceFile) :
    Prop where
  path      : file'.path = file.path
  extension : file'.extension = file.extension
  unread    : lost file.path → ∃ e, read' file.path = .error (.failure e) ∧
    file'.records = [] ∧ file'.diagnostics = [⟨.unreadable, none, e.message⟩]
  kept      : ¬ lost file.path → file' = file

/-- The section is the same but for the files that are lost. -/
structure Section.Spared (lost : Path → Prop) (read' : Reader) (s s' : Section) : Prop where
  title  : s'.title = s.title
  mode   : s'.mode = s.mode
  layout : s'.layout = s.layout
  files  : List.Forall₂ (SourceFile.Spared lost read') s.files s'.files

/-- The library is the same but for the files that are lost. -/
structure Library.Spared (lost : Path → Prop) (read' : Reader) (l l' : Library) : Prop where
  destination : l'.destination = l.destination
  template    : l'.template = l.template
  includes    : l'.includes = l.includes
  output      : l'.output = l.output
  sections    : List.Forall₂ (Section.Spared lost read') l.sections l'.sections

/-! ### Reading one file after the other -/

section

variable {lost : Path → Prop} {read read' : Reader}

theorem SourceFile.path_asRead (read : Reader) (mode : Option Mode) (policy : UntaggedPolicy)
    (path : Path) : (asRead read mode policy path).path = path := by
  rw [asRead]
  split <;> rfl

theorem SourceFile.extension_asRead (read : Reader) (mode : Option Mode)
    (policy : UntaggedPolicy) (path : Path) :
    (asRead read mode policy path).extension = path.extension := by
  rw [asRead]
  split <;> rfl

/-- What a file says depends on what is read at its own path. -/
theorem SourceFile.asRead_congr {path : Path} (h : read' path = read path)
    (mode : Option Mode) (policy : UntaggedPolicy) :
    asRead read' mode policy path = asRead read mode policy path := by
  rw [asRead, asRead, h]

theorem SourceFile.asRead_of_failure {path : Path} {e : FileError}
    (h : read path = .error (.failure e)) (mode : Option Mode) (policy : UntaggedPolicy) :
    asRead read mode policy path
      = { path := path, extension := path.extension, diagnostics := [Run.unreadable e] } := by
  rw [asRead, h]

theorem SourceFile.spared_asRead (h : Reader.LosesOnly lost read read') (mode : Option Mode)
    (policy : UntaggedPolicy) (path : Path) :
    Spared lost read' (asRead read mode policy path) (asRead read' mode policy path) where
  path := by rw [path_asRead, path_asRead]
  extension := by rw [extension_asRead, extension_asRead]
  unread hlost := by
    rw [path_asRead] at hlost ⊢
    obtain ⟨e, he⟩ := h.fails path hlost
    rw [asRead_of_failure he]
    exact ⟨e, he, rfl, rfl⟩
  kept hkept := by
    rw [path_asRead] at hkept
    exact asRead_congr (h.agrees path hkept) mode policy

theorem Section.spared_sequential {c : Collaborators} (h : Reader.LosesOnly lost c.read read')
    (policy : UntaggedPolicy) (s : SectionConfig) :
    Spared lost read' (sequential c policy s) (sequential { c with read := read' } policy s) where
  title := rfl
  mode := rfl
  layout := rfl
  files := by
    rw [sequential, sequential, List.forall₂_map_left_iff, List.forall₂_map_right_iff,
      List.forall₂_same]
    exact fun path _ => SourceFile.spared_asRead h s.mode policy path

/-- **Reading one file after the other** spares the files that are not lost. -/
theorem Library.spared_sequential {c : Collaborators} (h : Reader.LosesOnly lost c.read read')
    (config : Config) :
    Spared lost read' (sequential c config) (sequential { c with read := read' } config) where
  destination := rfl
  template := rfl
  includes := rfl
  output := rfl
  sections := by
    rw [sequential, sequential, List.forall₂_map_left_iff, List.forall₂_map_right_iff,
      List.forall₂_same]
    exact fun s _ => Section.spared_sequential h config.untagged s

/-- A reader that loses some paths answers wherever the other one does. -/
theorem Reader.LosesOnly.answers (h : LosesOnly lost read read') {path : Path}
    (hanswers : Answers read path) : Answers read' path := by
  by_cases hlost : lost path
  · obtain ⟨e, he⟩ := h.fails path hlost
    exact answers_of_failure he
  · intro reason
    rw [h.agrees path hlost]
    exact hanswers reason

end

/-! ### Runs that write nothing -/

/-- The page and the JSON document can be written of every library. -/
theorem Renderer.exists_render {renderer : Renderer} (h : renderer = .html ∨ renderer = .json)
    (l : Library) : ∃ document, renderer.render l = .ok document := by
  rcases h with rfl | rfl
  · exact ⟨_, rfl⟩
  · exact ⟨_, rfl⟩

section

variable {c : Collaborators} {schedule : Schedule} {settings : Settings} {config : Config}

/-- A run that is to write nothing gives the library that is read one file after the other. -/
theorem result_of_nowhere (hvalid : settings.validate = .ok config)
    (hnowhere : config.destination = .nowhere)
    (hrenderer : c.renderer = .html ∨ c.renderer = .json) (h : schedule.Complete)
    (hs : ∀ s ∈ config.sections, Discovery.Expands c.expand s.files)
    (hanswers : ∀ s ∈ config.sections, ∀ path ∈ Discovery.found c.expand s.files,
      Reader.Answers c.read path) (d : Disk) :
    (run c schedule settings d).result = .ok (Library.sequential c config) := by
  obtain ⟨document, hrender⟩ := Renderer.exists_render hrenderer (Library.sequential c config)
  calc (run c schedule settings d).result
      = (Run.finish c.renderer (Run.populate c schedule config) d).1 :=
        result_run_of_valid hvalid d
    _ = (Run.write c.renderer (Library.sequential c config) d).1 := by
        rw [Run.populate_of_complete h hs hanswers, Run.finish]
    _ = .ok (Library.sequential c config) := by rw [Run.write_of_nowhere hrender hnowhere]

/-- **A file that cannot be read never affects another.**  Where all patterns can be expanded and
nothing is to be written, a run succeeds with either reader, and the second library is the first one
but for the files that are lost: each of those has no records, and the one diagnostic that it could
not be read. -/
theorem run_spares {lost : Path → Prop} {read' : Reader} {schedule' : Schedule}
    (hvalid : settings.validate = .ok config) (hnowhere : config.destination = .nowhere)
    (hrenderer : c.renderer = .html ∨ c.renderer = .json) (h : schedule.Complete)
    (h' : schedule'.Complete)
    (hs : ∀ s ∈ config.sections, Discovery.Expands c.expand s.files)
    (hanswers : ∀ s ∈ config.sections, ∀ path ∈ Discovery.found c.expand s.files,
      Reader.Answers c.read path)
    (hread : Reader.LosesOnly lost c.read read') (d d' : Disk) :
    ∃ l l', (run c schedule settings d).result = .ok l ∧
      (run { c with read := read' } schedule' settings d').result = .ok l' ∧
      Library.Spared lost read' l l' := by
  have hanswers' : ∀ s ∈ config.sections, ∀ path ∈ Discovery.found c.expand s.files,
      Reader.Answers read' path := fun s hmem path hpath =>
    hread.answers (hanswers s hmem path hpath)
  exact ⟨_, _, result_of_nowhere hvalid hnowhere hrenderer h hs hanswers d,
    result_of_nowhere (c := { c with read := read' }) hvalid hnowhere hrenderer h' hs hanswers' d',
    Library.spared_sequential hread config⟩

end

/-- Every file has the same text. -/
def uniformCollaborators : Collaborators where
  expand pattern := .ok [.ofText pattern]
  read _ := .ok "/** @title Base */ a {}"
  renderer := .json

/-- The same, but for one file that is not UTF-8. -/
def damagedReader : Reader := fun path =>
  if path = .ofText "base.css" then .error (.failure .notUtf8)
  else uniformCollaborators.read path

/-- A file that belongs to two sections is lost, and the tasks of the second run finish in the
opposite order. -/
theorem run_spares_shared :
    ∃ l l', (run uniformCollaborators {} sharedSettings ⟨.empty, []⟩).result = .ok l ∧
      (run { uniformCollaborators with read := damagedReader } ⟨List.reverse, List.reverse⟩
        sharedSettings ⟨.empty, []⟩).result = .ok l' ∧
      Library.Spared (· = .ofText "base.css") damagedReader l l' := by
  have hvalid : sharedSettings.validate = .ok sharedConfig := rfl
  have hread : Reader.LosesOnly (· = .ofText "base.css") uniformCollaborators.read
      damagedReader :=
    ⟨fun path hlost => ⟨.notUtf8, if_pos hlost⟩, fun path hlost => if_neg hlost⟩
  refine run_spares hvalid rfl (.inr rfl) ⟨.refl, .refl⟩ ⟨List.reverse_perm, List.reverse_perm⟩
    ?_ ?_ hread ⟨.empty, []⟩ ⟨.empty, []⟩
  · exact List.forall_mem_cons.2 ⟨⟨_, rfl⟩, List.forall_mem_cons.2 ⟨⟨_, rfl⟩, nofun⟩⟩
  · intro s hs path hpath
    nofun

end PatternBook
