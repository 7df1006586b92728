import Mathlib.Algebra.GroupWithZero.Nat
import Mathlib.Data.List.Perm.Basic
import PatternBook.Proofs.Record.Pointing
import PatternBook.Proofs.Run.Isolation

/-!
# What a run says

A run warns in two stages: while files are read, about each one that cannot be, and when all that
could be read has been collected, about everything else that is wrong in a file.  The diagnostics
that the files end up with are the same ones, so that warnings and diagnostics can be matched; and
whatever happens, the last notice of a run tells its result.

* `Run.readAll_log_eq`: the notices of the files that could not be read, task after task.
* `Report.Warned`, `Report.Closed`: what the notices of a run say about its library and its result.
* `run_reported`: every run closes with its result, a run that finds and reads its files warns once
  for each diagnostic, and one whose reading breaks down keeps the warnings that it has given.
-/

namespace PatternBook

/-! ### What there is to say -/

namespace Notice

/-- The warning that a diagnostic of a file calls for. -/
def ofDiagnostic (path : Path) (d : Diagnostic) : Notice :=
  if d.problem = .unreadable then ⟨.warn, "failed to read " ++ path.toText ++ ": " ++ d.message⟩
  else ⟨.warn, path.toText ++ ": " ++ d.toText⟩

/-- How a run tells its result: the reason of a rejection, or how many records, files and sections
its library has. -/
def ofResult : Except Rejection Library → Notice
  | .error r => ⟨.error, r.message⟩
  | .ok l =>
    ⟨.info, "Finished! " ++
      Text.ofNat (l.sections.map fun s => (s.files.map (·.records.length)).sum).sum ++
      " pattern(s) from " ++ Text.ofNat (l.sections.map (·.files.length)).sum ++
      " file(s) in " ++ Text.ofNat l.sections.length ++ " section(s)"⟩

/-- The notice tells the result of a run. -/
def TellsResult (n : Notice) : Prop :=
  n.level = .error ∨ n.level = .info ∧ "Finished!".toList <+: n.message

theorem level_ofDiagnostic (path : Path) (d : Diagnostic) :
    (ofDiagnostic path d).level = .warn := by
  rw [ofDiagnostic]
  split <;> rfl

theorem tellsResult_ofResult (result : Except Rejection Library) :
    (ofResult result).TellsResult := by
  cases result with
  | error r => exact .inl rfl
  | ok l =>
      refine .inr ⟨rfl, ?_⟩
      simp only [ofResult, List.append_assoc]
      exact List.prefix_append "Finished!".toList _

theorem not_tellsResult_of_warn {n : Notice} (h : n.level = .warn) : ¬ n.TellsResult := by
  rintro (he | ⟨hi, -⟩)
  · rw [h] at he
    cases he
  · rw [h] at hi
    cases hi

theorem not_tellsResult_discovered (files : Nat) : ¬ (discovered files).TellsResult := by
  rintro (he | ⟨hi, -⟩)
  · cases he
  · cases hi

theorem not_tellsResult_nothingWritten : ¬ nothingWritten.TellsResult := by
  rintro (he | ⟨-, hm⟩)
  · cases he
  · revert hm
    decide

end Notice

/-- The warnings that the diagnostics of a library call for, as far as they are of the kind, by
section, file and diagnostic. -/
def Library.warnings (kind : Problem → Bool) (l : Library) : List Notice :=
  l.files.flatMap fun file =>
    (file.diagnostics.filter (kind ·.problem)).map (Notice.ofDiagnostic file.path)

theorem Library.level_warnings {kind : Problem → Bool} {l : Library} {n : Notice}
    (h : n ∈ l.warnings kind) : n.level = .warn := by
  obtain ⟨file, -, hn⟩ := List.mem_flatMap.1 h
  obtain ⟨d, -, rfl⟩ := List.mem_map.1 hn
  exact Notice.level_ofDiagnostic ..

/-- The warnings of a report. -/
def Report.warnings (r : Report) : List Notice := r.log.filter (·.level = .warn)

/-- The report warns once for each diagnostic of the library: about the files that could not be
read, in some order, and then about everything else in the order of the library. -/
structure Report.Warned (r : Report) (l : Library) : Prop where
  perm  : r.warnings.Perm (l.warnings fun _ => true)
  split : ∃ unread, r.warnings = unread ++ l.warnings (· ≠ .unreadable) ∧
    unread.Perm (l.warnings (· = .unreadable))

/-- The last notice of the report, and no other, tells its result. -/
def Report.Closed (r : Report) : Prop :=
  ∃ before, r.log = before ++ [Notice.ofResult r.result] ∧
    (Notice.ofResult r.result).TellsResult ∧ ∀ n ∈ before, ¬ n.TellsResult

namespace Run

/-! ### The end -/

theorem length_records (l : Library) :
    l.records.length = (l.sections.map fun s => (s.files.map (·.records.length)).sum).sum := by
  simp only [Library.records, Section.records, List.length_flatMap]

theorem length_files (l : Library) :
    l.files.length = (l.sections.map (·.files.length)).sum := by
  rw [Library.files, List.length_flatMap]

/-- The last notice tells the result. -/
theorem log_close (result : Except Rejection Library) (patterns : List Text) (reads : List Path)
    (log : List Notice) (d : Disk) :
    (Report.close result patterns reads log d).log = log ++ [Notice.ofResult result] := by
  cases result with
  | error r => rfl
  | ok l =>
      have hlast : Notice.finished l = Notice.ofResult (.ok l) := by
        rw [Notice.finished, length_records, length_files]
        rfl
      rw [← hlast]
      rfl

theorem closed_close {result : Except Rejection Library} {log : List Notice}
    (h : ∀ n ∈ log, ¬ n.TellsResult) (patterns : List Text) (reads : List Path) (d : Disk) :
    (Report.close result patterns reads log d).Closed :=
  ⟨log, log_close .., Notice.tellsResult_ofResult _, h⟩

/-! ### Reading -/

section

variable {read : Reader} {l : Library}

/-- The warning about a path, if it cannot be read. -/
def warning? (read : Reader) (path : Path) : Option Notice :=
  match read path with
  | .error (.failure e) => some (Notice.unreadable path e)
  | _ => none

/-- What is said while paths are read one after the other: there is a warning about each that cannot
be read, until a task breaks down. -/
def readingNotices (read : Reader) (paths : List Path) : List Notice :=
  (paths.takeWhile (Reader.Answers read ·)).filterMap (warning? read)

theorem level_readingNotices {paths : List Path} {n : Notice} (h : n ∈ readingNotices read paths) :
    n.level = .warn := by
  obtain ⟨path, -, hn⟩ := List.mem_filterMap.1 h
  rw [warning?] at hn
  split at hn
  · obtain rfl := Option.some.inj hn
    rfl
  · cases hn

/-- Where no task breaks down, there is a warning about every path that cannot be read. -/
theorem readingNotices_of_answers {paths : List Path}
    (h : ∀ path ∈ paths, Reader.Answers read path) :
    readingNotices read paths = paths.filterMap (warning? read) := by
  rw [readingNotices, List.takeWhile_eq_self_iff.2 fun path hmem => decide_eq_true (h path hmem)]

theorem readingNotices_cons {path : Path} (h : Reader.Answers read path) (rest : List Path) :
    readingNotices read (path :: rest)
      = (warning? read path).toList ++ readingNotices read rest := by
  have htake : (path :: rest).takeWhile (Reader.Answers read ·)
      = path :: rest.takeWhile (Reader.Answers read ·) :=
    List.takeWhile_cons_of_pos (decide_eq_true h)
  rw [readingNotices, htake, readingNotices]
  cases hw : warning? read path with
  | none => rw [List.filterMap_cons_none hw]; rfl
  | some n => rw [List.filterMap_cons_some hw]; rfl

theorem readingNotices_of_crash {path : Path} {reason : Text}
    (h : read path = .error (.crash reason)) (rest : List Path) :
    readingNotices read (path :: rest) = [] := by
  have htake : (path :: rest).takeWhile (Reader.Answers read ·) = [] :=
    List.takeWhile_cons_of_neg (by simpa using fun hanswers => hanswers reason h)
  rw [readingNotices, htake, List.filterMap_nil]

/-- The path of the file at a place. -/
def pathAt? (l : Library) (place : Nat × Nat) : Option Path := (fileAt? l place).map (·.path)

theorem fileAt?_updateFile (place : Nat × Nat) (change : SourceFile → SourceFile)
    (other : Nat × Nat) :
    fileAt? (updateFile l place change) other =
      (fileAt? l other).map fun file => if other = place then change file else file := by
  have h : updateFile (mapFiles (fun _ file => file) l) place change = _ :=
    updateFile_mapFiles place change
  rw [mapFiles_id] at h
  rw [h, fileAt?_mapFiles]

/-- A change of a file keeps all paths if it keeps that of the file. -/
theorem pathAt?_updateFile (l : Library) (place : Nat × Nat) {change : SourceFile → SourceFile}
    (h : ∀ file, (change file).path = file.path) :
    pathAt? (updateFile l place change) = pathAt? l := by
  funext other
  rw [pathAt?, pathAt?, fileAt?_updateFile, Option.map_map]
  refine congrArg (Option.map · _) (funext fun file => ?_)
  rw [Function.comp_apply]
  split
  · exact h file
  · rfl

/-- **Reading warns about the files that cannot be read**, as their tasks finish, whether or not a
task breaks down in the end. -/
theorem readAll_log_eq (read : Reader) (l : Library) (log : List Notice)
    (finished : List (Nat × Nat)) :
    (readAll read l log finished).2
      = log ++ readingNotices read (finished.filterMap (pathAt? l)) := by
  induction finished generalizing l log with
  | nil => exact (List.append_nil _).symm
  | cons place rest ih =>
      cases hfile : fileAt? l place with
      | none =>
          have hpath : pathAt? l place = none := by rw [pathAt?, hfile]; rfl
          rw [readAll_of_none hfile, ih, List.filterMap_cons_none hpath]
      | some file =>
          have hpath : pathAt? l place = some file.path := by rw [pathAt?, hfile]; rfl
          rw [List.filterMap_cons_some hpath]
          cases hread : read file.path with
          | ok text =>
              have hanswers := Reader.answers_of_text hread
              rw [readAll_of_text hfile hread, ih, pathAt?_updateFile,
                readingNotices_cons hanswers, warning?, hread]
              · rfl
              · exact fun _ => rfl
          | error mishap =>
              cases mishap with
              | failure e =>
                  have hanswers := Reader.answers_of_failure hread
                  rw [readAll_of_failure hfile hread, ih, pathAt?_updateFile,
                    readingNotices_cons hanswers, warning?, hread, List.append_assoc]
                  · rfl
                  · exact fun _ => rfl
              | crash reason =>
                  rw [readAll_of_crash hfile hread, readingNotices_of_crash hread]
                  exact (List.append_nil log).symm

/-- Going through the numbers of a list is going through the list. -/
theorem map_range_getElem? {α : Type} (as : List α) :
    (List.range as.length).map (as[·]?) = as.map some := by
  refine List.ext_getElem? fun i => ?_
  rw [List.getElem?_map, List.getElem?_map]
  cases h : as[i]? with
  | none => simp [List.getElem?_eq_none_iff.1 h]
  | some a =>
      have hi := (List.getElem?_eq_some_iff.1 h).1
      rw [List.getElem?_range hi, Option.map_some, h, Option.map_some]

/-- **The places of a library are those of its files**, in the order of the files. -/
theorem filterMap_places {β : Type} (g : SourceFile → Option β) (l : Library) :
    (places l).filterMap (fun place => (fileAt? l place).bind g) = l.files.filterMap g := by
  -- what stands at the places of one section
  let stands (s? : Option Section) : List β :=
    (List.range ((s?.map (·.files.length)).getD 0)).filterMap fun j =>
      (s?.bind (·.files[j]?)).bind g
  have hsection (s : Section) : stands (some s) = s.files.filterMap g := by
    have hmap := congrArg (List.filterMap (Option.bind · g)) (map_range_getElem? s.files)
    rwa [List.filterMap_map, List.filterMap_map] at hmap
  calc (places l).filterMap (fun place => (fileAt? l place).bind g)
      = ((List.range l.sections.length).map (l.sections[·]?)).flatMap stands := by
        rw [places, List.filterMap_flatMap, List.flatMap_map]
        refine congrArg (List.flatMap · _) (funext fun i => ?_)
        rw [List.filterMap_map]
        rfl
    _ = l.sections.flatMap (fun s => s.files.filterMap g) := by
        rw [map_range_getElem?, List.flatMap_map]
        exact congrArg (List.flatMap · _) (funext hsection)
    _ = l.files.filterMap g := by rw [Library.files, List.filterMap_flatMap]

/-- The paths at the places of a library, in the order of the files. -/
theorem filterMap_pathAt? (l : Library) :
    (places l).filterMap (pathAt? l) = l.files.map (·.path) := by
  have hpath : pathAt? l = fun place => (fileAt? l place).bind (some ∘ SourceFile.path) :=
    funext fun _ => Option.map_eq_bind
  rw [hpath, filterMap_places, List.filterMap_eq_map]

/-- The paths of a library, in the order in which the tasks that read them finish. -/
def finishedPaths (schedule : Schedule) (l : Library) : List Path :=
  (schedule.files (places l)).filterMap (pathAt? l)

theorem finishedPaths_perm {schedule : Schedule} (h : schedule.Complete) (l : Library) :
    (finishedPaths schedule l).Perm (l.files.map (·.path)) := by
  rw [← filterMap_pathAt?]
  exact (h.files _).filterMap _

end

/-! ### Warnings and diagnostics -/

theorem problem_ne_unreadable {f : Family} {dialect : Dialect} {policy : UntaggedPolicy}
    {source : Text} {d : Diagnostic}
    (h : d ∈ (Findings.ofSource f dialect policy source).diagnostics) :
    d.problem ≠ .unreadable := by
  rcases Findings.mem_diagnostics.1 h with ⟨c, -, hd⟩ | ⟨line, -, rfl⟩
  · obtain ⟨k, line, rfl | ⟨tag, -, rfl⟩, -⟩ := Findings.exists_of_mem_ofChapter hd <;> nofun
  · nofun

/-- The diagnostic of a file that cannot be read says what the warning about it says. -/
theorem warnings_asRead (read : Reader) (mode : Option Mode) (policy : UntaggedPolicy)
    (path : Path) :
    ((SourceFile.asRead read mode policy path).diagnostics.filter (·.problem = .unreadable)).map
        (Notice.ofDiagnostic path)
      = (warning? read path).toList := by
  rw [SourceFile.asRead, warning?]
  cases read path with
  | ok text =>
      refine List.map_eq_nil_iff.2 (List.filter_eq_nil_iff.2 fun d hd => ?_)
      simpa using problem_ne_unreadable hd
  | error mishap => cases mishap <;> rfl

theorem files_sequential (c : Collaborators) (config : Config) :
    (Library.sequential c config).files = config.sections.flatMap fun s =>
      (Discovery.found c.expand s.files).map (SourceFile.asRead c.read s.mode config.untagged) := by
  rw [Library.files, Library.sequential, List.flatMap_map]
  rfl

theorem map_path_layOut (config : Config) (found : SectionConfig → List Path) :
    (layOut config (config.sections.map found)).files.map (·.path)
      = config.sections.flatMap found := by
  rw [Library.files, layOut_map, List.flatMap_map, List.map_flatMap]
  refine congrArg (List.flatMap · _) (funext fun s => ?_)
  rw [List.map_map]
  exact List.map_id _

/-- The warnings about files that cannot be read are those that their diagnostics call for. -/
theorem warnings_unreadable (c : Collaborators) (config : Config) :
    (Library.sequential c config).warnings (· = .unreadable)
      = (config.sections.flatMap fun s => Discovery.found c.expand s.files).filterMap
          (warning? c.read) := by
  rw [List.filterMap_flatMap, Library.warnings, files_sequential, List.flatMap_assoc]
  refine congrArg (List.flatMap · _) (funext fun s => ?_)
  rw [List.flatMap_map, List.filterMap_eq_flatMap_toList]
  refine congrArg (List.flatMap · _) (funext fun path => ?_)
  rw [SourceFile.path_asRead]
  exact warnings_asRead c.read s.mode config.untagged path

/-- The warnings after the collecting are those that all other diagnostics call for. -/
theorem problemNotices_eq (l : Library) : problemNotices l = l.warnings (· ≠ .unreadable) := by
  refine congrArg (List.flatMap · _) (funext fun file => List.map_congr_left fun d hd => ?_)
  have hd : d.problem ≠ .unreadable := by simpa using (List.mem_filter.1 hd).2
  rw [Notice.ofDiagnostic, if_neg hd]
  rfl

/-- The warnings for two kinds of diagnostics are those for all. -/
theorem warnings_perm (l : Library) :
    (l.warnings (· = .unreadable) ++ l.warnings (· ≠ .unreadable)).Perm
      (l.warnings fun _ => true) := by
  refine (List.flatMap_append_perm _ _ _).trans (.flatMap_left _ fun file _ => ?_)
  rw [← List.map_append, List.filter_true]
  refine List.Perm.map _ ?_
  simpa using
    List.filter_append_perm (fun d : Diagnostic => d.problem = .unreadable) file.diagnostics

/-! ### The whole run -/

/-- Writing says at most that there is nothing to write. -/
theorem mem_notices_write {renderer : Renderer} {l : Library} {d : Disk} {n : Notice}
    (h : n ∈ (write renderer l d).2.1) : n = Notice.nothingWritten := by
  rw [write] at h
  split at h
  · cases h
  · split at h
    · exact List.mem_singleton.1 h
    · split at h
      · cases h
      · dsimp only at h
        split at h <;> cases h

/-- Writing keeps the sections of a library. -/
theorem sections_write {renderer : Renderer} {l l' : Library} {d : Disk}
    (h : (write renderer l d).1 = .ok l') : l'.sections = l.sections := by
  rw [write] at h
  split at h
  · cases h
  · split at h
    · cases h; rfl
    · split at h
      · cases h
      · dsimp only at h
        split at h <;> cases h
        rfl

/-- Writing does not break down. -/
theorem write_ne_crash (renderer : Renderer) (l : Library) (d : Disk) (reason : Text) :
    (write renderer l d).1 ≠ .error (.crash reason) := by
  intro h
  rw [write] at h
  split at h
  · cases h
  · split at h
    · cases h
    · split at h
      · cases h
      · dsimp only at h
        split at h <;> cases h

section

variable {c : Collaborators} {schedule : Schedule} {settings : Settings} {config : Config}
  {found : List (List Path)}

/-- What a run says that has read its files: about the files that could not be read, about the
problems in the others, that there is nothing to write if so, and its result. -/
theorem log_run_of_read (hvalid : settings.validate = .ok config)
    (hfound : discover c.expand schedule config = .ok found) {l : Library}
    (hread : (readAll c.read (layOut config found) []
      (schedule.files (places (layOut config found)))).1 = .ok l) (d : Disk) :
    (run c schedule settings d).log =
      [Notice.discovered (layOut config found).files.length] ++
        readingNotices c.read (finishedPaths schedule (layOut config found)) ++
        problemNotices (collect config.untagged l) ++
        (write c.renderer (collect config.untagged l) d).2.1 ++
        [Notice.ofResult (run c schedule settings d).result] := by
  have hdone : readAll c.read (layOut config found)
      [Notice.discovered (layOut config found).files.length]
      (schedule.files (places (layOut config found))) = (.ok l, _) :=
    Prod.ext ((readAll_log ..).trans hread) (readAll_log_eq ..)
  simp only [run, hvalid, hfound, hdone]
  exact log_close ..

/-- What a run says whose reading breaks down: about the files that could not be read until then,
and its result. -/
theorem log_run_of_unread (hvalid : settings.validate = .ok config)
    (hfound : discover c.expand schedule config = .ok found) {r : Rejection}
    (hread : (readAll c.read (layOut config found) []
      (schedule.files (places (layOut config found)))).1 = .error r) (d : Disk) :
    (run c schedule settings d).result = .error r ∧
      (run c schedule settings d).log =
        [Notice.discovered (layOut config found).files.length] ++
          readingNotices c.read (finishedPaths schedule (layOut config found)) ++
          [Notice.ofResult (run c schedule settings d).result] := by
  have hdone : readAll c.read (layOut config found)
      [Notice.discovered (layOut config found).files.length]
      (schedule.files (places (layOut config found))) = (.error r, _) :=
    Prod.ext ((readAll_log ..).trans hread) (readAll_log_eq ..)
  simp only [run, hvalid, hfound, hdone]
  exact ⟨rfl, log_close ..⟩

theorem closed_run (c : Collaborators) (schedule : Schedule) (settings : Settings) (d : Disk) :
    (run c schedule settings d).Closed := by
  cases hvalid : settings.validate with
  | error v =>
      rw [run_of_invalid hvalid]
      exact closed_close (List.forall_mem_nil _) ..
  | ok config =>
      cases hfound : discover c.expand schedule config with
      | error r =>
          rw [run_of_undiscovered hvalid hfound]
          exact closed_close (List.forall_mem_nil _) ..
      | ok found =>
          have hreading : ∀ n ∈ [Notice.discovered (layOut config found).files.length] ++
              readingNotices c.read (finishedPaths schedule (layOut config found)),
              ¬ n.TellsResult := by
            intro n hn
            rcases List.mem_append.1 hn with hn | hn
            · obtain rfl := List.mem_singleton.1 hn
              exact Notice.not_tellsResult_discovered _
            · exact Notice.not_tellsResult_of_warn (level_readingNotices hn)
          cases hread : (readAll c.read (layOut config found) []
              (schedule.files (places (layOut config found)))).1 with
          | error r =>
              obtain ⟨-, hlog⟩ := log_run_of_unread hvalid hfound hread d
              exact ⟨_, hlog, Notice.tellsResult_ofResult _, hreading⟩
          | ok l =>
              refine ⟨_, log_run_of_read hvalid hfound hread d, Notice.tellsResult_ofResult _, ?_⟩
              intro n hn
              rcases List.mem_append.1 hn with hn | hn
              · rcases List.mem_append.1 hn with hn | hn
                · exact hreading n hn
                · rw [problemNotices_eq] at hn
                  exact Notice.not_tellsResult_of_warn (Library.level_warnings hn)
              · rw [mem_notices_write hn]
                exact Notice.not_tellsResult_nothingWritten

/-- The warnings of a run whose notices are these. -/
theorem warnings_of_log {r : Report} {files : Nat} {unread problems written : List Notice}
    (hlog : r.log = [Notice.discovered files] ++ unread ++ problems ++ written ++
      [Notice.ofResult r.result])
    (hunread : ∀ n ∈ unread, n.level = .warn) (hproblems : ∀ n ∈ problems, n.level = .warn)
    (hwritten : ∀ n ∈ written, n = Notice.nothingWritten) :
    r.warnings = unread ++ problems := by
  have hall : ∀ {log : List Notice}, (∀ n ∈ log, n.level = .warn) →
      log.filter (·.level = .warn) = log := fun h =>
    List.filter_eq_self.2 fun n hn => decide_eq_true (h n hn)
  have hnone : written.filter (·.level = .warn) = [] :=
    List.filter_eq_nil_iff.2 fun n hn => by rw [hwritten n hn]; decide
  have hlast : [Notice.ofResult r.result].filter (·.level = .warn) = [] := by
    cases r.result <;> rfl
  rw [Report.warnings, hlog, List.filter_append, List.filter_append, List.filter_append,
    List.filter_append, hall hunread, hall hproblems, hnone, hlast, List.append_nil,
    List.append_nil]
  rfl

/-- A run that finds and reads its files warns about each of their diagnostics. -/
theorem warned_run (h : schedule.Complete) (hvalid : settings.validate = .ok config)
    (hs : ∀ s ∈ config.sections, Discovery.Expands c.expand s.files)
    (hanswers : ∀ s ∈ config.sections, ∀ path ∈ Discovery.found c.expand s.files,
      Reader.Answers c.read path) (d : Disk) :
    (run c schedule settings d).Warned (Library.sequential c config) := by
  have hlog := log_run_of_read hvalid (discover_of_complete h hs)
    (readAll_of_complete h (answers_layOut hanswers) []) d
  rw [collect_layOut, problemNotices_eq] at hlog
  have hpaths := finishedPaths_perm h
    (layOut config (config.sections.map fun s => Discovery.found c.expand s.files))
  rw [map_path_layOut] at hpaths
  have hreading : ∀ path ∈ finishedPaths schedule
      (layOut config (config.sections.map fun s => Discovery.found c.expand s.files)),
      Reader.Answers c.read path := by
    intro path hpath
    obtain ⟨s, hmem, hpath⟩ := List.mem_flatMap.1 (hpaths.mem_iff.1 hpath)
    exact hanswers s hmem path hpath
  have hperm := hpaths.filterMap (warning? c.read)
  rw [← readingNotices_of_answers hreading, ← warnings_unreadable] at hperm
  have hwarnings : (run c schedule settings d).warnings = _ ++ _ :=
    warnings_of_log hlog (fun n hn => level_readingNotices hn)
      (fun n hn => Library.level_warnings hn) (fun n hn => mem_notices_write hn)
  refine ⟨?_, _, hwarnings, hperm⟩
  rw [hwarnings]
  exact (hperm.append_right _).trans (warnings_perm _)

/-- A run whose reading breaks down has warned about the files that could not be read until
then. -/
theorem warnings_run_of_crash (hvalid : settings.validate = .ok config)
    (hfound : discover c.expand schedule config = .ok found) {d : Disk} {reason : Text}
    (hcrash : (run c schedule settings d).result = .error (.crash reason)) :
    (run c schedule settings d).warnings
      = readingNotices c.read (finishedPaths schedule (layOut config found)) := by
  cases hread : (readAll c.read (layOut config found) []
      (schedule.files (places (layOut config found)))).1 with
  | error r =>
      obtain ⟨-, hlog⟩ := log_run_of_unread hvalid hfound hread d
      -- nothing has been collected, and nothing has been written
      have hparts : (run c schedule settings d).log =
          [Notice.discovered (layOut config found).files.length] ++
            readingNotices c.read (finishedPaths schedule (layOut config found)) ++ [] ++ [] ++
            [Notice.ofResult (run c schedule settings d).result] := by
        rw [List.append_nil, List.append_nil, hlog]
      have hwarnings := warnings_of_log hparts (fun n hn => level_readingNotices hn)
        (List.forall_mem_nil _) (List.forall_mem_nil _)
      rwa [List.append_nil] at hwarnings
  | ok l =>
      rw [result_run_of_valid hvalid, populate_of_discovered hfound [], hread] at hcrash
      exact absurd hcrash (write_ne_crash _ _ _ _)

/-- A run that succeeds returns the sections that it has found and read. -/
theorem sections_run (hvalid : settings.validate = .ok config) {l l' : Library}
    (hl : populate c schedule config = .ok l) {d : Disk}
    (h : (run c schedule settings d).result = .ok l') : l'.sections = l.sections := by
  rw [result_run_of_valid hvalid, hl] at h
  exact sections_write h

end

end Run

/-! ### Reports of runs -/

/-- **A run reports everything once.**  Its last notice, and no other, tells its result.  Where all
patterns can be expanded and no reader breaks down, there is a library of what was found and read,
which is the one that the run returns if it succeeds, and whether it does or not it warns once for
each diagnostic of a file.  Where a reader breaks down, the run has warned about the files that
could not be read until then. -/
theorem run_reported (c : Collaborators) (schedule : Schedule) (settings : Settings) (d : Disk) :
    (run c schedule settings d).Closed ∧
      (∀ config, settings.validate = .ok config → schedule.Complete →
        (∀ s ∈ config.sections, Discovery.Expands c.expand s.files) →
        (∀ s ∈ config.sections, ∀ path ∈ Discovery.found c.expand s.files,
          Reader.Answers c.read path) →
        ∃ l, Run.populate c schedule config = .ok l ∧
          (∀ l', (run c schedule settings d).result = .ok l' → l'.sections = l.sections) ∧
          (run c schedule settings d).Warned l) ∧
      ∀ config found reason, settings.validate = .ok config →
        Run.discover c.expand schedule config = .ok found →
        (run c schedule settings d).result = .error (.crash reason) →
        (run c schedule settings d).warnings =
          Run.readingNotices c.read (Run.finishedPaths schedule (Run.layOut config found)) := by
  refine ⟨Run.closed_run c schedule settings d, fun config hvalid h hs hanswers => ?_,
    fun config found reason hvalid hfound => Run.warnings_run_of_crash hvalid hfound⟩
  have hl := Run.populate_of_complete h hs hanswers
  exact ⟨_, hl, fun l' hl' => Run.sections_run hvalid hl hl',
    Run.warned_run h hvalid hs hanswers d⟩

/-- A file with an empty tag, beside files that cannot be read. -/
def troubledCollaborators : Collaborators where
  expand pattern := .ok [.ofText pattern]
  read path :=
    if path = .ofText "base.css" then .ok "/** @title */ a {}"
    else .error (.failure .notFound)
  renderer := .json

/-- The same, but the tasks for the file with the tag break down. -/
def brokenCollaborators : Collaborators :=
  { troubledCollaborators with
    read := fun path =>
      if path = .ofText "base.css" then .error (.crash "task 2 panicked")
      else troubledCollaborators.read path }

/-- A file that belongs to two sections is warned about twice, and last, though its tasks finish
first.  Where its tasks break down, the file that could not be read before has been warned about
already. -/
theorem run_reported_shared :
    (∃ l, Run.populate troubledCollaborators ⟨List.reverse, List.reverse⟩ sharedConfig = .ok l ∧
      (run troubledCollaborators ⟨List.reverse, List.reverse⟩ sharedSettings
        ⟨.empty, []⟩).Warned l) ∧
      (run troubledCollaborators ⟨List.reverse, List.reverse⟩ sharedSettings
        ⟨.empty, []⟩).warnings =
          [⟨.warn, "failed to read theme.css: No such file or directory (os error 2)"⟩,
            ⟨.warn, "base.css: line 1: empty @title tag"⟩,
            ⟨.warn, "base.css: line 1: empty @title tag"⟩] ∧
      (run brokenCollaborators ⟨id, fun places => places.rotate 1⟩ sharedSettings
        ⟨.empty, []⟩).Closed ∧
      (run brokenCollaborators ⟨id, fun places => places.rotate 1⟩ sharedSettings
        ⟨.empty, []⟩).log =
          [⟨.debug, "discovery finished files=3"⟩,
            ⟨.warn, "failed to read theme.css: No such file or directory (os error 2)"⟩,
            ⟨.error, "background task failed: task 2 panicked"⟩] := by
  obtain ⟨-, hreported, -⟩ := run_reported troubledCollaborators ⟨List.reverse, List.reverse⟩
    sharedSettings ⟨.empty, []⟩
  obtain ⟨l, hl, -, hwarned⟩ := hreported sharedConfig rfl
    ⟨List.reverse_perm, List.reverse_perm⟩
    (List.forall_mem_cons.2 ⟨⟨_, rfl⟩, List.forall_mem_cons.2 ⟨⟨_, rfl⟩, List.forall_mem_nil _⟩⟩)
    (fun s _ path _ _ => by simp only [troubledCollaborators]; split <;> nofun)
  obtain ⟨hclosed, -⟩ := run_reported brokenCollaborators ⟨id, fun places => places.rotate 1⟩
    sharedSettings ⟨.empty, []⟩
  exact ⟨⟨l, hl, hwarned⟩, by decide +kernel, hclosed, by decide +kernel⟩

end PatternBook
