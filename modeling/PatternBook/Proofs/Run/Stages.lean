import PatternBook.Run.Basic

/-!
# The stages of a run

What a run does before it writes is one computation, which either rejects the run or gives the
library that is to be written.  It neither looks at the disk nor changes it.

* `Run.populate`, `Run.finish`: the stages before writing, and what is left to do after them.
* `run_of_invalid`, `run_of_undiscovered`: a run that ends early has asked for nothing more.
* `run_of_valid`: any other run consists of the two parts.
-/

namespace PatternBook

namespace Run

/-- The library that a configuration leads to: the files are discovered and read, and what they say
is collected. -/
def populate (c : Collaborators) (schedule : Schedule) (config : Config) :
    Except Rejection Library :=
  match discover c.expand schedule config with
  | .error r => .error r
  | .ok found =>
    let laidOut := layOut config found
    (readAll c.read laidOut [] (schedule.files (places laidOut))).1.map (collect config.untagged)

/-- The result and the disk of a run, from the library that it has found. -/
def finish (renderer : Renderer) (found : Except Rejection Library) (d : Disk) :
    Except Rejection Library × Disk :=
  match found with
  | .error r => (.error r, d)
  | .ok l => ((write renderer l d).1, (write renderer l d).2.2)

/-! ### Reading without notices -/

section

variable {read : Reader} {l : Library} {place : Nat × Nat} {file : SourceFile}

theorem readAll_of_none (h : fileAt? l place = none) (log : List Notice)
    (rest : List (Nat × Nat)) :
    readAll read l log (place :: rest) = readAll read l log rest := by
  rw [readAll, h]

theorem readAll_of_text (h : fileAt? l place = some file) {text : Text}
    (ht : read file.path = .ok text) (log : List Notice) (rest : List (Nat × Nat)) :
    readAll read l log (place :: rest) =
      readAll read (updateFile l place fun f => { f with text? := some text }) log rest := by
  simp only [readAll, h, ht]

theorem readAll_of_failure (h : fileAt? l place = some file) {e : FileError}
    (he : read file.path = .error (.failure e)) (log : List Notice) (rest : List (Nat × Nat)) :
    readAll read l log (place :: rest) =
      readAll read
        (updateFile l place fun f => { f with diagnostics := f.diagnostics ++ [unreadable e] })
        (log ++ [Notice.unreadable file.path e]) rest := by
  simp only [readAll, h, he]

theorem readAll_of_crash (h : fileAt? l place = some file) {reason : Text}
    (he : read file.path = .error (.crash reason)) (log : List Notice) (rest : List (Nat × Nat)) :
    readAll read l log (place :: rest) = (.error (.crash reason), log) := by
  simp only [readAll, h, he]

end

/-- The notices before a step have no part in what the step finds. -/
theorem readAll_log (read : Reader) (l : Library) (log log' : List Notice)
    (finished : List (Nat × Nat)) :
    (readAll read l log finished).1 = (readAll read l log' finished).1 := by
  induction finished generalizing l log log' with
  | nil => rfl
  | cons place rest ih =>
      cases h : fileAt? l place with
      | none =>
          rw [readAll_of_none h, readAll_of_none h]
          exact ih ..
      | some file =>
          cases hread : read file.path with
          | ok text =>
              rw [readAll_of_text h hread, readAll_of_text h hread]
              exact ih ..
          | error mishap =>
              cases mishap with
              | failure e =>
                  rw [readAll_of_failure h hread, readAll_of_failure h hread]
                  exact ih ..
              | crash reason => rw [readAll_of_crash h hread, readAll_of_crash h hread]

/-- What is found does not depend on the notices that came before it. -/
theorem populate_of_discovered {c : Collaborators} {schedule : Schedule} {config : Config}
    {found : List (List Path)} (h : discover c.expand schedule config = .ok found)
    (log : List Notice) :
    populate c schedule config =
      (readAll c.read (layOut config found) log
        (schedule.files (places (layOut config found)))).1.map (collect config.untagged) := by
  rw [populate, h]
  exact congrArg (Except.map (collect config.untagged)) (readAll_log ..)

end Run

/-! ### From stage to stage -/

section

variable {c : Collaborators} {schedule : Schedule} {settings : Settings} {config : Config}

/-- Settings that break a rule end the run at once. -/
theorem run_of_invalid {v : Violation} (h : settings.validate = .error v) (d : Disk) :
    run c schedule settings d = .close (.error (.config v)) [] [] [] d := by
  rw [run, h]

/-- A pattern that cannot be expanded ends the run before anything is read. -/
theorem run_of_undiscovered (h : settings.validate = .ok config) {r : Rejection}
    (hr : Run.discover c.expand schedule config = .error r) (d : Disk) :
    run c schedule settings d = .close (.error r)
      (config.sections.flatMap fun s => Discovery.tried c.expand s.files) [] [] d := by
  simp only [run, h, hr]

/-- **A run with a valid configuration finds its library and then writes it.** -/
theorem run_of_valid (h : settings.validate = .ok config) (d : Disk) :
    ((run c schedule settings d).result, (run c schedule settings d).disk)
      = Run.finish c.renderer (Run.populate c schedule config) d := by
  cases hfound : Run.discover c.expand schedule config with
  | error r =>
      rw [run_of_undiscovered h hfound, Run.populate, hfound]
      rfl
  | ok found =>
      rw [Run.populate_of_discovered hfound
        [Notice.discovered (Run.layOut config found).files.length]]
      simp only [run, h, hfound]
      split
      · next r log hread =>
          rw [hread]
          rfl
      · next l log hread =>
          rw [hread]
          rfl

theorem result_run_of_valid (h : settings.validate = .ok config) (d : Disk) :
    (run c schedule settings d).result
      = (Run.finish c.renderer (Run.populate c schedule config) d).1 :=
  congrArg Prod.fst (run_of_valid h d)

theorem disk_run_of_valid (h : settings.validate = .ok config) (d : Disk) :
    (run c schedule settings d).disk
      = (Run.finish c.renderer (Run.populate c schedule config) d).2 :=
  congrArg Prod.snd (run_of_valid h d)

end

end PatternBook
