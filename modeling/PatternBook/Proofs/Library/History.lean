import PatternBook.Library
import Mathlib.Data.List.Basic
import Mathlib.Data.List.Induction

/-!
# The history of a section

A section is worked on step by step: its mode and the texts of its files are set, and its files are
read, all of them or one at a time.  What a file holds in the end follows from the steps alone.  A
step *reads* a file if it asks for the file and finds a text; the reading goes by the mode and the
text that were set last before it.  The records are those of the last reading, and the diagnostics
are those of all readings, behind the ones that were there.

* `Section.act`, `Section.acts`: one step, and many.
* `Action.readings`: the readings of a file among some steps.
* `Section.Explained`: what the steps say about a file.
* `Section.acts_explained`: the files of a section after any steps.
-/

namespace PatternBook

/-- A step of work on a section; files go by their place in it. -/
inductive Action where
  | setMode (mode : Option Mode)
  /-- The text of a file is replaced, or taken away. -/
  | setText (file : Nat) (text? : Option Text)
  | process (policy : UntaggedPolicy)
  | processFile (file : Nat) (policy : UntaggedPolicy)
  deriving DecidableEq, Repr

/-- The section after a step. -/
def Section.act (s : Section) : Action → Section
  | .setMode mode => { s with mode := mode }
  | .setText i text? =>
    { s with files := s.files.modify i fun file => { file with text? := text? } }
  | .process policy => s.process policy
  | .processFile i policy =>
    { s with files := s.files.modify i (SourceFile.process s.mode policy) }

/-- The section after some steps, from the first to the last. -/
def Section.acts (s : Section) (as : List Action) : Section := as.foldl Section.act s

/-! ### What the steps say -/

/-- A file is read. -/
structure Reading where
  mode   : Option Mode
  policy : UntaggedPolicy
  text   : Text
  deriving DecidableEq, Repr

/-- What is found in the text of a file with that extension. -/
def Reading.findings (extension : Text) (r : Reading) : Findings :=
  let (family, dialect) := Mode.resolve r.mode extension
  Findings.ofSource family dialect r.policy r.text

namespace Action

/-- The mode that the step sets. -/
def modeSet? : Action → Option (Option Mode)
  | .setMode mode => some mode
  | _ => none

/-- The text that the step gives to the file. -/
def textSet? (i : Nat) : Action → Option (Option Text)
  | .setText j text? => if j = i then some text? else none
  | _ => none

/-- The policy with which the step asks for the file to be read. -/
def policyFor? (i : Nat) : Action → Option UntaggedPolicy
  | .process policy => some policy
  | .processFile j policy => if j = i then some policy else none
  | _ => none

/-- The step is about the file, or about the section as a whole. -/
def concerns (i : Nat) : Action → Bool
  | .setMode _ | .process _ => true
  | .setText j _ | .processFile j _ => j = i

/-- What was set last. -/
def lastSet {α : Type} (set? : Action → Option α) (initial : α) (as : List Action) : α :=
  (as.filterMap set?).getLast?.getD initial

/-- The reading of the file by the step, if it is one, after the steps before. -/
def reading? (mode : Option Mode) (text? : Option Text) (i : Nat) (before : List Action)
    (a : Action) : Option Reading := do
  let policy ← a.policyFor? i
  let text ← lastSet (textSet? i) text? before
  return { mode := lastSet modeSet? mode before, policy, text }

/-- The readings of the file, from the first to the last. -/
def readings (mode : Option Mode) (text? : Option Text) (i : Nat) (as : List Action) :
    List Reading :=
  (List.range as.length).filterMap fun k =>
    as[k]?.bind (reading? mode text? i (as.take k))

end Action

/-- A file after some steps, as they explain it. -/
structure Section.Explained (s : Section) (as : List Action) (i : Nat)
    (file later : SourceFile) : Prop where
  path        : later.path = file.path
  extension   : later.extension = file.extension
  text        : later.text? = Action.lastSet (Action.textSet? i) file.text? as
  records     : later.records =
    match (Action.readings s.mode file.text? i as).getLast? with
    | none => []
    | some r => (r.findings file.extension).records.map fun record =>
      { record with sourcePath := file.path, sourceExtension := file.extension }
  diagnostics : later.diagnostics =
    file.diagnostics ++ (Action.readings s.mode file.text? i as).flatMap
      fun r => (r.findings file.extension).diagnostics

/-! ### One step more -/

namespace Action

theorem lastSet_concat {α : Type} (set? : Action → Option α) (initial : α) (as : List Action)
    (a : Action) :
    lastSet set? initial (as ++ [a]) = (set? a).getD (lastSet set? initial as) := by
  unfold lastSet
  rw [List.filterMap_append]
  cases h : set? a with
  | none => simp [List.filterMap_cons_none h]
  | some x => simp [List.filterMap_cons_some h]

theorem readings_concat (mode : Option Mode) (text? : Option Text) (i : Nat) (as : List Action)
    (a : Action) :
    readings mode text? i (as ++ [a])
      = readings mode text? i as ++ (reading? mode text? i as a).toList := by
  -- the steps before one that was there already stay the same
  have hbefore : ∀ k ∈ List.range as.length,
      (as ++ [a])[k]?.bind (reading? mode text? i ((as ++ [a]).take k))
        = as[k]?.bind (reading? mode text? i (as.take k)) := by
    intro k hk
    have hk := List.mem_range.1 hk
    rw [List.getElem?_append_left hk, List.take_append_of_le_length (Nat.le_of_lt hk)]
  have hlast : [as.length].filterMap
      (fun k => (as ++ [a])[k]?.bind (reading? mode text? i ((as ++ [a]).take k)))
        = (reading? mode text? i as a).toList := by
    rw [List.filterMap_cons, List.getElem?_concat_length, List.take_left, Option.bind_some]
    cases reading? mode text? i as a <;> rfl
  rw [readings, List.length_append, List.length_singleton, List.range_succ,
    List.filterMap_append, List.filterMap_congr hbefore, hlast]
  rfl

end Action

/-- A file after a step on its section, in which it is at place `i`. -/
def SourceFile.act (i : Nat) (mode : Option Mode) (file : SourceFile) : Action → SourceFile
  | .setMode _ => file
  | .setText j text? => if j = i then { file with text? := text? } else file
  | .process policy => file.process mode policy
  | .processFile j policy => if j = i then file.process mode policy else file

/-- **A step does the same to a file whatever the other files are.** -/
theorem Section.getElem?_act (s : Section) (a : Action) (i : Nat) :
    (s.act a).files[i]? = s.files[i]?.map (SourceFile.act i s.mode · a) := by
  cases a with
  | setMode mode => exact Option.map_id'.symm
  | setText j text? => exact List.getElem?_modify ..
  | process policy => exact List.getElem?_map
  | processFile j policy => exact List.getElem?_modify ..

theorem Section.length_act (s : Section) (a : Action) :
    (s.act a).files.length = s.files.length := by
  cases a with
  | setMode mode => rfl
  | setText j text? => exact List.length_modify ..
  | process policy => exact List.length_map ..
  | processFile j policy => exact List.length_modify ..

theorem Section.mode_act (s : Section) (a : Action) :
    (s.act a).mode = a.modeSet?.getD s.mode := by
  cases a <;> rfl

/-- A step that is not about a file leaves it alone. -/
theorem SourceFile.act_of_not_concerns {a : Action} {i : Nat} (h : a.concerns i = false)
    (mode : Option Mode) (file : SourceFile) : file.act i mode a = file := by
  cases a with
  | setMode mode => cases h
  | process policy => cases h
  | setText j text? => exact if_neg (of_decide_eq_false h)
  | processFile j policy => exact if_neg (of_decide_eq_false h)

theorem Action.modeSet?_of_not_concerns {a : Action} {i : Nat} (h : a.concerns i = false) :
    a.modeSet? = none := by
  cases a with
  | setMode mode => cases h
  | process policy => rfl
  | setText j text? => rfl
  | processFile j policy => rfl

namespace Section

/-! ### Explanations -/

section

variable {s : Section} {as : List Action} {i : Nat} {file later : SourceFile} {a : Action}

theorem explained_nil (s : Section) (i : Nat) (h : file.records = []) :
    Explained s [] i file file where
  path := rfl
  extension := rfl
  text := rfl
  records := h
  diagnostics := (List.append_nil _).symm

/-- A step that is no reading changes the text at most. -/
theorem Explained.skip (h : Explained s as i file later)
    (hreading : Action.reading? s.mode file.text? i as a = none) :
    Explained s (as ++ [a]) i file { later with text? := (a.textSet? i).getD later.text? } := by
  have hreadings : Action.readings s.mode file.text? i (as ++ [a])
      = Action.readings s.mode file.text? i as := by
    rw [Action.readings_concat, hreading]
    exact List.append_nil _
  exact {
    path := h.path
    extension := h.extension
    text := by rw [Action.lastSet_concat, h.text]
    records := by rw [hreadings]; exact h.records
    diagnostics := by rw [hreadings]; exact h.diagnostics }

theorem Explained.write (h : Explained s as i file later) (ha : a.policyFor? i = none) :
    Explained s (as ++ [a]) i file { later with text? := (a.textSet? i).getD later.text? } := by
  refine h.skip ?_
  rw [Action.reading?, ha]
  rfl

/-- A step that asks for a reading replaces the records and adds to the diagnostics, if there is a
text. -/
theorem Explained.read (h : Explained s as i file later) {policy : UntaggedPolicy}
    (ha : a.policyFor? i = some policy) (hset : a.textSet? i = none) :
    Explained s (as ++ [a]) i file
      (later.process (Action.lastSet Action.modeSet? s.mode as) policy) := by
  have hreading : Action.reading? s.mode file.text? i as a
      = later.text?.map fun text => ⟨Action.lastSet Action.modeSet? s.mode as, policy, text⟩ := by
    rw [Action.reading?, ha, ← h.text]
    cases later.text? <;> rfl
  cases hlater : later.text? with
  | none =>
      have hskipped := h.skip (hreading.trans (by rw [hlater]; rfl))
      rw [hset] at hskipped
      rw [SourceFile.process, hlater]
      exact hskipped
  | some text =>
      have hreadings : Action.readings s.mode file.text? i (as ++ [a])
          = Action.readings s.mode file.text? i as ++
            [⟨Action.lastSet Action.modeSet? s.mode as, policy, text⟩] := by
        rw [Action.readings_concat, hreading, hlater]
        rfl
      have htext : Action.lastSet (Action.textSet? i) file.text? (as ++ [a]) = some text := by
        rw [Action.lastSet_concat, hset, ← h.text, hlater]
        rfl
      rw [SourceFile.process, hlater]
      exact {
        path := h.path
        extension := h.extension
        text := htext.symm
        records := by
          rw [hreadings, List.getLast?_concat, ← h.path, ← h.extension]
          rfl
        diagnostics := by
          rw [hreadings, List.flatMap_append, List.flatMap_singleton, ← List.append_assoc,
            ← h.diagnostics, ← h.extension]
          rfl }

/-- **One step more**, explained. -/
theorem Explained.act (h : Explained s as i file later) (a : Action) :
    Explained s (as ++ [a]) i file
      (later.act i (Action.lastSet Action.modeSet? s.mode as) a) := by
  cases a with
  | setMode mode => exact h.write rfl
  | process policy => exact h.read rfl rfl
  | setText j text? =>
      have hwritten := h.write (a := .setText j text?) rfl
      by_cases hj : j = i
      · rw [Action.textSet?, if_pos hj] at hwritten
        rwa [SourceFile.act, if_pos hj]
      · rw [Action.textSet?, if_neg hj] at hwritten
        rwa [SourceFile.act, if_neg hj]
  | processFile j policy =>
      by_cases hj : j = i
      · rw [SourceFile.act, if_pos hj]
        exact h.read (if_pos hj) rfl
      · rw [SourceFile.act, if_neg hj]
        exact h.write (if_neg hj)

end

/-! ### Many steps -/

theorem acts_concat (s : Section) (as : List Action) (a : Action) :
    s.acts (as ++ [a]) = (s.acts as).act a :=
  List.foldl_concat ..

theorem length_acts (s : Section) (as : List Action) :
    (s.acts as).files.length = s.files.length := by
  induction as using List.reverseRecOn with
  | nil => rfl
  | append_singleton as a ih => rw [acts_concat, length_act, ih]

/-- The mode is the one that was set last. -/
theorem mode_acts (s : Section) (as : List Action) :
    (s.acts as).mode = Action.lastSet Action.modeSet? s.mode as := by
  induction as using List.reverseRecOn with
  | nil => rfl
  | append_singleton as a ih => rw [acts_concat, mode_act, ih, Action.lastSet_concat]

theorem exists_explained (s : Section) (as : List Action) {i : Nat} {file : SourceFile}
    (hfile : s.files[i]? = some file) (hfresh : file.records = []) :
    ∃ later, (s.acts as).files[i]? = some later ∧ Explained s as i file later := by
  induction as using List.reverseRecOn with
  | nil => exact ⟨file, hfile, explained_nil s i hfresh⟩
  | append_singleton as a ih =>
      obtain ⟨later, hlater, hexplained⟩ := ih
      refine ⟨_, ?_, hexplained.act a⟩
      rw [acts_concat, getElem?_act, hlater, mode_acts]
      rfl

/-- **Steps on other files** change nothing of a file. -/
theorem getElem?_acts_filter (s : Section) (as : List Action) (i : Nat) :
    (s.acts (as.filter (Action.concerns i))).files[i]? = (s.acts as).files[i]? ∧
      (s.acts (as.filter (Action.concerns i))).mode = (s.acts as).mode := by
  induction as using List.reverseRecOn with
  | nil => exact ⟨rfl, rfl⟩
  | append_singleton as a ih =>
      obtain ⟨hfile, hmode⟩ := ih
      rw [List.filter_append, acts_concat, getElem?_act, mode_act]
      by_cases ha : a.concerns i = true
      · rw [List.filter_cons_of_pos ha, List.filter_nil, acts_concat, getElem?_act, mode_act, hfile,
          hmode]
        exact ⟨rfl, rfl⟩
      · have ha := Bool.eq_false_iff.2 ha
        rw [List.filter_cons_of_neg (Bool.eq_false_iff.1 ha), List.filter_nil, List.append_nil,
          hfile, hmode, Action.modeSet?_of_not_concerns ha]
        refine ⟨?_, rfl⟩
        simp only [SourceFile.act_of_not_concerns ha, Option.map_id']

/-- **The files of a section are explained by its history.**  After any steps on a section without
records, each file is what its readings say, and the steps on other files do not count. -/
theorem acts_explained (s : Section) (hfresh : ∀ file ∈ s.files, file.records = [])
    (as : List Action) :
    (s.acts as).files.length = s.files.length ∧
      ∀ i file, s.files[i]? = some file →
        ∃ later, (s.acts as).files[i]? = some later ∧ Explained s as i file later ∧
          (s.acts (as.filter (Action.concerns i))).files[i]? = some later := by
  refine ⟨length_acts s as, fun i file hfile => ?_⟩
  obtain ⟨later, hlater, hexplained⟩ :=
    exists_explained s as hfile (hfresh file (List.mem_of_getElem? hfile))
  exact ⟨later, hlater, hexplained, (getElem?_acts_filter s as i).1.trans hlater⟩

/-- A stylesheet that says nothing of its one tag, and a script that could not be read. -/
def smallShelf : Section :=
  { title := "Shelf", mode := none, layout := .patterns
    files := [
      { path := .ofText "a.css", extension := "css", text? := some "/* @usage */ a" },
      { path := .ofText "b.js", extension := "js", diagnostics := [⟨.unreadable, none, "lost"⟩] }] }

/-- Both files are read, the script is found and read as variables, the stylesheet is taken away,
and both are read again. -/
def shelfWork : List Action :=
  [.process .drop, .setText 1 (some "/* @title B\n @title C */ $b: 1;"), .setMode (some .variable),
    .processFile 1 .keep, .setText 0 none, .process .drop]

theorem acts_explained_smallShelf :
    (∀ file ∈ smallShelf.files, file.records = []) ∧
      (smallShelf.acts shelfWork).files.map
          (fun file => (file.records.length, file.diagnostics.length))
        = [(1, 1), (1, 3)] ∧
      ∀ i file, smallShelf.files[i]? = some file →
        ∃ later, (smallShelf.acts shelfWork).files[i]? = some later ∧
          Explained smallShelf shelfWork i file later ∧
          (smallShelf.acts (shelfWork.filter (Action.concerns i))).files[i]? = some later := by
  have hfresh : ∀ file ∈ smallShelf.files, file.records = [] := by decide +kernel
  exact ⟨hfresh, by decide +kernel, (acts_explained smallShelf hfresh shelfWork).2⟩

end Section

end PatternBook
