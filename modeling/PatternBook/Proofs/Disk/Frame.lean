import PatternBook.Disk.Basic

/-!
# What changes on a disk

A disk is seen through its locations.  An entry that is put at a location is seen there and nowhere
else, and a disk that only gains entries answers every path that was answered before in the same
way.

* `Directory.look_put`: what is seen after an entry has been put.
* `Disk.Extends.locate`: paths lead where they led before.
* `Disk.GrownBy`: between two disks nothing but some new directories.
-/

namespace PatternBook

/-! ### Looking -/

/-- The content of a file. -/
def Entry.content? : Entry → Option Bytes
  | .file content => some content
  | .folder _ => none

/-- What is seen at a location: nothing, a directory, or a file with its content. -/
def Directory.look (d : Directory) (l : Location) : Option (Option Bytes) :=
  (d.at? l).map Entry.content?

/-- What is seen at a location from an entry on. -/
def Entry.look : Entry → Location → Option (Option Bytes)
  | .file content, l => if l.isEmpty then some (some content) else none
  | .folder inner, l => inner.look l

/-- Nothing is below the entry. -/
def Entry.IsLeaf (entry : Entry) : Prop := ∀ name rest, entry.look (name :: rest) = none

theorem Entry.look_nil (entry : Entry) : entry.look [] = some entry.content? := by
  cases entry <;> rfl

theorem Entry.isLeaf_file (content : Bytes) : (Entry.file content).IsLeaf := fun _ _ => rfl

theorem Entry.isLeaf_empty : (Entry.folder .empty).IsLeaf := fun _ _ => rfl

namespace Directory

/-- The first name of a location is looked up, and then the others. -/
theorem look_cons (d : Directory) (name : Bytes) (rest : Location) :
    d.look (name :: rest) = (d.find? name).bind (·.look rest) := by
  rw [look, at?]
  cases d.find? name with
  | none => rfl
  | some entry =>
      cases entry with
      | file content => cases rest <;> rfl
      | folder inner => rfl

theorem look_set (d : Directory) (name other : Bytes) (entry : Entry) (rest : Location) :
    (d.set name entry).look (other :: rest) =
      if name = other then entry.look rest else d.look (other :: rest) := by
  rw [look_cons, look_cons, find?_set]
  by_cases h : name = other
  · rw [if_pos h, if_pos h, Option.bind_some]
  · rw [if_neg h, if_neg h]

/-- On the way to a directory there are directories. -/
theorem find?_of_look {d : Directory} {name : Bytes} {rest : Location}
    (h : d.look (name :: rest) = some none) :
    ∃ inner, d.find? name = some (.folder inner) ∧ inner.look rest = some none := by
  rw [look_cons] at h
  obtain ⟨entry, hfind, hentry⟩ := Option.bind_eq_some_iff.1 h
  cases entry with
  | file content => cases rest <;> cases hentry
  | folder inner => exact ⟨inner, hfind, hentry⟩

/-- Nothing is below what is not a directory. -/
theorem look_below {d : Directory} {name : Bytes} (h : d.look [name] ≠ some none) (next : Bytes)
    (rest : Location) : d.look (name :: next :: rest) = none := by
  rw [look_cons] at h ⊢
  cases hfind : d.find? name with
  | none => rfl
  | some entry =>
      cases entry with
      | file content => rfl
      | folder inner => exact absurd (by rw [hfind]; rfl) h

theorem put_append {d inner : Directory} {name : Bytes} (h : d.find? name = some (.folder inner))
    (entry : Entry) (parent : Location) (last : Bytes) :
    put entry d (name :: (parent ++ [last]))
      = d.set name (.folder (put entry inner (parent ++ [last]))) := by
  rw [put, if_neg (by simp), h]

/-- **An entry is seen where it has been put**, in a directory and not in place of one, and what is
seen anywhere else stays the same. -/
theorem look_put {entry : Entry} (hleaf : entry.IsLeaf) {d : Directory} {parent : Location}
    {last : Bytes} (hparent : d.look parent = some none)
    (hplace : d.look (parent ++ [last]) ≠ some none) (l : Location) :
    (put entry d (parent ++ [last])).look l =
      if l = parent ++ [last] then some entry.content? else d.look l := by
  induction parent generalizing d l with
  | nil =>
      cases l with
      | nil => rfl
      | cons name rest =>
          have hput : put entry d ([] ++ [last]) = d.set last entry := rfl
          rw [hput, look_set]
          by_cases h : last = name
          · subst h
            cases rest with
            | nil => simp [Entry.look_nil]
            | cons next rest =>
                -- Putting replaces the whole entry, so what was below it would be lost.
                have hbelow : d.look (last :: next :: rest) = none := look_below hplace next rest
                simp [hleaf next rest, hbelow]
          · simp [h, Ne.symm h]
  | cons name parent ih =>
      obtain ⟨inner, hfind, hinner⟩ := find?_of_look hparent
      have hplace' : inner.look (parent ++ [last]) ≠ some none := by
        rw [List.cons_append, look_cons, hfind] at hplace
        exact hplace
      rw [List.cons_append, put_append hfind]
      cases l with
      | nil => rfl
      | cons other rest =>
          rw [look_set]
          by_cases h : name = other
          · subst h
            have hlook : d.look (name :: rest) = inner.look rest := by
              rw [look_cons, hfind]
              rfl
            rw [if_pos rfl, Entry.look, ih hinner hplace', hlook]
            simp
          · simp [h, Ne.symm h]

end Directory

namespace Disk

/-- What is seen at a location. -/
def look (d : Disk) (l : Location) : Option (Option Bytes) := d.root.look l

theorem isFolderAt_iff {d : Disk} {l : Location} :
    d.isFolderAt l = true ↔ d.look l = some none := by
  rw [isFolderAt, look, Directory.look]
  cases d.root.at? l with
  | none => simp
  | some entry => cases entry <;> simp [Entry.content?]

theorem isSome_look (d : Disk) (l : Location) : (d.look l).isSome = (d.root.at? l).isSome :=
  Option.isSome_map

/-! ### Following paths -/

/-- What is on the first disk is on the second, where a file may have another content. -/
structure Extends (d d' : Disk) : Prop where
  current : d'.current = d.current
  folder  : ∀ l, d.look l = some none → d'.look l = some none
  present : ∀ l, (d.look l).isSome = true → (d'.look l).isSome = true

theorem follow_of_not_folder {d : Disk} {here : Location} (h : d.isFolderAt here = false)
    (part : Bytes) : d.follow here part = .error .notDirectory := by
  rw [follow, h]
  rfl

/-- A part that can be the name of an entry. -/
structure IsName (part : Bytes) : Prop where
  nil    : part ≠ []
  dot    : part ≠ [Path.dot]
  up     : part ≠ [Path.dot, Path.dot]
  length : part.length ≤ maxName

theorem follow_name {d : Disk} {here : Location} (hfolder : d.isFolderAt here = true)
    {part : Bytes} (hname : IsName part)
    (hpart : (d.root.at? (here ++ [part])).isSome = true) :
    d.follow here part = .ok (here ++ [part]) := by
  simp [follow, hfolder, hname.nil, hname.dot, hname.up, hname.length, hpart]

namespace Extends

variable {d d' : Disk}

theorem isFolderAt (h : d.Extends d') {l : Location} (hl : d.isFolderAt l = true) :
    d'.isFolderAt l = true :=
  isFolderAt_iff.2 (h.folder l (isFolderAt_iff.1 hl))

theorem follow (h : d.Extends d') {here next : Location} {part : Bytes}
    (hnext : d.follow here part = .ok next) : d'.follow here part = .ok next := by
  cases hfolder : d.isFolderAt here with
  | false => rw [follow_of_not_folder hfolder] at hnext; cases hnext
  | true =>
      have hpresent : (d.root.at? (here ++ [part])).isSome = true →
          (d'.root.at? (here ++ [part])).isSome = true := by
        rw [← isSome_look, ← isSome_look]
        exact h.present _
      simp only [Disk.follow, hfolder, h.isFolderAt hfolder, Bool.not_true, Bool.false_eq_true,
        if_false] at hnext ⊢
      by_cases hhere : part = [] ∨ part = [Path.dot]
      · rwa [if_pos hhere] at hnext ⊢
      · rw [if_neg hhere] at hnext ⊢
        by_cases hup : part = [Path.dot, Path.dot]
        · rwa [if_pos hup] at hnext ⊢
        · rw [if_neg hup] at hnext ⊢
          by_cases hlength : maxName < part.length
          · rwa [if_pos hlength] at hnext ⊢
          · rw [if_neg hlength] at hnext ⊢
            by_cases hpart : (d.root.at? (here ++ [part])).isSome = true
            · rw [if_pos hpart] at hnext
              rwa [if_pos (hpresent hpart)]
            · rw [if_neg hpart] at hnext
              cases hnext

theorem followAll (h : d.Extends d') {here there : Location} {parts : List Bytes}
    (hthere : d.followAll here parts = .ok there) : d'.followAll here parts = .ok there := by
  induction parts generalizing here with
  | nil => exact hthere
  | cons part rest ih =>
      rw [Disk.followAll] at hthere ⊢
      cases hnext : d.follow here part with
      | error e => rw [hnext] at hthere; cases hthere
      | ok next =>
          rw [hnext] at hthere
          rw [h.follow hnext]
          exact ih hthere

/-- **Paths lead where they led before.** -/
theorem locate (h : d.Extends d') {p : Path} {l : Location} (hl : d.locate p = .ok l) :
    d'.locate p = .ok l := by
  have hstart : d'.startOf p = d.startOf p := by rw [startOf, startOf, h.current]
  rw [Disk.locate] at hl ⊢
  rw [hstart]
  cases hcheck : checkPath p with
  | error e => rw [hcheck] at hl; cases hl
  | ok u =>
      rw [hcheck] at hl
      exact h.followAll hl

end Extends

/-! ### New directories -/

/-- Between two disks there are only some new directories. -/
structure GrownBy (new : Location → Prop) (d d' : Disk) : Prop where
  current : d'.current = d.current
  look    : ∀ l, d'.look l = d.look l ∨ d.look l = none ∧ d'.look l = some none ∧ new l

namespace GrownBy

variable {new new' : Location → Prop} {d d' d'' : Disk}

theorem refl (new : Location → Prop) (d : Disk) : d.GrownBy new d :=
  ⟨rfl, fun _ => .inl rfl⟩

theorem trans (h : d.GrownBy new d') (h' : d'.GrownBy new d'') : d.GrownBy new d'' := by
  refine ⟨h'.current.trans h.current, fun l => ?_⟩
  rcases h'.look l with hl' | ⟨hnone', hsome', hnew⟩
  · rw [hl']
    exact h.look l
  · rcases h.look l with hl | ⟨-, hsome, -⟩
    · exact .inr ⟨hl ▸ hnone', hsome', hnew⟩
    · rw [hsome] at hnone'
      cases hnone'

theorem mono (h : d.GrownBy new d') (hnew : ∀ l, new l → new' l) : d.GrownBy new' d' := by
  refine ⟨h.current, fun l => ?_⟩
  rcases h.look l with hl | ⟨hnone, hsome, hl⟩
  · exact .inl hl
  · exact .inr ⟨hnone, hsome, hnew l hl⟩

theorem toExtends (h : d.GrownBy new d') : d.Extends d' := by
  refine ⟨h.current, fun l hl => ?_, fun l hl => ?_⟩
  · rcases h.look l with hlook | ⟨-, hsome, -⟩
    · rw [hlook, hl]
    · exact hsome
  · rcases h.look l with hlook | ⟨-, hsome, -⟩
    · rw [hlook, hl]
    · rw [hsome]
      rfl

end GrownBy

end Disk

end PatternBook
