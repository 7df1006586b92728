import PatternBook.Glob.Search
import PatternBook.Proofs.Path.Parts

/-!
# Steps of a search

A search goes from a path to a name inside it.  The current directory is left out in front of a
name, so the spelling may lose its front; where the path leads it does not lose.

* `walk_inside`, `tail_inside`: where the step leads, and what it adds to the components.
* `asked`: the paths that a search asks the disk about.
-/

namespace PatternBook.Glob

open PatternBook.Path (dot slash componentOf splitParts)

/-! ### One step -/

/-- The current directory is spelled with a `.` in front and with nothing behind it that counts. -/
theorem isHere_iff {p : Path} :
    isHere p = true ↔ p.isAbsolute = false ∧ p.LeadsHere ∧ p.tail = [] := by
  rw [isHere, decide_eq_true_iff, Path.components_eq, Path.lead]
  cases p.isAbsolute with
  | true => simp
  | false =>
      by_cases h : p.LeadsHere
      · simp [h]
      · have hne : p.tail ≠ [.here] := fun ht => Path.here_notMem_tail p (ht ▸ List.mem_cons_self)
        simp [h, hne]

section

variable {p : Path} {name : Bytes}

theorem isAbsolute_name (hname : slash ∉ name) : (Path.mk name).isAbsolute = false := by
  cases name with
  | nil => rfl
  | cons b name => simpa [Path.isAbsolute] using Ne.symm (List.ne_of_not_mem_cons hname)

theorem tail_name (hname : slash ∉ name) : (Path.mk name).tail = (componentOf name).toList := by
  rw [Path.tail, Path.splitParts_of_notMem hname]
  cases h : componentOf name <;> simp [h]

theorem inside_ne_nil (hp : p.bytes ≠ []) (hname : name ≠ []) : (inside p name).bytes ≠ [] := by
  rw [inside]
  split
  · exact hname
  · rw [Path.join]
    split
    · exact hname
    · split <;> exact List.append_ne_nil_of_left_ne_nil hp _

theorem tail_inside (hp : p.bytes ≠ []) (hname : slash ∉ name) :
    (inside p name).tail = p.tail ++ (componentOf name).toList := by
  rw [inside]
  split
  · next h => rw [(isHere_iff.1 h).2.2, List.nil_append, tail_name hname]
  · rw [Path.tail_join hp (isAbsolute_name hname), tail_name hname]

theorem isAbsolute_inside (hp : p.bytes ≠ []) (hname : slash ∉ name) :
    (inside p name).isAbsolute = p.isAbsolute := by
  rw [inside]
  split
  · next h => rw [(isHere_iff.1 h).1, isAbsolute_name hname]
  · exact Path.isAbsolute_join hp (isAbsolute_name hname)

/-- A `.` in front was there before the step. -/
theorem leadsHere_of_inside (hp : p.bytes ≠ []) (hname : slash ∉ name)
    (h : (inside p name).LeadsHere) : p.LeadsHere := by
  rw [inside] at h
  split at h
  · next hhere => exact (isHere_iff.1 hhere).2.1
  · exact (Path.leadsHere_join hp (isAbsolute_name hname)).1 h

/-- The current directory is spelled with parts that stay where they are. -/
theorem stays_of_isHere (h : isHere p = true) :
    ∀ part ∈ splitParts p.bytes, part = [] ∨ part = [dot] := by
  refine fun part hpart => Decidable.byContradiction fun hne => ?_
  have hcomponent : ∃ c, componentOf part = some c := by
    rw [componentOf, if_neg hne]
    split <;> exact ⟨_, rfl⟩
  obtain ⟨c, hc⟩ := hcomponent
  have hmem : c ∈ p.tail := List.mem_filterMap.2 ⟨part, hpart, hc⟩
  rw [(isHere_iff.1 h).2.2] at hmem
  cases hmem

theorem zero_mem_inside (hp : p.bytes ≠ []) (hname : slash ∉ name) :
    0 ∈ (inside p name).bytes ↔ 0 ∈ p.bytes ∨ 0 ∈ name := by
  rw [inside]
  split
  · next h =>
    have hzero : 0 ∉ p.bytes := fun hmem => by
      obtain ⟨part, hpart, hzero⟩ := Path.exists_mem_splitParts (by decide) hmem
      rcases stays_of_isHere h part hpart with rfl | rfl
      · cases hzero
      · exact absurd hzero (by decide)
    simp [hzero]
  · exact Path.mem_bytes_join (by decide) hp (isAbsolute_name hname)

/-- A step leads on from where the path led. -/
theorem walk_inside (d : Disk) (hp : p.bytes ≠ []) (hname : slash ∉ name) :
    d.walk (inside p name) = d.walk p >>= (d.follow · name) := by
  rw [inside]
  split
  · next h =>
    have hstart : d.startOf p = d.current := by
      rw [Disk.startOf, (isHere_iff.1 h).1]
      rfl
    have hstart' : d.startOf ⟨name⟩ = d.current := by
      rw [Disk.startOf, isAbsolute_name hname]
      rfl
    rw [Disk.walk, Disk.walk, hstart, hstart', Path.splitParts_of_notMem hname,
      Disk.followAll_singleton,
      Disk.followAll_allStay (Path.splitParts_ne_nil _) (stays_of_isHere h),
      Disk.follow_stay (.inr rfl)]
  · rw [Disk.walk_join hp (isAbsolute_name hname), Path.splitParts_of_notMem hname]
    simp only [Disk.followAll_singleton]

end

/-! ### Names of a directory -/

/-- The names of a directory, each with its path. -/
def names (folder : Path) : Directory → List (Path × Bytes)
  | .empty => []
  | .file name _ rest | .folder name _ rest => (inside folder name, name) :: names folder rest

/-- All names below a directory, each with its path; only directories if `foldersOnly`. -/
def namesBelow (foldersOnly : Bool) (folder : Path) : Directory → List (Path × Bytes)
  | .empty => []
  | .file name _ rest =>
    (if foldersOnly then [] else [(inside folder name, name)]) ++ namesBelow foldersOnly folder rest
  | .folder name inner rest =>
    (inside folder name, name) :: namesBelow foldersOnly (inside folder name) inner ++
      namesBelow foldersOnly folder rest

theorem children_eq_flatMap (visit : Path → Bytes → List Path) (folder : Path) (dir : Directory) :
    children visit folder dir = (names folder dir).flatMap fun e => visit e.1 e.2 := by
  induction dir with
  | empty => rfl
  | file name content rest ih | folder name inner rest _ ih => simp [names, children, ih]

theorem below_eq_flatMap (foldersOnly : Bool) (visit : Path → Bytes → List Path) (folder : Path)
    (dir : Directory) :
    below foldersOnly visit folder dir
      = (namesBelow foldersOnly folder dir).flatMap fun e => visit e.1 e.2 := by
  induction dir generalizing folder with
  | empty => rfl
  | file name content rest ih => cases foldersOnly <;> simp [namesBelow, below, ih]
  | folder name inner rest ih_inner ih => simp [namesBelow, below, ih_inner, ih]

/-! ### What is asked -/

/-- A search can go on from a path to a name inside it. -/
def present (d : Disk) (p : Path) (name : Text) : Bool :=
  if name = "." ∨ name = ".." then (d.folder? p).isSome
  else d.exists? (inside p (Utf8.encode name))

/-- The paths that a search for the parts asks the disk about. -/
def asked (d : Disk) : List Part → Path → List Path
  | [], p => [p]
  | .literal name :: rest, p =>
    let next := inside p (Utf8.encode name)
    p :: next :: if present d p name then asked d rest next else []
  | .wild pieces :: rest, p =>
    p :: match d.folder? p with
    | none => []
    | some folder =>
      ((dotNames pieces).filter (covers pieces)).flatMap
        (fun name => asked d rest (p.join (Path.ofText name))) ++
      (names p folder).flatMap fun e =>
        if coversName (.wild pieces) e.2 then asked d rest e.1 else []
  | [.deep], p =>
    p :: match d.folder? p with
    | none => []
    | some folder => (namesBelow true p folder).map Prod.fst
  | .deep :: part :: rest, p =>
    p :: match d.folder? p with
    | none => []
    | some folder =>
      (namesBelow false p folder).flatMap fun e =>
        if coversName part e.2 then asked d rest e.1 else []

theorem mem_asked (d : Disk) (parts : List Part) (p : Path) : p ∈ asked d parts p := by
  unfold asked
  split <;> exact List.mem_cons_self

/-! ### One part -/

section

variable {d : Disk} {p : Path} {rest : List Part}

theorem expand_literal (name : Text) :
    expand d (.literal name :: rest) p
      = if present d p name then expand d rest (inside p (Utf8.encode name)) else [] := by
  have hnext : (if isHere p then Path.ofText name else p.join (Path.ofText name))
      = inside p (Utf8.encode name) := rfl
  rw [expand, hnext, present]
  by_cases h : name = "." ∨ name = ".."
  · simp only [h, true_and, not_true_eq_false, false_and, or_false, if_true]
  · simp only [h, false_and, not_false_eq_true, true_and, false_or, if_false]

theorem expand_wild (pieces : List Piece) :
    expand d (.wild pieces :: rest) p = match d.folder? p with
      | none => []
      | some folder =>
        ((dotNames pieces).filter (covers pieces)).flatMap
          (fun name => expand d rest (p.join (Path.ofText name))) ++
        (names p folder).flatMap fun e =>
          if coversName (.wild pieces) e.2 then expand d rest e.1 else [] := by
  rw [expand]
  cases d.folder? p with
  | none => rfl
  | some folder => simp only [children_eq_flatMap]

theorem expand_deep_last :
    expand d [.deep] p = match d.folder? p with
      | none => []
      | some folder => (namesBelow true p folder).map Prod.fst := by
  rw [expand]
  cases d.folder? p with
  | none => rfl
  | some folder => simp only [below_eq_flatMap, List.map_eq_flatMap]

theorem expand_deep (part : Part) :
    expand d (.deep :: part :: rest) p = match d.folder? p with
      | none => []
      | some folder =>
        (namesBelow false p folder).flatMap fun e =>
          if coversName part e.2 then expand d rest e.1 else [] := by
  rw [expand]
  cases d.folder? p with
  | none => rfl
  | some folder => simp only [below_eq_flatMap]

end

end PatternBook.Glob
