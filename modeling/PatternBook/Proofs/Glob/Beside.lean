import Mathlib.Data.List.Forall2
import PatternBook.Proofs.Glob.Prefix
import PatternBook.Proofs.Glob.Steps

/-!
# Two searches side by side

A search from a directory whose name stands in front of the pattern, and one from inside that
directory, go through the same places.

* `Beside`: two paths lead to the same place, one from outside and one from inside.
* `SearchedAlike`: from such paths the same parts lead to such paths, one by one; a lemma for each
  kind of part.
* `expand_beside`: all parts without slashes are searched alike.
-/

namespace PatternBook

/-- The disk with relative paths looked up from elsewhere. -/
def Disk.movedTo (d : Disk) (there : Location) : Disk := { d with current := there }

/-- The path can be asked about: it is not empty, and not too long. -/
def Path.Fits (p : Path) : Prop := p.bytes ≠ [] ∧ p.bytes.length < Disk.maxPath

instance (p : Path) : Decidable p.Fits := inferInstanceAs (Decidable (_ ∧ _))

/-- A name as there may be one in a directory. -/
def Directory.IsProperName (name : Bytes) : Prop := name ≠ [] ∧ Path.slash ∉ name

instance (name : Bytes) : Decidable (Directory.IsProperName name) :=
  inferInstanceAs (Decidable (_ ∧ _))

/-- All names in a directory and below it are proper. -/
def Directory.Proper : Directory → Prop
  | .empty => True
  | .file name _ rest => IsProperName name ∧ rest.Proper
  | .folder name inner rest => IsProperName name ∧ inner.Proper ∧ rest.Proper

namespace Directory

instance decidableProper : (dir : Directory) → Decidable dir.Proper
  | .empty => inferInstanceAs (Decidable True)
  | .file _ _ rest =>
    have := decidableProper rest
    inferInstanceAs (Decidable (_ ∧ _))
  | .folder _ inner rest =>
    have := decidableProper inner
    have := decidableProper rest
    inferInstanceAs (Decidable (_ ∧ _ ∧ _))

theorem Proper.find? {dir inner : Directory} (h : dir.Proper) {name : Bytes}
    (hfind : dir.find? name = some (.folder inner)) : inner.Proper := by
  induction dir with
  | empty => cases hfind
  | file n content rest ih =>
      rw [Directory.find?] at hfind
      split at hfind
      · cases hfind
      · exact ih h.2 hfind
  | folder n sub rest _ ih =>
      rw [Directory.find?] at hfind
      split at hfind
      · cases hfind
        exact h.2.1
      · exact ih h.2.2 hfind

theorem Proper.at? {dir inner : Directory} (h : dir.Proper) {l : Location}
    (hat : dir.at? l = some (.folder inner)) : inner.Proper := by
  induction l generalizing dir with
  | nil => cases hat; exact h
  | cons name rest ih =>
      rw [Directory.at?] at hat
      cases hfind : dir.find? name with
      | none => rw [hfind] at hat; cases hat
      | some entry =>
          rw [hfind] at hat
          cases entry with
          | file content => simp only at hat; split at hat <;> cases hat
          | folder sub => exact ih (h.find? hfind) hat

end Directory

namespace Disk

variable {d : Disk}

/-- Where parts lead does not depend on where relative paths start. -/
theorem followAll_movedTo (there here : Location) (parts : List Bytes) :
    (d.movedTo there).followAll here parts = d.followAll here parts := by
  induction parts generalizing here with
  | nil => rfl
  | cons part rest ih =>
      have hfollow : (d.movedTo there).follow here part = d.follow here part := rfl
      rw [followAll, followAll, hfollow]
      cases d.follow here part with
      | error e => rfl
      | ok next => exact ih next

theorem proper_folder (h : d.root.Proper) {p : Path} {folder : Directory}
    (hp : d.folder? p = some folder) : folder.Proper := by
  rw [folder?] at hp
  split at hp
  · next inner hentry =>
    cases hp
    rw [Disk.entry?] at hentry
    split at hentry
    · exact h.at? hentry
    · cases hentry
  · cases hp

theorem locate_of_fits {p : Path} (h : p.Fits) :
    d.locate p = if 0 ∈ p.bytes then .error .zeroByte else d.walk p := by
  have hempty : p.bytes.isEmpty = false := List.isEmpty_eq_false_iff.2 h.1
  rw [locate, checkPath, hempty, if_neg (Nat.not_le.2 h.2)]
  split <;> rfl

end Disk

namespace Glob

/-- A path looked up from outside a directory, and one looked up from inside: they lead to the same
place, and the first is spelled with the directory in front, but for a leading `.`. -/
structure Beside (d : Disk) (base : Path) (there : Location) (p q : Path) : Prop where
  walk     : d.walk p = (d.movedTo there).walk q
  zero     : 0 ∈ p.bytes ↔ 0 ∈ q.bytes
  tail     : p.tail = base.tail ++ q.tail
  absolute : p.isAbsolute = base.isAbsolute
  relative : q.isAbsolute = false
  leads    : p.LeadsHere → base.LeadsHere

namespace Beside

variable {d : Disk} {base : Path} {there : Location} {p q : Path}

theorem locate_eq (h : Beside d base there p q) (hp : p.Fits) (hq : q.Fits) :
    d.locate p = (d.movedTo there).locate q := by
  simp only [Disk.locate_of_fits hp, Disk.locate_of_fits hq, h.zero, h.walk]

theorem entry_eq (h : Beside d base there p q) (hp : p.Fits) (hq : q.Fits) :
    d.entry? p = Disk.entry? (d.movedTo there) q := by
  rw [Disk.entry?, Disk.entry?, h.locate_eq hp hq]
  rfl

theorem folder_eq (h : Beside d base there p q) (hp : p.Fits) (hq : q.Fits) :
    d.folder? p = (d.movedTo there).folder? q := by
  rw [Disk.folder?, Disk.folder?, h.entry_eq hp hq]

/-- A step inside keeps the paths beside one another. -/
theorem inside (h : Beside d base there p q) (hp : p.bytes ≠ []) (hq : q.bytes ≠ [])
    {name : Bytes} (hname : Path.slash ∉ name) :
    Beside d base there (Glob.inside p name) (Glob.inside q name) where
  walk := by
    rw [walk_inside d hp hname, walk_inside _ hq hname, h.walk]
    rfl
  zero := by rw [zero_mem_inside hp hname, zero_mem_inside hq hname, h.zero]
  tail := by rw [tail_inside hp hname, tail_inside hq hname, h.tail, List.append_assoc]
  absolute := by rw [isAbsolute_inside hp hname, h.absolute]
  relative := by rw [isAbsolute_inside hq hname, h.relative]
  leads := fun hlead => h.leads (leadsHere_of_inside hp hname hlead)

/-- The same path looked up from both keeps them beside one another. -/
theorem join (h : Beside d base there p q) (hp : p.bytes ≠ []) (hq : q.bytes ≠ []) {r : Path}
    (hr : r.isAbsolute = false) : Beside d base there (p.join r) (q.join r) where
  walk := by
    rw [Disk.walk_join hp hr, Disk.walk_join hq hr, h.walk]
    simp only [Disk.followAll_movedTo]
  zero := by
    rw [Path.mem_bytes_join (by decide) hp hr, Path.mem_bytes_join (by decide) hq hr, h.zero]
  tail := by rw [Path.tail_join hp hr, Path.tail_join hq hr, h.tail, List.append_assoc]
  absolute := by rw [Path.isAbsolute_join hp hr, h.absolute]
  relative := by rw [Path.isAbsolute_join hq hr, h.relative]
  leads := fun hlead => h.leads ((Path.leadsHere_join hp hr).1 hlead)

theorem present_eq (h : Beside d base there p q) (hp : p.Fits) (hq : q.Fits) {name : Text}
    (hname : Path.slash ∉ Utf8.encode name) (hp' : (Glob.inside p (Utf8.encode name)).Fits)
    (hq' : (Glob.inside q (Utf8.encode name)).Fits) :
    present d p name = present (d.movedTo there) q name := by
  rw [present, present, h.folder_eq hp hq, Disk.exists?, Disk.exists?,
    (h.inside hp.1 hq.1 hname).entry_eq hp' hq']

/-- The names of a directory, seen from both. -/
theorem names (h : Beside d base there p q) (hp : p.bytes ≠ []) (hq : q.bytes ≠ [])
    {dir : Directory} (hdir : dir.Proper) :
    List.Forall₂ (fun e f => Beside d base there e.1 f.1 ∧ e.2 = f.2) (Glob.names p dir)
      (Glob.names q dir) := by
  induction dir with
  | empty => exact .nil
  | file name content rest ih => exact .cons ⟨h.inside hp hq hdir.1.2, rfl⟩ (ih hdir.2)
  | folder name inner rest _ ih => exact .cons ⟨h.inside hp hq hdir.1.2, rfl⟩ (ih hdir.2.2)

/-- All names below a directory, seen from both. -/
theorem namesBelow (h : Beside d base there p q) (hp : p.bytes ≠ []) (hq : q.bytes ≠ [])
    (foldersOnly : Bool) {dir : Directory} (hdir : dir.Proper) :
    List.Forall₂ (fun e f => Beside d base there e.1 f.1 ∧ e.2 = f.2)
      (Glob.namesBelow foldersOnly p dir) (Glob.namesBelow foldersOnly q dir) := by
  induction dir generalizing p q with
  | empty => exact .nil
  | file name content rest ih =>
      have hrest := ih h hp hq hdir.2
      cases foldersOnly with
      | true => exact hrest
      | false => exact .cons ⟨h.inside hp hq hdir.1.2, rfl⟩ hrest
  | folder name inner rest ih_inner ih =>
      have hname := h.inside hp hq hdir.1.2
      have hinner := ih_inner hname (inside_ne_nil hp hdir.1.1) (inside_ne_nil hq hdir.1.1) hdir.2.1
      exact List.rel_append (.cons ⟨hname, rfl⟩ hinner) (ih h hp hq hdir.2.2)

end Beside

/-! ### Whole searches -/

theorem forall₂_flatMap {α β γ δ : Type} {R : α → β → Prop} {S : γ → δ → Prop} {as : List α}
    {bs : List β} {f : α → List γ} {g : β → List δ} (h : List.Forall₂ R as bs)
    (hfg : ∀ a ∈ as, ∀ b ∈ bs, R a b → List.Forall₂ S (f a) (g b)) :
    List.Forall₂ S (as.flatMap f) (bs.flatMap g) := by
  induction h with
  | nil => exact .nil
  | @cons a b as bs hab _ ih =>
      rw [List.flatMap_cons, List.flatMap_cons]
      refine List.rel_append (hfg a List.mem_cons_self b List.mem_cons_self hab) (ih ?_)
      exact fun a ha b hb => hfg a (List.mem_cons_of_mem _ ha) b (List.mem_cons_of_mem _ hb)

theorem isAbsolute_dotName {pieces : List Piece} {name : Text} (h : name ∈ dotNames pieces) :
    (Path.ofText name).isAbsolute = false := by
  unfold dotNames at h
  split at h
  · rcases List.mem_cons.1 h with rfl | h
    · rfl
    · obtain rfl := List.mem_singleton.1 h
      rfl
  · cases h

section

variable {d : Disk} {base : Path} {there : Location}

/-- Two results that are beside one another, and that can be asked about. -/
def Results (d : Disk) (base : Path) (there : Location) (p q : Path) : Prop :=
  Beside d base there p q ∧ p.Fits ∧ q.Fits

/-- From paths beside one another the parts lead to paths beside one another, one by one, as long as
no path that is asked about is empty or too long. -/
def SearchedAlike (d : Disk) (base : Path) (there : Location) (parts : List Part) : Prop :=
  ∀ ⦃p q : Path⦄, Beside d base there p q → (∀ r ∈ asked d parts p, r.Fits) →
    (∀ r ∈ asked (d.movedTo there) parts q, r.Fits) →
    List.Forall₂ (Results d base there) (expand d parts p) (expand (d.movedTo there) parts q)

variable {rest : List Part}

/-- What the parts lead to from names beside one another. -/
theorem expand_names (hrest : SearchedAlike d base there rest) (part : Part)
    {es fs : List (Path × Bytes)}
    (h : List.Forall₂ (fun e f => Beside d base there e.1 f.1 ∧ e.2 = f.2) es fs)
    (hes : ∀ e ∈ es, ∀ r ∈ if coversName part e.2 then asked d rest e.1 else [], r.Fits)
    (hfs : ∀ f ∈ fs, ∀ r ∈ if coversName part f.2 then asked (d.movedTo there) rest f.1 else [],
      r.Fits) :
    List.Forall₂ (Results d base there)
      (es.flatMap fun e => if coversName part e.2 then expand d rest e.1 else [])
      (fs.flatMap fun f =>
        if coversName part f.2 then expand (d.movedTo there) rest f.1 else []) := by
  refine forall₂_flatMap h fun e he f hf hef => ?_
  have hpe := hes e he
  have hqf := hfs f hf
  rw [← hef.2] at hqf ⊢
  cases hcovers : coversName part e.2 with
  | false => exact .nil
  | true =>
      rw [hcovers] at hpe hqf
      exact hrest hef.1 hpe hqf

namespace SearchedAlike

theorem nil : SearchedAlike d base there [] := fun p q h hp hq =>
  .cons ⟨h, hp p (mem_asked d [] p), hq q (mem_asked _ [] q)⟩ .nil

theorem literal (hrest : SearchedAlike d base there rest) {name : Text} (hname : '/' ∉ name) :
    SearchedAlike d base there (.literal name :: rest) := by
  intro p q h hp hq
  have hslash : Path.slash ∉ Utf8.encode name := fun hmem =>
    hname ((Utf8.mem_encode (by decide)).1 hmem)
  have hpfits := hp p (mem_asked d _ p)
  have hqfits := hq q (mem_asked _ _ q)
  rw [asked, List.forall_mem_cons, List.forall_mem_cons] at hp hq
  have hsame := h.present_eq hpfits hqfits hslash hp.2.1 hq.2.1
  rw [expand_literal, expand_literal, ← hsame]
  cases hpresent : present d p name with
  | false => exact .nil
  | true =>
      rw [if_pos hpresent] at hp
      rw [← hsame, if_pos hpresent] at hq
      exact hrest (h.inside hpfits.1 hqfits.1 hslash) hp.2.2 hq.2.2

theorem wild (hproper : d.root.Proper) (hrest : SearchedAlike d base there rest)
    (pieces : List Piece) : SearchedAlike d base there (.wild pieces :: rest) := by
  intro p q h hp hq
  have hpfits := hp p (mem_asked d _ p)
  have hqfits := hq q (mem_asked _ _ q)
  have hfolder := h.folder_eq hpfits hqfits
  rw [asked, List.forall_mem_cons] at hp hq
  rw [expand_wild, expand_wild, ← hfolder]
  rw [← hfolder] at hq
  cases hdir : d.folder? p with
  | none => exact .nil
  | some folder =>
      rw [hdir] at hp hq
      simp only [List.forall_mem_append, List.forall_mem_flatMap] at hp hq
      refine List.rel_append ?_ ?_
      -- `.` and `..` are no names of the directory, and are joined as they are
      · refine forall₂_flatMap (List.forall₂_refl _ : List.Forall₂ Eq _ _) ?_
        rintro name hname _ - rfl
        exact hrest (h.join hpfits.1 hqfits.1 (isAbsolute_dotName (List.mem_filter.1 hname).1))
          (hp.2.1 name hname) (hq.2.1 name hname)
      · have hnames := h.names hpfits.1 hqfits.1 (d.proper_folder hproper hdir)
        exact expand_names hrest _ hnames hp.2.2 hq.2.2

theorem deep_last (hproper : d.root.Proper) : SearchedAlike d base there [.deep] := by
  intro p q h hp hq
  have hpfits := hp p (mem_asked d _ p)
  have hqfits := hq q (mem_asked _ _ q)
  have hfolder := h.folder_eq hpfits hqfits
  rw [asked, List.forall_mem_cons] at hp hq
  rw [expand_deep_last, expand_deep_last, ← hfolder]
  rw [← hfolder] at hq
  cases hdir : d.folder? p with
  | none => exact .nil
  | some folder =>
      rw [hdir] at hp hq
      have hnames := h.namesBelow hpfits.1 hqfits.1 true (d.proper_folder hproper hdir)
      simp only [List.map_eq_flatMap] at hp hq ⊢
      refine forall₂_flatMap hnames fun e he f hf hef => .cons ⟨hef.1, ?_, ?_⟩ .nil
      · exact hp.2 _ (List.mem_flatMap.2 ⟨e, he, List.mem_singleton_self _⟩)
      · exact hq.2 _ (List.mem_flatMap.2 ⟨f, hf, List.mem_singleton_self _⟩)

theorem deep (hproper : d.root.Proper) (hrest : SearchedAlike d base there rest) (part : Part) :
    SearchedAlike d base there (.deep :: part :: rest) := by
  intro p q h hp hq
  have hpfits := hp p (mem_asked d _ p)
  have hqfits := hq q (mem_asked _ _ q)
  have hfolder := h.folder_eq hpfits hqfits
  rw [asked, List.forall_mem_cons] at hp hq
  rw [expand_deep, expand_deep, ← hfolder]
  rw [← hfolder] at hq
  cases hdir : d.folder? p with
  | none => exact .nil
  | some folder =>
      rw [hdir] at hp hq
      simp only [List.forall_mem_flatMap] at hp hq
      have hnames := h.namesBelow hpfits.1 hqfits.1 false (d.proper_folder hproper hdir)
      exact expand_names hrest part hnames hp.2 hq.2

end SearchedAlike

/-- **Parts without slashes are searched alike from outside a directory and from inside.** -/
theorem expand_beside (hproper : d.root.Proper) :
    ∀ parts : List Part, Named parts → SearchedAlike d base there parts
  | [], _ => .nil
  | .literal name :: rest, hnamed =>
      (expand_beside hproper rest fun n hn => hnamed n (List.mem_cons_of_mem _ hn)).literal
        (hnamed name List.mem_cons_self)
  | .wild pieces :: rest, hnamed =>
      (expand_beside hproper rest fun n hn => hnamed n (List.mem_cons_of_mem _ hn)).wild hproper
        pieces
  | [.deep], _ => .deep_last hproper
  -- the part after a deep one is looked for at once, in all directories below
  | .deep :: part :: rest, hnamed =>
      (expand_beside hproper rest fun n hn =>
        hnamed n (List.mem_cons_of_mem _ (List.mem_cons_of_mem _ hn))).deep hproper part

end

end Glob

end PatternBook
