import Mathlib.Data.List.TakeWhile
import PatternBook.Proofs.Disk.Frame

/-!
# What writing does to a disk

Making a directory adds that directory, with the directories on the way to it where they are
missing, and nothing else, even when it fails half way.  Writing a file changes that file and
nothing else.

* `Disk.makeFolder_ok`, `Disk.writeFile_ok`: what one operation has done when it succeeds.
* `Disk.grownBy_makeFolders`: what making directories has done, whether it succeeds or not.
-/

namespace PatternBook

theorem exists_of_bind_eq_ok {ε α β : Type} {x : Except ε α} {f : α → Except ε β} {b : β}
    (h : x >>= f = .ok b) : ∃ a, x = .ok a ∧ f a = .ok b := by
  cases x with
  | error e => cases h
  | ok a => exact ⟨a, rfl, h⟩

namespace Disk

/-! ### Putting -/

section

variable {d : Disk} {here : Location} {last : Bytes} {entry : Entry}

theorem look_put (hleaf : entry.IsLeaf) (hfolder : d.isFolderAt here = true)
    (hplace : d.isFolderAt (here ++ [last]) = false) (l : Location) :
    (d.put (here ++ [last]) entry).look l =
      if l = here ++ [last] then some entry.content? else d.look l := by
  refine Directory.look_put hleaf (isFolderAt_iff.1 hfolder) (fun h => ?_) l
  rw [isFolderAt_iff.2 h] at hplace
  cases hplace

/-- Where no directory was, an entry takes nothing away. -/
theorem extends_put (hleaf : entry.IsLeaf) (hfolder : d.isFolderAt here = true)
    (hplace : d.isFolderAt (here ++ [last]) = false) :
    d.Extends (d.put (here ++ [last]) entry) := by
  refine ⟨rfl, fun l hl => ?_, fun l hl => ?_⟩
  · rw [look_put hleaf hfolder hplace, if_neg, hl]
    rintro rfl
    rw [isFolderAt_iff.2 hl] at hplace
    cases hplace
  · rw [look_put hleaf hfolder hplace]
    split
    · rfl
    · exact hl

/-- The entry that has been put is found under its name. -/
theorem follow_put (hname : IsName last) (hleaf : entry.IsLeaf)
    (hfolder : d.isFolderAt here = true) (hplace : d.isFolderAt (here ++ [last]) = false) :
    (d.put (here ++ [last]) entry).follow here last = .ok (here ++ [last]) := by
  refine follow_name ((extends_put hleaf hfolder hplace).isFolderAt hfolder) hname ?_
  have hput : (d.put (here ++ [last]) entry).look (here ++ [last]) = some entry.content? := by
    rw [look_put hleaf hfolder hplace, if_pos rfl]
  rw [← Option.isSome_map (f := Entry.content?)]
  exact congrArg Option.isSome hput

end

/-! ### Following several parts -/

theorem followAll_append {d : Disk} {here there : Location} {parts : List Bytes}
    (h : d.followAll here parts = .ok there) (rest : List Bytes) :
    d.followAll here (parts ++ rest) = d.followAll there rest := by
  induction parts generalizing here with
  | nil => cases h; rfl
  | cons part parts ih =>
      rw [followAll] at h
      rw [List.cons_append, followAll]
      cases hnext : d.follow here part with
      | error e => rw [hnext] at h; cases h
      | ok next =>
          rw [hnext] at h
          exact ih h

/-- Empty parts lead nowhere else. -/
theorem followAll_empty {d : Disk} {here : Location} (h : d.isFolderAt here = true)
    {parts : List Bytes} (hparts : ∀ part ∈ parts, part = []) :
    d.followAll here parts = .ok here := by
  induction parts with
  | nil => rfl
  | cons part parts ih =>
      obtain ⟨rfl, hrest⟩ := List.forall_mem_cons.1 hparts
      have hfollow : d.follow here [] = .ok here := by simp [follow, h]
      rw [followAll, hfollow]
      exact ih hrest

/-- The last part that is not empty, with what is around it. -/
theorem eq_of_dropTrailing {parts before : List Bytes} {last : Bytes}
    (h : (dropTrailing parts).reverse = last :: before) :
    last ≠ [] ∧ ∃ trailing, parts = before.reverse ++ last :: trailing ∧
      ∀ part ∈ trailing, part = [] := by
  rw [dropTrailing, List.reverse_reverse] at h
  have hlast : last.isEmpty = false := by
    have hhead := List.head_dropWhile_not (·.isEmpty) (l := parts.reverse) (by rw [h]; nofun)
    simpa only [h, List.head_cons] using hhead
  refine ⟨fun hnil => ?_, (parts.reverse.takeWhile (·.isEmpty)).reverse, ?_, fun part hpart => ?_⟩
  · rw [hnil] at hlast
    cases hlast
  · calc parts
        = (parts.reverse.takeWhile (·.isEmpty) ++ parts.reverse.dropWhile (·.isEmpty)).reverse := by
          rw [List.takeWhile_append_dropWhile, List.reverse_reverse]
      _ = before.reverse ++ last :: (parts.reverse.takeWhile (·.isEmpty)).reverse := by
          rw [h, List.reverse_append, List.reverse_cons, List.append_assoc]
          rfl
  · exact List.isEmpty_iff.1 (List.mem_takeWhile_imp (List.mem_reverse.1 hpart))

/-- A path to a place leads to the entry that has been put there, and on from it. -/
theorem followAll_put {d : Disk} {start here : Location} {last : Bytes} {entry : Entry}
    {before : List Bytes} (hname : IsName last) (hleaf : entry.IsLeaf)
    (hfolder : d.isFolderAt here = true) (hplace : d.isFolderAt (here ++ [last]) = false)
    (hbefore : d.followAll start before = .ok here) (trailing : List Bytes) :
    (d.put (here ++ [last]) entry).followAll start (before ++ last :: trailing)
      = (d.put (here ++ [last]) entry).followAll (here ++ [last]) trailing := by
  rw [followAll_append ((extends_put hleaf hfolder hplace).followAll hbefore), followAll,
    follow_put hname hleaf hfolder hplace]

theorem locate_of_checkPath {p : Path} (h : checkPath p = .ok ()) (d : Disk) :
    d.locate p = d.followAll (d.startOf p) (Path.splitParts p.bytes) := by
  rw [locate, h]
  rfl

/-! ### Making a directory -/

/-- **A directory that has been made is new**, and the path stands for it. -/
theorem makeFolder_ok {d made : Disk} {p : Path} (h : d.makeFolder p = .ok made) :
    ∃ l, made.locate p = .ok l ∧ d.GrownBy (· = l) made := by
  rw [makeFolder] at h
  obtain ⟨⟨⟩, hcheck, h⟩ := exists_of_bind_eq_ok h
  cases hparts : (dropTrailing (Path.splitParts p.bytes)).reverse with
  | nil => rw [hparts] at h; cases h
  | cons last before =>
      obtain ⟨hnil, trailing, hsplit, htrailing⟩ := eq_of_dropTrailing hparts
      rw [hparts] at h
      obtain ⟨here, hhere, h⟩ := exists_of_bind_eq_ok h
      obtain ⟨hfolder, hspecial, hlength, hnone, rfl⟩ :
          d.isFolderAt here = true ∧ ¬ (last = [Path.dot] ∨ last = [Path.dot, Path.dot]) ∧
            ¬ maxName < last.length ∧ ¬ (d.root.at? (here ++ [last])).isSome = true ∧
            made = d.put (here ++ [last]) (.folder .empty) := by
        grind
      have hname : IsName last :=
        ⟨hnil, fun hdot => hspecial (.inl hdot), fun hup => hspecial (.inr hup), not_lt.1 hlength⟩
      have hlook : d.look (here ++ [last]) = none := by
        rwa [← isSome_look, Option.not_isSome_iff_eq_none] at hnone
      have hplace : d.isFolderAt (here ++ [last]) = false := by
        rw [← Bool.not_eq_true, isFolderAt_iff, hlook]
        nofun
      have hmade := look_put Entry.isLeaf_empty hfolder hplace
      refine ⟨here ++ [last], ?_, rfl, fun l => ?_⟩
      · have hthere :
            (d.put (here ++ [last]) (.folder .empty)).isFolderAt (here ++ [last]) = true :=
          isFolderAt_iff.2 (by rw [hmade, if_pos rfl]; rfl)
        rw [locate_of_checkPath hcheck, hsplit]
        exact (followAll_put hname Entry.isLeaf_empty hfolder hplace hhere trailing).trans
          (followAll_empty hthere htrailing)
      · rw [hmade]
        by_cases hl : l = here ++ [last]
        · rw [if_pos hl, hl]
          exact .inr ⟨hlook, rfl, rfl⟩
        · exact .inl (if_neg hl)

/-- **Making directories adds directories only**, each of them one that a path stands for in the
end. -/
theorem grownBy_makeNested (d : Disk) (paths : List Path) :
    d.GrownBy (fun l => ∃ p ∈ paths, (d.makeNested paths).1.locate p = .ok l)
      (d.makeNested paths).1 := by
  induction paths with
  | nil => exact .refl _ d
  | cons p outer ih =>
      have houter : ∀ made, d.GrownBy (fun l => ∃ q ∈ outer, made.locate q = .ok l) made →
          d.GrownBy (fun l => ∃ q ∈ p :: outer, made.locate q = .ok l) made := by
        intro made hmade
        exact hmade.mono fun l ⟨q, hq, hl⟩ => ⟨q, List.mem_cons_of_mem p hq, hl⟩
      have hp : ∀ old made : Disk, old.makeFolder p = .ok made →
          old.GrownBy (fun l => ∃ q ∈ p :: outer, made.locate q = .ok l) made := by
        intro old made hmade
        obtain ⟨l, hl, hgrown⟩ := makeFolder_ok hmade
        exact hgrown.mono fun l' h => ⟨p, List.mem_cons_self, h ▸ hl⟩
      rw [makeNested]
      split
      · next made hmade => exact hp d made hmade
      · split
        · next made e hmade =>
          rw [hmade] at ih
          exact houter made ih
        · next made hmade =>
          rw [hmade] at ih
          split
          · next made' hmade' =>
            have hp' := hp made made' hmade'
            -- What the paths stood for before the last directory was made, they still stand for.
            have hkeep : ∀ l, (∃ q ∈ p :: outer, made.locate q = .ok l) →
                ∃ q ∈ p :: outer, made'.locate q = .ok l := fun l ⟨q, hq, hl⟩ =>
              ⟨q, hq, hp'.toExtends.locate hl⟩
            exact ((houter made ih).mono hkeep).trans hp'
          · exact houter made ih
      · exact .refl _ d

theorem grownBy_makeFolders (d : Disk) (p : Path) :
    d.GrownBy (fun l => ∃ q ∈ p :: p.parents, (d.makeFolders p).1.locate q = .ok l)
      (d.makeFolders p).1 := by
  rw [makeFolders]
  split
  · exact .refl _ d
  · exact grownBy_makeNested d (p :: p.parents)

/-! ### Writing a file -/

/-- **A file that has been written is all that changes**, and the path stands for it. -/
theorem writeFile_ok {d written : Disk} {p : Path} {content : Bytes}
    (h : d.writeFile p content = .ok written) :
    ∃ target, written.locate p = .ok target ∧ d.Extends written ∧
      ∀ l, written.look l = if l = target then some (some content) else d.look l := by
  rw [writeFile] at h
  obtain ⟨⟨⟩, hcheck, h⟩ := exists_of_bind_eq_ok h
  cases hparts : (Path.splitParts p.bytes).reverse with
  | nil => rw [hparts] at h; cases h
  | cons last before =>
      have hsplit : Path.splitParts p.bytes = before.reverse ++ [last] := by
        rw [← List.reverse_cons, ← hparts, List.reverse_reverse]
      rw [hparts] at h
      obtain ⟨here, hhere, h⟩ := exists_of_bind_eq_ok h
      obtain ⟨hfolder, hspecial, hlength⟩ :
          d.isFolderAt here = true ∧
            ¬ (last = [] ∨ last = [Path.dot] ∨ last = [Path.dot, Path.dot]) ∧
            ¬ maxName < last.length := by
        grind
      rw [if_neg (by rw [hfolder]; nofun), if_neg hspecial, if_neg hlength] at h
      obtain ⟨hplace, rfl⟩ : d.isFolderAt (here ++ [last]) = false ∧
          written = d.put (here ++ [last]) (.file content) := by
        rw [isFolderAt]
        split at h
        · cases h
        · exact ⟨rfl, (Except.ok.inj h).symm⟩
      have hname : IsName last :=
        ⟨fun hnil => hspecial (.inl hnil), fun hdot => hspecial (.inr (.inl hdot)),
          fun hup => hspecial (.inr (.inr hup)), not_lt.1 hlength⟩
      have hleaf := Entry.isLeaf_file content
      refine ⟨here ++ [last], ?_, extends_put hleaf hfolder hplace,
        look_put hleaf hfolder hplace⟩
      rw [locate_of_checkPath hcheck, hsplit]
      exact followAll_put hname hleaf hfolder hplace hhere []

end Disk

end PatternBook
