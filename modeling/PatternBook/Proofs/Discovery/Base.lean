import PatternBook.Discovery
import PatternBook.Proofs.Glob.Front

/-!
# Patterns looked up from a directory

A pattern is looked up from a directory by putting the name of the directory in front of it, and the
whole is read as one pattern.  So the name must not say anything of its own.

* `onDisk_beside`: looked up from a directory with a plain name, a pattern stands for what it stands
  for inside that directory.
* `exists_lost_file`: a directory with brackets in its name loses its files.
-/

namespace PatternBook.Discovery

open Glob (asked)

/-- The paths that the disk is asked about when a pattern is expanded. -/
def consulted (d : Disk) (base : Option Path) (pattern : Text) : List Path :=
  if !Glob.isGlob pattern then []
  else
    match Glob.Pattern.ofText (resolve base pattern).toText with
    | .error _ => []
    | .ok p => asked d p.parts (.ofText (if p.absolute then ['/'] else ['.']))

/-- The path is that of another one looked up from a directory, but for a `.` in front of the
directory. -/
def LookedUpFrom (base p q : Path) : Prop :=
  p.Like (base.join q) ∧ (¬ base.LeadsHere → p.Same (base.join q))

theorem lookedUpFrom_of_beside {d : Disk} {base : Path} {there : Location} {p q : Path}
    (hbase : base.bytes ≠ []) (h : Glob.Beside d base there p q) : LookedUpFrom base p q := by
  have habsolute : p.isAbsolute = (base.join q).isAbsolute := by
    rw [h.absolute, Path.isAbsolute_join hbase h.relative]
  have htail : p.tail = (base.join q).tail := by rw [h.tail, Path.tail_join hbase h.relative]
  refine ⟨Path.like_of_tail habsolute htail, fun hlead => ?_⟩
  exact Path.same_of_tail habsolute htail (fun hp => hlead (h.leads hp)) fun hjoin =>
    hlead ((Path.leadsHere_join hbase h.relative).1 hjoin)

section

variable {d : Disk} {base pattern : Text} {there : Location}

theorem base_ne_nil (hbase : d.locate (.ofText base) = .ok there) : base ≠ [] := by
  rintro rfl
  obtain ⟨⟨⟩, hcheck, -⟩ := exists_of_bind_eq_ok hbase
  cases hcheck

/-- What a pattern without wildcards stands for is looked up from the directory. -/
theorem onDisk_plain (hpattern : Glob.isGlob pattern = false) (base : Option Path) :
    onDisk d base pattern = .ok [resolve base pattern] := by
  rw [onDisk, hpattern]
  rfl

/-- The files that the parts of a pattern lead to, from outside and from inside. -/
theorem search_beside (hproper : d.root.Proper) (hbase : d.locate (.ofText base) = .ok there)
    (hthere : d.isFolderAt there = true) {p : Glob.Pattern} (hnamed : Glob.Named p.parts)
    (hrelative : p.absolute = false)
    (houter : ∀ r ∈ asked d ((Glob.frontNames base).map .literal ++ p.parts) (Glob.startOf base),
      r.Fits)
    (hinner : ∀ r ∈ asked (d.movedTo there) p.parts (.ofText "."), r.Fits) :
    List.Forall₂ (Glob.Results d (.ofText base) there)
      ((Glob.search d ⟨base.head? == some '/', (Glob.frontNames base).map .literal ++ p.parts,
        p.foldersOnly⟩).filter d.isFile)
      ((Glob.search (d.movedTo there) p).filter (d.movedTo there).isFile) := by
  obtain ⟨r, hr, hexpand, hrest⟩ := Glob.exists_beside hbase hthere p.parts houter
  have hfound := Glob.expand_beside hproper p.parts hnamed hr hrest hinner
  have hstart : (Path.ofText (if p.absolute then ['/'] else ['.'])) = .ofText "." := by
    rw [hrelative]
    rfl
  have hfolder : ∀ p q, Glob.Results d (.ofText base) there p q →
      ((d.folder? p).isSome ↔ ((d.movedTo there).folder? q).isSome) := fun p q h => by
    rw [h.1.folder_eq h.2.1 h.2.2]
  have hfile : ∀ p q, Glob.Results d (.ofText base) there p q →
      (d.isFile p ↔ (d.movedTo there).isFile q) := fun p q h => by
    rw [Disk.isFile, Disk.isFile, h.1.entry_eq h.2.1 h.2.2]
  rw [← hexpand] at hfound
  refine List.rel_filter hfile ?_
  rw [Glob.search, Glob.search, hstart]
  split
  · exact List.rel_filter hfolder hfound
  · exact hfound

/-- **A pattern looked up from a directory with a plain name stands for what it stands for inside
that directory**: it has the same mistake, or else it leads to the same files in the same order,
each spelled as looked up from the directory; as long as the disk is asked about no path that is
empty or too long. -/
theorem onDisk_beside (hproper : d.root.Proper) (hbase : d.locate (.ofText base) = .ok there)
    (hthere : d.isFolderAt there = true) (hplain : Glob.isGlob base = false)
    (hrelative : pattern.head? ≠ some '/')
    (houter : ∀ p ∈ consulted d (some (.ofText base)) pattern, p.Fits)
    (hinner : ∀ p ∈ consulted (d.movedTo there) none pattern, p.Fits) :
    (∀ e, onDisk d (some (.ofText base)) pattern = .error e ↔
      onDisk (d.movedTo there) none pattern = .error e) ∧
    ∀ ps qs, onDisk d (some (.ofText base)) pattern = .ok ps →
      onDisk (d.movedTo there) none pattern = .ok qs →
      List.Forall₂ (LookedUpFrom (.ofText base)) ps qs := by
  have hne := base_ne_nil hbase
  cases hglob : Glob.isGlob pattern with
  | false =>
      rw [onDisk_plain hglob, onDisk_plain hglob]
      refine ⟨fun e => by simp, fun ps qs hps hqs => ?_⟩
      cases hps
      cases hqs
      exact .cons ⟨rfl, fun _ => .refl _⟩ .nil
  | true =>
      have hpattern : pattern ≠ [] := by
        rintro rfl
        cases hglob
      -- from outside one pattern is read, with the name of the directory in front of it
      have houtside : (resolve (some (.ofText base)) pattern).toText
          = base ++ Path.separator base ++ pattern := by
        rw [resolve, Path.join_ofText hne hrelative, Path.toText_ofText]
      have hinside : (resolve none pattern).toText = pattern := Path.toText_ofText pattern
      have hread := Glob.Pattern.ofText_behind hne hplain hpattern hrelative
      simp only [consulted, onDisk, hglob, houtside, hinside, hread] at houter hinner ⊢
      cases hp : Glob.Pattern.ofText pattern with
      | error m => simp [Except.map]
      | ok p =>
          obtain ⟨habsolute, hnamed⟩ := Glob.Pattern.spec hp
          have hrel : p.absolute = false := by simpa [habsolute] using hrelative
          rw [hp] at houter hinner
          simp only [Except.map, Bool.not_true, Bool.false_eq_true, if_false, hrel]
            at houter hinner ⊢
          refine ⟨fun e => by simp, fun ps qs hps hqs => ?_⟩
          cases hps
          cases hqs
          have hbytes : (Path.ofText base).bytes ≠ [] := fun h => hne (Utf8.encode_eq_nil_iff.1 h)
          refine (search_beside hproper hbase hthere hnamed hrel houter hinner).imp ?_
          exact fun p q h => lookedUpFrom_of_beside hbytes h.1

end

/-- A disk with one directory, and in it two stylesheets, one of them in a directory of its own. -/
def shelf (name : Text) : Disk where
  root := .folder (Utf8.encode name)
    (.file (Utf8.encode "a.css") []
      (.folder (Utf8.encode "b") (.file (Utf8.encode "c.css") [] .empty) .empty)) .empty
  current := []

theorem onDisk_beside_shelf :
    (shelf "site").root.Proper ∧
      (shelf "site").locate (.ofText "site") = .ok [Utf8.encode "site"] ∧
      (shelf "site").isFolderAt [Utf8.encode "site"] = true ∧ Glob.isGlob "site" = false ∧
      List.head? ("**/*.css" : Text) ≠ some '/' ∧
      (∀ p ∈ consulted (shelf "site") (some (.ofText "site")) "**/*.css", p.Fits) ∧
      (∀ p ∈ consulted ((shelf "site").movedTo [Utf8.encode "site"]) none "**/*.css", p.Fits) ∧
      List.Forall₂ (LookedUpFrom (.ofText "site")) [.ofText "site/a.css", .ofText "site/b/c.css"]
        [.ofText "a.css", .ofText "b/c.css"] := by
  have hproper : (shelf "site").root.Proper := by decide
  have hbase : (shelf "site").locate (.ofText "site") = .ok [Utf8.encode "site"] := by decide
  have hthere : (shelf "site").isFolderAt [Utf8.encode "site"] = true := by decide
  have hplain : Glob.isGlob "site" = false := by decide
  have hrelative : List.head? ("**/*.css" : Text) ≠ some '/' := by decide
  have houter : ∀ p ∈ consulted (shelf "site") (some (.ofText "site")) "**/*.css", p.Fits := by
    decide +kernel
  have hinner : ∀ p ∈ consulted ((shelf "site").movedTo [Utf8.encode "site"]) none "**/*.css",
      p.Fits := by
    decide +kernel
  exact ⟨hproper, hbase, hthere, hplain, hrelative, houter, hinner,
    (onDisk_beside hproper hbase hthere hplain hrelative houter hinner).2 _ _ (by decide +kernel)
      (by decide +kernel)⟩

/-- A directory with brackets in its name: what is in it is found from inside only, because from
outside the brackets are read as a class. -/
theorem exists_lost_file :
    (shelf "x[1]").root.Proper ∧
      (shelf "x[1]").locate (.ofText "x[1]") = .ok [Utf8.encode "x[1]"] ∧
      (shelf "x[1]").isFolderAt [Utf8.encode "x[1]"] = true ∧
      onDisk (shelf "x[1]") (some (.ofText "x[1]")) "*.css" = .ok [] ∧
      onDisk ((shelf "x[1]").movedTo [Utf8.encode "x[1]"]) none "*.css" =
        .ok [.ofText "a.css"] := by
  refine ⟨by decide, by decide, by decide, ?_, ?_⟩ <;> decide +kernel

end PatternBook.Discovery
