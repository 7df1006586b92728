import PatternBook.Proofs.Disk.Making
import PatternBook.Proofs.Glob.Beside

/-!
# The directory in front of a pattern

The name of a directory in front of a pattern is looked up part by part, and then the search goes on
in that directory.

* `Disk.followAll_filter_iff`: empty parts do not matter on the way to a directory.
* `exists_reached`: parts that lead somewhere are passed.
* `followAll_frontNames`: the parts in front of a pattern lead where the directory is.
* `exists_beside`: the directory is reached, and its path is beside the current directory of a
  search from inside.
-/

namespace PatternBook

/-! ### Empty parts -/

namespace Disk

variable {d : Disk} {here there : Location} {part : Bytes} {parts : List Bytes}

theorem isFolderAt_of_follow {next : Location} (h : d.follow here part = .ok next) :
    d.isFolderAt here = true := by
  cases hfolder : d.isFolderAt here with
  | true => rfl
  | false => rw [follow_of_not_folder hfolder] at h; cases h

/-- The way to a directory starts in a directory. -/
theorem isFolderAt_of_followAll (hthere : d.isFolderAt there = true)
    (h : d.followAll here parts = .ok there) : d.isFolderAt here = true := by
  cases parts with
  | nil => cases h; exact hthere
  | cons part rest =>
      rw [followAll] at h
      cases hnext : d.follow here part with
      | error e => rw [hnext] at h; cases h
      | ok next => exact isFolderAt_of_follow hnext

/-- Empty parts do not matter on the way to a directory. -/
theorem followAll_filter_iff (hthere : d.isFolderAt there = true) :
    d.followAll here (parts.filter (· ≠ [])) = .ok there ↔ d.followAll here parts = .ok there := by
  induction parts generalizing here with
  | nil => rfl
  | cons part rest ih =>
      by_cases hpart : part = []
      · subst hpart
        rw [List.filter_cons_of_neg (by simp), ih, followAll]
        cases hfolder : d.isFolderAt here with
        | true => simp [follow, hfolder]
        | false =>
            rw [follow_of_not_folder hfolder]
            refine iff_of_false (fun h => ?_) (fun h => by cases h)
            rw [isFolderAt_of_followAll hthere h] at hfolder
            cases hfolder
      · rw [List.filter_cons_of_pos (by simpa using hpart), followAll, followAll]
        cases d.follow here part with
        | error e => rfl
        | ok next => exact ih

/-- What a part leads to is there, but for what is outside. -/
theorem isSome_of_follow {next : Location} (h : d.follow here part = .ok next)
    (hup : part ≠ [Path.dot, Path.dot]) : (d.root.at? next).isSome = true := by
  have hfolder := isFolderAt_of_follow h
  have hhere : (d.root.at? here).isSome = true := by
    rw [← isSome_look, isFolderAt_iff.1 hfolder]
    rfl
  simp only [follow, hfolder, Bool.not_true, Bool.false_eq_true, if_false, if_neg hup] at h
  split at h
  · cases h; exact hhere
  · split at h
    · cases h
    · split at h
      · next hpart => cases h; exact hpart
      · cases h

theorem entry_of_walk {p : Path} {l : Location} (hp : p.Fits) (hzero : 0 ∉ p.bytes)
    (hwalk : d.walk p = .ok l) : d.entry? p = d.root.at? l := by
  rw [Disk.entry?, locate_of_fits hp, if_neg hzero, hwalk]

theorem isSome_folder {p : Path} {l : Location} (hp : p.Fits) (hzero : 0 ∉ p.bytes)
    (hwalk : d.walk p = .ok l) (hfolder : d.isFolderAt l = true) : (d.folder? p).isSome = true := by
  rw [folder?, entry_of_walk hp hzero hwalk]
  rw [isFolderAt] at hfolder
  split at hfolder
  · rfl
  · cases hfolder

theorem exists_of_followAll_cons (h : d.followAll here (part :: parts) = .ok there) :
    ∃ next, d.follow here part = .ok next ∧ d.followAll next parts = .ok there := by
  rw [followAll] at h
  cases hnext : d.follow here part with
  | error e => rw [hnext] at h; cases h
  | ok next => rw [hnext] at h; exact ⟨next, rfl, h⟩

end Disk

namespace Glob

open PatternBook.Path (dot slash componentOf splitParts)

/-! ### Passing parts -/

section

variable {d : Disk} {there : Location}

/-- A part that leads on is there. -/
theorem present_of_walk {p : Path} {here next : Location} {name : Text} (hp : p.Fits)
    (hzero : 0 ∉ p.bytes) (hname : '/' ∉ name) (hname' : 0 ∉ Utf8.encode name)
    (hwalk : d.walk p = .ok here) (hnext : d.follow here (Utf8.encode name) = .ok next)
    (hfits : (inside p (Utf8.encode name)).Fits) : present d p name = true := by
  have hslash : slash ∉ Utf8.encode name := fun hmem => hname ((Utf8.mem_encode (by decide)).1 hmem)
  rw [present]
  split
  · exact Disk.isSome_folder hp hzero hwalk (Disk.isFolderAt_of_follow hnext)
  · next hspecial =>
    have hup : Utf8.encode name ≠ [dot, dot] := fun h =>
      hspecial (.inr (Utf8.encode_injective (h.trans (by decide))))
    have hwalk' : d.walk (inside p (Utf8.encode name)) = .ok next := by
      rw [walk_inside d hp.1 hslash, hwalk]
      exact hnext
    have hzero' : 0 ∉ (inside p (Utf8.encode name)).bytes := by
      rw [zero_mem_inside hp.1 hslash]
      exact fun h => h.elim hzero hname'
    rw [Disk.exists?, Disk.entry_of_walk hfits hzero' hwalk']
    exact Disk.isSome_of_follow hnext hup

/-- The path that is reached from another one by names, and leads somewhere. -/
structure Reached (d : Disk) (there : Location) (p : Path) (names : List Text) (r : Path) :
    Prop where
  walk     : d.walk r = .ok there
  zero     : 0 ∉ r.bytes
  tail     : r.tail = p.tail ++ (names.map Utf8.encode).filterMap componentOf
  absolute : r.isAbsolute = p.isAbsolute
  leads    : r.LeadsHere → p.LeadsHere ∧
    (isHere p = true → ∀ name ∈ names.head?, Utf8.encode name = [dot])

/-- Parts that lead somewhere are passed, and the search goes on there. -/
theorem exists_reached (rest : List Part) (names : List Text) {p : Path} {here : Location}
    (hnames : ∀ name ∈ names, '/' ∉ name ∧ 0 ∉ Utf8.encode name) (hzero : 0 ∉ p.bytes)
    (hwalk : d.walk p = .ok here) (hthere : d.followAll here (names.map Utf8.encode) = .ok there)
    (hfits : ∀ r ∈ asked d (names.map .literal ++ rest) p, r.Fits) :
    ∃ r, Reached d there p names r ∧
      expand d (names.map .literal ++ rest) p = expand d rest r ∧ ∀ s ∈ asked d rest r, s.Fits := by
  induction names generalizing p here with
  | nil =>
      cases hthere
      exact ⟨p, ⟨hwalk, hzero, by simp, rfl, fun h => ⟨h, nofun⟩⟩, rfl, hfits⟩
  | cons name names ih =>
      obtain ⟨hname, hnames⟩ := List.forall_mem_cons.1 hnames
      obtain ⟨next, hnext, hthere⟩ := Disk.exists_of_followAll_cons hthere
      have hslash : slash ∉ Utf8.encode name := fun hmem =>
        hname.1 ((Utf8.mem_encode (by decide)).1 hmem)
      have hpfits := hfits p (mem_asked d _ p)
      rw [List.map_cons, List.cons_append, asked, List.forall_mem_cons, List.forall_mem_cons]
        at hfits
      have hpresent := present_of_walk hpfits hzero hname.1 hname.2 hwalk hnext hfits.2.1
      rw [if_pos hpresent] at hfits
      have hzero' : 0 ∉ (inside p (Utf8.encode name)).bytes := by
        rw [zero_mem_inside hpfits.1 hslash]
        exact fun h => h.elim hzero hname.2
      have hwalk' : d.walk (inside p (Utf8.encode name)) = .ok next := by
        rw [walk_inside d hpfits.1 hslash, hwalk]
        exact hnext
      obtain ⟨r, hr, hexpand, hasked⟩ := ih hnames hzero' hwalk' hthere hfits.2.2
      refine ⟨r, ⟨hr.walk, hr.zero, ?_, ?_, fun hlead => ?_⟩, ?_, hasked⟩
      · rw [hr.tail, tail_inside hpfits.1 hslash, List.append_assoc, List.map_cons]
        cases h : componentOf (Utf8.encode name) <;> simp [h]
      · rw [hr.absolute, isAbsolute_inside hpfits.1 hslash]
      · have hfirst := (hr.leads hlead).1
        refine ⟨leadsHere_of_inside hpfits.1 hslash hfirst, fun hhere => ?_⟩
        rintro _ ⟨⟩
        rw [inside, if_pos hhere, Path.LeadsHere, Path.splitParts_of_notMem hslash] at hfirst
        exact Option.some.inj hfirst
      · rw [List.map_cons, List.cons_append, expand_literal, if_pos hpresent, hexpand]

end

/-! ### The parts of a directory -/

section

variable {base name : Text}

/-- Only empty parts are cut off. -/
theorem filter_cutParts (t : Text) :
    (cutParts t).filter (· ≠ []) = (Text.splitOn '/' t).filter (· ≠ []) := by
  rw [cutParts]
  split
  · next h =>
    obtain ⟨before, hbefore⟩ := List.getLast?_eq_some_iff.1 h
    rw [hbefore, List.dropLast_concat, List.filter_append]
    simp
  · rfl

theorem filter_frontNames (base : Text) :
    (frontNames base).filter (· ≠ []) = (Text.splitOn '/' base).filter (· ≠ []) := by
  have hfront : (Text.splitOn '/' (base ++ Path.separator base)).filter (· ≠ [])
      = (Text.splitOn '/' base).filter (· ≠ []) := by
    rw [Path.separator]
    split
    · rw [List.append_nil]
    · rw [Text.splitOn_append_cons, List.filter_append]
      simp [Text.splitOn]
  rw [frontNames, filter_cutParts, ← hfront]
  split
  · next h =>
    obtain ⟨r, rfl⟩ := List.head?_eq_some_iff.1 h
    rw [List.cons_append, List.drop_succ_cons, List.drop_zero, Text.splitOn, if_pos rfl]
    simp
  · rfl

/-- The first part of a relative path is not empty. -/
theorem exists_splitOn_eq_cons (hne : base ≠ []) (hrelative : base.head? ≠ some '/') :
    ∃ first rest, Text.splitOn '/' base = first :: rest ∧ first ≠ [] := by
  obtain ⟨c, t, rfl⟩ := List.exists_cons_of_ne_nil hne
  have hc : c ≠ '/' := fun h => hrelative (congrArg some h)
  obtain ⟨piece, rest, hs⟩ := List.exists_cons_of_ne_nil (Text.splitOn_ne_nil '/' t)
  exact ⟨c :: piece, rest, by rw [Text.splitOn, if_neg hc, hs], List.cons_ne_nil c piece⟩

/-- A relative directory has the first of its parts in front. -/
theorem leadsHere_of_frontNames (hne : base ≠ []) (hrelative : base.head? ≠ some '/')
    (h : ∀ name ∈ (frontNames base).head?, Utf8.encode name = [dot]) :
    (Path.ofText base).LeadsHere := by
  obtain ⟨first, rest, hsplit, hfirst⟩ := exists_splitOn_eq_cons hne hrelative
  have hfilter := filter_frontNames base
  rw [hsplit, List.filter_cons_of_pos (by simpa using hfirst)] at hfilter
  rw [Path.LeadsHere, Path.splitParts_ofText, hsplit]
  cases hnames : frontNames base with
  | nil => rw [hnames] at hfilter; cases hfilter
  | cons name names =>
      have hname := h name (by rw [hnames]; rfl)
      have hname' : name ≠ [] := by
        rintro rfl
        cases hname
      rw [hnames, List.filter_cons_of_pos (by simpa using hname')] at hfilter
      rw [List.map_cons, List.head?_cons, ← (List.cons.inj hfilter).1, hname]

theorem filter_map_encode (ts : List Text) :
    (ts.map Utf8.encode).filter (· ≠ []) = (ts.filter (· ≠ [])).map Utf8.encode := by
  rw [List.filter_map]
  congr 1
  refine List.filter_congr fun t _ => ?_
  simp [Utf8.encode_eq_nil_iff]

/-- Empty parts do not count. -/
theorem filterMap_filter (parts : List Bytes) :
    (parts.filter (· ≠ [])).filterMap componentOf = parts.filterMap componentOf := by
  rw [List.filterMap_filter]
  refine List.filterMap_congr fun part _ => ?_
  by_cases h : part = []
  · subst h; rfl
  · simp [h]

/-- Where a search starts. -/
def startOf (base : Text) : Path := .ofText (if base.head? == some '/' then ['/'] else ['.'])

variable {d : Disk} {there : Location}

theorem startOf_eq (base : Text) :
    startOf base = .ofText "/" ∧ (Path.ofText base).isAbsolute = true ∨
      startOf base = .ofText "." ∧ (Path.ofText base).isAbsolute = false := by
  rw [startOf, ← Bool.not_eq_true, Path.isAbsolute_ofText]
  by_cases h : base.head? = some '/'
  · exact .inl ⟨by rw [if_pos (beq_iff_eq.2 h)]; rfl, h⟩
  · exact .inr ⟨by rw [if_neg (mt beq_iff_eq.1 h)]; rfl, h⟩

/-- A search starts where the parts of its directory start. -/
theorem startOf_spec (base : Text) :
    (startOf base).isAbsolute = (Path.ofText base).isAbsolute ∧ (startOf base).tail = [] ∧
      0 ∉ (startOf base).bytes ∧
      ∀ part ∈ splitParts (startOf base).bytes, part = [] ∨ part = [dot] := by
  rcases startOf_eq base with ⟨h, habsolute⟩ | ⟨h, habsolute⟩ <;> rw [h, habsolute] <;> decide

theorem walk_startOf {d : Disk} (h : d.isFolderAt (d.startOf (.ofText base)) = true) :
    d.walk (startOf base) = .ok (d.startOf (.ofText base)) := by
  obtain ⟨habsolute, -, -, hstay⟩ := startOf_spec base
  have hsame : d.startOf (startOf base) = d.startOf (.ofText base) := by
    rw [Disk.startOf, Disk.startOf, habsolute]
  rw [Disk.walk, hsame, Disk.followAll_allStay (Path.splitParts_ne_nil _) hstay]
  simp [Disk.follow, h]

/-- No part of the directory that a pattern is put behind has a slash or a zero byte in it. -/
theorem proper_frontNames (hzero : 0 ∉ (Path.ofText base).bytes) :
    ∀ name ∈ frontNames base, '/' ∉ name ∧ 0 ∉ Utf8.encode name := by
  refine fun name hname => ⟨slash_notMem_frontNames hname, fun h => ?_⟩
  have hnul : '\x00' ∈ name := (Utf8.mem_encode (by decide)).1 h
  rcases List.mem_append.1 (mem_of_mem_frontNames hname hnul) with hmem | hmem
  · exact hzero ((Utf8.mem_encode (by decide)).2 hmem)
  · rw [Path.separator] at hmem
    split at hmem <;> revert hmem <;> decide

/-- The two spellings of a directory, its path and the parts in front of a pattern, differ in empty
parts only. -/
theorem filter_encode_frontNames (base : Text) :
    ((frontNames base).map Utf8.encode).filter (· ≠ [])
      = (splitParts (Path.ofText base).bytes).filter (· ≠ []) := by
  rw [Path.splitParts_ofText, filter_map_encode, filter_map_encode, filter_frontNames]

theorem filterMap_encode_frontNames (base : Text) :
    ((frontNames base).map Utf8.encode).filterMap componentOf
      = (splitParts (Path.ofText base).bytes).filterMap componentOf := by
  rw [← filterMap_filter, filter_encode_frontNames, filterMap_filter]

/-- The parts in front of a pattern lead where the path of the directory leads. -/
theorem followAll_frontNames (hthere : d.isFolderAt there = true)
    (hwalk : d.walk (.ofText base) = .ok there) :
    d.followAll (d.startOf (.ofText base)) ((frontNames base).map Utf8.encode) = .ok there := by
  rw [← Disk.followAll_filter_iff hthere, filter_encode_frontNames,
    Disk.followAll_filter_iff hthere]
  exact hwalk

/-- What is reached by the parts of a directory leads here only where the directory does. -/
theorem Reached.leadsHere_base {r : Path} (hne : base ≠ [])
    (hr : Reached d there (startOf base) (frontNames base) r) (hlead : r.LeadsHere) :
    (Path.ofText base).LeadsHere := by
  obtain ⟨hfirst, hname⟩ := hr.leads hlead
  rcases startOf_eq base with ⟨h, -⟩ | ⟨h, hrelative⟩
  · rw [h] at hfirst
    exact absurd hfirst (by decide)
  · refine leadsHere_of_frontNames hne (fun hhead => ?_) (hname (by rw [h]; decide))
    rw [(Path.isAbsolute_ofText base).2 hhead] at hrelative
    cases hrelative

/-- What is reached by the parts of a directory is beside the directory. -/
theorem Reached.beside {r : Path} (hne : base ≠ []) (hthere : d.isFolderAt there = true)
    (hr : Reached d there (startOf base) (frontNames base) r) :
    Beside d (.ofText base) there r (.ofText ".") := by
  obtain ⟨habsolute, htail, -, -⟩ := startOf_spec base
  refine ⟨?_, iff_of_false hr.zero (by decide), ?_, hr.absolute.trans habsolute, rfl,
    hr.leadsHere_base hne⟩
  · have hhere : (d.movedTo there).walk (.ofText ".") = d.follow there [dot] :=
      Disk.followAll_singleton there [dot]
    rw [hr.walk, hhere]
    simp [Disk.follow, hthere]
  · rw [hr.tail, htail, List.nil_append, filterMap_encode_frontNames]
    exact (List.append_nil _).symm

/-- The directory is reached, and a search from inside starts beside it. -/
theorem exists_beside (hbase : d.locate (.ofText base) = .ok there)
    (hthere : d.isFolderAt there = true) (rest : List Part)
    (hfits : ∀ r ∈ asked d ((frontNames base).map .literal ++ rest) (startOf base), r.Fits) :
    ∃ r, Beside d (.ofText base) there r (.ofText ".") ∧
      expand d ((frontNames base).map .literal ++ rest) (startOf base) = expand d rest r ∧
      ∀ s ∈ asked d rest r, s.Fits := by
  obtain ⟨⟨⟩, hcheck, hwalk⟩ := exists_of_bind_eq_ok hbase
  -- a directory that is found has a name, and no zero byte in it
  have hzero : 0 ∉ (Path.ofText base).bytes := fun h => by
    rw [Disk.checkPath, if_pos h] at hcheck
    cases hcheck
  have hne : base ≠ [] := by
    rintro rfl
    cases hcheck
  have hstart : d.isFolderAt (d.startOf (.ofText base)) = true :=
    Disk.isFolderAt_of_followAll hthere hwalk
  obtain ⟨-, -, hzero', -⟩ := startOf_spec base
  obtain ⟨r, hr, hexpand, hasked⟩ := exists_reached rest (frontNames base) (proper_frontNames hzero)
    hzero' (walk_startOf hstart) (followAll_frontNames hthere hwalk) hfits
  exact ⟨r, hr.beside hne hthere, hexpand, hasked⟩

end

end Glob

end PatternBook
