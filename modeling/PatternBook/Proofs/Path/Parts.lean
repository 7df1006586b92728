import PatternBook.Disk.Basic
import PatternBook.Proofs.Path.Spelling
import PatternBook.Proofs.Text.Lines

/-!
# Parts of joined paths

What joining two paths does to their parts, to their components and to the walk along them.

* `splitParts_join`: the parts of a joined path are those of the two, but for an empty part between
  them.
* `tail_join`, `leadsHere_join`: its components.
* `Disk.walk_join`: the walk along it goes on where the walk along the first path ends.
-/

namespace PatternBook

namespace Path

/-! ### Parts -/

theorem splitParts_ne_nil (bytes : Bytes) : splitParts bytes ≠ [] := by
  cases bytes with
  | nil => exact List.cons_ne_nil [] []
  | cons b t =>
      rw [splitParts]
      split
      · exact List.cons_ne_nil [] _
      · cases splitParts t with
        | nil => exact List.cons_ne_nil [b] []
        | cons part rest => exact List.cons_ne_nil (b :: part) rest

theorem splitParts_append_cons (s t : Bytes) :
    splitParts (s ++ slash :: t) = splitParts s ++ splitParts t := by
  induction s with
  | nil => simp [splitParts]
  | cons b s ih =>
      rw [List.cons_append, splitParts, splitParts, ih]
      split
      · rfl
      · obtain ⟨part, rest, hs⟩ := List.exists_cons_of_ne_nil (splitParts_ne_nil s)
        rw [hs]
        rfl

/-- Bytes without a separator belong to the part that follows them. -/
theorem splitParts_append {name bytes part : Bytes} {rest : List Bytes} (h : slash ∉ name)
    (hbytes : splitParts bytes = part :: rest) :
    splitParts (name ++ bytes) = (name ++ part) :: rest := by
  induction name with
  | nil => exact hbytes
  | cons b name ih =>
      rw [List.cons_append, splitParts, if_neg (List.ne_of_not_mem_cons h).symm,
        ih (List.not_mem_of_not_mem_cons h)]
      rfl

theorem splitParts_of_notMem {name : Bytes} (h : slash ∉ name) : splitParts name = [name] := by
  have halone : splitParts (name ++ []) = [name ++ []] := splitParts_append h rfl
  rwa [List.append_nil] at halone

/-- What stands in a path and is no separator stands in a part of it. -/
theorem exists_mem_splitParts {b : UInt8} (hb : b ≠ slash) {bytes : Bytes} (h : b ∈ bytes) :
    ∃ part ∈ splitParts bytes, b ∈ part := by
  induction bytes with
  | nil => cases h
  | cons c t ih =>
      obtain ⟨first, rest, hs⟩ := List.exists_cons_of_ne_nil (splitParts_ne_nil t)
      rw [splitParts]
      split
      · next hc =>
        obtain ⟨part, hpart, hmem⟩ := ih ((List.mem_cons.1 h).resolve_left fun e => hb (e.trans hc))
        exact ⟨part, List.mem_cons_of_mem [] hpart, hmem⟩
      · rw [hs] at ih ⊢
        rcases List.mem_cons.1 h with rfl | h
        · exact ⟨_, List.mem_cons_self, List.mem_cons_self⟩
        · obtain ⟨part, hpart, hmem⟩ := ih h
          rcases List.mem_cons.1 hpart with rfl | hpart
          · exact ⟨_, List.mem_cons_self, List.mem_cons_of_mem c hmem⟩
          · exact ⟨part, List.mem_cons_of_mem _ hpart, hmem⟩

/-- A joined path starts with the first of the two. -/
theorem bytes_join {p q : Path} (hp : p.bytes ≠ []) (hq : q.isAbsolute = false) :
    (p.join q).bytes = p.bytes ++ q.bytes ∧ p.bytes.getLast? = some slash ∨
      (p.join q).bytes = p.bytes ++ slash :: q.bytes := by
  have hempty : p.bytes.isEmpty = false := List.isEmpty_eq_false_iff.2 hp
  rw [join, hq, hempty]
  by_cases hlast : p.bytes.getLast? = some slash
  · exact .inl ⟨by simp [hlast], hlast⟩
  · exact .inr (by simp [hlast])

/-- The parts of a joined path are those of the two, but for an empty part between them. -/
theorem splitParts_join {p q : Path} (hp : p.bytes ≠ []) (hq : q.isAbsolute = false) :
    ∃ parts, parts ≠ [] ∧
      (splitParts p.bytes = parts ∨ splitParts p.bytes = parts ++ [[]]) ∧
      splitParts (p.join q).bytes = parts ++ splitParts q.bytes := by
  rcases bytes_join hp hq with ⟨hjoin, hlast⟩ | hjoin
  · obtain ⟨s, hs⟩ := List.getLast?_eq_some_iff.1 hlast
    refine ⟨splitParts s, splitParts_ne_nil s, .inr ?_, ?_⟩
    · rw [hs, splitParts_append_cons]
      rfl
    · rw [hjoin, hs, List.append_assoc, List.singleton_append, splitParts_append_cons]
  · exact ⟨splitParts p.bytes, splitParts_ne_nil _, .inl rfl, by
      rw [hjoin, splitParts_append_cons]⟩

/-- A spelling is cut as the bytes are. -/
theorem splitParts_ofText (t : Text) :
    splitParts (ofText t).bytes = (Text.splitOn '/' t).map Utf8.encode := by
  induction t with
  | nil => rfl
  | cons c t ih =>
      have hbytes : (ofText (c :: t)).bytes = Utf8.encode [c] ++ (ofText t).bytes :=
        Utf8.encode_cons c t
      rw [hbytes, Text.splitOn]
      split
      · next h =>
        subst h
        rw [Utf8.encode_ascii (by decide), byteOf_slash, List.singleton_append, splitParts,
          if_pos rfl, ih]
        rfl
      · next h =>
        obtain ⟨piece, rest, hs⟩ := List.exists_cons_of_ne_nil (Text.splitOn_ne_nil '/' t)
        have hslash : slash ∉ Utf8.encode [c] := fun hmem =>
          h (Utf8.eq_of_byteOf_mem (by decide) hmem)
        rw [hs, List.map_cons] at ih
        rw [hs, splitParts_append hslash ih, ← Utf8.encode_append]
        rfl

/-! ### Components -/

/-- The components but one that leads. -/
def tail (p : Path) : List Component := (splitParts p.bytes).filterMap componentOf

/-- The path is spelled with a `.` in front. -/
def LeadsHere (p : Path) : Prop := (splitParts p.bytes).head? = some [dot]

instance (p : Path) : Decidable p.LeadsHere := inferInstanceAs (Decidable (_ = _))

/-- The component that leads, if one does. -/
def lead (p : Path) : List Component :=
  if p.isAbsolute then [.root] else if p.LeadsHere then [.here] else []

theorem components_eq (p : Path) : p.components = p.lead ++ p.tail := rfl

theorem here_notMem_tail (p : Path) : Component.here ∉ p.tail := by
  intro h
  obtain ⟨part, -, hpart⟩ := List.mem_filterMap.1 h
  unfold componentOf at hpart
  split at hpart
  · cases hpart
  · split at hpart <;> cases hpart

/-- The paths are the same once a leading `.` is dropped. -/
def Like (p q : Path) : Prop :=
  p.components.filter (· ≠ .here) = q.components.filter (· ≠ .here)

theorem filter_components (p : Path) :
    p.components.filter (· ≠ .here) = (if p.isAbsolute then [.root] else []) ++ p.tail := by
  have htail : p.tail.filter (· ≠ .here) = p.tail :=
    List.filter_eq_self.2 fun c hc => decide_eq_true fun h => here_notMem_tail p (h ▸ hc)
  rw [components_eq, List.filter_append, htail, lead]
  cases p.isAbsolute with
  | true => rfl
  | false => by_cases hlead : p.LeadsHere <;> simp [hlead]

theorem like_of_tail {p q : Path} (habsolute : p.isAbsolute = q.isAbsolute)
    (htail : p.tail = q.tail) : p.Like q := by
  rw [Like, filter_components, filter_components, habsolute, htail]

theorem same_of_tail {p q : Path} (habsolute : p.isAbsolute = q.isAbsolute)
    (htail : p.tail = q.tail) (hp : ¬ p.LeadsHere) (hq : ¬ q.LeadsHere) : p.Same q := by
  rw [Same, components_eq, components_eq, lead, lead, habsolute, htail, if_neg hp, if_neg hq]

section

variable {p q : Path}

theorem tail_join (hp : p.bytes ≠ []) (hq : q.isAbsolute = false) :
    (p.join q).tail = p.tail ++ q.tail := by
  obtain ⟨parts, -, hparts, hjoin⟩ := splitParts_join hp hq
  rw [tail, tail, tail, hjoin, List.filterMap_append]
  rcases hparts with h | h
  · rw [h]
  · rw [h, List.filterMap_append]
    simp [componentOf]

theorem leadsHere_join (hp : p.bytes ≠ []) (hq : q.isAbsolute = false) :
    (p.join q).LeadsHere ↔ p.LeadsHere := by
  obtain ⟨parts, hne, hparts, hjoin⟩ := splitParts_join hp hq
  obtain ⟨part, rest, rfl⟩ := List.exists_cons_of_ne_nil hne
  rcases hparts with h | h <;> rw [LeadsHere, LeadsHere, hjoin, h] <;> rfl

theorem isAbsolute_join (hp : p.bytes ≠ []) (hq : q.isAbsolute = false) :
    (p.join q).isAbsolute = p.isAbsolute := by
  obtain ⟨b, bytes, hb⟩ := List.exists_cons_of_ne_nil hp
  rcases bytes_join hp hq with ⟨hjoin, -⟩ | hjoin <;> rw [isAbsolute, isAbsolute, hjoin, hb] <;> rfl

theorem mem_bytes_join {b : UInt8} (hb : b ≠ slash) (hp : p.bytes ≠ [])
    (hq : q.isAbsolute = false) :
    b ∈ (p.join q).bytes ↔ b ∈ p.bytes ∨ b ∈ q.bytes := by
  rcases bytes_join hp hq with ⟨hjoin, -⟩ | hjoin <;> simp [hjoin, hb]

end

end Path

/-! ### Walks -/

namespace Disk

variable {d : Disk}

/-- Where the parts of a path lead, whether it may be asked about or not. -/
def walk (d : Disk) (p : Path) : Except FileError Location :=
  d.followAll (d.startOf p) (Path.splitParts p.bytes)

theorem followAll_append_eq_bind (here : Location) (parts others : List Bytes) :
    d.followAll here (parts ++ others) = d.followAll here parts >>= (d.followAll · others) := by
  induction parts generalizing here with
  | nil => rfl
  | cons part parts ih =>
      rw [List.cons_append, followAll, followAll]
      cases d.follow here part with
      | error e => rfl
      | ok next => exact ih next

theorem followAll_singleton (here : Location) (part : Bytes) :
    d.followAll here [part] = d.follow here part := by
  rw [followAll]
  cases d.follow here part <;> rfl

/-- A part that stays does not change what comes after it. -/
theorem follow_stay {part : Bytes} (h : part = [] ∨ part = [Path.dot]) (here : Location)
    (next : Bytes) : d.follow here part >>= (d.follow · next) = d.follow here next := by
  cases hfolder : d.isFolderAt here with
  | true => simp [follow, hfolder, h, bind, Except.bind]
  | false => simp [follow, hfolder, bind, Except.bind]

/-- A part that stays where it is can be left out in front of another. -/
theorem followAll_stay {part : Bytes} (h : part = [] ∨ part = [Path.dot]) (here : Location)
    {others : List Bytes} (hne : others ≠ []) :
    d.followAll here (part :: others) = d.followAll here others := by
  obtain ⟨other, rest, rfl⟩ := List.exists_cons_of_ne_nil hne
  rw [followAll]
  cases hfolder : d.isFolderAt here with
  | true => simp [follow, hfolder, h]
  | false => simp [follow, hfolder, followAll]

theorem followAll_allStay {here : Location} {parts : List Bytes} (hne : parts ≠ [])
    (h : ∀ part ∈ parts, part = [] ∨ part = [Path.dot]) :
    d.followAll here parts = d.follow here [Path.dot] := by
  have hsame : ∀ part : Bytes, part = [] ∨ part = [Path.dot] →
      d.follow here part = d.follow here [Path.dot] := fun part hpart => by
    simp [follow, hpart]
  induction parts with
  | nil => exact absurd rfl hne
  | cons part rest ih =>
      obtain ⟨hpart, hrest⟩ := List.forall_mem_cons.1 h
      by_cases hnil : rest = []
      · rw [hnil, followAll_singleton, hsame part hpart]
      · rw [followAll_stay hpart here hnil, ih hnil hrest]

/-- The walk along a joined path goes on where the walk along the first of the two ends. -/
theorem walk_join {p q : Path} (hp : p.bytes ≠ []) (hq : q.isAbsolute = false) :
    d.walk (p.join q) = d.walk p >>= (d.followAll · (Path.splitParts q.bytes)) := by
  have hstart : d.startOf (p.join q) = d.startOf p := by
    rw [startOf, startOf, Path.isAbsolute_join hp hq]
  obtain ⟨parts, -, hparts, hjoin⟩ := Path.splitParts_join hp hq
  rw [walk, walk, hstart, hjoin, ← followAll_append_eq_bind]
  rcases hparts with h | h
  · rw [h]
  · rw [h, List.append_assoc, List.singleton_append, followAll_append_eq_bind,
      followAll_append_eq_bind]
    cases d.followAll (d.startOf p) parts with
    | error e => rfl
    | ok l => exact (followAll_stay (.inl rfl) l (Path.splitParts_ne_nil _)).symm

end Disk

end PatternBook
