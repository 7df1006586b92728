import Mathlib.Data.List.Nodup
import Mathlib.Tactic.MkIffOfInductiveProp
import PatternBook.Proofs.Record.Reading
import PatternBook.Proofs.Text.Lines

/-!
# Printed blocks

The canonical form of a comment block: its prose, its tags and its variants, each on lines of its
own behind the gutter.

* `Passage.Legible.annotate_comment`: the block of a legible passage reads as that passage, and
  nothing in it is complained about.
-/

namespace PatternBook

/-! ### Tags as a list -/

namespace Tags

theorem mem_toList {tags : Tags} {p : Tag × Text} :
    p ∈ tags.toList ↔ tags.get p.1 = some p.2 := by
  unfold toList
  refine List.mem_filterMap.trans ⟨?_, fun h => ⟨p.1, Tag.mem_all p.1, by rw [h]; rfl⟩⟩
  rintro ⟨tag, -, h⟩
  obtain ⟨value, hvalue, rfl⟩ := Option.map_eq_some_iff.1 h
  exact hvalue

/-- A tag is listed once. -/
theorem nodup_toList (tags : Tags) : (tags.toList.map Prod.fst).Nodup := by
  have h : tags.toList.map Prod.fst = Tag.all.filter fun tag => (tags.get tag).isSome := by
    rw [toList, List.map_filterMap, ← List.filterMap_eq_filter]
    refine List.filterMap_congr fun tag _ => ?_
    cases ht : tags.get tag <;> simp [ht, Option.guard]
  rw [h]
  exact List.Nodup.filter _ (by decide)

/-- After the tags of a list have been set, each of them has its value, if it has one. -/
theorem get_foldl_set (tags old : Tags) (order : List Tag) (tag : Tag) :
    ((order.filterMap fun tag => (tags.get tag).map fun value => (tag, value)).foldl
        (fun tags p => tags.set p.1 p.2) old).get tag
      = if tag ∈ order then (tags.get tag).or (old.get tag) else old.get tag := by
  induction order generalizing old with
  | nil => rfl
  | cons first order ih =>
      rw [List.filterMap_cons]
      cases hf : tags.get first with
      | none =>
          refine (ih old).trans ?_
          by_cases he : tag = first
          · subst he
            simp [hf]
          · simp [he]
      | some value =>
          refine (ih _).trans ?_
          rw [get_set]
          by_cases he : tag = first
          · subst he
            simp [hf]
          · simp [he]

/-- **Setting the listed tags one after the other** gives the tags back. -/
theorem foldl_set_toList (tags : Tags) :
    tags.toList.foldl (fun tags p => tags.set p.1 p.2) empty = tags := by
  refine ext_get fun tag => ?_
  rw [toList, get_foldl_set, if_pos (Tag.mem_all tag), get_empty, Option.or_none]

end Tags

/-! ### Entries -/

/-- A passage of a source: what its block says, and the code below it. -/
structure Passage where
  tags     : Tags
  variants : List Variant
  body     : Text
  code     : Text
  deriving DecidableEq, Repr

/-- The value of a variant's tag. -/
def Variant.value (v : Variant) : Text := v.name ++ ' ' :: v.description

namespace Passage

/-- The tags of the block with their values: the single ones, and then those of the variants. -/
def items (e : Passage) : List (Keyword × Text) :=
  e.tags.toList.map (fun p => (.single p.1, p.2)) ++
    e.variants.map fun v => (.variant v.kind, v.value)

/-- The lines of the prose; an empty one has none. -/
def bodyLines (e : Passage) : List Text :=
  if e.body.isEmpty then [] else Text.splitOn '\n' e.body

/-- The lines of the block without their gutter. -/
def lines (e : Passage) : List Text := e.bodyLines ++ e.items.map fun item => tagLine item.1 item.2

/-- The text between the delimiters of the block. -/
def comment (e : Passage) : Text := '\n' :: Text.ofLines (e.lines.map (gutter ++ ·))

end Passage

/-- The value can stand on the line of its tag. -/
@[mk_iff]
structure Tag.Prints (tag : Tag) (value : Text) : Prop where
  trimmed : Text.trim value = value
  oneLine : '\n' ∉ value
  value   : value = [] → tag.isFlag = true

/-- The variant can stand on one line. -/
@[mk_iff]
structure Variant.Prints (v : Variant) : Prop where
  name    : v.name ≠ []
  word    : ∀ c ∈ v.name, isBlank c = false
  trimmed : Text.trim v.description = v.description
  oneLine : '\n' ∉ v.description

/-- The passage has a tag or a variant, all of them can be printed, and no line of its prose looks
like a tag or ends with a blank. -/
@[mk_iff]
structure Passage.Legible (e : Passage) : Prop where
  annotated : e.tags ≠ .empty ∨ e.variants ≠ []
  tags      : ∀ p ∈ e.tags.toList, p.1.Prints p.2
  variants  : ∀ v ∈ e.variants, v.Prints
  body      : Text.trim e.body = e.body
  bodyLines : ∀ l ∈ Text.splitOn '\n' e.body, Text.trimEnd l = l ∧ ¬ IsTagLine l

/-- The variant can be read: its name is a word, and without a name there is no description. -/
structure Variant.Normal (v : Variant) : Prop where
  word    : ∀ c ∈ v.name, isBlank c = false
  trimmed : Text.trim v.description = v.description
  oneLine : '\n' ∉ v.description
  bare    : v.name = [] → v.description = []

/-- The passage can be read: all of its parts are trimmed and on lines of their own, and no line of
its prose looks like a tag or ends with a blank.  Unlike a legible passage it may have tags without
a value, or no tag. -/
structure Passage.Normal (e : Passage) : Prop where
  tags      : ∀ p ∈ e.tags.toList, Text.trim p.2 = p.2 ∧ '\n' ∉ p.2
  variants  : ∀ v ∈ e.variants, v.Normal
  body      : Text.trim e.body = e.body
  bodyLines : ∀ l ∈ Text.splitOn '\n' e.body, Text.trimEnd l = l ∧ ¬ IsTagLine l

theorem Variant.Prints.normal {v : Variant} (h : v.Prints) : v.Normal where
  word := h.word
  trimmed := h.trimmed
  oneLine := h.oneLine
  bare hname := absurd hname h.name

theorem Passage.Legible.normal {e : Passage} (h : e.Legible) : e.Normal where
  tags p hp := ⟨(h.tags p hp).trimmed, (h.tags p hp).oneLine⟩
  variants v hv := (h.variants v hv).normal
  body := h.body
  bodyLines := h.bodyLines

instance (tag : Tag) (value : Text) : Decidable (tag.Prints value) :=
  decidable_of_iff' _ (tag.prints_iff value)

instance (v : Variant) : Decidable v.Prints :=
  have := List.decidableBAll (fun c => isBlank c = false) v.name
  decidable_of_iff' _ v.prints_iff

instance (e : Passage) : Decidable e.Legible := decidable_of_iff' _ e.legible_iff

/-! ### Variants -/

/-- A variant with a name is trimmed to that name and what follows it. -/
theorem Variant.Normal.trim_value {v : Variant} (h : v.Normal) (hname : v.name ≠ []) :
    ∃ rest, Text.trim v.value = v.name ++ rest ∧ (∀ c ∈ rest.head?, isBlank c = true) ∧
      Text.trim rest = v.description := by
  have hend : Text.trimEnd v.name = v.name :=
    Text.trimEnd_eq_self fun c hc => h.word c (List.mem_of_getLast? hc)
  have hstart : Text.trimStart v.value = v.value := by
    refine Text.trimStart_eq_self fun c hc => h.word c ?_
    obtain ⟨d, name, hcons⟩ := List.exists_cons_of_ne_nil hname
    rw [value, hcons] at hc
    obtain rfl := Option.some.inj hc
    exact hcons ▸ List.mem_cons_self
  obtain ⟨rest, hrest, hblank, htrim⟩ := trimEnd_word hend v.description
  refine ⟨rest, ?_, fun c hc => Text.isBlank_of_isSpaceOrTab (hblank c hc), ?_⟩
  · rw [Text.trim, hstart, value, hrest]
  · rw [htrim, h.trimmed]

/-- A variant without a name has nothing to print. -/
theorem Variant.Normal.trim_value_eq_nil_iff {v : Variant} (h : v.Normal) :
    Text.trim v.value = [] ↔ v.name = [] := by
  constructor
  · intro hnil
    by_contra hname
    obtain ⟨rest, hvalue, -⟩ := h.trim_value hname
    rw [hvalue] at hnil
    exact hname (List.append_eq_nil_iff.1 hnil).1
  · intro hname
    rw [value, hname, h.bare hname]
    rfl

/-- A printed variant is read back. -/
theorem Variant.Normal.ofValue_value {v : Variant} (h : v.Normal) :
    Variant.ofValue v.kind (Text.trim v.value) = v := by
  by_cases hempty : v.name = []
  · obtain ⟨kind, name, description⟩ := v
    obtain rfl : name = [] := hempty
    obtain rfl : description = [] := h.bare rfl
    rfl
  · obtain ⟨rest, hvalue, hblank, htrim⟩ := h.trim_value hempty
    have hname : ∀ c ∈ v.name, (!isBlank c) = true := fun c hc => by rw [h.word c hc]; rfl
    have hstop : ∀ c ∈ rest.head?, (!isBlank c) = false := fun c hc => by rw [hblank c hc]; rfl
    rw [ofValue, hvalue, Text.takeWhile_append_of_stop hname hstop,
      Text.dropWhile_append_of_stop hname hstop, htrim]

/-! ### The block of a passage -/

namespace Passage

/-- The tags of the block with the values that are read. -/
def statements (e : Passage) : List (Keyword × Text) :=
  e.tags.toList.map (fun p => (.single p.1, p.2)) ++
    e.variants.map fun v => (.variant v.kind, Text.trim v.value)

theorem tags_stateAll (e : Passage) {d : Draft} (hd : d.tags = .empty) :
    (d.stateAll e.statements).tags = e.tags := by
  rw [statements, Draft.stateAll_append, Draft.tags_stateAll_variants,
    Draft.tags_stateAll_singles, hd, Tags.foldl_set_toList]

/-- A passage with a tag or a variant has something to say. -/
theorem statements_ne_nil {e : Passage} (h : e.tags ≠ .empty ∨ e.variants ≠ []) :
    e.statements ≠ [] := by
  intro hnil
  obtain ⟨htags, hvariants⟩ := List.append_eq_nil_iff.1 hnil
  rcases h with h | h
  · refine h (Tags.ext_get fun tag => ?_)
    rw [Tags.get_empty]
    refine Option.eq_none_iff_forall_ne_some.2 fun value hv => ?_
    have hm := Tags.mem_toList (p := (tag, value)).2 hv
    rw [List.map_eq_nil_iff.1 htags] at hm
    cases hm
  · exact h (List.map_eq_nil_iff.1 hvariants)

/-- The lines of the prose are put together again. -/
theorem joinWith_bodyLines (e : Passage) : Text.joinWith "\n" e.bodyLines = e.body := by
  unfold Passage.bodyLines
  split
  · next he => rw [List.isEmpty_iff.1 he]; rfl
  · exact Text.joinWith_splitOn '\n' e.body

section Normal

variable {e : Passage} (h : e.Normal)
include h

theorem Normal.statements_eq :
    e.items.map (fun item => (item.1, Text.trim item.2)) = e.statements := by
  rw [items, List.map_append, List.map_map, List.map_map, statements]
  refine congrArg (· ++ _) (List.map_congr_left fun p hp => ?_)
  exact congrArg (Prod.mk _) (h.tags p hp).1

theorem Normal.variants_stateAll {d : Draft} (hd : d.variants = []) :
    (d.stateAll e.statements).variants = e.variants := by
  rw [statements, Draft.stateAll_append,
    Draft.variants_stateAll_variants _ fun v hv => (h.variants v hv).ofValue_value,
    Draft.variants_stateAll_singles, hd, List.nil_append]

theorem Normal.bodyLine {l : Text} (hl : l ∈ e.bodyLines) :
    Text.trimEnd l = l ∧ ¬ IsTagLine l ∧ '\n' ∉ l := by
  unfold Passage.bodyLines at hl
  split at hl
  · cases hl
  · obtain ⟨hend, htag⟩ := h.bodyLines l hl
    exact ⟨hend, htag, Text.notMem_of_mem_splitOn hl⟩

/-- Each line of the block is one line. -/
theorem Normal.notMem_of_mem_lines {l : Text} (hl : l ∈ e.lines) : '\n' ∉ l := by
  have hname : ∀ k : Keyword, '\n' ∉ k.name :=
    Keyword.forall_name (P := ('\n' ∉ ·)) (by decide)
  have htag : ∀ (k : Keyword) (value : Text), '\n' ∉ value → '\n' ∉ tagLine k value := by
    intro k value hv
    simp only [tagLine, List.mem_cons, List.mem_append, not_or]
    exact ⟨by decide, hname k, by decide, hv⟩
  rcases List.mem_append.1 hl with hl | hl
  · exact (h.bodyLine hl).2.2
  · obtain ⟨item, hitem, rfl⟩ := List.mem_map.1 hl
    refine htag item.1 item.2 ?_
    rcases List.mem_append.1 hitem with hitem | hitem
    · obtain ⟨p, hp, rfl⟩ := List.mem_map.1 hitem
      exact (h.tags p hp).2
    · obtain ⟨v, hv, rfl⟩ := List.mem_map.1 hitem
      simp only [Variant.value, List.mem_append, List.mem_cons, not_or]
      refine ⟨fun hn => ?_, by decide, (h.variants v hv).oneLine⟩
      exact absurd ((h.variants v hv).word '\n' hn) (by decide)

theorem Normal.map_trimEnd_bodyLines : e.bodyLines.map Text.trimEnd = e.bodyLines :=
  (List.map_congr_left fun _ hl => (h.bodyLine hl).1).trans (List.map_id' _)

/-- The prose is read line by line, and so is what is empty around it. -/
theorem Normal.readLines_prose {ls : List Text} (hls : ls.map dropGutter ⊆ [] :: e.bodyLines)
    (n : Nat) : ({} : Draft).readLines n ls = { body := ls.map dropGutter } := by
  refine Draft.readLines_body rfl (fun l hl => ?_) n
  rcases List.mem_cons.1 (hls (List.mem_map_of_mem hl)) with he | hm
  · rw [he]
    rintro ⟨k, rest, hline, -⟩
    cases hline
  · exact (h.bodyLine hm).2.1

/-- **A block whose tags state a normal passage** reads as that passage, if there is something that
makes it a record. -/
theorem Normal.annotate_of_stateAll {policy : UntaggedPolicy} {n : Nat} {text : Text}
    {body : List Text} {ds : List Diagnostic}
    (hcontent : (e.tags ≠ .empty ∨ e.variants ≠ []) ∨ policy = .keep ∧ e.body ≠ [])
    (hbody : Text.trim (Text.joinWith "\n" body) = e.body)
    (hread : (Draft.readLines {} n (Text.lines text)).close
      = { ({ body := body } : Draft).stateAll e.statements with diagnostics := ds }) :
    annotate policy n text
      = { record? := some { tags := e.tags, variants := e.variants, body := e.body }
          diagnostics := ds } := by
  have hrecord : ((({ body := body } : Draft).stateAll e.statements).recognized ||
      (policy = .keep && !e.body.isEmpty)) = true := by
    rw [Draft.recognized_stateAll]
    rcases hcontent with hsome | ⟨rfl, hne⟩
    · rw [List.isEmpty_eq_false_iff.2 (statements_ne_nil hsome)]
      rfl
    · rw [List.isEmpty_eq_false_iff.2 hne]
      simp
  simp only [annotate, hread, Draft.body_stateAll, hbody, if_pos hrecord,
    e.tags_stateAll (d := { body := body }) rfl, h.variants_stateAll (d := { body := body }) rfl]

end Normal

section Legible

variable {e : Passage} (h : e.Legible)
include h

/-- No line of the block is complained about. -/
theorem Legible.takesAll {d : Draft} (hd : d.tags = .empty) : d.TakesAll e.statements := by
  refine Draft.takesAll_append.2 ⟨Draft.takesAll_singles e.tags.nodup_toList ?_ ?_,
    Draft.takesAll_variants fun v hv => ?_⟩
  · intro p _
    rw [hd, Tags.get_empty]
  · exact fun p hp => (h.tags p hp).value
  · exact fun hnil =>
      (h.variants v hv).name ((h.normal.variants v hv).trim_value_eq_nil_iff.1 hnil)

/-- The lines of the printed block: the rest of the opener's line, the prose and the tags. -/
theorem Legible.lines_comment :
    Text.lines e.comment
      = ([] :: e.bodyLines.map (gutter ++ ·)).map Text.dropReturn ++
          e.items.map fun item => Text.dropReturn (gutter ++ tagLine item.1 item.2) := by
  have hc : e.comment = Text.ofLines ([] :: e.lines.map (gutter ++ ·)) := rfl
  rw [hc, Text.lines_ofLines, Passage.lines, List.map_append, ← List.cons_append, List.map_append,
    List.map_map, List.map_map]
  · rfl
  · intro l hl
    rcases List.mem_cons.1 hl with rfl | hl
    · exact List.not_mem_nil
    · obtain ⟨line, hline, rfl⟩ := List.mem_map.1 hl
      rw [List.mem_append, not_or]
      exact ⟨by decide, h.normal.notMem_of_mem_lines hline⟩

/-- The prose is read line by line. -/
theorem Legible.readLines_bodyLines (n : Nat) :
    ({} : Draft).readLines n (([] :: e.bodyLines.map (gutter ++ ·)).map Text.dropReturn)
      = { body := [] :: e.bodyLines } := by
  have hdrop : (([] :: e.bodyLines.map (gutter ++ ·)).map Text.dropReturn).map dropGutter
      = [] :: e.bodyLines := by
    rw [List.map_map, List.map_cons, List.map_map]
    exact congrArg (List.cons []) ((List.map_congr_left fun l _ => dropGutter_dropReturn l).trans
      h.normal.map_trimEnd_bodyLines)
  rw [h.normal.readLines_prose (hdrop ▸ List.Subset.refl _), hdrop]

/-- The prose is put together again. -/
theorem Legible.trim_body : Text.trim (Text.joinWith "\n" ([] :: e.bodyLines)) = e.body := by
  have hjoin := e.joinWith_bodyLines
  cases hlines : e.bodyLines with
  | nil =>
      rw [hlines] at hjoin
      exact hjoin
  | cons l ls =>
      rw [Text.joinWith_cons (List.cons_ne_nil l ls), ← hlines, hjoin]
      exact h.body

end Legible

/-- **The block of a legible passage reads as that passage.** -/
theorem Legible.annotate_comment {e : Passage} (h : e.Legible) (policy : UntaggedPolicy) (n : Nat) :
    annotate policy n e.comment
      = { record? := some { tags := e.tags, variants := e.variants, body := e.body }
          diagnostics := [] } := by
  let d : Draft := { body := [] :: e.bodyLines }
  have hread : (Draft.readLines {} n (Text.lines e.comment)).close = d.stateAll e.statements := by
    rw [h.lines_comment, Draft.readLines_append, h.readLines_bodyLines, ← h.normal.statements_eq]
    refine Draft.close_readLines_tagLines ?_ _
    rw [h.normal.statements_eq]
    exact h.takesAll rfl
  have hnothing : (d.stateAll e.statements).diagnostics = [] := Draft.diagnostics_stateAll d _
  refine h.normal.annotate_of_stateAll (.inl h.annotated) h.trim_body (hread.trans ?_)
  exact congrArg (fun ds => { d.stateAll e.statements with diagnostics := ds }) hnothing

end Passage

end PatternBook
