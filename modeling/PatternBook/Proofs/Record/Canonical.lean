import PatternBook.Proofs.Record.Meaning
import PatternBook.Proofs.Record.Printer
import PatternBook.Proofs.Text.Returns
import PatternBook.Proofs.Text.Trimmed

/-!
# The canonical form of a block

What a block says can be written down again, its prose, its tags and its variants each on lines of
their own, and the new block says the same.  That is because reading leaves only what can be
written: values are trimmed and on one line, names are words, and no line of the prose looks like a
tag of the vocabulary.

* `Passage.canonical`: the lines of a passage behind gutters.
* `Passage.normal_of_annotate`: what reading leaves is normal.
* `Passage.Normal.annotate_eq`: how the lines of a normal passage are read.
* `annotate_canonical`: writing down what a block says and reading it again changes nothing.
-/

namespace PatternBook

/-! ### The canonical form -/

namespace Passage

/-- The block of a passage without anything around its lines. -/
def canonical (e : Passage) : Text := Text.joinWith "\n" (e.lines.map (gutter ++ ·))

/-- The tags and variants of a passage, each with what it must not lack: its value or its name. -/
def demands (e : Passage) : List (Keyword × Text) :=
  e.tags.toList.map (fun p => (.single p.1, p.2)) ++
    e.variants.map fun v => (.variant v.kind, v.name)

/-- What is wrong with a passage that is written down from a line on: some tags have no value, and
some variants have no name. -/
def complaints (e : Passage) (firstLine : Nat) : List Diagnostic :=
  (e.demands.zipIdx (firstLine + e.bodyLines.length)).filterMap fun (demand, line) =>
    if demand.2 = [] ∧ demand.1.needsValue then some (Diagnostic.emptyTag demand.1 line) else none

end Passage

/-- What the block of a record says. -/
def Record.passage (r : Record) : Passage := ⟨r.tags, r.variants, r.body, r.code⟩

/-! ### What lines are left with -/

theorem dropGutter_subset (line : Text) : dropGutter line ⊆ line := by
  have hstart : Text.trimStart line ⊆ line := (List.dropWhile_sublist _).subset
  have hend (t : Text) : Text.trimEnd t ⊆ t := (Text.trimEnd_isPrefix t).subset
  intro c hc
  refine hstart ?_
  unfold dropGutter at hc
  split at hc
  · next rest h => exact h ▸ List.mem_cons_of_mem _ (List.mem_cons_of_mem _ (hend _ hc))
  · next rest h => exact h ▸ List.mem_cons_of_mem _ (hend _ hc)
  · exact hend _ hc

theorem trimEnd_dropGutter (line : Text) : Text.trimEnd (dropGutter line) = dropGutter line := by
  unfold dropGutter
  split <;> exact Text.trimEnd_trimEnd _

/-- The lines of a block are lines, and no blank stands at their ends. -/
theorem of_mem_numberedLines {n : Nat} {text : Text} {l : Text × Nat}
    (h : l ∈ numberedLines n text) : Text.trimEnd l.1 = l.1 ∧ '\n' ∉ l.1 := by
  obtain ⟨line, hline, hl⟩ := List.mem_map.1 (List.fst_mem_of_mem_zipIdx h)
  obtain ⟨k, hk⟩ := List.mem_iff_getElem?.1 hline
  obtain ⟨_, _, -, -, hnewline⟩ := Text.eq_append_of_lines hk
  rw [← hl]
  exact ⟨trimEnd_dropGutter line, fun hn => hnewline (dropGutter_subset line hn)⟩

theorem markText_subset (line : Text) : markText line ⊆ line :=
  ((List.dropWhile_sublist _).trans
    ((List.tail_sublist _).trans (List.dropWhile_sublist _))).subset

/-- A line with a tag of the vocabulary is marked with the word for it. -/
theorem IsTagLine.ofName_markName {line : Text} (h : IsTagLine line) :
    IsMarked line ∧ Keyword.ofName (markName line) ≠ none := by
  obtain ⟨k, rest, hline, hrest⟩ := h
  refine ⟨⟨k.name, rest, hline, k.isTagName_name, hrest⟩, ?_⟩
  rw [(mark_eq hline k.isTagName_name hrest).1, Keyword.ofName_name]
  nofun

/-- The line can stand in the prose of a block. -/
def IsProse (line : Text) : Prop := Text.trimEnd line = line ∧ ¬ IsTagLine line

theorem isProse_nil : IsProse [] :=
  ⟨rfl, by decide⟩

/-- Blanks at the start of a line do not make it a tag. -/
theorem isProse_of_cons {c : Char} {t : Text} (hc : isBlank c = true) (h : IsProse (c :: t)) :
    IsProse t := by
  obtain ⟨hend, htag⟩ := h
  constructor
  · have happend := Text.trimEnd_append [c] t
    rw [List.singleton_append, hend] at happend
    split at happend
    · have hblank : Text.trimEnd [c] = [] :=
        Text.trimEnd_append_of_blank (List.forall_mem_singleton.2 hc) []
      rw [hblank] at happend
      cases happend
    · exact (List.cons.inj happend).2.symm
  · rintro ⟨k, rest, hline, hrest⟩
    refine htag ⟨k, rest, ?_, hrest⟩
    rw [← hline]
    exact List.dropWhile_cons_of_pos hc

/-! ### What stanzas are left with -/

section

variable {n : Nat} {text : Text} {c : Cut}

theorem Cut.Of.line (h : c.Of (numberedLines n text)) {l : Text × Nat}
    (hl : l ∈ c.front ++ c.stanzas.flatMap Stanza.lines) :
    Text.trimEnd l.1 = l.1 ∧ '\n' ∉ l.1 := by
  rw [h.lines] at hl
  exact of_mem_numberedLines hl

/-- A value is trimmed and on one line. -/
theorem Cut.Of.value (h : c.Of (numberedLines n text)) {o : Occurrence} (ho : o ∈ c.occurrences) :
    Text.trim o.value = o.value ∧ '\n' ∉ o.value := by
  obtain ⟨s, hs, hso⟩ := List.mem_filterMap.1 ho
  obtain ⟨k, -, rfl⟩ := Option.map_eq_some_iff.1 hso
  have hlines : ∀ l ∈ s.lines, '\n' ∉ l.1 := fun l hl =>
    (h.line (List.mem_append_right _ (List.mem_flatMap.2 ⟨s, hs, hl⟩))).2
  constructor
  · refine Text.trim_eq_self_iff.2 (Text.IsTrimmed.joinWith fun t ht => ?_)
    obtain ⟨ht, hne⟩ := List.mem_filter.1 ht
    obtain ⟨u, -, rfl⟩ := List.mem_map.1 ht
    exact ⟨by simpa using hne, Text.isTrimmed_trim u⟩
  · intro hn
    rcases Text.mem_of_mem_joinWith hn with hn | ⟨t, ht, hn⟩
    · revert hn
      decide
    · obtain ⟨u, hu, rfl⟩ := List.mem_map.1 (List.mem_filter.1 ht).1
      have hn := Text.trim_subset u hn
      rcases List.mem_cons.1 hu with rfl | hu
      · exact hlines s.mark List.mem_cons_self (markText_subset s.mark.1 hn)
      · obtain ⟨l, hl, rfl⟩ := List.mem_map.1 hu
        exact hlines l (List.mem_cons_of_mem _ hl) hn

/-- What no occurrence owns is prose. -/
theorem Cut.Of.prose (h : c.Of (numberedLines n text)) {line : Text} (hline : line ∈ c.prose) :
    IsProse line ∧ '\n' ∉ line := by
  rcases List.mem_append.1 hline with hfront | hstanza
  · obtain ⟨l, hl, rfl⟩ := List.mem_map.1 hfront
    obtain ⟨hend, hnewline⟩ := h.line (List.mem_append_left _ hl)
    exact ⟨⟨hend, fun htag => h.front l hl htag.ofName_markName.1⟩, hnewline⟩
  · obtain ⟨s, hs, hown⟩ := List.mem_flatMap.1 hstanza
    rw [Stanza.prose] at hown
    split at hown
    · cases hown
    · next hnone =>
      obtain ⟨l, hl, rfl⟩ := List.mem_map.1 hown
      obtain ⟨hend, hnewline⟩ :=
        h.line (List.mem_append_right _ (List.mem_flatMap.2 ⟨s, hs, hl⟩))
      refine ⟨⟨hend, fun htag => ?_⟩, hnewline⟩
      rcases List.mem_cons.1 hl with rfl | hl
      · refine htag.ofName_markName.2 ?_
        simpa [Stanza.occurrence?] using hnone
      · exact h.owned s hs l hl htag.ofName_markName.1

/-- The lines of the body are prose. -/
theorem Cut.Of.body (h : c.Of (numberedLines n text)) :
    ∀ l ∈ Text.splitOn '\n' c.body, IsProse l := by
  refine Text.forall_splitOn_trim (fun _ _ => isProse_of_cons) (fun _ ht => ht.1) ?_
  cases hprose : c.prose with
  | nil => exact List.forall_mem_singleton.2 isProse_nil
  | cons l ls =>
      have hsplit : Text.splitOn '\n' (Text.joinWith "\n" (l :: ls)) = l :: ls :=
        Text.splitOn_joinWith (List.cons_ne_nil l ls) fun t ht => (h.prose (hprose ▸ ht)).2
      rw [hsplit, ← hprose]
      exact fun t ht => (h.prose ht).1

/-- A variant that is read from a value is normal. -/
theorem Occurrence.normal_of_variant? {o : Occurrence} (htrim : Text.trim o.value = o.value)
    (hnewline : '\n' ∉ o.value) {v : Variant} (h : o.variant? = some v) : v.Normal := by
  obtain ⟨keyword, number, value⟩ := o
  cases keyword with
  | single tag => cases h
  | variant kind =>
      obtain rfl := Option.some.inj h
      refine ⟨fun c hc => ?_, Text.trim_trim _, fun hn => hnewline ?_, fun hname => ?_⟩
      · simpa using List.mem_takeWhile_imp hc
      · exact ((List.tail_sublist _).trans (List.dropWhile_sublist _)).subset
          (Text.trim_subset _ hn)
      · -- a value starts with its name, since no blank stands in front of it
        have hvalue : value = [] := by
          cases value with
          | nil => rfl
          | cons c t =>
              have hc : isBlank c = false := (Text.trim_eq_self_iff.1 htrim).1 c rfl
              rw [List.takeWhile_cons_of_pos (by simp [hc])] at hname
              cases hname
        rw [hvalue]
        rfl

end

namespace Passage

/-- What a cut means, in normal form. -/
theorem normal_of_cut {n : Nat} {text : Text} {c : Cut} (h : c.Of (numberedLines n text))
    (code : Text) :
    Normal ⟨.ofValues (Occurrence.lastValue c.occurrences),
      c.occurrences.filterMap Occurrence.variant?, c.body, code⟩ where
  tags := by
    intro p hp
    rw [Tags.mem_toList, Tags.get_ofValues, Occurrence.lastValue] at hp
    obtain ⟨o, ho, hvalue⟩ := Option.map_eq_some_iff.1 hp
    rw [← hvalue]
    exact h.value (List.mem_filter.1 (List.mem_of_getLast? ho)).1
  variants := by
    intro v hv
    obtain ⟨o, ho, hv⟩ := List.mem_filterMap.1 hv
    obtain ⟨htrim, hnewline⟩ := h.value ho
    exact o.normal_of_variant? htrim hnewline hv
  body := Text.trim_trim _
  bodyLines := h.body

/-- An occurrence is a tag or a variant. -/
theorem annotated_of_occurrences {os : List Occurrence} (h : os ≠ []) :
    Tags.ofValues (Occurrence.lastValue os) ≠ .empty ∨
      os.filterMap Occurrence.variant? ≠ [] := by
  obtain ⟨o, os', rfl⟩ := List.exists_cons_of_ne_nil h
  cases hk : o.keyword with
  | single tag =>
      refine .inl fun hempty => ?_
      have hget := congrArg (Tags.get · tag) hempty
      simp only [Tags.get_ofValues, Tags.get_empty, Occurrence.lastValue,
        Option.map_eq_none_iff, List.getLast?_eq_none_iff, List.filter_eq_nil_iff] at hget
      exact hget o List.mem_cons_self (decide_eq_true hk)
  | variant kind =>
      refine .inr fun hnil => ?_
      have hnone := List.filterMap_eq_nil_iff.1 hnil o List.mem_cons_self
      rw [Occurrence.variant?, hk] at hnone
      cases hnone

/-- **What reading leaves is normal**, and it is not nothing. -/
theorem normal_of_annotate {policy : UntaggedPolicy} {n : Nat} {text : Text} {r : Record}
    (h : (annotate policy n text).record? = some r) :
    r = { tags := r.tags, variants := r.variants, body := r.body } ∧ r.passage.Normal ∧
      ((r.tags ≠ .empty ∨ r.variants ≠ []) ∨ policy = .keep ∧ r.body ≠ []) := by
  have hof : (Cut.ofLines (numberedLines n text)).Of (numberedLines n text) := Cut.of_ofLines _
  rw [annotate_eq_meaning_ofLines, Cut.meaning] at h
  dsimp only at h
  split at h
  · next hcontent =>
    obtain rfl := Option.some.inj h
    exact ⟨rfl, normal_of_cut hof [], hcontent.imp_left annotated_of_occurrences⟩
  · cases h

end Passage

/-! ### Reading the canonical form -/

namespace Occurrence

/-- Tags on consecutive lines. -/
def ofItems (n : Nat) (items : List (Keyword × Text)) : List Occurrence :=
  (items.zipIdx n).map fun (item, number) => ⟨item.1, number, Text.trim item.2⟩

/-- Whatever does not depend on the lines of the tags can be read off the tags. -/
theorem map_ofItems {α : Type} (f : Keyword × Text → α) (n : Nat) (items : List (Keyword × Text)) :
    (ofItems n items).map (fun o => f (o.keyword, o.value))
      = items.map fun item => f (item.1, Text.trim item.2) := by
  conv_rhs => rw [← List.zipIdx_map_fst n items]
  rw [ofItems, List.map_map, List.map_map]
  rfl

/-- The diagnostic of an occurrence that needs a value and has none. -/
def lack? (o : Occurrence) : Option Diagnostic :=
  if o.value = [] ∧ o.keyword.needsValue then some (Diagnostic.emptyTag o.keyword o.number)
  else none

/-- The second occurrence does not repeat the first. -/
def Apart (o o' : Occurrence) : Prop := ∀ tag, o.keyword = .single tag → o'.keyword ≠ .single tag

/-- Where no tag is repeated, only values can be wrong. -/
theorem diagnosticsAfter_of_apart {earlier os : List Occurrence}
    (h : (earlier ++ os).Pairwise Apart) : diagnosticsAfter earlier os = os.filterMap lack? := by
  induction os generalizing earlier with
  | nil => rfl
  | cons o os ih =>
      have hnew : ∀ tag, o.keyword = .single tag → among earlier tag = false := by
        intro tag ho
        refine List.any_eq_false.2 fun o' ho' => ?_
        have hapart := (List.pairwise_append.1 h).2.2 o' ho' o List.mem_cons_self tag
        simpa using fun hk => hapart hk ho
      have hlack : (if o.value.isEmpty && o.keyword.needsValue then
          [Diagnostic.emptyTag o.keyword o.number] else []) = o.lack?.toList := by
        simp only [lack?, Bool.and_eq_true, List.isEmpty_iff]
        split <;> rfl
      have ho : o.diagnostics (among earlier) = o.lack?.toList := by
        rw [diagnostics, hlack]
        cases hk : o.keyword with
        | single tag =>
            simp only [hnew tag hk, Bool.false_eq_true, if_false, List.append_nil]
        | variant kind => exact List.append_nil _
      rw [diagnosticsAfter, ho, ih (by rwa [List.append_assoc]), List.filterMap_cons]
      cases o.lack? <;> rfl

end Occurrence

namespace Draft

/-- Lines are read without their gutters. -/
theorem readLines_congr {ls ls' : List Text} (h : ls.map dropGutter = ls'.map dropGutter)
    (d : Draft) (n : Nat) : d.readLines n ls = d.readLines n ls' := by
  induction ls generalizing ls' d n with
  | nil => rw [List.map_eq_nil_iff.1 h.symm]
  | cons l ls ih =>
      obtain ⟨l', ls', rfl, hl, hls⟩ := List.map_eq_cons_iff.1 h.symm
      rw [readLines, readLines, hl, ih hls.symm]

/-- A tag line closes the tag before it, and is noted in the end. -/
theorem close_read_eq_note (d : Draft) (n : Nat) (k : Keyword) (value : Text) :
    (d.read n (.tag k value)).close = d.close.note ⟨k, n, value⟩ := by
  have hopen := close_open (close_open? d) ⟨k, n, partOf value⟩
  rwa [joinWith_partOf] at hopen

/-- **Tag lines** are noted one after the other. -/
theorem close_readLines_items (d : Draft) (n : Nat) (items : List (Keyword × Text)) :
    (d.readLines n (items.map fun item => gutter ++ tagLine item.1 item.2)).close
      = (Occurrence.ofItems n items).foldl note d.close := by
  induction items generalizing d n with
  | nil => rfl
  | cons item items ih =>
      rw [List.map_cons, readLines, dropGutter_gutter, Line.ofText_tagLine, ih,
        close_read_eq_note]
      rfl

theorem stateAll_diagnostics (d : Draft) (ds : List Diagnostic) (items : List (Keyword × Text)) :
    stateAll { d with diagnostics := ds } items = { d.stateAll items with diagnostics := ds } := by
  induction items generalizing d with
  | nil => rfl
  | cons item items ih =>
      obtain ⟨keyword, value⟩ := item
      cases keyword with
      | single tag => exact ih (d.state (.single tag) value)
      | variant kind => exact ih (d.state (.variant kind) value)

/-- Occurrences are noted like tags that nothing is wrong with, but for the diagnostics. -/
theorem foldl_note_eq (d : Draft) (os : List Occurrence) :
    os.foldl note d = { d.stateAll (os.map fun o => (o.keyword, o.value)) with
      diagnostics := (os.foldl note d).diagnostics } := by
  induction os generalizing d with
  | nil => rfl
  | cons o os ih =>
      let ds := (os.foldl note (d.note o)).diagnostics
      rw [List.foldl_cons, ih]
      exact congrArg (fun e : Draft => { e with diagnostics := ds })
        (stateAll_diagnostics (d.state o.keyword o.value) _ _)

end Draft

namespace Passage

/-- The lines of the canonical form without their gutters. -/
theorem map_dropGutter_endLines {ls : List Text} (h : ls ≠ []) :
    (Text.endLines (ls.map (gutter ++ ·))).map dropGutter = ls.map Text.trimEnd := by
  induction ls with
  | nil => exact absurd rfl h
  | cons l ls ih =>
      cases ls with
      | nil => rfl
      | cons l' ls =>
          exact congrArg₂ List.cons (dropGutter_dropReturn l) (ih (List.cons_ne_nil l' ls))

/-- No tag of a passage is repeated. -/
theorem pairwise_items (e : Passage) (n : Nat) :
    (Occurrence.ofItems n e.items).Pairwise Occurrence.Apart := by
  have hkeywords : (Occurrence.ofItems n e.items).map (·.keyword) = e.items.map Prod.fst :=
    Occurrence.map_ofItems Prod.fst n e.items
  suffices h : (e.items.map Prod.fst).Pairwise fun k k' =>
      ∀ tag, k = .single tag → k' ≠ .single tag by
    rw [← hkeywords, List.pairwise_map] at h
    exact h
  rw [items, List.map_append, List.map_map, List.map_map, List.pairwise_append]
  refine ⟨?_, ?_, ?_⟩
  · have hkeys := List.pairwise_map.1 e.tags.nodup_toList
    refine List.pairwise_map.2 (hkeys.imp fun {p q} hne tag hp hq => hne ?_)
    exact Keyword.single.inj (hp.trans hq.symm)
  · refine List.pairwise_map.2 (List.pairwise_of_forall fun v w tag hv => ?_)
    cases hv
  · intro k _ k' hk' tag _ htag
    obtain ⟨v, -, rfl⟩ := List.mem_map.1 hk'
    cases htag

section Normal

variable {e : Passage} (h : e.Normal)
include h

/-- What a passage demands is what its lines have. -/
theorem Normal.map_demands :
    e.demands.map (fun demand => (demand.1, decide (demand.2 = [])))
      = e.items.map fun item => (item.1, decide (Text.trim item.2 = [])) := by
  rw [demands, items, List.map_append, List.map_append, List.map_map, List.map_map, List.map_map,
    List.map_map]
  refine congrArg₂ (· ++ ·) (List.map_congr_left fun p hp => ?_)
    (List.map_congr_left fun v hv => ?_)
  · exact congrArg (fun value => (Keyword.single p.1, decide (value = []))) (h.tags p hp).1.symm
  · exact congrArg (Prod.mk _) (decide_eq_decide.2 (h.variants v hv).trim_value_eq_nil_iff.symm)

/-- The complaints about a passage are those about its lines. -/
theorem Normal.complaints_eq (n : Nat) :
    e.complaints n
      = (Occurrence.ofItems (n + e.bodyLines.length) e.items).filterMap Occurrence.lack? := by
  -- what is wrong on a line, if it is known whether what it demands is there
  let wrong (line : (Keyword × Bool) × Nat) : Option Diagnostic :=
    if line.1.2 = true ∧ line.1.1.needsValue then some (Diagnostic.emptyTag line.1.1 line.2)
    else none
  have hwrong (f : Text → Bool) (xs : List (Keyword × Text)) (k : Nat) :
      ((xs.map fun x => (x.1, f x.2)).zipIdx k).filterMap wrong
        = (xs.zipIdx k).filterMap fun (x, line) => wrong ((x.1, f x.2), line) := by
    rw [List.zipIdx_map, List.filterMap_map]
    rfl
  calc e.complaints n
      = ((e.demands.map fun demand => (demand.1, decide (demand.2 = []))).zipIdx
          (n + e.bodyLines.length)).filterMap wrong := by
        rw [hwrong fun value => decide (value = [])]
        simp only [complaints, wrong, decide_eq_true_eq]
    _ = ((e.items.map fun item => (item.1, decide (Text.trim item.2 = []))).zipIdx
          (n + e.bodyLines.length)).filterMap wrong := by rw [h.map_demands]
    _ = (Occurrence.ofItems (n + e.bodyLines.length) e.items).filterMap Occurrence.lack? := by
        rw [hwrong fun value => decide (Text.trim value = []), Occurrence.ofItems,
          List.filterMap_map]
        simp only [wrong, decide_eq_true_eq]
        rfl

/-- The lines of the canonical form are those of the passage. -/
theorem Normal.lines_canonical (hne : e.lines ≠ []) :
    (Text.lines e.canonical).map dropGutter = (e.lines.map (gutter ++ ·)).map dropGutter := by
  have hnewline : ∀ l ∈ e.lines.map (gutter ++ ·), '\n' ∉ l := by
    intro l hl
    obtain ⟨line, hline, rfl⟩ := List.mem_map.1 hl
    rw [List.mem_append, not_or]
    exact ⟨by decide, h.notMem_of_mem_lines hline⟩
  have hsplit : Text.splitOn '\n' e.canonical = e.lines.map (gutter ++ ·) :=
    Text.splitOn_joinWith (List.map_eq_nil_iff.not.2 hne) hnewline
  rw [Text.lines, hsplit, map_dropGutter_endLines hne, List.map_map]
  rfl

/-- The canonical form is read line by line: the prose goes to the body, and the tags are noted. -/
theorem Normal.close_readLines (hne : e.lines ≠ []) (n : Nat) :
    (Draft.readLines {} n (Text.lines e.canonical)).close
      = (Occurrence.ofItems (n + e.bodyLines.length) e.items).foldl Draft.note
          { body := e.bodyLines } := by
  have hbody : ({} : Draft).readLines n (e.bodyLines.map (gutter ++ ·)) = { body := e.bodyLines } := by
    have hdrop : (e.bodyLines.map (gutter ++ ·)).map dropGutter = e.bodyLines := by
      rw [List.map_map]
      exact h.map_trimEnd_bodyLines
    have hsubset : (e.bodyLines.map (gutter ++ ·)).map dropGutter ⊆ [] :: e.bodyLines := by
      rw [hdrop]
      exact List.subset_cons_self [] e.bodyLines
    rw [h.readLines_prose hsubset, hdrop]
  rw [Draft.readLines_congr (h.lines_canonical hne), Passage.lines, List.map_append,
    Draft.readLines_append, hbody, List.length_map, List.map_map]
  exact Draft.close_readLines_items _ _ e.items

end Normal

/-- A passage that says something has lines. -/
theorem lines_ne_nil {e : Passage} (h : (e.tags ≠ .empty ∨ e.variants ≠ []) ∨ e.body ≠ []) :
    e.lines ≠ [] := by
  intro hnil
  obtain ⟨hbody, hitems⟩ := List.append_eq_nil_iff.1 hnil
  rcases h with h | h
  · obtain ⟨htags, hvariants⟩ := List.append_eq_nil_iff.1 (List.map_eq_nil_iff.1 hitems)
    refine statements_ne_nil h (List.append_eq_nil_iff.2 ⟨htags, ?_⟩)
    rw [List.map_eq_nil_iff] at hvariants ⊢
    exact hvariants
  · rw [bodyLines, if_neg (by simpa using h)] at hbody
    exact Text.splitOn_ne_nil '\n' e.body hbody

/-- **How a normal passage is read** after it has been written down. -/
theorem Normal.annotate_eq {e : Passage} (h : e.Normal) {policy : UntaggedPolicy}
    (hcontent : (e.tags ≠ .empty ∨ e.variants ≠ []) ∨ policy = .keep ∧ e.body ≠ []) (n : Nat) :
    annotate policy n e.canonical
      = { record? := some { tags := e.tags, variants := e.variants, body := e.body }
          diagnostics := e.complaints n } := by
  let d : Draft := { body := e.bodyLines }
  let os := Occurrence.ofItems (n + e.bodyLines.length) e.items
  have hstatements : os.map (fun o => (o.keyword, o.value)) = e.statements :=
    (Occurrence.map_ofItems id _ e.items).trans h.statements_eq
  have hdiagnostics : (os.foldl Draft.note d).diagnostics = e.complaints n := by
    have hseen : ∀ tag, (d.tags.get tag).isSome = Occurrence.among [] tag := by
      intro tag
      cases tag <;> rfl
    rw [Draft.diagnostics_foldl_note hseen,
      Occurrence.diagnosticsAfter_of_apart (e.pairwise_items _), h.complaints_eq]
    rfl
  have hbody : Text.trim (Text.joinWith "\n" e.bodyLines) = e.body := by
    rw [e.joinWith_bodyLines, h.body]
  refine h.annotate_of_stateAll hcontent hbody ?_
  rw [h.close_readLines (lines_ne_nil (hcontent.imp_right And.right)), Draft.foldl_note_eq,
    hdiagnostics, hstatements]

end Passage

/-! ### Reading and writing down -/

/-- **Writing down what a block says changes nothing.**  The canonical form of a block that is a
record is read as the same record, whatever its policy is and wherever it starts, and all that it is
complained about for is a tag without its value or a variant without its name. -/
theorem annotate_canonical {policy : UntaggedPolicy} {n : Nat} {text : Text} {r : Record}
    (h : (annotate policy n text).record? = some r) (m : Nat) :
    annotate policy m r.passage.canonical
      = { record? := some r, diagnostics := r.passage.complaints m } := by
  obtain ⟨hr, hnormal, hcontent⟩ := Passage.normal_of_annotate h
  rw [hnormal.annotate_eq hcontent m]
  exact congrArg (fun r' : Record => Annotated.mk (some r') (r.passage.complaints m)) hr.symm

/-- A block with a doubled gutter, a tag that is not in the vocabulary, tags and a variant that say
nothing, and a variant on two lines. -/
def oddBlock : Text :=
  "\n ** @title in the prose\n *   @see the   book\n * @usage\n *@private\n * @state\n" ++
    " * @modifier  .wide \t  spans\n *   the page\n"

/-- What the odd block says. -/
def oddRecord : Record where
  tags := { usage := some [], hidden := some [] }
  variants := [⟨.state, [], []⟩, ⟨.modifier, ".wide", "spans the page"⟩]
  body := "* @title in the prose\n  @see the   book"

theorem annotate_canonical_oddRecord :
    (annotate .drop 1 oddBlock).record? = some oddRecord ∧
      annotate .drop 7 oddRecord.passage.canonical
        = { record? := some oddRecord
            diagnostics := [.emptyTag (.single .usage) 9, .emptyTag (.variant .state) 11] } := by
  have h : (annotate .drop 1 oddBlock).record? = some oddRecord := by decide +kernel
  have hcomplaints : oddRecord.passage.complaints 7
      = [.emptyTag (.single .usage) 9, .emptyTag (.variant .state) 11] := by decide +kernel
  exact ⟨h, hcomplaints ▸ annotate_canonical h 7⟩

end PatternBook
