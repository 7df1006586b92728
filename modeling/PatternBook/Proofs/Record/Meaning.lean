import PatternBook.Proofs.Record.Stanza

/-!
# The meaning of a block

What a block says can be read off its cut at the marks, without going through its lines one after
the other: each stanza with a name of the vocabulary is an occurrence of a tag, and everything
else is prose.

* `Cut.meaning`: the record and the diagnostics of a block that is cut at its marks.
* `annotate_eq_meaning`: this is what reading the block gives.
-/

namespace PatternBook

/-! ### Occurrences -/

/-- A tag of the vocabulary at one place of a block. -/
structure Occurrence where
  keyword : Keyword
  /-- The number of the marked line. -/
  number  : Nat
  value   : Text
  deriving DecidableEq, Repr

namespace Stanza

/-- What the mark says: the text behind it and the lines that it owns, as far as they are not
blank, trimmed and with a space between them. -/
def value (s : Stanza) : Text :=
  Text.joinWith " "
    (((markText s.mark.1 :: s.owned.map Prod.fst).map Text.trim).filter (!·.isEmpty))

/-- The stanza as an occurrence of a tag, if its name is in the vocabulary. -/
def occurrence? (s : Stanza) : Option Occurrence :=
  (Keyword.ofName (markName s.mark.1)).map fun k => ⟨k, s.mark.2, s.value⟩

/-- The lines of the stanza that no occurrence owns. -/
def prose (s : Stanza) : List Text :=
  if s.occurrence?.isSome then [] else s.lines.map Prod.fst

end Stanza

namespace Occurrence

/-- The variant that a tag for variants describes: its name goes up to the first blank, and its
description is what follows. -/
def variant? (o : Occurrence) : Option Variant :=
  match o.keyword with
  | .single _ => none
  | .variant kind =>
    some ⟨kind, o.value.takeWhile (!isBlank ·), Text.trim (o.value.dropWhile (!isBlank ·)).tail⟩

/-- The tag is among the occurrences. -/
def among (os : List Occurrence) (tag : Tag) : Bool := os.any (·.keyword = .single tag)

/-- The value of the last occurrence of a tag. -/
def lastValue (os : List Occurrence) (tag : Tag) : Option Text :=
  ((os.filter (·.keyword = .single tag)).getLast?).map (·.value)

/-- What is wrong with an occurrence, where some tags have been seen before. -/
def diagnostics (seen : Tag → Bool) (o : Occurrence) : List Diagnostic :=
  (if o.value.isEmpty && o.keyword.needsValue then [Diagnostic.emptyTag o.keyword o.number]
    else []) ++
  match o.keyword with
  | .single tag => if seen tag then [Diagnostic.duplicateTag tag o.number] else []
  | .variant _ => []

/-- What is wrong with occurrences that come after earlier ones. -/
def diagnosticsAfter (earlier : List Occurrence) : List Occurrence → List Diagnostic
  | [] => []
  | o :: os => o.diagnostics (among earlier) ++ diagnosticsAfter (earlier ++ [o]) os

end Occurrence

/-- The tags with the given values. -/
def Tags.ofValues (value : Tag → Option Text) : Tags where
  title := value .title
  description := value .description
  usage := value .usage
  sample := value .sample
  hidden := value .hidden
  deprecated := value .deprecated

theorem Tags.get_ofValues (value : Tag → Option Text) (tag : Tag) :
    (ofValues value).get tag = value tag := by
  cases tag <;> rfl

namespace Cut

/-- The occurrences of tags, in order. -/
def occurrences (c : Cut) : List Occurrence := c.stanzas.filterMap Stanza.occurrence?

/-- The lines that no occurrence owns, in order. -/
def prose (c : Cut) : List Text := c.front.map Prod.fst ++ c.stanzas.flatMap Stanza.prose

/-- The prose as one text. -/
def body (c : Cut) : Text := Text.trim (Text.joinWith "\n" c.prose)

/-- What the block says.  Of a tag that occurs more than once the last value counts. -/
def meaning (policy : UntaggedPolicy) (c : Cut) : Annotated where
  record? :=
    if c.occurrences ≠ [] ∨ policy = .keep ∧ c.body ≠ [] then
      some
        { tags := .ofValues (Occurrence.lastValue c.occurrences)
          variants := c.occurrences.filterMap Occurrence.variant?
          body := c.body }
    else none
  diagnostics := Occurrence.diagnosticsAfter [] c.occurrences

end Cut

/-- The lines of a block without their gutters, each with its number. -/
def numberedLines (firstLine : Nat) (text : Text) : List (Text × Nat) :=
  ((Text.lines text).map dropGutter).zipIdx firstLine

/-! ### What reading does with one stanza -/

/-- The open tag with more lines. -/
def OpenTag.own (tag : OpenTag) (ts : List Text) : OpenTag :=
  { tag with parts := tag.parts ++ ts.flatMap fun t => partOf (Text.trim t) }

theorem flatMap_partOf_trim (ts : List Text) :
    ts.flatMap (fun t => partOf (Text.trim t)) = (ts.map Text.trim).filter (!·.isEmpty) := by
  induction ts with
  | nil => rfl
  | cons t ts ih =>
      rw [List.flatMap_cons, ih, List.map_cons, List.filter_cons, partOf]
      cases (Text.trim t).isEmpty <;> rfl

/-- The tag of a mark with the lines that the mark owns has collected the value of the stanza. -/
theorem Stanza.joinWith_own (s : Stanza) (k : Keyword) (n : Nat) :
    Text.joinWith " "
        (OpenTag.own ⟨k, n, partOf (Text.trim (markText s.mark.1))⟩ (s.owned.map Prod.fst)).parts
      = s.value := by
  rw [value, ← flatMap_partOf_trim, List.flatMap_cons]
  rfl

/-- The reader splits a value as its tag for variants describes it. -/
theorem Variant.ofValue_eq (kind : VariantKind) (value : Text) :
    ofValue kind value =
      ⟨kind, value.takeWhile (!isBlank ·), Text.trim (value.dropWhile (!isBlank ·)).tail⟩ := by
  have hblank : ∀ c ∈ (value.dropWhile (!isBlank ·)).head?, isBlank c = true := by
    intro c hc
    simpa using Text.stop_dropWhile (!isBlank ·) value c hc
  rw [ofValue, Text.trim_tail hblank]

namespace Draft

/-- The draft with lines that are not marked: they go to the open tag, or to the body. -/
def own (d : Draft) (ts : List Text) : Draft :=
  match d.open? with
  | some tag => { d with open? := some (tag.own ts) }
  | none => { d with body := d.body ++ ts }

theorem own_of_open? {d : Draft} {tag : OpenTag} (h : d.open? = some tag) (ts : List Text) :
    d.own ts = { d with open? := some (tag.own ts) } := by
  rw [own, h]

theorem own_of_closed {d : Draft} (h : d.open? = none) (ts : List Text) :
    d.own ts = { d with body := d.body ++ ts } := by
  rw [own, h]

theorem own_nil (d : Draft) : d.own [] = d := by
  cases h : d.open? with
  | none => rw [own_of_closed h, List.append_nil]
  | some tag =>
      have htag : tag.own [] = tag := by rw [OpenTag.own, List.flatMap_nil, List.append_nil]
      rw [own_of_open? h, htag, ← h]

theorem own_read_prose (d : Draft) (n : Nat) (t : Text) (ts : List Text) :
    (d.read n (.prose t)).own ts = d.own (t :: ts) := by
  cases h : d.open? with
  | none =>
      rw [own_of_closed h, own, read, h]
      simp only [List.append_assoc, List.singleton_append]
  | some tag =>
      rw [own_of_open? h, own, read, h]
      simp only [OpenTag.own, List.append_assoc, List.flatMap_cons]

/-- The draft with an occurrence entered. -/
def note (d : Draft) (o : Occurrence) : Draft :=
  { d.state o.keyword o.value with
    diagnostics := d.diagnostics ++ o.diagnostics fun tag => (d.tags.get tag).isSome }

/-- A tag that is open in an otherwise closed draft is entered with what its parts are together. -/
theorem close_open {d : Draft} (h : d.open? = none) (tag : OpenTag) :
    close { d with recognized := true, open? := some tag }
      = d.note ⟨tag.keyword, tag.line, Text.joinWith " " tag.parts⟩ := by
  obtain ⟨keyword, line, parts⟩ := tag
  cases keyword with
  | single tag =>
      simp only [close, enter, note, state, Occurrence.diagnostics, List.append_assoc, h]
  | variant kind =>
      simp only [close, enter, note, state, Occurrence.diagnostics, List.append_nil, h,
        Variant.ofValue]

/-- The draft with a stanza. -/
def take (d : Draft) (s : Stanza) : Draft :=
  match s.occurrence? with
  | some o => d.note o
  | none => { d with body := d.body ++ s.lines.map Prod.fst }

/-- **A stanza is read as a whole**: its mark closes the tag before it, and the lines that it owns
go where the mark says. -/
theorem close_own_read (d : Draft) {s : Stanza} (h : IsMarked s.mark.1) :
    ((d.read s.mark.2 (Line.ofText s.mark.1)).own (s.owned.map Prod.fst)).close
      = d.close.take s := by
  have hopen := close_open? d
  rw [Line.ofText_of_isMarked h, take, Stanza.occurrence?]
  cases Keyword.ofName (markName s.mark.1) with
  | some k =>
      -- A known name opens a tag, and the owned lines go on with it.
      let tag : OpenTag := ⟨k, s.mark.2, partOf (Text.trim (markText s.mark.1))⟩
      calc ((d.read s.mark.2 (.tag k (Text.trim (markText s.mark.1)))).own
              (s.owned.map Prod.fst)).close
          = close { d.close with
              recognized := true, open? := some (tag.own (s.owned.map Prod.fst)) } := rfl
        _ = d.close.note ⟨k, s.mark.2, s.value⟩ := by
            rw [close_open hopen, s.joinWith_own k s.mark.2]
            rfl
  | none =>
      -- An unknown name leaves no tag open, and the owned lines follow the mark into the body.
      have hread : (d.read s.mark.2 (.unknownTag s.mark.1)).open? = none := hopen
      rw [own_of_closed hread, close]
      simp only [read, hopen, Stanza.lines, List.map_cons, List.append_assoc,
        List.singleton_append, Option.map_none]

/-- **A block is read as its cut**: the lines in front, and then stanza by stanza. -/
theorem close_readLines (d : Draft) (n : Nat) (ls : List Text) :
    (d.readLines n ls).close =
      (Cut.ofLines ((ls.map dropGutter).zipIdx n)).stanzas.foldl take
        (d.own ((Cut.ofLines ((ls.map dropGutter).zipIdx n)).front.map Prod.fst)).close := by
  -- The draft is arbitrary, since a tag may be open when the first line is read.
  induction ls generalizing d n with
  | nil => exact congrArg close (own_nil d).symm
  | cons l ls ih =>
      rw [readLines, ih, List.map_cons, List.zipIdx_cons]
      by_cases h : IsMarked (dropGutter l, n).1
      · rw [Cut.ofLines_of_isMarked h, List.map_nil, own_nil, List.foldl_cons,
          ← close_own_read d (s := ⟨(dropGutter l, n), _⟩) h]
      · rw [Cut.ofLines_of_not_isMarked h, Line.ofText_of_not_isMarked h, own_read_prose,
          List.map_cons]

/-! ### What reading does with all stanzas -/

theorem take_of_some {s : Stanza} {o : Occurrence} (h : s.occurrence? = some o) (d : Draft) :
    d.take s = d.note o := by
  rw [take, h]

theorem take_of_none {s : Stanza} (h : s.occurrence? = none) (d : Draft) :
    d.take s = { d with body := d.body ++ s.lines.map Prod.fst } := by
  rw [take, h]

theorem note_body (d : Draft) (b : List Text) (o : Occurrence) :
    note { d with body := b } o = { d.note o with body := b } := by
  obtain ⟨keyword, number, value⟩ := o
  cases keyword <;> rfl

theorem foldl_note_body (d : Draft) (b : List Text) (os : List Occurrence) :
    os.foldl note { d with body := b } = { os.foldl note d with body := b } := by
  induction os generalizing d with
  | nil => rfl
  | cons o os ih => rw [List.foldl_cons, note_body, ih, List.foldl_cons]

/-- The stanzas that are occurrences are noted, and the lines of the others go to the body. -/
theorem foldl_take (d : Draft) (ss : List Stanza) :
    ss.foldl take d =
      { (ss.filterMap Stanza.occurrence?).foldl note d with
        body := d.body ++ ss.flatMap Stanza.prose } := by
  induction ss generalizing d with
  | nil => rw [List.flatMap_nil, List.append_nil]; rfl
  | cons s ss ih =>
      rw [List.foldl_cons, ih, List.flatMap_cons, Stanza.prose]
      cases h : s.occurrence? with
      | some o =>
          have hbody : (d.note o).body = d.body := body_state d o.keyword o.value
          rw [take_of_some h, List.filterMap_cons_some h, List.foldl_cons, hbody]
          rfl
      | none =>
          rw [take_of_none h, List.filterMap_cons_none h, foldl_note_body, List.append_assoc]
          rfl

theorem recognized_foldl_note (d : Draft) (os : List Occurrence) :
    (os.foldl note d).recognized = (d.recognized || !os.isEmpty) := by
  induction os generalizing d with
  | nil => exact (Bool.or_false _).symm
  | cons o os ih =>
      have ho : (d.note o).recognized = true := recognized_state d o.keyword o.value
      rw [List.foldl_cons, ih, ho, Bool.true_or, List.isEmpty_cons, Bool.not_false, Bool.or_true]

theorem variants_foldl_note (d : Draft) (os : List Occurrence) :
    (os.foldl note d).variants = d.variants ++ os.filterMap Occurrence.variant? := by
  induction os generalizing d with
  | nil => exact (List.append_nil d.variants).symm
  | cons o os ih =>
      rw [List.foldl_cons, ih]
      obtain ⟨keyword, number, value⟩ := o
      cases keyword with
      | single tag => rfl
      | variant kind =>
          simp only [note, state, Variant.ofValue_eq, List.filterMap_cons, Occurrence.variant?,
            List.append_assoc, List.singleton_append]

/-- A tag that is noted has its value, and the others keep theirs. -/
theorem tags_note (d : Draft) (o : Occurrence) (tag : Tag) :
    (d.note o).tags.get tag =
      if o.keyword = .single tag then some o.value else d.tags.get tag := by
  obtain ⟨keyword, number, value⟩ := o
  cases keyword with
  | single name =>
      simp only [note, state, Tags.get_set, Keyword.single.injEq, eq_comm]
  | variant kind => rfl

/-- **Of a tag that occurs more than once the last value is kept.** -/
theorem tags_foldl_note (d : Draft) (os : List Occurrence) (tag : Tag) :
    (os.foldl note d).tags.get tag = (Occurrence.lastValue os tag).or (d.tags.get tag) := by
  induction os generalizing d with
  | nil => rfl
  | cons o os ih =>
      rw [List.foldl_cons, ih, tags_note, Occurrence.lastValue, Occurrence.lastValue,
        List.filter_cons]
      by_cases h : o.keyword = .single tag
      · simp only [h, decide_true, if_true, List.getLast?_cons]
        cases (os.filter fun o => decide (o.keyword = .single tag)).getLast? <;> rfl
      · simp only [h, decide_false, Bool.false_eq_true, if_false]

/-- **The diagnostics come in the order of the occurrences**, where a tag that the draft has
counts as seen. -/
theorem diagnostics_foldl_note {d : Draft} {earlier : List Occurrence}
    (hseen : ∀ tag, (d.tags.get tag).isSome = Occurrence.among earlier tag)
    (os : List Occurrence) :
    (os.foldl note d).diagnostics = d.diagnostics ++ Occurrence.diagnosticsAfter earlier os := by
  induction os generalizing d earlier with
  | nil => exact (List.append_nil d.diagnostics).symm
  | cons o os ih =>
      have hseen' : ∀ tag, ((d.note o).tags.get tag).isSome
          = Occurrence.among (earlier ++ [o]) tag := by
        intro tag
        rw [tags_note, Occurrence.among, List.any_append, ← Occurrence.among, ← hseen tag]
        by_cases h : o.keyword = .single tag <;> simp [h]
      have hdiagnostics : (d.note o).diagnostics
          = d.diagnostics ++ o.diagnostics (Occurrence.among earlier) := by
        rw [← funext hseen]
        rfl
      rw [List.foldl_cons, ih hseen', hdiagnostics, List.append_assoc]
      rfl

end Draft

/-! ### What reading does with a block -/

/-- What reading a block gives is what its cut means. -/
theorem annotate_eq_meaning_ofLines (policy : UntaggedPolicy) (firstLine : Nat) (text : Text) :
    annotate policy firstLine text
      = (Cut.ofLines (numberedLines firstLine text)).meaning policy := by
  let c := Cut.ofLines (numberedLines firstLine text)
  -- the draft after the lines in front, which has nothing but a body
  let d : Draft := { body := c.front.map Prod.fst }
  have hread : (Draft.readLines {} firstLine (Text.lines text)).close =
      { c.occurrences.foldl Draft.note d with body := c.prose } := by
    rw [Draft.close_readLines, Draft.foldl_take]
    rfl
  have htags : (c.occurrences.foldl Draft.note d).tags
      = .ofValues (Occurrence.lastValue c.occurrences) := by
    refine Tags.ext_get fun tag => ?_
    rw [Draft.tags_foldl_note, Tags.get_ofValues]
    exact (congrArg _ (Tags.get_empty tag)).trans (Option.or_none ..)
  have hrecord : (c.occurrences.foldl Draft.note d).recognized = !c.occurrences.isEmpty := by
    rw [Draft.recognized_foldl_note]
    rfl
  have hisRecord : ((c.occurrences.foldl Draft.note d).recognized ||
      (policy = .keep && !c.body.isEmpty)) = true ↔
        c.occurrences ≠ [] ∨ policy = .keep ∧ c.body ≠ [] := by
    simp [hrecord]
  have hseen : ∀ tag, (d.tags.get tag).isSome = Occurrence.among [] tag := by
    intro tag
    cases tag <;> rfl
  have hdiagnostics : (c.occurrences.foldl Draft.note d).diagnostics
      = Occurrence.diagnosticsAfter [] c.occurrences :=
    Draft.diagnostics_foldl_note hseen c.occurrences
  have hvariants : (c.occurrences.foldl Draft.note d).variants
      = c.occurrences.filterMap Occurrence.variant? :=
    Draft.variants_foldl_note d c.occurrences
  simp only [annotate, hread, htags, hvariants, hdiagnostics]
  change Annotated.mk (if ((c.occurrences.foldl Draft.note d).recognized ||
      (policy = .keep && !c.body.isEmpty)) = true then _ else none) _ = _
  rw [if_congr hisRecord rfl rfl]
  rfl

/-- **What a block says can be read off its cut**, and it is cut at its marks in one way: the tags
have the values of their last occurrences, the variants are those of their occurrences, the body
is what no occurrence owns, and the diagnostics follow the occurrences. -/
theorem annotate_eq_meaning (policy : UntaggedPolicy) (firstLine : Nat) (text : Text) :
    ∃ c : Cut, (∀ c' : Cut, c'.Of (numberedLines firstLine text) ↔ c' = c) ∧
      annotate policy firstLine text = c.meaning policy :=
  ⟨Cut.ofLines (numberedLines firstLine text), fun _ => Cut.of_iff,
    annotate_eq_meaning_ofLines policy firstLine text⟩

end PatternBook
