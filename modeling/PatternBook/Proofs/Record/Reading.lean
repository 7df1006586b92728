import PatternBook.Proofs.Text.Cuts
import PatternBook.Record.Annotated

/-!
# Reading the lines of a block

What a line of a block says, and what a run of lines of one kind does to a draft.

* `Line.ofText_eq_tag_iff`: which lines carry a tag of the vocabulary, and what its text is.
* `Draft.readLines_body`: lines without such a tag, before the first of them, go to the body.
* `Draft.close_readLines_tagLines`: tag lines are entered one by one, and none of them is
  complained about.
-/

namespace PatternBook

/-! ### Tag lines -/

/-- After its indentation the line is an `@`, a word of the vocabulary, and nothing more or a
blank. -/
def IsTagLine (line : Text) : Prop :=
  ∃ (k : Keyword) (rest : Text),
    Text.trimStart line = '@' :: (k.name ++ rest) ∧ ∀ c ∈ rest.head?, isSpaceOrTab c = true

theorem Keyword.mem_all (k : Keyword) : k ∈ all :=
  List.mem_of_find?_eq_some (ofName_name k)

/-- What holds of the words of the vocabulary holds of the name of a keyword. -/
theorem Keyword.forall_name {P : Text → Prop} (h : ∀ n ∈ all.map name, P n) (k : Keyword) :
    P k.name :=
  h k.name (List.mem_map_of_mem k.mem_all)

/-- The text is a tag name: a letter, and then letters, digits, `_` and `-`. -/
def IsTagName (name : Text) : Prop :=
  ∃ c t, name = c :: t ∧ c.isAlpha = true ∧ ∀ d ∈ t, isTagNameChar d = true

/-- Words of the vocabulary are tag names. -/
theorem Keyword.isTagName_name (k : Keyword) : IsTagName k.name := by
  have hne : k.name ≠ [] := k.forall_name (P := (· ≠ [])) (by decide)
  have hhead : k.name.head?.all Char.isAlpha = true :=
    k.forall_name (P := fun n => n.head?.all Char.isAlpha = true) (by decide)
  have htail : k.name.tail.all isTagNameChar = true :=
    k.forall_name (P := fun n => n.tail.all isTagNameChar = true) (by decide)
  obtain ⟨c, t, hname⟩ := List.exists_cons_of_ne_nil hne
  rw [hname] at hhead htail
  exact ⟨c, t, hname, hhead, List.all_eq_true.1 htail⟩

theorem tagNameChar_of_isSpaceOrTab {c : Char} (h : isSpaceOrTab c = true) :
    isTagNameChar c = false := by
  rcases Text.eq_of_isSpaceOrTab h with rfl | rfl <;> rfl

/-- A tag is recognized in front of the end of the line or a blank. -/
theorem tagOfLine_append {name rest : Text} (hname : IsTagName name)
    (h : ∀ c ∈ rest.head?, isSpaceOrTab c = true) :
    tagOfLine ('@' :: (name ++ rest)) = some (name, rest.tail) := by
  obtain ⟨c, t, rfl, hc, ht⟩ := hname
  have hstop : ∀ d ∈ rest.head?, isTagNameChar d = false := fun d hd =>
    tagNameChar_of_isSpaceOrTab (h d hd)
  simp only [List.cons_append, tagOfLine, hc, if_true, Text.takeWhile_append_of_stop ht hstop,
    Text.dropWhile_append_of_stop ht hstop]
  cases rest with
  | nil => rfl
  | cons d rest => simp only [h d rfl, if_true, List.tail_cons]

/-- What a tag line is made of. -/
theorem eq_of_tagOfLine {t name text : Text} (h : tagOfLine t = some (name, text)) :
    ∃ rest, t = '@' :: (name ++ rest) ∧ IsTagName name ∧ text = rest.tail ∧
      ∀ c ∈ rest.head?, isSpaceOrTab c = true := by
  unfold tagOfLine at h
  split at h
  · next c t =>
      split at h
      · next hc =>
          have hname : IsTagName (c :: t.takeWhile isTagNameChar) :=
            ⟨c, _, rfl, hc, fun _ hd => List.mem_takeWhile_imp hd⟩
          refine ⟨t.dropWhile isTagNameChar, ?_⟩
          dsimp only at h
          split at h
          · next hd =>
              obtain ⟨rfl, rfl⟩ := Prod.mk.inj (Option.some.inj h)
              rw [List.cons_append, List.takeWhile_append_dropWhile, hd]
              exact ⟨rfl, hname, rfl, fun _ hc => by cases hc⟩
          · next d rest hd =>
              split at h
              · next hblank =>
                  obtain ⟨rfl, rfl⟩ := Prod.mk.inj (Option.some.inj h)
                  rw [List.cons_append, List.takeWhile_append_dropWhile, hd]
                  refine ⟨rfl, hname, rfl, ?_⟩
                  rintro e ⟨⟩
                  exact hblank
              · cases h
      · cases h
  · cases h

/-- A blank at the start of a text is trimmed with the others. -/
theorem Text.trim_tail {t : Text} (h : ∀ c ∈ t.head?, isBlank c = true) :
    trim t.tail = trim t := by
  cases t with
  | nil => rfl
  | cons c t =>
      have hc : ∀ d ∈ [c], isBlank d = true := by
        intro d hd
        obtain rfl := List.mem_singleton.1 hd
        exact h d rfl
      exact (congrArg trimEnd (trimStart_append_of_blank hc t)).symm

/-- The blank after the name is not part of the text. -/
theorem trim_tail_of_isSpaceOrTab {rest : Text} (h : ∀ c ∈ rest.head?, isSpaceOrTab c = true) :
    Text.trim rest.tail = Text.trim rest :=
  Text.trim_tail fun c hc => Text.isBlank_of_isSpaceOrTab (h c hc)

/-- **Which lines carry a tag of the vocabulary**, and what its text is. -/
theorem Line.ofText_eq_tag_iff {line : Text} {k : Keyword} {text : Text} :
    Line.ofText line = .tag k text ↔
      ∃ rest, Text.trimStart line = '@' :: (k.name ++ rest) ∧
        (∀ c ∈ rest.head?, isSpaceOrTab c = true) ∧ text = Text.trim rest := by
  refine ⟨fun h => ?_, ?_⟩
  · unfold Line.ofText at h
    split at h
    · cases h
    · next name raw ht =>
        obtain ⟨rest, hline, -, rfl, hrest⟩ := eq_of_tagOfLine ht
        split at h
        · next k' hk =>
            obtain ⟨rfl, rfl⟩ := Line.tag.inj h
            obtain rfl := Keyword.name_of_ofName hk
            exact ⟨rest, hline, hrest, trim_tail_of_isSpaceOrTab hrest⟩
        · cases h
  · rintro ⟨rest, hline, hrest, rfl⟩
    simp only [Line.ofText, hline, tagOfLine_append k.isTagName_name hrest, Keyword.ofName_name,
      trim_tail_of_isSpaceOrTab hrest]

/-- The line carries a tag of the vocabulary. -/
def Line.isTag : Line → Bool
  | .tag _ _ => true
  | _ => false

theorem isTagLine_iff {line : Text} : IsTagLine line ↔ (Line.ofText line).isTag = true := by
  constructor
  · rintro ⟨k, rest, hline, hrest⟩
    rw [Line.ofText_eq_tag_iff.2 ⟨rest, hline, hrest, rfl⟩]
    rfl
  · intro h
    cases hl : Line.ofText line with
    | tag k text =>
        obtain ⟨rest, hline, hrest, -⟩ := Line.ofText_eq_tag_iff.1 hl
        exact ⟨k, rest, hline, hrest⟩
    | prose | unknownTag => rw [hl] at h; cases h

instance : DecidablePred IsTagLine := fun _ => decidable_of_iff _ isTagLine_iff.symm

/-- Every other line stands for itself. -/
theorem Line.ofText_of_not_isTagLine {line : Text} (h : ¬ IsTagLine line) :
    Line.ofText line = .prose line ∨ Line.ofText line = .unknownTag line := by
  rw [isTagLine_iff] at h
  unfold ofText at h ⊢
  split
  · exact .inl rfl
  · next hline =>
      split
      · next hk =>
          rw [hline] at h
          dsimp only at h
          rw [hk] at h
          exact absurd rfl h
      · exact .inr rfl

/-! ### Lines as they are printed -/

/-- What stands in front of each line of a block. -/
def gutter : Text := " * "

theorem dropGutter_gutter (line : Text) : dropGutter (gutter ++ line) = Text.trimEnd line := rfl

theorem dropReturn_gutter (line : Text) :
    Text.dropReturn (gutter ++ line) = gutter ++ Text.dropReturn line := by
  rcases List.eq_nil_or_concat line with rfl | ⟨line, c, rfl⟩
  · rfl
  · simp only [Text.dropReturn, List.concat_eq_append, ← List.append_assoc,
      List.getLast?_concat, List.dropLast_concat]
    split <;> rfl

theorem trimEnd_dropReturn (line : Text) :
    Text.trimEnd (Text.dropReturn line) = Text.trimEnd line := by
  unfold Text.dropReturn
  split
  · next h =>
      obtain ⟨s, rfl⟩ := List.getLast?_eq_some_iff.1 h
      rw [List.dropLast_concat]
      exact (Text.trimEnd_append_of_blank (List.all_eq_true.1 rfl) s).symm
  · rfl

/-- A printed line without its gutter, with or without a carriage return at its end. -/
theorem dropGutter_dropReturn (line : Text) :
    dropGutter (Text.dropReturn (gutter ++ line)) = Text.trimEnd line := by
  rw [dropReturn_gutter, dropGutter_gutter, trimEnd_dropReturn]

/-- The line of a tag without its gutter. -/
def tagLine (k : Keyword) (value : Text) : Text := '@' :: (k.name ++ ' ' :: value)

/-- Trimming a word and a text behind a space leaves the word and what the text is trimmed to. -/
theorem trimEnd_word {word : Text} (h : Text.trimEnd word = word) (t : Text) :
    ∃ rest, Text.trimEnd (word ++ ' ' :: t) = word ++ rest ∧
      (∀ c ∈ rest.head?, isSpaceOrTab c = true) ∧ Text.trim rest = Text.trim t := by
  refine ⟨Text.trimEnd (' ' :: t), ?_, ?_, Text.trim_trimEnd (' ' :: t)⟩
  · rw [Text.trimEnd_append, h]
    split
    · next ht => rw [ht, List.append_nil]
    · rfl
  · rw [← List.singleton_append, Text.trimEnd_append]
    split
    · exact nofun
    · rintro c ⟨⟩
      rfl

/-- A tag line is read back, whatever its value is. -/
theorem Line.ofText_tagLine (k : Keyword) (value : Text) :
    Line.ofText (Text.trimEnd (tagLine k value)) = .tag k (Text.trim value) := by
  have hname : Text.trimEnd ('@' :: k.name) = '@' :: k.name :=
    k.forall_name (P := fun n => Text.trimEnd ('@' :: n) = '@' :: n) (by decide)
  obtain ⟨rest, hline, hrest, htrim⟩ := trimEnd_word hname value
  refine ofText_eq_tag_iff.2 ⟨rest, ?_, hrest, htrim.symm⟩
  rw [tagLine, ← List.cons_append, hline]
  rfl

/-! ### Drafts -/

namespace Draft

theorem readLines_append (d : Draft) (n : Nat) (xs ys : List Text) :
    d.readLines n (xs ++ ys) = (d.readLines n xs).readLines (n + xs.length) ys := by
  induction xs generalizing d n with
  | nil => rfl
  | cons x xs ih =>
      rw [List.cons_append, readLines, readLines, ih, List.length_cons, Nat.add_assoc,
        Nat.add_comm 1]

theorem read_of_not_isTagLine {d : Draft} (hd : d.open? = none) {line : Text}
    (h : ¬ IsTagLine line) (n : Nat) :
    d.read n (Line.ofText line) = { d with body := d.body ++ [line] } := by
  rcases Line.ofText_of_not_isTagLine h with hl | hl
  · simp only [hl, read, hd]
  · simp only [hl, read, close, hd]

/-- **Lines before the first tag** go to the body. -/
theorem readLines_body {d : Draft} (hd : d.open? = none) {ls : List Text}
    (h : ∀ l ∈ ls, ¬ IsTagLine (dropGutter l)) (n : Nat) :
    d.readLines n ls = { d with body := d.body ++ ls.map dropGutter } := by
  induction ls generalizing d n with
  | nil => rw [List.map_nil, List.append_nil]; rfl
  | cons l ls ih =>
      have ih := ih (d := { d with body := d.body ++ [dropGutter l] }) hd
        (fun m hm => h m (List.mem_cons_of_mem l hm)) (n + 1)
      rw [readLines, read_of_not_isTagLine hd (h l List.mem_cons_self), ih, List.map_cons,
        List.append_assoc]
      rfl

/-- The draft with one more tag, of which nothing is wrong. -/
def state (d : Draft) : Keyword → Text → Draft
  | .single tag, value => { d with tags := d.tags.set tag value, recognized := true }
  | .variant kind, value =>
    { d with variants := d.variants ++ [Variant.ofValue kind value], recognized := true }

/-- Nothing is wrong with one more tag: it has the value it needs, and it is not there yet. -/
structure Takes (d : Draft) (k : Keyword) (value : Text) : Prop where
  value : value = [] → k.needsValue = false
  fresh : ∀ tag, k = .single tag → d.tags.get tag = none

theorem joinWith_partOf (t : Text) : Text.joinWith " " (partOf t) = t := by
  cases t <;> rfl

/-- Such a tag is entered without a complaint. -/
theorem enter_of_takes {d : Draft} {k : Keyword} {value : Text} (h : d.Takes k value) (n : Nat) :
    d.enter ⟨k, n, partOf value⟩ = { d.state k value with recognized := d.recognized } := by
  have hempty : (value.isEmpty && k.needsValue) = false := by
    cases value with
    | nil => exact h.value rfl
    | cons c t => rfl
  cases k with
  | single tag =>
      simp only [enter, joinWith_partOf, hempty, h.fresh tag rfl, Option.isSome_none,
        Bool.false_eq_true, if_false, List.append_nil, state]
  | variant kind =>
      simp only [enter, joinWith_partOf, hempty, Bool.false_eq_true, if_false, List.append_nil,
        state]

theorem close_open? (d : Draft) : d.close.open? = none := by
  unfold close
  cases ho : d.open? with
  | none => exact ho
  | some tag => rfl

/-- **A tag line** closes the tag before it, and is closed itself in the end. -/
theorem close_read_tag {d : Draft} {k : Keyword} {value : Text} (h : d.close.Takes k value)
    (n : Nat) : (d.read n (.tag k value)).close = d.close.state k value := by
  have hopen := close_open? d
  -- the draft that the last line leaves, with the tag open
  let e : Draft := { d.close with recognized := true, open? := some ⟨k, n, partOf value⟩ }
  have he : e.enter ⟨k, n, partOf value⟩ = { e.state k value with recognized := true } :=
    enter_of_takes (d := e) ⟨h.value, h.fresh⟩ n
  calc (d.read n (.tag k value)).close
      = { e.enter ⟨k, n, partOf value⟩ with open? := none } := rfl
    _ = { e.state k value with recognized := true, open? := none } := by rw [he]
    _ = d.close.state k value := by cases k <;> simp only [state, e, hopen]

/-! ### Runs of tag lines -/

/-- The draft with more tags, one after the other. -/
def stateAll (d : Draft) (items : List (Keyword × Text)) : Draft :=
  items.foldl (fun d item => d.state item.1 item.2) d

/-- Nothing is wrong with any of the tags. -/
def TakesAll : Draft → List (Keyword × Text) → Prop
  | _, [] => True
  | d, item :: items => d.Takes item.1 item.2 ∧ (d.state item.1 item.2).TakesAll items

theorem takesAll_append {d : Draft} {xs ys : List (Keyword × Text)} :
    d.TakesAll (xs ++ ys) ↔ d.TakesAll xs ∧ (d.stateAll xs).TakesAll ys := by
  induction xs generalizing d with
  | nil => exact (and_iff_right trivial).symm
  | cons x xs ih => exact (and_congr_right fun _ => ih).trans and_assoc.symm

/-- **A run of tag lines** is entered line by line. -/
theorem close_readLines_tagLines {d : Draft} {items : List (Keyword × Text)}
    (h : d.close.TakesAll (items.map fun item => (item.1, Text.trim item.2))) (n : Nat) :
    (d.readLines n
        (items.map fun item => Text.dropReturn (gutter ++ tagLine item.1 item.2))).close
      = d.close.stateAll (items.map fun item => (item.1, Text.trim item.2)) := by
  induction items generalizing d n with
  | nil => rfl
  | cons item items ih =>
      obtain ⟨hitem, hitems⟩ := h
      have hread := close_read_tag hitem n
      rw [List.map_cons, readLines, dropGutter_dropReturn, Line.ofText_tagLine,
        ih (hread ▸ hitems), hread]
      rfl

/-- Tags that are not there yet, each with the value it needs. -/
theorem takesAll_singles {d : Draft} {ts : List (Tag × Text)} (hkeys : (ts.map Prod.fst).Nodup)
    (hnew : ∀ p ∈ ts, d.tags.get p.1 = none) (hvalue : ∀ p ∈ ts, p.2 = [] → p.1.isFlag = true) :
    d.TakesAll (ts.map fun p => (.single p.1, p.2)) := by
  induction ts generalizing d with
  | nil => trivial
  | cons p ts ih =>
      obtain ⟨hp, hkeys⟩ := List.nodup_cons.1 hkeys
      refine ⟨⟨fun he => ?_, ?_⟩, ih hkeys ?_ fun q hq => hvalue q (List.mem_cons_of_mem p hq)⟩
      · simp only [Keyword.needsValue, hvalue p List.mem_cons_self he, Bool.not_true]
      · rintro tag ⟨⟩
        exact hnew p List.mem_cons_self
      · intro q hq
        have hne : q.1 ≠ p.1 := fun e => hp (e ▸ List.mem_map_of_mem hq)
        exact (Tags.get_set d.tags p.1 q.1 p.2).trans
          ((if_neg hne).trans (hnew q (List.mem_cons_of_mem p hq)))

/-- Variants with a value. -/
theorem takesAll_variants {d : Draft} {vs : List Variant} {value : Variant → Text}
    (h : ∀ v ∈ vs, value v ≠ []) : d.TakesAll (vs.map fun v => (.variant v.kind, value v)) := by
  induction vs generalizing d with
  | nil => trivial
  | cons v vs ih =>
      exact ⟨⟨fun he => absurd he (h v List.mem_cons_self), nofun⟩,
        ih fun w hw => h w (List.mem_cons_of_mem v hw)⟩

section Fields

variable (d : Draft)

theorem stateAll_append (xs ys : List (Keyword × Text)) :
    d.stateAll (xs ++ ys) = (d.stateAll xs).stateAll ys :=
  List.foldl_append

@[simp] theorem body_state (k : Keyword) (value : Text) : (d.state k value).body = d.body := by
  cases k <;> rfl

@[simp] theorem diagnostics_state (k : Keyword) (value : Text) :
    (d.state k value).diagnostics = d.diagnostics := by
  cases k <;> rfl

@[simp] theorem recognized_state (k : Keyword) (value : Text) :
    (d.state k value).recognized = true := by
  cases k <;> rfl

theorem body_stateAll (items : List (Keyword × Text)) : (d.stateAll items).body = d.body := by
  induction items generalizing d with
  | nil => rfl
  | cons item items ih => exact (ih _).trans (body_state d _ _)

theorem diagnostics_stateAll (items : List (Keyword × Text)) :
    (d.stateAll items).diagnostics = d.diagnostics := by
  induction items generalizing d with
  | nil => rfl
  | cons item items ih => exact (ih _).trans (diagnostics_state d _ _)

/-- One tag is enough. -/
theorem recognized_stateAll (items : List (Keyword × Text)) :
    (d.stateAll items).recognized = (d.recognized || !items.isEmpty) := by
  induction items generalizing d with
  | nil => exact (Bool.or_false _).symm
  | cons item items ih =>
      refine (ih _).trans ?_
      rw [recognized_state, Bool.true_or, List.isEmpty_cons, Bool.not_false, Bool.or_true]

theorem tags_stateAll_singles (ts : List (Tag × Text)) :
    (d.stateAll (ts.map fun p => (.single p.1, p.2))).tags
      = ts.foldl (fun tags p => tags.set p.1 p.2) d.tags := by
  induction ts generalizing d with
  | nil => rfl
  | cons p ts ih => exact ih _

theorem variants_stateAll_singles (ts : List (Tag × Text)) :
    (d.stateAll (ts.map fun p => (.single p.1, p.2))).variants = d.variants := by
  induction ts generalizing d with
  | nil => rfl
  | cons p ts ih => exact ih _

theorem tags_stateAll_variants (vs : List Variant) (value : Variant → Text) :
    (d.stateAll (vs.map fun v => (.variant v.kind, value v))).tags = d.tags := by
  induction vs generalizing d with
  | nil => rfl
  | cons v vs ih => exact ih _

theorem variants_stateAll_variants {vs : List Variant} {value : Variant → Text}
    (h : ∀ v ∈ vs, Variant.ofValue v.kind (value v) = v) :
    (d.stateAll (vs.map fun v => (.variant v.kind, value v))).variants = d.variants ++ vs := by
  induction vs generalizing d with
  | nil => exact (List.append_nil d.variants).symm
  | cons v vs ih =>
      refine (ih _ fun w hw => h w (List.mem_cons_of_mem v hw)).trans ?_
      simp only [state, h v List.mem_cons_self, List.append_assoc, List.singleton_append]

end Fields

end Draft

end PatternBook
