import PatternBook.Proofs.Declaration.Shape
import PatternBook.Proofs.Text.Lines

/-!
# Declarations on one line

Declarations are written one after the other, with blanks where they are allowed (`Written`).  A
declaration that is read takes its semicolon with it, so the next one needs a boundary of its own:
a blank behind that semicolon.  Without it the next name is passed over.  Its value can still hold
something that looks like a declaration, but never all of the one that was lost: the reader takes
at most one declaration up to each semicolon, and this one has less ink (`inLine_segment`).

* `ofCode_written_iff`: all declarations are found, and nothing else, exactly when each but the
  last is followed by a blank.
* `exists_lost_declaration`: declarations that are lost exist.
-/

namespace PatternBook.Declaration

/-! ### Written declarations -/

/-- Spaces and tabs. -/
abbrev Blanks := { t : Text // ∀ c ∈ t, isSpaceOrTab c = true }

/-- A declaration as it stands on a line. -/
structure Written where
  name         : Text
  value        : Text
  beforeColon  : Blanks
  afterColon   : Blanks
  afterValue   : Blanks
  /-- What stands between the semicolon and the next declaration. -/
  gap          : Blanks
  isName       : IsName name
  value_ne_nil : value ≠ []
  trim_value   : Text.trim value = value
  inValue      : ∀ c ∈ value, endsValue c = false ∧ c ≠ '\n'

namespace Written

/-- The declaration up to its semicolon. -/
def front (d : Written) : Text :=
  d.name ++ d.beforeColon ++ ':' :: (d.afterColon ++ d.value ++ d.afterValue)

/-- The declaration with the blanks behind it. -/
def text (d : Written) : Text := d.front ++ ';' :: d.gap

/-- What is declared. -/
def declared (d : Written) : Variable := ⟨d.name, d.value, none⟩

/-- The declarations one after the other. -/
def textAll (ds : List Written) : Text := ds.flatMap text

theorem textAll_cons (d : Written) (ds : List Written) :
    textAll (d :: ds) = d.front ++ ';' :: (d.gap ++ textAll ds) := by
  simp [textAll, text]

end Written

/-! ### Characters that do not occur -/

theorem IsName.mem {name : Text} (h : IsName name) {c : Char} (hc : c ∈ name) :
    isNameChar c = true ∨ c = '$' ∨ c = '@' := by
  obtain ⟨mark, word, hm, -, hw, rfl⟩ := h
  rcases List.mem_append.1 hc with hc | hc
  · simp only [sigils, List.mem_cons, List.not_mem_nil, or_false] at hm
    rcases hm with rfl | rfl | rfl
    · left
      have : c = '-' := by simpa using hc
      subst this
      decide
    · exact .inr (.inl (by simpa using hc))
    · exact .inr (.inr (by simpa using hc))
  · exact .inl (hw c hc)

theorem IsName.notMem {name : Text} (h : IsName name) {c : Char} (hn : isNameChar c = false)
    (h₁ : c ≠ '$') (h₂ : c ≠ '@') : c ∉ name := fun hc => by
  rcases h.mem hc with hc | hc | hc
  · rw [hn] at hc; cases hc
  · exact h₁ hc
  · exact h₂ hc

theorem Blanks.notMem {c : Char} (h : isSpaceOrTab c = false) (b : Blanks) : c ∉ b.1 := fun hc => by
  rw [b.2 c hc] at h; cases h

theorem endsValue_eq_false_of_isSpaceOrTab {c : Char} (h : isSpaceOrTab c = true) :
    endsValue c = false := by
  rcases Text.eq_of_isSpaceOrTab h with rfl | rfl <;> rfl

theorem isBoundary_of_isSpaceOrTab {c : Char} (h : isSpaceOrTab c = true) :
    isBoundary c = true := by
  rcases Text.eq_of_isSpaceOrTab h with rfl | rfl <;> rfl

theorem notMem_of_endsValue {c : Char} {raw : Text} (h : ∀ d ∈ raw, endsValue d = false)
    (hc : endsValue c = true) : c ∉ raw := fun hm => by
  rw [h c hm] at hc; cases hc

/-! ### What a segment up to a semicolon gives -/

/-- The ink of a name and its value. -/
def ink (v : Variable) : Nat := v.name.countP Text.isInk + v.value.countP Text.isInk

theorem countP_isInk_eq_zero {t : Text} (h : ∀ c ∈ t, isSpaceOrTab c = true) :
    t.countP Text.isInk = 0 :=
  List.countP_eq_zero.2 fun c hc => by
    simp [Text.isInk, Text.isBlank_of_isSpaceOrTab (h c hc)]

theorem countP_front {name blanks raw : Text} (h : ∀ c ∈ blanks, isSpaceOrTab c = true) :
    (name ++ blanks ++ ':' :: raw).countP Text.isInk
      = name.countP Text.isInk + (Text.trim raw).countP Text.isInk + 1 := by
  have hcolon : Text.isInk ':' = true := by decide
  rw [List.countP_append, List.countP_append, countP_isInk_eq_zero h,
    List.countP_cons_of_pos hcolon, Text.countP_trim]
  omega

/-- A declaration has no semicolon but the one that ends it. -/
theorem semicolon_notMem_front {name blanks raw : Text} (hname : IsName name)
    (hblanks : ∀ c ∈ blanks, isSpaceOrTab c = true) (hraw : ∀ c ∈ raw, endsValue c = false) :
    ';' ∉ name ++ blanks ++ ':' :: raw := by
  rw [List.mem_append, List.mem_append, List.mem_cons]
  rintro ((hc | hc) | hc | hc)
  · exact hname.notMem (by decide) (by decide) (by decide) hc
  · exact absurd (hblanks _ hc) (by decide)
  · exact absurd hc (by decide)
  · exact notMem_of_endsValue hraw (by decide) hc

/-- A declaration that ends at the first semicolon of a text has all the ink before it. -/
theorem ink_of_first? {t u rest : Text} {v : Variable} (ht : ∀ c ∈ t, endsValue c = false)
    (h : first? (t ++ ';' :: u) = some (v, rest)) :
    ink v + 1 = t.countP Text.isInk ∧ rest = (comment u).2 := by
  obtain ⟨name, blanks, raw, after, hname, hblanks, -, hraw, heq, rfl, rfl⟩ :=
    first?_eq_some_iff.1 h
  have hfront := semicolon_notMem_front hname hblanks hraw
  have heq' : t ++ ';' :: u = (name ++ blanks ++ ':' :: raw) ++ ';' :: after := by simpa using heq
  obtain ⟨rfl, rfl⟩ := Text.append_cons_inj (notMem_of_endsValue ht (by decide)) hfront heq'
  exact ⟨(countP_front hblanks).symm, rfl⟩

/-- **A segment up to a semicolon gives at most one declaration.**  It gives none, and then its
semicolon is a boundary for what follows; or it gives one with less ink than the segment, and then
what follows has no boundary in front of it. -/
theorem inLine_segment {s : Text} (hs : ∀ c ∈ s, endsValue c = false) (u : Text) :
    inLine (s ++ ';' :: u) = ofLine u ∨
      ∃ v, ink v < s.countP Text.isInk ∧ inLine (s ++ ';' :: u) = v :: inLine (comment u).2 := by
  -- the reader moves on by one character until a declaration starts behind a boundary
  induction s with
  | nil => exact .inl (inLine_cons_boundary (by decide) u)
  | cons c s ih =>
      have hs' : ∀ d ∈ s, endsValue d = false := fun d hd => hs d (List.mem_cons_of_mem c hd)
      have ih := ih hs'
      have hle : s.countP Text.isInk ≤ (c :: s).countP Text.isInk :=
        (List.sublist_cons_self c s).countP_le
      have later : inLine (s ++ ';' :: u) = ofLine u ∨ ∃ v, ink v < (c :: s).countP Text.isInk ∧
          inLine (s ++ ';' :: u) = v :: inLine (comment u).2 := by
        rcases ih with h | ⟨v, hv, h⟩
        · exact .inl h
        · exact .inr ⟨v, hv.trans_le hle, h⟩
      rw [List.cons_append]
      cases hb : isBoundary c with
      | false => rwa [inLine_cons_other hb]
      | true =>
          rw [inLine_cons_boundary hb]
          cases hf : first? (s ++ ';' :: u) with
          | none => rwa [ofLine_of_first?_none hf]
          | some found =>
              obtain ⟨v, rest⟩ := found
              obtain ⟨hink, rfl⟩ := ink_of_first? hs' hf
              exact .inr ⟨v, by omega, ofLine_of_first? hf⟩

/-! ### Reading written declarations -/

namespace Written

theorem front_inValue (d : Written) : ∀ c ∈ d.front, endsValue c = false := by
  intro c hc
  simp only [front, List.mem_append, List.mem_cons] at hc
  rcases hc with (hc | hc) | rfl | (hc | hc) | hc
  · rcases h : endsValue c with _ | _
    · rfl
    · simp only [endsValue, Bool.or_eq_true, beq_iff_eq] at h
      rcases h with (rfl | rfl) | rfl <;>
        exact absurd hc (d.isName.notMem (by decide) (by decide) (by decide))
  · exact endsValue_eq_false_of_isSpaceOrTab (d.beforeColon.2 c hc)
  · decide
  · exact endsValue_eq_false_of_isSpaceOrTab (d.afterColon.2 c hc)
  · exact (d.inValue c hc).1
  · exact endsValue_eq_false_of_isSpaceOrTab (d.afterValue.2 c hc)

theorem trim_raw (d : Written) : Text.trim (d.afterColon ++ d.value ++ d.afterValue) = d.value := by
  rw [Text.trim_append_of_blank (fun c hc => Text.isBlank_of_isSpaceOrTab (d.afterColon.2 c hc))
    (fun c hc => Text.isBlank_of_isSpaceOrTab (d.afterValue.2 c hc)), d.trim_value]

/-- A written declaration is read where it stands. -/
theorem first?_front (d : Written) (after : Text) :
    first? (d.front ++ ';' :: after)
      = some (⟨d.name, d.value, (comment after).1⟩, (comment after).2) := by
  refine first?_eq_some_iff.2 ⟨d.name, d.beforeColon, d.afterColon ++ d.value ++ d.afterValue,
    after, d.isName, d.beforeColon.2, ?_, ?_, ?_, ?_, rfl⟩
  · simp [d.value_ne_nil]
  · intro c hc
    exact d.front_inValue c (List.mem_append_right _ (List.mem_cons_of_mem _ hc))
  · simp [front]
  · rw [d.trim_raw]

theorem ink_declared (d : Written) : ink d.declared + 1 = d.front.countP Text.isInk := by
  rw [front, countP_front d.beforeColon.2, d.trim_raw]
  rfl

/-- The first character of declarations is the mark of a name. -/
theorem head?_textAll (ds : List Written) :
    ∀ c ∈ (textAll ds).head?, c = '-' ∨ c = '$' ∨ c = '@' := by
  cases ds with
  | nil => intro c hc; cases hc
  | cons d ds =>
      obtain ⟨c, t, hc, hmark⟩ := d.isName.exists_cons
      intro e he
      rw [textAll_cons, front, hc] at he
      obtain rfl : c = e := by simpa using he
      exact hmark

/-- No comment follows the semicolon. -/
theorem comment_gap (b : Blanks) (ds : List Written) :
    comment (b ++ textAll ds) = (none, b ++ textAll ds) := by
  have hhead := head?_textAll ds
  have hstop : ∀ c ∈ (textAll ds).head?, isSpaceOrTab c = false := by
    intro c hc
    rcases hhead c hc with rfl | rfl | rfl <;> decide
  unfold comment
  rw [Text.dropWhile_append_of_stop b.2 hstop]
  split
  · next h => rw [h] at hhead; exact absurd (hhead _ rfl) (by decide)
  · next h => rw [h] at hhead; exact absurd (hhead _ rfl) (by decide)
  · rfl

/-- Behind a blank a line is read as at its start; without one it is not. -/
theorem inLine_gap (b : Blanks) (t : Text) :
    inLine (b ++ t) = if b.1 = [] then inLine t else ofLine t := by
  obtain ⟨b, hb⟩ := b
  induction b with
  | nil => rfl
  | cons c b ih =>
      have hb' : ∀ d ∈ b, isSpaceOrTab d = true := fun d hd => hb d (List.mem_cons_of_mem c hd)
      rw [if_neg (List.cons_ne_nil c b)]
      show inLine (c :: (b ++ t)) = ofLine t
      rw [inLine_cons_boundary (isBoundary_of_isSpaceOrTab (hb c List.mem_cons_self))]
      cases b with
      | nil => rfl
      | cons e b =>
          have he := first?_cons_eq_none (hb' e List.mem_cons_self) (b ++ t)
          rw [List.cons_append, ofLine_of_first?_none he]
          exact (ih hb').trans (if_neg (List.cons_ne_nil e b))

theorem ofLine_gap (b : Blanks) (t : Text) : ofLine (b ++ t) = ofLine t := by
  obtain ⟨b, hb⟩ := b
  cases b with
  | nil => rfl
  | cons c b =>
      have h := inLine_gap ⟨c :: b, hb⟩ t
      rw [if_neg (List.cons_ne_nil c b)] at h
      rw [← h]
      exact ofLine_of_first?_none (first?_cons_eq_none (hb c List.mem_cons_self) _)

/-- At a boundary, the declaration is found. -/
theorem ofLine_textAll_cons (d : Written) (ds : List Written) :
    ofLine (textAll (d :: ds)) = d.declared :: inLine (d.gap ++ textAll ds) := by
  rw [textAll_cons, ofLine_of_first? (d.first?_front _), comment_gap]
  rfl

/-- Away from a boundary, the declaration is lost: it gives nothing, or something else. -/
theorem inLine_textAll_cons (d : Written) (ds : List Written) :
    inLine (textAll (d :: ds)) = ofLine (textAll ds) ∨
      ∃ v, ink v < ink d.declared ∧
        inLine (textAll (d :: ds)) = v :: inLine (d.gap ++ textAll ds) := by
  obtain ⟨c, t, hc, hmark⟩ := d.isName.exists_cons
  obtain ⟨s, hs⟩ : ∃ s, d.front = c :: s := ⟨_, by rw [front, hc]; rfl⟩
  have hin : ∀ e ∈ s, endsValue e = false := fun e he =>
    d.front_inValue e (by rw [hs]; exact List.mem_cons_of_mem c he)
  have hother : isBoundary c = false := by rcases hmark with rfl | rfl | rfl <;> decide
  have hinkc : Text.isInk c = true := by rcases hmark with rfl | rfl | rfl <;> decide
  have hink : ink d.declared = s.countP Text.isInk := by
    have h := d.ink_declared
    rw [hs, List.countP_cons_of_pos hinkc] at h
    exact Nat.succ.inj h
  rw [textAll_cons, hs, List.cons_append, inLine_cons_other hother, hink]
  rcases inLine_segment hin (d.gap ++ textAll ds) with h | ⟨v, hv, h⟩
  · exact .inl (h.trans (ofLine_gap d.gap _))
  · exact .inr ⟨v, hv, by rw [h, comment_gap]⟩

/-! ### All or not all -/

/-- At most one declaration is read for each that is written, from a boundary or not. -/
theorem length_textAll_le (ds : List Written) :
    (ofLine (textAll ds)).length ≤ ds.length ∧ (inLine (textAll ds)).length ≤ ds.length := by
  induction ds with
  | nil => exact ⟨(congrArg List.length ofLine_nil).le, (congrArg List.length inLine_nil).le⟩
  | cons d ds ih =>
      have hgap : (inLine (d.gap ++ textAll ds)).length ≤ ds.length := by
        rw [inLine_gap]
        split
        · exact ih.2
        · exact ih.1
      constructor
      · rw [ofLine_textAll_cons, List.length_cons, List.length_cons]
        exact Nat.succ_le_succ hgap
      · rcases inLine_textAll_cons d ds with h | ⟨v, -, h⟩
        · rw [h, List.length_cons]
          exact ih.1.trans (Nat.le_succ _)
        · rw [h, List.length_cons, List.length_cons]
          exact Nat.succ_le_succ hgap

/-- Away from a boundary, not all declarations are read. -/
theorem inLine_textAll_ne (d : Written) (ds : List Written) :
    inLine (textAll (d :: ds)) ≠ (d :: ds).map declared := by
  intro heq
  rcases inLine_textAll_cons d ds with h | ⟨v, hv, h⟩
  · have hlen := (length_textAll_le ds).1
    rw [← h, heq, List.length_map, List.length_cons] at hlen
    exact absurd hlen (Nat.not_succ_le_self _)
  · rw [h, List.map_cons] at heq
    rw [(List.cons.inj heq).1] at hv
    exact absurd hv (Nat.lt_irrefl _)

theorem ofLine_textAll_iff (ds : List Written) :
    ofLine (textAll ds) = ds.map declared ↔ ∀ d ∈ ds.dropLast, d.gap.1 ≠ [] := by
  induction ds with
  | nil => exact iff_of_true ofLine_nil fun _ h => by cases h
  | cons d ds ih =>
      rw [ofLine_textAll_cons, List.map_cons, List.cons_eq_cons, inLine_gap]
      cases ds with
      | nil => simp [textAll, ofLine_nil, inLine_nil]
      | cons e ds =>
          rw [List.dropLast_cons_cons, List.forall_mem_cons]
          by_cases hgap : d.gap.1 = []
          -- `e` is lost, and what is read instead of it has less ink
          · rw [if_pos hgap]
            exact iff_of_false (fun h => inLine_textAll_ne e ds h.2) fun h => h.1 hgap
          · rw [if_neg hgap, ih]
            exact and_congr (iff_of_true rfl hgap) Iff.rfl

theorem newline_notMem_textAll (ds : List Written) : '\n' ∉ textAll ds := by
  intro h
  obtain ⟨d, -, hd⟩ := List.mem_flatMap.1 h
  simp only [text, front, List.mem_append, List.mem_cons] at hd
  rcases hd with ((hd | hd) | hd | (hd | hd) | hd) | hd | hd
  · exact d.isName.notMem (by decide) (by decide) (by decide) hd
  · exact Blanks.notMem (by decide) d.beforeColon hd
  · exact absurd hd (by decide)
  · exact Blanks.notMem (by decide) d.afterColon hd
  · exact (d.inValue _ hd).2 rfl
  · exact Blanks.notMem (by decide) d.afterValue hd
  · exact absurd hd (by decide)
  · exact Blanks.notMem (by decide) d.gap hd

end Written

/-- A piece of code without a newline is one line. -/
theorem ofCode_eq_ofLine {code : Text} (h : '\n' ∉ code) : ofCode code = ofLine code := by
  rw [ofCode, Text.lines_eq_of_notMem h]
  split
  · next he =>
      rw [List.isEmpty_iff.1 he]
      exact ofLine_nil.symm
  · simp

/-- **When no declaration of a line is lost**: the declarations read are the ones written, in
order and without a comment, exactly when each of them but the last has a blank behind its
semicolon. -/
theorem ofCode_written_iff (ds : List Written) :
    ofCode (Written.textAll ds) = ds.map Written.declared ↔ ∀ d ∈ ds.dropLast, d.gap.1 ≠ [] := by
  rw [ofCode_eq_ofLine (Written.newline_notMem_textAll ds), Written.ofLine_textAll_iff]

/-- A declaration right behind the semicolon of another one is lost. -/
theorem exists_lost_declaration :
    ¬ ∀ ds : List Written, ofCode (Written.textAll ds) = ds.map Written.declared := by
  intro h
  let no : Blanks := ⟨[], by simp⟩
  have isName : ∀ w : Text, w ≠ [] → w.all isNameChar = true → IsName ("--" ++ w) :=
    fun w hne hw => ⟨"--", w, by decide, hne, List.all_eq_true.1 hw, rfl⟩
  have inValue : ∀ w : Text, (w.all fun c => !endsValue c && c != '\n') = true →
      ∀ c ∈ w, endsValue c = false ∧ c ≠ '\n' :=
    fun w hw c hc => by simpa using List.all_eq_true.1 hw c hc
  have := h [
    ⟨"--a", "1px", no, no, no, no, isName "a" (by decide) (by decide), by decide, by decide,
      inValue "1px" (by decide)⟩,
    ⟨"--b", "2px", no, no, no, no, isName "b" (by decide) (by decide), by decide, by decide,
      inValue "2px" (by decide)⟩]
  rw [ofCode_eq_ofLine (Written.newline_notMem_textAll _), Written.ofLine_textAll_iff] at this
  exact this _ List.mem_cons_self rfl

end PatternBook.Declaration
