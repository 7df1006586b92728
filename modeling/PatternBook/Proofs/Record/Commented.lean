import PatternBook.Proofs.Declaration.Scan
import PatternBook.Proofs.Record.Segments

/-!
# Declarations in comments

The code of a record can hold comments: remarks behind code, line comments, and an opener that is
never closed with all that follows it (`Comment`).  The reader of declarations does not know them.
All that it passes over is the comment right behind the semicolon of a declaration, so what is
declared in such a comment is not found, but what is declared in any other one is, unless it is
hidden by another declaration.

* `exists_comment_iff`: the blocks of a source are comments of it.
* `Comment.covers_of_trails`: what a comment behind a semicolon hides.
* `Findings.Uncommented`, `Findings.uncommented_iff`: no variable of a source is declared in a
  comment, exactly if all that stand in a comment of another kind are hidden.
* `Findings.exists_documented_comment`: declarations in comments are found.
-/

namespace PatternBook

open Declaration

variable {f : Family} {source : Text}

/-! ### Bytes and characters -/

namespace Text

variable {s t u v : Text}

theorem append_inj_of_size (h : s ++ u = t ++ v) (hsize : size s = size t) : s = t ∧ u = v := by
  obtain ⟨w, rfl⟩ := prefix_of_size_le h hsize.le
  rw [size_append] at hsize
  obtain rfl := eq_nil_of_size (t := w) (by omega)
  rw [List.append_nil] at h ⊢
  exact ⟨rfl, List.append_cancel_left h⟩

/-- A cut is the first one, however the text goes on behind it. -/
theorem prefix_of_splitAt?_append {mark before rest : Text}
    (h : splitAt? mark t = some (before, rest)) {r : Text}
    (heq : before ++ mark ++ u = s ++ mark ++ r) : before <+: s := by
  have hbefore : before <+: s ++ mark ++ r := ⟨mark ++ u, by rw [← heq, List.append_assoc]⟩
  have hs : s <+: s ++ mark ++ r := ⟨mark ++ r, (List.append_assoc ..).symm⟩
  rcases List.prefix_or_prefix_of_prefix hbefore hs with hle | hle
  · exact hle
  · -- the mark behind `s` lies in front of the end of the mark behind `before`
    have hsmark : s ++ mark <+: s ++ mark ++ r := List.prefix_append ..
    have hmark : s ++ mark <+: before ++ mark := by
      refine List.prefix_of_prefix_length_le hsmark ⟨u, heq⟩ ?_
      rw [List.length_append, List.length_append]
      exact Nat.add_le_add_right hle.length_le _
    obtain ⟨w, hw⟩ := hmark
    have ht : t = s ++ mark ++ (w ++ rest) := by
      rw [← List.append_assoc, hw]
      exact eq_of_splitAt? h
    exact prefix_of_splitAt? h ht

end Text

/-! ### Comments -/

/-- The token is no code. -/
def Token.isComment : Token → Bool
  | .block _ | .unclosed _ | .lineComment _ => true
  | .quoted _ | .plain _ => false

/-- A comment of a source, among its tokens. -/
structure Comment (f : Family) (source : Text) where
  earlier    : List Token
  token      : Token
  later      : List Token
  eq_tokens  : tokens f source = earlier ++ token :: later
  isComment  : token.isComment = true

/-- The rule by which a token of a source was cut off. -/
theorem exists_heads {xs ys : List Token} {x : Token} (h : tokens f source = xs ++ x :: ys) :
    ∃ c t rest, Token.Heads f c t x rest := by
  induction source using tokens.induct f generalizing xs with
  | case1 =>
      rw [tokens] at h
      cases xs <;> cases h
  | case2 c t ih =>
      have hfirst := Token.heads_first f c t
      rw [tokens_of_heads hfirst] at h
      cases xs with
      | nil =>
          obtain ⟨rfl, -⟩ := List.cons.inj h
          exact ⟨c, t, _, hfirst⟩
      | cons y xs => exact ih (List.cons.inj h).2

namespace Comment

/-- What stands in front of the comment. -/
def front (c : Comment f source) : Text := c.earlier.flatMap (Token.text f)

/-- The bytes of the comment. -/
def segment (c : Comment f source) : Segment where
  start := Text.size c.front
  stop := Text.size c.front + Text.size (c.token.text f)

/-- The bytes lie in the comment. -/
def Encloses (c : Comment f source) (s : Segment) : Prop :=
  c.segment.start ≤ s.start ∧ s.stop ≤ c.segment.stop

theorem eq_source (c : Comment f source) :
    source = c.front ++ c.token.text f ++ c.later.flatMap (Token.text f) := by
  have htext := text_tokens f source
  rw [c.eq_tokens, List.flatMap_append, List.flatMap_cons, ← List.append_assoc] at htext
  exact htext.symm

end Comment

/-- A block is found where its token stands. -/
theorem Extraction.mem_blocks_iff {p : Place} {xs : List Token} {b : Block} :
    b ∈ (ofTokens f p xs).blocks ↔ ∃ ys zs, xs = ys ++ .block b.text :: zs ∧
      b = Block.at f (p.past (ys.flatMap (Token.text f))) b.text := by
  induction xs generalizing p with
  | nil =>
      refine iff_of_false List.not_mem_nil ?_
      rintro ⟨ys, zs, h, -⟩
      cases ys <;> cases h
  | cons x xs ih =>
      -- the block is the first token, or it stands further on
      have hcut : (∃ ys zs, x :: xs = ys ++ .block b.text :: zs ∧
            b = Block.at f (p.past (ys.flatMap (Token.text f))) b.text) ↔
          (x = .block b.text ∧ b = Block.at f p b.text) ∨
            b ∈ (ofTokens f (p.past (x.text f)) xs).blocks := by
        rw [ih]
        constructor
        · rintro ⟨_ | ⟨y, ys⟩, zs, h, hb⟩
          · exact .inl ⟨(List.cons.inj h).1, hb⟩
          · obtain ⟨rfl, htail⟩ := List.cons.inj h
            rw [List.flatMap_cons, Place.past_append] at hb
            exact .inr ⟨ys, zs, htail, hb⟩
        · rintro (⟨rfl, hb⟩ | ⟨ys, zs, rfl, hb⟩)
          · exact ⟨[], xs, rfl, hb⟩
          · refine ⟨x :: ys, zs, rfl, ?_⟩
            rwa [List.flatMap_cons, Place.past_append]
      rw [hcut]
      cases x with
      | quoted _ | lineComment _ | plain _ | unclosed _ => simp [ofTokens]
      | block inner =>
          rw [ofTokens, List.mem_cons]
          refine or_congr_left ⟨?_, ?_⟩
          · rintro rfl
            exact ⟨rfl, rfl⟩
          · rintro ⟨h, hb⟩
            rw [Token.block.inj h]
            exact hb

/-- **The blocks of a source are comments of it**, and no other comment is a block. -/
theorem exists_comment_iff {inner : Text} {s : Segment} :
    (∃ b ∈ (extract f source).blocks, b.text = inner ∧ (⟨b.start, b.stop⟩ : Segment) = s) ↔
      ∃ c : Comment f source, c.token = .block inner ∧ c.segment = s := by
  have hsegment (front : Text) : (⟨(Block.at f (Place.start.past front) inner).start,
      (Block.at f (Place.start.past front) inner).stop⟩ : Segment)
        = ⟨front.size, front.size + ((Token.block inner).text f).size⟩ := by
    simp only [Block.at, Place.offset_past, Place.start, Nat.zero_add]
  constructor
  · rintro ⟨b, hb, htext, rfl⟩
    obtain ⟨ys, zs, htokens, hat⟩ := Extraction.mem_blocks_iff.1 hb
    rw [htext] at htokens hat
    refine ⟨⟨ys, .block inner, zs, htokens, rfl⟩, rfl, ?_⟩
    rw [hat, hsegment]
    rfl
  · rintro ⟨⟨ys, _, zs, htokens, _⟩, rfl, rfl⟩
    exact ⟨_, Extraction.mem_blocks_iff.2 ⟨ys, zs, htokens, rfl⟩, rfl, hsegment _⟩

/-! ### Parts of the code in front of a declaration -/

namespace Declaration.Site

variable {code : Text} {s t : Site code} {w : Text}

theorem prefix_code_of_prefix_rest (h : w <+: t.rest) : t.before ++ t.text ++ w <+: code := by
  obtain ⟨u, hu, -⟩ := Text.exists_lineEnd t.after
  have hafter : w <+: t.after := h.trans ⟨u, hu.symm⟩
  have hcode := (List.prefix_append_right_inj (t.before ++ t.text)).2 hafter
  rwa [text, ← t.eq_code] at hcode

theorem before_isPrefix (s : Site code) : s.before <+: code :=
  ⟨s.text ++ s.after, by rw [← List.append_assoc, text, ← s.eq_code]⟩

/-- Of two texts with which the code starts, the one with fewer bytes is a part of the other. -/
theorem prefix_of_prefix_code {v : Text} (hv : v <+: code) (hw : w <+: code)
    (hsize : Text.size v ≤ Text.size w) : v <+: w := by
  obtain ⟨x, hx⟩ := hv
  obtain ⟨y, hy⟩ := hw
  exact Text.prefix_of_size_le (hx.trans hy.symm) hsize

/-- A declaration that stands further on, in bytes, than a part of the line behind another one. -/
theorem exists_between (h : w <+: t.rest)
    (hsize : Text.size (t.before ++ t.text ++ w) ≤ Text.size s.before) :
    ∃ between, s.before = t.before ++ t.text ++ w ++ between ∧
      t.after = w ++ between ++ s.text ++ s.after := by
  obtain ⟨between, hbetween⟩ := prefix_of_prefix_code (prefix_code_of_prefix_rest h)
    s.before_isPrefix hsize
  refine ⟨between, hbetween.symm, ?_⟩
  have hcode := t.eq_code.symm.trans s.eq_code
  rw [← hbetween] at hcode
  simpa [text] using hcode

theorem start_lt_of_size_le (h : w <+: t.rest)
    (hsize : Text.size (t.before ++ t.text ++ w) ≤ Text.size s.before) : t.start < s.start := by
  obtain ⟨between, hbefore, -⟩ := exists_between h hsize
  have hlength := congrArg List.length hbefore
  have hlt := t.start_lt_stop
  simp only [List.length_append] at hlength
  simp only [stop, start] at hlt ⊢
  omega

/-- A declaration that no newline separates from another one starts on the same line. -/
theorem start_le_of_newline_notMem {between : Text}
    (hbefore : s.before = t.before ++ t.text ++ between)
    (hafter : t.after = between ++ s.text ++ s.after) (hnewline : '\n' ∉ between) :
    s.start ≤ t.stop + t.rest.length := by
  obtain ⟨ending, hline, hend⟩ := Text.exists_lineEnd t.after
  obtain ⟨d, name, hname, hmark⟩ := s.isName.exists_cons
  have hd : d ≠ '\r' ∧ d ≠ '\n' := by
    rcases hmark with rfl | rfl | rfl <;> decide
  have hrest : t.rest ++ ending
      = between ++ [d] ++ (name ++ s.gap ++ ':' :: s.raw ++ [';'] ++ s.after) := by
    rw [rest, ← hline, hafter, text, hname]
    simp
  have honeline : '\n' ∉ between ++ [d] := by simp [hnewline, hd.2.symm]
  obtain ⟨r, hr, -⟩ := hend.exists_append hd.1 honeline hrest
  have hlength := congrArg List.length hbefore
  have hlength' : t.rest.length = _ := congrArg List.length hr
  simp only [List.length_append] at hlength hlength'
  simp only [stop, start]
  omega

/-- The bytes of the name of a declaration in the code of a chapter. -/
def nameIn (s : Site code) (c : Chapter) : Segment where
  start := c.segment.start + Text.size s.before
  stop := c.segment.start + Text.size s.before + Text.size s.name

end Declaration.Site

/-! ### What a comment behind a semicolon hides -/

namespace Comment

variable {code : Text} {c : Comment f source} {chapter : Chapter} {s t : Site code}

/-- The comment comes right behind the semicolon of a declaration in the code of a chapter, and a
block ends on the same line. -/
inductive Trails (c : Comment f source) (chapter : Chapter) (t : Site code) : Prop
  | block {inner : Text} (blanks : Blanks) (hf : f ≠ .markup) (htoken : c.token = .block inner)
      (hrest : (blanks : Text) ++ c.token.text f <+: t.rest)
      (hstart : c.segment.start
        = chapter.segment.start + Text.size (t.before ++ t.text ++ blanks))
  | line {text : Text} (blanks : Blanks) (htoken : c.token = .lineComment text)
      (hrest : (blanks : Text) ++ ("//" : Text) <+: t.rest)
      (hstart : c.segment.start
        = chapter.segment.start + Text.size (t.before ++ t.text ++ blanks))

/-- A block behind a semicolon is a comment for the reader, too. -/
theorem leads_block {blanks : Blanks} {inner : Text} (hf : f ≠ .markup)
    (htoken : c.token = .block inner) (hrest : (blanks : Text) ++ c.token.text f <+: t.rest) :
    Remark.Leads ⟨blanks ++ c.token.text f, inner⟩ t.rest := by
  obtain ⟨rest, hrest⟩ := hrest
  obtain ⟨d, u, after, hheads⟩ := exists_heads c.eq_tokens
  rw [htoken] at hheads hrest ⊢
  have hdelimiters : f.opening = "/*" ∧ f.closing = "*/" := by
    cases f with
    | css | script => exact ⟨rfl, rfl⟩
    | markup => exact absurd rfl hf
  have htext : (blanks : Text) ++ (Token.block inner).text f = blanks ++ "/*" ++ inner ++ "*/" := by
    rw [Token.text, hdelimiters.1, hdelimiters.2]
    simp only [List.append_assoc]
  cases hheads with
  | block _ _ _ hcut =>
      rw [hdelimiters.2] at hcut
      rw [← hrest, htext]
      exact .block blanks fun s r heq => Text.prefix_of_splitAt?_append hcut heq

theorem newline_notMem_of_lineComment {text : Text} (htoken : c.token = .lineComment text) :
    '\n' ∉ text := by
  obtain ⟨d, u, after, hheads⟩ := exists_heads c.eq_tokens
  rw [htoken] at hheads
  cases hheads with
  | lineComment _ _ =>
      intro hmem
      simpa using List.mem_takeWhile_imp hmem

/-- A name in a comment, with what stands in front of it in the comment, is a part of that. -/
theorem prefix_of_encloses {front between : Text} {stop : Nat}
    (hcode : source.Holds chapter.segment.start stop code)
    (hname : c.Encloses (s.nameIn chapter))
    (hstart : c.segment.start = chapter.segment.start + Text.size front)
    (hbefore : s.before = front ++ between) : between ++ s.name <+: c.token.text f := by
  obtain ⟨earlier, later, hsource, hsize, -⟩ := hcode
  have hcode : code = front ++ (between ++ s.text ++ s.after) := by
    have hs := s.eq_code
    rw [hbefore] at hs
    simpa [Site.text] using hs
  rw [hcode] at hsource
  have heq : c.front ++ (c.token.text f ++ c.later.flatMap (Token.text f))
      = (earlier ++ front) ++ (between ++ s.text ++ s.after ++ later) := by
    simpa using c.eq_source.symm.trans hsource
  have hfront : Text.size c.front = Text.size (earlier ++ front) := by
    rw [Text.size_append, hsize]
    exact hstart
  have htail : between ++ s.name ++ (s.gap ++ ':' :: s.raw ++ [';'] ++ s.after ++ later)
      = c.token.text f ++ c.later.flatMap (Token.text f) := by
    rw [(Text.append_inj_of_size heq hfront).2, Site.text]
    simp
  refine Text.prefix_of_size_le htail ?_
  have hlast : chapter.segment.start + Text.size s.before + Text.size s.name
      ≤ c.segment.start + Text.size (c.token.text f) := hname.2
  rw [hbefore, hstart, Text.size_append front] at hlast
  rw [Text.size_append]
  omega

/-- What has its name in a line comment behind a semicolon starts on the same line. -/
theorem start_le_of_line {text : Text} {stop : Nat} {blanks : Blanks}
    (hcode : source.Holds chapter.segment.start stop code)
    (hname : c.Encloses (s.nameIn chapter)) (htoken : c.token = .lineComment text)
    (hrest : (blanks : Text) <+: t.rest)
    (hstart : c.segment.start
      = chapter.segment.start + Text.size (t.before ++ t.text ++ blanks)) :
    s.start ≤ t.stop + t.rest.length := by
  have hfirst : c.segment.start ≤ chapter.segment.start + Text.size s.before := hname.1
  obtain ⟨between, hbefore, hafter⟩ := Site.exists_between (s := s) hrest (by omega)
  have hinside := prefix_of_encloses hcode hname hstart hbefore
  rw [htoken] at hinside
  rw [List.append_assoc] at hbefore
  refine Site.start_le_of_newline_notMem hbefore hafter fun hmem => ?_
  rcases List.mem_append.1 hmem with hmem | hmem
  · exact Blanks.notMem (by decide) blanks hmem
  · have hin := hinside.subset (List.mem_append_left _ hmem)
    exact newline_notMem_of_lineComment htoken hin

/-- **What is declared in a comment behind a semicolon** is hidden by the declaration in front of
it. -/
theorem covers_of_trails {stop : Nat} (hcode : source.Holds chapter.segment.start stop code)
    (htrails : c.Trails chapter t) (hname : c.Encloses (s.nameIn chapter)) :
    t.Covers s.start := by
  have hfirst : c.segment.start ≤ chapter.segment.start + Text.size s.before := hname.1
  have hlast : chapter.segment.start + Text.size s.before + Text.size s.name ≤ c.segment.start +
    Text.size (c.token.text f) := hname.2
  cases htrails with
  | block blanks hf htoken hrest hstart =>
      have hblanks := (List.prefix_append (blanks : Text) _).trans hrest
      refine ⟨Site.start_lt_of_size_le hblanks (by omega), .inr ⟨_, leads_block hf htoken hrest,
        ?_⟩⟩
      have hprefix := Site.prefix_of_prefix_code s.before_isPrefix
        (Site.prefix_code_of_prefix_rest hrest) ?_
      · have hlength := hprefix.length_le
        rwa [List.length_append, List.length_append] at hlength
      · rw [← List.append_assoc, Text.size_append]
        omega
  | line blanks htoken hrest hstart =>
      have hblanks := (List.prefix_append (blanks : Text) _).trans hrest
      obtain ⟨content, hcontent⟩ := hrest
      have hleads : Remark.Leads ⟨t.rest, content⟩ t.rest := by
        rw [← hcontent]
        exact .line blanks content
      exact ⟨Site.start_lt_of_size_le hblanks (by omega), .inr ⟨_, hleads,
        start_le_of_line hcode hname htoken hblanks hstart⟩⟩

end Comment

/-! ### The declarations of a source -/

namespace Findings

/-- Where the code of a record stands. -/
theorem holds_code_of_mem {dialect : Dialect} {policy : UntaggedPolicy} {e : Chapter × Record}
    (h : e ∈ recorded f dialect policy source) :
    source.Holds e.1.segment.start e.1.segment.stop e.2.code := by
  obtain ⟨c, hc, hentry⟩ := List.mem_filterMap.1 h
  obtain ⟨rfl, -, hcode⟩ := of_recorded?_eq_some hentry
  obtain ⟨i, hi⟩ := List.mem_iff_getElem?.1 hc
  rw [hcode]
  exact (Chapter.holds_code hi).trim

/-- The declarations that a record of the variable dialect has are those of its code. -/
theorem declared_of_mem {policy : UntaggedPolicy} {e : Chapter × Record}
    (h : e ∈ recorded f .variable policy source) : e.2.declared = ofCode e.2.code := by
  obtain ⟨c, -, hentry⟩ := List.mem_filterMap.1 h
  obtain ⟨r, hr, rfl⟩ := Option.map_eq_some_iff.1 hentry
  have hrecode := (of_mem_ofChapter (List.mem_of_head? hr)).2
  exact (congrArg Record.declared hrecode).symm

/-- No variable of a record is declared where its name lies in a comment. -/
def Uncommented (f : Family) (policy : UntaggedPolicy) (source : Text) : Prop :=
  ∀ e ∈ recorded f .variable policy source, ∃ sites : List (Site e.2.code),
    Scan sites ∧ List.Forall₂ Site.Declares sites e.2.declared ∧
      ∀ s ∈ sites, ∀ c : Comment f source, ¬ c.Encloses (s.nameIn e.1)

/-- **When no declaration in a comment is documented**: exactly if each one that has its name in a
comment is hidden by one that is found.  In a comment right behind the semicolon of one that is
found, it always is. -/
theorem uncommented_iff (f : Family) (policy : UntaggedPolicy) (source : Text) :
    Uncommented f policy source ↔
      ∀ e ∈ recorded f .variable policy source, ∀ sites : List (Site e.2.code), Scan sites →
        ∀ (s : Site e.2.code) (c : Comment f source), c.Encloses (s.nameIn e.1) →
          (∀ t ∈ sites, ¬ c.Trails e.1 t) → ∃ t ∈ sites, t.Covers s.start := by
  constructor
  · intro h e he sites hscan s c hname _
    obtain ⟨found, hfound, -, houtside⟩ := h e he
    obtain rfl := hscan.unique hfound
    exact (hscan.complete s (Nat.zero_le _)).resolve_left fun hs => houtside s hs c hname
  · intro h e he
    obtain ⟨sites, hscan, hdeclares⟩ := exists_scan e.2.code
    rw [← declared_of_mem he] at hdeclares
    refine ⟨sites, hscan, hdeclares, fun s hs c hname => ?_⟩
    obtain ⟨t, ht, hcovers⟩ : ∃ t ∈ sites, t.Covers s.start := by
      by_cases htrails : ∃ t ∈ sites, c.Trails e.1 t
      · obtain ⟨t, ht, htrails⟩ := htrails
        exact ⟨t, ht, Comment.covers_of_trails (holds_code_of_mem he) htrails hname⟩
      · exact h e he sites hscan s c hname fun t ht htrails' => htrails ⟨t, ht, htrails'⟩
    exact hscan.not_covers ht hs hcovers

/-- The code below the block is one line comment with a declaration in it. -/
def retiredSheet : Text := "/* @title A */\n// $old: 1px;\n"

/-- The line comment of `retiredSheet`. -/
def retired : Comment .script retiredSheet where
  earlier := [.block " @title A ", .plain '\n']
  token := .lineComment "// $old: 1px;"
  later := [.plain '\n']
  eq_tokens := by decide +kernel
  isComment := rfl

/-- **A declaration in a comment is documented.** -/
theorem exists_documented_comment : ¬ Uncommented .script .drop retiredSheet := by
  intro h
  have hrecord : (recorded .script .variable .drop retiredSheet).any
      (fun e => e.1.segment = retired.segment && e.2.declared.length = 1) = true := by
    decide +kernel
  obtain ⟨e, he, hentry⟩ := List.any_eq_true.1 hrecord
  rw [Bool.and_eq_true, decide_eq_true_eq, decide_eq_true_eq] at hentry
  obtain ⟨sites, -, hdeclares, houtside⟩ := h e he
  obtain ⟨s, hs⟩ := List.length_eq_one_iff.1 (hdeclares.length_eq.trans hentry.2)
  -- the comment is all of the code
  refine houtside s (by rw [hs]; exact List.mem_singleton_self s) retired ?_
  obtain ⟨_, _, -, -, hstop⟩ := holds_code_of_mem he
  have hcode := congrArg Text.size s.eq_code
  simp only [Text.size_append] at hcode
  rw [Comment.Encloses, ← hentry.1, Site.nameIn]
  constructor
  · exact Nat.le_add_right ..
  · dsimp only
    omega

end Findings

end PatternBook
