import Mathlib.Data.List.Infix
import PatternBook.Proofs.Comment.Locality
import PatternBook.Proofs.Comment.Place
import PatternBook.Proofs.Record.Printer
import PatternBook.Record.Findings

/-!
# Printed sources are read back

A source that is printed from passages, each as a block and the code below it, is cut into the
blocks and the code that were printed, and each of them is read for itself.

* `tokens_printAll`: the tokens of a printed source are those of its passages.
* `Findings.ofSource_printAll`: the records of a printed source are its passages, and there is
  nothing to complain about.
-/

namespace PatternBook

/-- Code that can stand between two blocks: no comment in it heads code or is left open, and no
string in it goes on behind it. -/
@[mk_iff]
structure SelfContained (f : Family) (code : Text) : Prop where
  trimmed : Text.trim code = code
  ended   : code.getLast? ≠ some '\\'
  inline  : ∀ b ∈ (extract f (code ++ ['\n'])).blocks, b.inline = true
  closed  : (extract f (code ++ ['\n'])).unclosed = none

instance (f : Family) (code : Text) : Decidable (SelfContained f code) :=
  decidable_of_iff' _ (selfContained_iff f code)

namespace Passage

/-- The passage can be printed: its block is legible and ends at its own closer, and its code keeps
to itself. -/
@[mk_iff]
structure Printable (f : Family) (e : Passage) : Prop where
  legible : e.Legible
  comment : ¬ f.closing <:+: e.comment
  code    : SelfContained f e.code

instance (f : Family) (e : Passage) : Decidable (e.Printable f) :=
  decidable_of_iff' _ (printable_iff f e)

/-- The source of a passage: its block, and its code on lines of its own. -/
def print (f : Family) (e : Passage) : Text :=
  (Token.block e.comment).text f ++ '\n' :: (e.code ++ ['\n'])

/-- The record of a passage whose block starts on the line. -/
def record (dialect : Dialect) (e : Passage) (line : Nat) : Record where
  tags := e.tags
  variants := e.variants
  body := e.body
  code := e.code
  line := line
  declared := Findings.declarations dialect e.code

/-- The records of passages that are printed one after the other from a line on. -/
def records (f : Family) (dialect : Dialect) : Nat → List Passage → List Record
  | _, [] => []
  | line, e :: es => e.record dialect line :: records f dialect (line + (e.print f).count '\n') es

/-- The tokens of a printed passage. -/
def tokens (f : Family) (e : Passage) : List Token :=
  .block e.comment :: .plain '\n' :: PatternBook.tokens f (e.code ++ ['\n'])

theorem text_tokens (f : Family) (e : Passage) :
    (e.tokens f).flatMap (Token.text f) = e.print f := by
  simp only [tokens, List.flatMap_cons, PatternBook.text_tokens]
  rfl

end Passage

/-- The source of all passages. -/
def printAll (f : Family) (es : List Passage) : Text := es.flatMap (Passage.print f)

/-! ### Tokens -/

/-- A block without its closer inside is one token. -/
theorem tokens_block {f : Family} {inner : Text} (h : ¬ f.closing <:+: inner)
    (hlast : ∀ c ∈ inner.getLast?, c ∉ f.closing) (rest : Text) :
    tokens f ((Token.block inner).text f ++ rest) = .block inner :: tokens f rest := by
  have hsource : (Token.block inner).text f ++ rest
      = f.opening ++ (inner ++ f.closing ++ rest) := by
    simp only [Token.text, List.append_assoc]
  have ho : Text.after? f.opening (f.opening ++ (inner ++ f.closing ++ rest))
      = some (inner ++ f.closing ++ rest) := Text.after?_append _ _
  have hc := Text.splitAt?_of_not_infix h hlast rest
  rw [hsource]
  cases f with
  | css | script | markup =>
      refine tokens_of_heads (.block ?_ ?_ ho hc)
      · rintro ⟨-, hq⟩
        revert hq
        decide
      · rintro ⟨-, hs⟩
        cases hs

theorem tokens_newline (f : Family) (rest : Text) :
    tokens f ('\n' :: rest) = .plain '\n' :: tokens f rest := by
  refine tokens_of_heads (.plain ?_ ?_ ?_)
  · rintro ⟨-, hq⟩
    revert hq
    decide
  · rintro ⟨-, hs⟩
    cases hs
  · cases f <;> rfl

theorem SelfContained.endsLine {f : Family} {code : Text} (h : SelfContained f code) :
    EndsLine (code ++ ['\n']) :=
  .inr ⟨code, rfl, h.ended⟩

theorem SelfContained.allClosed {f : Family} {code : Text} (h : SelfContained f code) :
    AllClosed (tokens f (code ++ ['\n'])) :=
  unclosed_eq_none_iff.1 h.closed

theorem Passage.getLast?_comment (e : Passage) : e.comment.getLast? = some '\n' := by
  have hne : ([] : Text) :: e.lines.map (gutter ++ ·) ≠ [] := List.cons_ne_nil _ _
  exact Text.getLast?_ofLines hne

/-- The tokens of a printed passage do not depend on what follows it. -/
theorem tokens_print {f : Family} {e : Passage} (h : e.Printable f) (rest : Text) :
    tokens f (e.print f ++ rest) = e.tokens f ++ tokens f rest := by
  have hlast : ∀ c ∈ e.comment.getLast?, c ∉ f.closing := by
    rw [e.getLast?_comment]
    rintro c ⟨⟩
    cases f <;> decide
  rw [Passage.print, List.append_assoc, tokens_block h.comment hlast, List.cons_append,
    tokens_newline, tokens_append h.code.endsLine h.code.allClosed]
  rfl

/-- **The tokens of a printed source** are those of its passages. -/
theorem tokens_printAll {f : Family} {es : List Passage} (h : ∀ e ∈ es, e.Printable f) :
    tokens f (printAll f es) = es.flatMap (Passage.tokens f) := by
  induction es with
  | nil => exact tokens.eq_1 f
  | cons e es ih =>
      have ih := ih fun d hd => h d (List.mem_cons_of_mem e hd)
      rw [printAll] at ih ⊢
      rw [List.flatMap_cons, tokens_print (h e List.mem_cons_self), ih, List.flatMap_cons]

/-! ### Chapters -/

theorem Passage.afterCode_past_print (f : Family) (e : Passage) (p : Place) :
    (p.past (e.print f)).afterCode = false := by
  have he : e.print f = ((Token.block e.comment).text f ++ '\n' :: e.code) ++ ['\n'] := by
    rw [print, List.append_assoc, List.cons_append]
  rw [he, Place.afterCode_past_newline]

/-- The chapters of passages that are printed one after the other from a place on. -/
def Passage.chapters (f : Family) : Place → List Passage → List Chapter
  | _, [] => []
  | p, e :: es =>
    ⟨Block.at f p e.comment, '\n' :: (e.code ++ ['\n'])⟩ :: chapters f (p.past (e.print f)) es

/-- The code below a block goes up to the next block, and no comment in it is taken for that. -/
theorem ofTokens_print {f : Family} {e : Passage} (h : SelfContained f e.code) {p : Place}
    (hp : p.afterCode = false) (rest : List Token) :
    Chapter.ofTokens f p (e.tokens f ++ rest)
      = ([], ⟨Block.at f p e.comment,
            '\n' :: (e.code ++ ['\n']) ++ (Chapter.ofTokens f (p.past (e.print f)) rest).1⟩ ::
          (Chapter.ofTokens f (p.past (e.print f)) rest).2) := by
  let found := Chapter.ofTokens f (p.past (e.print f)) rest
  let q := p.past ((Token.block e.comment).text f)
  -- behind the newline no code stands before the code of the passage, as at the start of a source
  have hpast : (q.past ['\n']).past (e.code ++ ['\n']) = p.past (e.print f) :=
    (Place.past_append p _ ('\n' :: (e.code ++ ['\n']))).symm
  have hcode : Chapter.ofTokens f (q.past ['\n']) (tokens f (e.code ++ ['\n']) ++ rest)
      = (e.code ++ ['\n'] ++ found.1, found.2) := by
    have hstart : (q.past ['\n']).afterCode = Place.start.afterCode := rfl
    rw [chapters_append hstart h.inline rest, text_tokens, hpast]
  have hnewline : Chapter.ofTokens f q (.plain '\n' :: (tokens f (e.code ++ ['\n']) ++ rest))
      = ('\n' :: (e.code ++ ['\n']) ++ found.1, found.2) := by
    rw [Chapter.ofTokens]
    · exact congrArg (fun cut => ('\n' :: cut.1, cut.2)) hcode
    · intro _ hn
      cases hn
  rw [Passage.tokens, List.cons_append, List.cons_append, Chapter.ofTokens, hnewline]
  simp only [hp, Bool.false_eq_true, if_false, found]

theorem ofTokens_printAll {f : Family} {es : List Passage} (h : ∀ e ∈ es, e.Printable f)
    {p : Place} (hp : p.afterCode = false) :
    Chapter.ofTokens f p (es.flatMap (Passage.tokens f)) = ([], Passage.chapters f p es) := by
  induction es generalizing p with
  | nil => rfl
  | cons e es ih =>
      have ih := ih (fun d hd => h d (List.mem_cons_of_mem e hd)) (e.afterCode_past_print f p)
      rw [List.flatMap_cons, ofTokens_print (h e List.mem_cons_self).code hp, ih,
        List.append_nil]
      rfl

/-! ### Records -/

/-- **A chapter of a printed source** is read as its passage. -/
theorem Findings.ofChapter_print {f : Family} {e : Passage} (h : e.Printable f) (dialect : Dialect)
    (policy : UntaggedPolicy) (p : Place) :
    Findings.ofChapter dialect policy ⟨Block.at f p e.comment, '\n' :: (e.code ++ ['\n'])⟩
      = { records := [e.record dialect p.line], diagnostics := [] } := by
  have hcode : Text.trim ('\n' :: (e.code ++ ['\n'])) = e.code := by
    have hnl : ∀ c ∈ ['\n'], isBlank c = true := List.all_eq_true.1 rfl
    calc Text.trim ('\n' :: (e.code ++ ['\n']))
        = Text.trim (['\n'] ++ e.code ++ ['\n']) := rfl
      _ = Text.trim e.code := Text.trim_append_of_blank hnl hnl e.code
      _ = e.code := h.code.trimmed
  have hread : annotate policy p.line e.comment
      = { record? := some { tags := e.tags, variants := e.variants, body := e.body }
          diagnostics := [] } := h.legible.annotate_comment policy p.line
  simp only [ofChapter, Block.at, hread, hcode]
  rfl

theorem Findings.records_chapters {f : Family} {es : List Passage} (h : ∀ e ∈ es, e.Printable f)
    (dialect : Dialect) (policy : UntaggedPolicy) (p : Place) :
    ((Passage.chapters f p es).map (ofChapter dialect policy)).flatMap (·.records)
      = Passage.records f dialect p.line es := by
  induction es generalizing p with
  | nil => rfl
  | cons e es ih =>
      have ih := ih (fun d hd => h d (List.mem_cons_of_mem e hd)) (p.past (e.print f))
      rw [Passage.chapters, List.map_cons, List.flatMap_cons, ih, Place.line_past,
        ofChapter_print (h e List.mem_cons_self)]
      rfl

theorem Findings.diagnostics_chapters {f : Family} {es : List Passage}
    (h : ∀ e ∈ es, e.Printable f) (dialect : Dialect) (policy : UntaggedPolicy) (p : Place) :
    ((Passage.chapters f p es).map (ofChapter dialect policy)).flatMap (·.diagnostics) = [] := by
  induction es generalizing p with
  | nil => rfl
  | cons e es ih =>
      have ih := ih (fun d hd => h d (List.mem_cons_of_mem e hd)) (p.past (e.print f))
      rw [Passage.chapters, List.map_cons, List.flatMap_cons, ih,
        ofChapter_print (h e List.mem_cons_self)]
      rfl

theorem allClosed_printAll {f : Family} {es : List Passage} (h : ∀ e ∈ es, e.Printable f) :
    AllClosed (es.flatMap (Passage.tokens f)) := by
  intro inner hm
  obtain ⟨e, he, hm⟩ := List.mem_flatMap.1 hm
  rcases List.mem_cons.1 hm with hb | hm
  · cases hb
  · rcases List.mem_cons.1 hm with hn | hm
    · cases hn
    · exact (h e he).code.allClosed inner hm

/-- **Printed sources are read back**: the records of the source are its passages, each with the
line of its block, and there is nothing to complain about. -/
theorem Findings.ofSource_printAll {f : Family} {es : List Passage}
    (h : ∀ e ∈ es, e.Printable f) (dialect : Dialect) (policy : UntaggedPolicy) :
    Findings.ofSource f dialect policy (printAll f es)
      = { records := Passage.records f dialect 1 es, diagnostics := [] } := by
  have hchapters : chapters f (printAll f es) = Passage.chapters f .start es := by
    rw [chapters, tokens_printAll h, ofTokens_printAll h rfl]
  have hclosed : (extract f (printAll f es)).unclosed = none := by
    rw [extract, tokens_printAll h]
    exact unclosed_eq_none_iff.2 (allClosed_printAll h)
  simp only [ofSource, hchapters, hclosed, records_chapters h, diagnostics_chapters h]
  rfl

/-- A script with two passages: the code of the first has a comment opener in a string and in a
line comment, and a comment behind code; the second has no prose, no variants and no code. -/
def menuPassages : List Passage :=
  [{ tags := { title := some "Menu", hidden := some [] }
     variants := [⟨.modifier, "--wide", "spans the  page"⟩, ⟨.state, ":focus", []⟩]
     body := "Opens below its button.\n\n  @see Button"
     code := "let open = \"/* @title \"; // it's /* open\nshow(open) /* inline */;" },
   { tags := { usage := some "@title in a value" }, variants := [], body := [], code := [] }]

theorem Findings.ofSource_menuPassages :
    Findings.ofSource .script .variable .drop (printAll .script menuPassages)
      = { records := Passage.records .script .variable 1 menuPassages, diagnostics := [] } :=
  ofSource_printAll (by decide +kernel) .variable .drop

end PatternBook
