import Mathlib.Data.List.Forall2
import PatternBook.Proofs.Comment.Lexemes
import PatternBook.Proofs.Comment.Locality
import PatternBook.Proofs.Text.Returns

/-!
# Carriage returns around comments

The scanner sees the carriage returns of a source: one in front of a newline becomes part of the
string or of the line comment that the newline ends.  Cut into characters and comments, though, the
source is the same in both forms, as long as no string of it goes over the end of a line.  A
backslash takes one character with it: a newline that stands alone, but only the carriage return of
one that does not.

* `spread_tokens_withReturns`: the characters and comments of a source.
* `unclosed_withReturns`, `chapters_withReturns`: a comment that is left open, and the chapters.
-/

namespace PatternBook

open Text (HasNoEnds withReturn withReturns withReturns_append withReturns_cons
  withReturns_newline)

namespace Token

/-- A token as single characters, unless it is a comment. -/
def spread : Token → List Token
  | .quoted t | .lineComment t => t.map .plain
  | .block inner => [.block inner]
  | .unclosed inner => [.unclosed inner]
  | .plain c => [.plain c]

/-- The token with a carriage return in front of each of its newlines. -/
def returned : Token → List Token
  | .plain c => (withReturn c).map .plain
  | .quoted t => [.quoted (withReturns t)]
  | .lineComment t => [.lineComment (withReturns t)]
  | .block inner => [.block (withReturns inner)]
  | .unclosed inner => [.unclosed (withReturns inner)]

/-! ### Ends of strings and line comments -/

/-- The second cut is the first one in the other form; at the end of a line it takes the carriage
return with it. -/
def Meets (cut cut' : Text × Text) : Prop :=
  cut' = (cut.1, withReturns cut.2) ∨
    ∃ rest, cut.2 = '\n' :: rest ∧ cut' = (cut.1 ++ ['\r'], '\n' :: withReturns rest)

/-- A longer first part changes nothing. -/
theorem Meets.prepend {cut cut' : Text × Text} (h : Meets cut cut') (s : Text) :
    Meets (s ++ cut.1, cut.2) (s ++ cut'.1, cut'.2) := by
  rcases h with rfl | ⟨rest, hrest, rfl⟩
  · exact .inl rfl
  · exact .inr ⟨rest, hrest, by rw [List.append_assoc]⟩

theorem quotedTail_return {quote : Char} (hq : quote = '"' ∨ quote = '\'') (t : Text) :
    quotedTail quote ('\r' :: '\n' :: t) = (['\r'], '\n' :: t) := by
  have hne : '\r' ≠ quote := by rcases hq with rfl | rfl <;> decide
  rw [quotedTail_cons (by decide), if_neg (by decide), if_neg hne, quotedTail_cons (by decide),
    if_pos rfl]

/-- A string that does not go over the end of a line. -/
theorem meets_quotedTail {quote : Char} (hq : quote = '"' ∨ quote = '\'') {t : Text}
    (h : '\n' ∉ (quotedTail quote t).1) :
    Meets (quotedTail quote t) (quotedTail quote (withReturns t)) := by
  fun_induction quotedTail quote t with
  | case1 => exact .inl rfl
  | case2 => exact .inl rfl
  | case3 c t cut ih =>
      have hc : c ≠ '\n' := fun e => h (e ▸ List.mem_cons_of_mem _ List.mem_cons_self)
      have hcut : '\n' ∉ cut.1 := fun hm =>
        h (List.mem_cons_of_mem _ (List.mem_cons_of_mem c hm))
      rw [withReturns_cons (by decide), withReturns_cons hc, quotedTail]
      exact (ih hcut).prepend ['\\', c]
  | case4 t => exact .inr ⟨t, rfl, quotedTail_return hq (withReturns t)⟩
  | case5 t hlone hescape hn =>
      rw [withReturns_cons hn, quotedTail_cons (ne_backslash hlone hescape), if_neg hn, if_pos rfl]
      exact .inl rfl
  | case6 c t hlone hescape hn hne cut ih =>
      have hcut : '\n' ∉ cut.1 := fun hm => h (List.mem_cons_of_mem c hm)
      rw [withReturns_cons hn, quotedTail_cons (ne_backslash hlone hescape), if_neg hn, if_neg hne]
      exact (ih hcut).prepend [c]

/-- What stands before the end of a line. -/
theorem meets_takeWhile (t : Text) :
    Meets (t.takeWhile (· != '\n'), t.dropWhile (· != '\n'))
      ((withReturns t).takeWhile (· != '\n'), (withReturns t).dropWhile (· != '\n')) := by
  induction t with
  | nil => exact .inl rfl
  | cons c t ih =>
      by_cases hn : c = '\n'
      · subst hn
        exact .inr ⟨t, rfl, rfl⟩
      · have hc : (c != '\n') = true := bne_iff_ne.2 hn
        rw [withReturns_cons hn, List.takeWhile_cons, List.takeWhile_cons, List.dropWhile_cons,
          List.dropWhile_cons, if_pos hc, if_pos hc, if_pos hc, if_pos hc]
        exact ih.prepend [c]

/-! ### Characters and comments -/

section

variable {f : Family}

/-- The characters and comments of a source. -/
def pieces (f : Family) (source : Text) : List Token := (tokens f source).flatMap spread

theorem pieces_of_heads {c : Char} {t rest : Text} {x : Token} (h : Heads f c t x rest) :
    pieces f (c :: t) = x.spread ++ pieces f rest := by
  rw [pieces, tokens_of_heads h, List.flatMap_cons, pieces]

theorem hasNoEnds_opening (f : Family) : HasNoEnds f.opening := by
  cases f <;> exact ⟨by decide, by decide⟩

theorem hasNoEnds_closing (f : Family) : HasNoEnds f.closing := by
  cases f <;> exact ⟨by decide, by decide⟩

theorem opening_ne_nil (f : Family) : f.opening ≠ [] := by cases f <;> decide

/-- Nothing starts at the end of a line. -/
theorem heads_end {c : Char} (hc : c = '\n' ∨ c = '\r') (t : Text) : Heads f c t (.plain c) t := by
  have hopening : c ∉ f.opening := by
    rcases hc with rfl | rfl
    · exact (hasNoEnds_opening f).1
    · exact (hasNoEnds_opening f).2
  refine .plain (fun hs => ?_) (fun hl => ?_)
    (Text.after?_cons_of_notMem hopening (opening_ne_nil f) t)
  · rcases hc with rfl | rfl <;> exact absurd hs.2 (by decide)
  · have hslashes : Text.after? "//" (c :: t) = none :=
      Text.after?_cons_of_notMem (by rcases hc with rfl | rfl <;> decide) (by decide) t
    exact absurd hl.2 (by rw [hslashes]; decide)

theorem pieces_newline (t : Text) : pieces f ('\n' :: t) = .plain '\n' :: pieces f t :=
  pieces_of_heads (heads_end (.inl rfl) t)

theorem pieces_return (t : Text) : pieces f ('\r' :: t) = .plain '\r' :: pieces f t :=
  pieces_of_heads (heads_end (.inr rfl) t)

/-- What is cut off differs by a carriage return at most, and that comes back with the rest. -/
theorem Meets.pieces {cut cut' : Text × Text} (h : Meets cut cut') :
    cut'.1.map plain ++ pieces f cut'.2 = cut.1.map plain ++ pieces f (withReturns cut.2) := by
  rcases h with rfl | ⟨rest, hrest, rfl⟩
  · rfl
  · have hmap : (cut.1 ++ ['\r']).map plain = cut.1.map plain ++ [plain '\r'] := List.map_append
    rw [hrest, withReturns_newline, pieces_return, pieces_newline, hmap, List.append_assoc]
    rfl

theorem startsLineComment_withReturns {t : Text} :
    f.StartsLineComment (withReturns t) ↔ f.StartsLineComment t := by
  have hslashes : Text.after? "//" (withReturns t) = (Text.after? "//" t).map withReturns :=
    Text.after?_withReturns ⟨by decide, by decide⟩ t
  rw [Family.StartsLineComment, hslashes, Option.isSome_map, Family.StartsLineComment]

/-- The characters are those of the text in the other form. -/
theorem flatMap_returned_plain (t : Text) :
    (t.map plain).flatMap returned = (withReturns t).map plain := by
  rw [withReturns, List.map_flatMap, List.flatMap_map]
  rfl

theorem flatMap_returned_of_notMem {t : Text} (h : '\n' ∉ t) :
    (t.map plain).flatMap returned = t.map plain := by
  rw [flatMap_returned_plain, Text.withReturns_eq_self h]

/-- One token: the rest behind it is in the other form again, but for a carriage return. -/
theorem pieces_withReturns_cons {c : Char} {t rest : Text} {x : Token} (h : Heads f c t x rest)
    (hx : ∀ s, x = quoted s → '\n' ∉ s) :
    pieces f (withReturns (c :: t)) =
      x.spread.flatMap returned ++ pieces f (withReturns rest) := by
  by_cases hn : c = '\n'
  · subst hn
    have hfirst : first f '\n' t = (.plain '\n', t) := (heads_end (.inl rfl) t).first_eq
    obtain ⟨rfl, rfl⟩ := Prod.mk.inj (hfirst.symm.trans h.first_eq)
    rw [withReturns_newline, pieces_return, pieces_newline]
    rfl
  have ht : withReturns (c :: t) = c :: withReturns t := withReturns_cons hn t
  have hlines : f.StartsLineComment (c :: withReturns t) ↔ f.StartsLineComment (c :: t) :=
    ht ▸ startsLineComment_withReturns
  have hopen : Text.after? f.opening (c :: withReturns t) =
      (Text.after? f.opening (c :: t)).map withReturns :=
    ht ▸ Text.after?_withReturns (hasNoEnds_opening f) (c :: t)
  have hclose : ∀ inner, Text.splitAt? f.closing (withReturns inner) =
      (Text.splitAt? f.closing inner).map fun cut => (withReturns cut.1, withReturns cut.2) :=
    Text.splitAt?_withReturns (hasNoEnds_closing f) (closing_ne_nil f)
  cases h with
  | quoted hs =>
      have hnl := hx _ rfl
      have hmeets := (meets_quotedTail hs.2 (List.not_mem_of_not_mem_cons hnl)).prepend [c]
      rw [ht, pieces_of_heads (.quoted hs), spread, spread, flatMap_returned_of_notMem hnl]
      exact hmeets.pieces
  | lineComment hs hl =>
      have hnl : '\n' ∉ (c :: t).takeWhile (· != '\n') := fun hm => by
        simpa using List.mem_takeWhile_imp hm
      rw [ht, pieces_of_heads (.lineComment hs (hlines.2 hl)), spread, spread,
        flatMap_returned_of_notMem hnl, ← ht]
      exact (meets_takeWhile (c :: t)).pieces
  | @block body inner _ hs hl ho hc =>
      rw [ho] at hopen
      have hclosed := hclose inner
      rw [hc] at hclosed
      rw [ht, pieces_of_heads (.block hs (mt hlines.1 hl) hopen hclosed)]
      rfl
  | @unclosed inner hs hl ho hc =>
      rw [ho] at hopen
      have hclosed := hclose inner
      rw [hc] at hclosed
      rw [ht, pieces_of_heads (.unclosed hs (mt hlines.1 hl) hopen hclosed)]
      rfl
  | plain hs hl ho =>
      rw [ho] at hopen
      rw [ht, pieces_of_heads (.plain hs (mt hlines.1 hl) hopen)]
      have hnl : '\n' ∉ [c] := fun hm => hn (List.mem_singleton.1 hm).symm
      exact congrArg (· ++ _) (flatMap_returned_of_notMem hnl).symm

/-- **The characters and comments of a source** are the same in both forms, if no string goes over
the end of a line. -/
theorem pieces_withReturns {source : Text} (h : ∀ t, quoted t ∈ tokens f source → '\n' ∉ t) :
    pieces f (withReturns source) = (pieces f source).flatMap returned := by
  induction source using tokens.induct f with
  | case1 => rw [Text.withReturns_nil, pieces, tokens]; rfl
  | case2 c t ih =>
      have hh := heads_first f c t
      rw [tokens_of_heads hh] at h
      rw [pieces_withReturns_cons hh fun s hs => h s (hs ▸ List.mem_cons_self),
        ih fun s hs => h s (List.mem_cons_of_mem _ hs), pieces_of_heads hh, List.flatMap_append]

end

end Token

/-! ### Places -/

/-- Two places on the same line, with code before both or before none. -/
def Place.Agrees (p q : Place) : Prop := p.line = q.line ∧ p.afterCode = q.afterCode

/-- A carriage return in front of a newline changes neither the line nor what is code. -/
theorem Place.Agrees.past {p q : Place} (h : p.Agrees q) (t : Text) :
    (p.past t).Agrees (q.past (withReturns t)) := by
  induction t generalizing p q with
  | nil => exact h
  | cons c t ih =>
      by_cases hn : c = '\n'
      · subst hn
        rw [withReturns_newline]
        exact ih ⟨congrArg (· + 1) h.1, rfl⟩
      · rw [withReturns_cons hn]
        refine ih ?_
        rw [Place.next, if_neg hn, Place.next, if_neg hn]
        exact ⟨h.1, congrArg (· || _) h.2⟩

/-! ### Comments that are left open -/

section

variable {f : Family}

theorem Extraction.ofTokens_chars (p : Place) (t : Text) (xs : List Token) :
    Extraction.ofTokens f p (t.map .plain ++ xs) = Extraction.ofTokens f (p.past t) xs := by
  induction t generalizing p with
  | nil => rfl
  | cons c t ih => exact ih (p.next c)

theorem Extraction.unclosed_spread (p : Place) (xs : List Token) :
    (Extraction.ofTokens f p (xs.flatMap Token.spread)).unclosed =
      (Extraction.ofTokens f p xs).unclosed := by
  induction xs generalizing p with
  | nil => rfl
  | cons x xs ih =>
      rw [List.flatMap_cons]
      cases x with
      | quoted t | lineComment t =>
          rw [Token.spread, Extraction.ofTokens_chars]
          exact ih (p.past t)
      | block inner => exact ih _
      | unclosed inner => rfl
      | plain c => exact ih _

theorem Token.text_block_returned (inner : Text) :
    (Token.block (withReturns inner)).text f = withReturns ((Token.block inner).text f) := by
  rw [Token.text, Token.text, withReturns_append, withReturns_append,
    Text.withReturns_eq_self (Token.hasNoEnds_opening f).1,
    Text.withReturns_eq_self (Token.hasNoEnds_closing f).1]

theorem Token.text_unclosed_returned (inner : Text) :
    (Token.unclosed (withReturns inner)).text f = withReturns ((Token.unclosed inner).text f) := by
  rw [Token.text, Token.text, withReturns_append,
    Text.withReturns_eq_self (Token.hasNoEnds_opening f).1]

theorem Extraction.unclosed_returned {p q : Place} (h : p.Agrees q) (xs : List Token) :
    (Extraction.ofTokens f q (xs.flatMap Token.returned)).unclosed =
      (Extraction.ofTokens f p xs).unclosed := by
  induction xs generalizing p q with
  | nil => rfl
  | cons x xs ih =>
      rw [List.flatMap_cons]
      cases x with
      | quoted t | lineComment t => exact ih (h.past t)
      | block inner =>
          have hpast := h.past ((Token.block inner).text f)
          rw [← Token.text_block_returned] at hpast
          exact ih hpast
      | unclosed inner => exact congrArg some h.1.symm
      | plain c =>
          have hpast := h.past [c]
          rw [Token.returned, Extraction.ofTokens_chars]
          rw [withReturns, List.flatMap_singleton] at hpast
          exact ih hpast

/-- A comment that is left open starts on the same line in both forms. -/
theorem unclosed_withReturns {source : Text}
    (h : ∀ t, Token.quoted t ∈ tokens f source → '\n' ∉ t) :
    (extract f (withReturns source)).unclosed = (extract f source).unclosed := by
  rw [extract, ← Extraction.unclosed_spread, ← Token.pieces, Token.pieces_withReturns h,
    Extraction.unclosed_returned ⟨rfl, rfl⟩, Token.pieces, Extraction.unclosed_spread, extract]

/-! ### Chapters -/

namespace Chapter

theorem ofTokens_chars (p : Place) (t : Text) (xs : List Token) :
    ofTokens f p (t.map .plain ++ xs) =
      (t ++ (ofTokens f (p.past t) xs).1, (ofTokens f (p.past t) xs).2) := by
  induction t generalizing p with
  | nil => rfl
  | cons c t ih => rw [List.map_cons, List.cons_append, ofTokens_cons (by nofun), ih]; rfl

theorem ofTokens_spread (p : Place) (xs : List Token) :
    ofTokens f p (xs.flatMap Token.spread) = ofTokens f p xs := by
  induction xs generalizing p with
  | nil => rfl
  | cons x xs ih =>
      rw [List.flatMap_cons]
      cases x with
      | quoted t | lineComment t =>
          rw [Token.spread, ofTokens_chars, ih]
          rfl
      | unclosed inner | plain c =>
          rw [Token.spread, List.singleton_append, ofTokens_cons (by nofun), ih,
            ofTokens_cons (by nofun)]
      | block inner =>
          rw [Token.spread, List.singleton_append, ofTokens, ih, ofTokens]

/-- What is no block goes with the text around it in the other form, too. -/
theorem ofTokens_returned_append {x : Token} (hx : ∀ inner, x ≠ .block inner) (q : Place)
    (xs : List Token) :
    ofTokens f q (x.returned ++ xs) =
      (withReturns (x.text f) ++ (ofTokens f (q.past (withReturns (x.text f))) xs).1,
        (ofTokens f (q.past (withReturns (x.text f))) xs).2) := by
  cases x with
  | quoted t | lineComment t => rfl
  | block inner => exact absurd rfl (hx inner)
  | unclosed inner =>
      rw [← Token.text_unclosed_returned]
      rfl
  | plain c =>
      rw [Token.returned, ofTokens_chars, Token.text, withReturns, List.flatMap_singleton]

/-- The second chapter is the first one in the other form. -/
structure Returned (c c' : Chapter) : Prop where
  text : c'.head.text = withReturns c.head.text
  line : c'.head.line = c.head.line
  code : c'.code = withReturns c.code

theorem ofTokens_returned {p q : Place} (h : p.Agrees q) (xs : List Token) :
    (ofTokens f q (xs.flatMap Token.returned)).1 = withReturns (ofTokens f p xs).1 ∧
      List.Forall₂ Returned (ofTokens f p xs).2 (ofTokens f q (xs.flatMap Token.returned)).2 := by
  induction xs generalizing p q with
  | nil => exact ⟨rfl, .nil⟩
  | cons x xs ih =>
      obtain ⟨htext, hchapters⟩ := ih (h.past (x.text f))
      rw [List.flatMap_cons]
      by_cases hx : ∀ inner, x ≠ .block inner
      · rw [ofTokens_returned_append hx, ofTokens_cons hx, withReturns_append, htext]
        exact ⟨rfl, hchapters⟩
      · simp only [not_forall, not_not] at hx
        obtain ⟨inner, rfl⟩ := hx
        rw [← Token.text_block_returned] at htext hchapters
        rw [Token.returned, List.singleton_append, ofTokens, ofTokens, ← h.2]
        split
        · exact ⟨by rw [withReturns_append, ← Token.text_block_returned, htext], hchapters⟩
        · exact ⟨rfl, .cons ⟨rfl, h.1.symm, htext⟩ hchapters⟩

/-- What stands in the chapters comes from the tokens. -/
theorem subset_ofTokens (p : Place) (xs : List Token) :
    (ofTokens f p xs).1 ⊆ xs.flatMap (Token.text f) ∧
      ∀ c ∈ (ofTokens f p xs).2,
        c.head.text ⊆ xs.flatMap (Token.text f) ∧ c.code ⊆ xs.flatMap (Token.text f) := by
  induction xs generalizing p with
  | nil => exact ⟨List.nil_subset _, nofun⟩
  | cons x xs ih =>
      obtain ⟨htext, hchapters⟩ := ih (p.past (x.text f))
      have hrest : ∀ {t : Text}, t ⊆ xs.flatMap (Token.text f) →
          t ⊆ (x :: xs).flatMap (Token.text f) := fun ht =>
        List.Subset.trans ht (List.subset_append_right (x.text f) _)
      have hboth : x.text f ++ (ofTokens f (p.past (x.text f)) xs).1
          ⊆ (x :: xs).flatMap (Token.text f) :=
        List.append_subset.2 ⟨List.subset_append_left _ _, hrest htext⟩
      have hlater : ∀ c ∈ (ofTokens f (p.past (x.text f)) xs).2,
          c.head.text ⊆ (x :: xs).flatMap (Token.text f) ∧
            c.code ⊆ (x :: xs).flatMap (Token.text f) := fun c hc =>
        ⟨hrest (hchapters c hc).1, hrest (hchapters c hc).2⟩
      by_cases hx : ∀ inner, x ≠ .block inner
      · rw [ofTokens_cons hx]
        exact ⟨hboth, hlater⟩
      · simp only [not_forall, not_not] at hx
        obtain ⟨inner, rfl⟩ := hx
        rw [ofTokens]
        split
        · exact ⟨hboth, hlater⟩
        · refine ⟨List.nil_subset _, List.forall_mem_cons.2 ⟨⟨?_, hrest htext⟩, hlater⟩⟩
          -- the text of the block stands between its delimiters
          refine List.Subset.trans ?_ (List.subset_append_left ((Token.block inner).text f) _)
          exact List.Subset.trans (List.subset_append_right f.opening inner)
            (List.subset_append_left _ f.closing)

end Chapter

/-- **The chapters of a source** are the same in both forms, if no string goes over the end of a
line. -/
theorem chapters_withReturns {source : Text}
    (h : ∀ t, Token.quoted t ∈ tokens f source → '\n' ∉ t) :
    List.Forall₂ Chapter.Returned (chapters f source) (chapters f (withReturns source)) := by
  have hpieces := (Chapter.ofTokens_returned (f := f) (p := .start) ⟨rfl, rfl⟩
    (Token.pieces f source)).2
  rw [← Token.pieces_withReturns h, Token.pieces, Token.pieces, Chapter.ofTokens_spread,
    Chapter.ofTokens_spread] at hpieces
  exact hpieces

theorem subset_chapters {source : Text} :
    ∀ c ∈ chapters f source, c.head.text ⊆ source ∧ c.code ⊆ source := by
  have hsource := (Chapter.subset_ofTokens (f := f) .start (tokens f source)).2
  rw [text_tokens] at hsource
  exact hsource

end

end PatternBook
