import PatternBook.Comment.Family

/-!
# Tokens of a source

A source is cut into tokens from left to right: quoted strings, line comments, comment blocks, an
opener that is never closed together with everything after it, and single characters.  At each
place the first of these that applies is taken.

* `text_tokens`: the tokens of a source, one after the other, are the source.
-/

namespace PatternBook

/-- A token. -/
inductive Token where
  /-- A string with its quotes, as far as it goes. -/
  | quoted (text : Text)
  /-- A line comment with its slashes, up to the end of its line. -/
  | lineComment (text : Text)
  /-- A comment block; `inner` is what its delimiters enclose. -/
  | block (inner : Text)
  /-- An opener without a closer; `inner` is all that follows it. -/
  | unclosed (inner : Text)
  /-- A single character. -/
  | plain (c : Char)
  deriving DecidableEq, Repr

namespace Token

/-- The source text of a token. -/
def text (f : Family) : Token → Text
  | .quoted t | .lineComment t => t
  | .block inner => f.opening ++ inner ++ f.closing
  | .unclosed inner => f.opening ++ inner
  | .plain c => [c]

/-- The part of a string after its opening quote, and the rest.  A backslash takes the next
character with it, the quote ends the string, and so does a newline, which stays outside. -/
def quotedTail (quote : Char) : Text → Text × Text
  | [] => ([], [])
  | ['\\'] => (['\\'], [])
  | '\\' :: c :: t =>
    let cut := quotedTail quote t
    ('\\' :: c :: cut.1, cut.2)
  | c :: t =>
    if c = '\n' then ([], c :: t)
    else if c = quote then ([c], t)
    else
      let cut := quotedTail quote t
      (c :: cut.1, cut.2)

/-- The first token of a source, and the rest. -/
def first (f : Family) (c : Char) (t : Text) : Token × Text :=
  if f.hasStrings ∧ (c = '"' ∨ c = '\'') then
    let cut := quotedTail c t
    (.quoted (c :: cut.1), cut.2)
  else if f.hasLineComments ∧ (Text.after? "//" (c :: t)).isSome then
    (.lineComment ((c :: t).takeWhile (· != '\n')), (c :: t).dropWhile (· != '\n'))
  else match Text.after? f.opening (c :: t) with
    | none => (.plain c, t)
    | some inner =>
      match Text.splitAt? f.closing inner with
      | some (body, rest) => (.block body, rest)
      | none => (.unclosed inner, [])

theorem quotedTail_append (quote : Char) (t : Text) :
    (quotedTail quote t).1 ++ (quotedTail quote t).2 = t := by
  fun_induction quotedTail quote t <;> simp_all +zetaDelta

/-- A token and the rest make up the source. -/
theorem text_first (f : Family) (c : Char) (t : Text) :
    (first f c t).1.text f ++ (first f c t).2 = c :: t := by
  unfold first
  split
  · simp [text, quotedTail_append]
  split
  · simp [text]
  split
  · simp [text]
  · next inner h =>
    have h' := Text.eq_of_after? h
    split
    · next body rest hs =>
      have := Text.eq_of_splitAt? hs
      simp [text, h', this]
    · simp [text, h']

theorem text_first_ne_nil (f : Family) (c : Char) (t : Text) :
    (first f c t).1.text f ≠ [] := by
  have hne : f.opening ≠ [] := by cases f <;> decide
  unfold first
  split
  · simp [text]
  split
  · next h =>
    obtain ⟨rest, hr⟩ := Option.isSome_iff_exists.1 h.2
    have h' := Text.eq_of_after? hr
    have hc : c = '/' := by
      simp at h'
      exact h'.1
    subst hc
    simp [text]
  split
  · simp [text]
  · split
    · simp [text, hne]
    · simp [text, hne]

theorem first_length (f : Family) (c : Char) (t : Text) :
    (first f c t).2.length < (c :: t).length := by
  have h := congrArg List.length (text_first f c t)
  have hpos := List.length_pos_iff.2 (text_first_ne_nil f c t)
  simp only [List.length_append] at h
  omega

end Token

/-- The tokens of a source. -/
def tokens (f : Family) : Text → List Token
  | [] => []
  | c :: t => (Token.first f c t).1 :: tokens f (Token.first f c t).2
  termination_by t => t.length
  decreasing_by exact Token.first_length f c t

/-- **The tokens of a source, one after the other, are the source.** -/
theorem text_tokens (f : Family) (t : Text) : (tokens f t).flatMap (Token.text f) = t := by
  induction t using tokens.induct f with
  | case1 => simp [tokens]
  | case2 c t ih => rw [tokens, List.flatMap_cons, ih, Token.text_first]

end PatternBook
