import PatternBook.Comment.Token

/-!
# The first token of a source

What the scanner can cut off, said once: one rule for each kind of token, with what the earlier
kinds have to leave over (`Token.Heads`).  Everything about single steps of the scanner is by cases
on these rules.

* `Token.heads_iff`: the rules describe the scanner.
-/

namespace PatternBook

/-- A string starts with the character. -/
def Family.StartsString (f : Family) (c : Char) : Prop :=
  f.hasStrings = true ∧ (c = '"' ∨ c = '\'')

/-- A line comment starts with the text. -/
def Family.StartsLineComment (f : Family) (t : Text) : Prop :=
  f.hasLineComments = true ∧ (Text.after? "//" t).isSome = true

namespace Token

/-- A character that starts no escape, whether something follows it or not, is no backslash. -/
theorem ne_backslash {c : Char} {t : Text} (hlone : c = '\\' → t = [] → False)
    (hescape : ∀ d r, c = '\\' → t = d :: r → False) : c ≠ '\\' := by
  intro hc
  cases t with
  | nil => exact hlone hc rfl
  | cons d r => exact hescape d r hc rfl

/-- The token comes first in the source, and `rest` follows it. -/
inductive Heads (f : Family) (c : Char) (t : Text) : Token → Text → Prop where
  | quoted (hs : f.StartsString c) :
      Heads f c t (.quoted (c :: (quotedTail c t).1)) (quotedTail c t).2
  | lineComment (hs : ¬ f.StartsString c) (hl : f.StartsLineComment (c :: t)) :
      Heads f c t (.lineComment ((c :: t).takeWhile (· != '\n')))
        ((c :: t).dropWhile (· != '\n'))
  | block {body inner rest : Text} (hs : ¬ f.StartsString c) (hl : ¬ f.StartsLineComment (c :: t))
      (ho : Text.after? f.opening (c :: t) = some inner)
      (hc : Text.splitAt? f.closing inner = some (body, rest)) : Heads f c t (.block body) rest
  | unclosed {inner : Text} (hs : ¬ f.StartsString c) (hl : ¬ f.StartsLineComment (c :: t))
      (ho : Text.after? f.opening (c :: t) = some inner)
      (hc : Text.splitAt? f.closing inner = none) : Heads f c t (.unclosed inner) []
  | plain (hs : ¬ f.StartsString c) (hl : ¬ f.StartsLineComment (c :: t))
      (ho : Text.after? f.opening (c :: t) = none) : Heads f c t (.plain c) t

theorem heads_first (f : Family) (c : Char) (t : Text) :
    Heads f c t (first f c t).1 (first f c t).2 := by
  unfold first
  split
  · next hs => exact .quoted hs
  split
  · next hs hl => exact .lineComment hs hl
  split
  · next hs hl _ ho => exact .plain hs hl ho
  · next hs hl _ inner ho =>
      split
      · next hc => exact .block hs hl ho hc
      · next hc => exact .unclosed hs hl ho hc

theorem Heads.first_eq {f : Family} {c : Char} {t rest : Text} {x : Token}
    (h : Heads f c t x rest) : first f c t = (x, rest) := by
  unfold first
  cases h with
  | quoted hs => exact if_pos hs
  | lineComment hs hl => exact (if_neg hs).trans (if_pos hl)
  | block hs hl ho hc => exact (if_neg hs).trans ((if_neg hl).trans (by simp only [ho, hc]))
  | unclosed hs hl ho hc => exact (if_neg hs).trans ((if_neg hl).trans (by simp only [ho, hc]))
  | plain hs hl ho => exact (if_neg hs).trans ((if_neg hl).trans (by simp only [ho]))

/-- **The rules describe the scanner.** -/
theorem heads_iff {f : Family} {c : Char} {t rest : Text} {x : Token} :
    Heads f c t x rest ↔ first f c t = (x, rest) := by
  refine ⟨Heads.first_eq, fun h => ?_⟩
  have := heads_first f c t
  rwa [h] at this

end Token

/-- The tokens of a source, from the first one on. -/
theorem tokens_of_heads {f : Family} {c : Char} {t rest : Text} {x : Token}
    (h : Token.Heads f c t x rest) : tokens f (c :: t) = x :: tokens f rest := by
  rw [tokens, h.first_eq]

end PatternBook
