import PatternBook.Comment.Family
import PatternBook.Text.Utf8

/-!
# The lexical grammar of a source

The grammar by which a source falls into lexemes, over its bytes and without a scanner.  Each
lexeme is of one of five kinds; `Fits` says what may stand before a given rest, and of several
kinds that fit at a place the first one is taken (`Taken`).

* `Lexed.unique`: bytes fall into lexemes in at most one way.

The comment blocks of a source are read off its lexemes: `blocksAfter` and `unclosedAfter` place
each by the bytes before it.
-/

namespace PatternBook

namespace Utf8

/-- The byte `\`. -/
def backslash : UInt8 := 0x5C

/-- The byte that ends a line. -/
def newline : UInt8 := 0x0A

/-- The bytes of white space in ASCII: space, tab, newline, form feed and carriage return. -/
def asciiSpaces : Bytes := [0x20, 0x09, 0x0A, 0x0C, 0x0D]

end Utf8

open Utf8 (encode backslash newline asciiSpaces)

/-! ### Lexemes -/

/-- A stretch of bytes of a source. -/
inductive Lexeme where
  /-- A quoted string with its quotes. -/
  | string (bytes : Bytes)
  /-- A comment up to the end of its line. -/
  | lineComment (bytes : Bytes)
  /-- A comment block; `inner` stands between its delimiters. -/
  | block (inner : Bytes)
  /-- An opener without a closer, and all that follows it. -/
  | unclosed (inner : Bytes)
  | byte (b : UInt8)

namespace Lexeme

/-- The bytes of a lexeme. -/
def bytes (f : Family) : Lexeme → Bytes
  | .string w | .lineComment w => w
  | .block inner => encode f.opening ++ inner ++ encode f.closing
  | .unclosed inner => encode f.opening ++ inner
  | .byte b => [b]

/-- The place of a kind among the kinds. -/
def rank : Lexeme → Nat
  | .string _ => 0
  | .lineComment _ => 1
  | .block _ => 2
  | .unclosed _ => 3
  | .byte _ => 4

end Lexeme

/-- A double or a single quote. -/
def IsQuote (q : UInt8) : Prop := q = 0x22 ∨ q = 0x27

/-- What follows the quote `q` of a string, and the rest behind the string. -/
inductive StringTail (q : UInt8) : Bytes → Bytes → Prop where
  | quote (rest : Bytes) : StringTail q [q] rest
  | line (rest : Bytes) : StringTail q [] (newline :: rest)
  | done : StringTail q [] []
  | lone : StringTail q [backslash] []
  | escape {w rest : Bytes} (b : UInt8) (h : StringTail q w rest) :
      StringTail q (backslash :: b :: w) rest
  | other {w rest : Bytes} (b : UInt8) (hq : b ≠ q) (hb : b ≠ backslash) (hn : b ≠ newline)
      (h : StringTail q w rest) : StringTail q (b :: w) rest

/-- The lexeme may stand before the rest. -/
def Lexeme.Fits (f : Family) : Lexeme → Bytes → Prop
  | .string w, rest =>
    f.hasStrings = true ∧ ∃ q tail, IsQuote q ∧ w = q :: tail ∧ StringTail q tail rest
  | .lineComment w, rest =>
    f.hasLineComments = true ∧ encode "//" <+: w ∧ newline ∉ w ∧ ∀ b ∈ rest.head?, b = newline
  | .block inner, rest =>
    ∀ inner' rest', inner ++ encode f.closing ++ rest = inner' ++ encode f.closing ++ rest' →
      inner.length ≤ inner'.length
  | .unclosed inner, rest => rest = [] ∧ ¬ encode f.closing <:+: inner
  | .byte _, _ => True

/-- The lexeme is of the first kind that fits at its place. -/
def Lexeme.Taken (f : Family) (x : Lexeme) (rest : Bytes) : Prop :=
  x.Fits f rest ∧ ∀ (y : Lexeme) (rest' : Bytes), y.Fits f rest' →
    y.bytes f ++ rest' = x.bytes f ++ rest → x.rank ≤ y.rank

/-- The bytes of lexemes, one after the other. -/
def bytesOf (f : Family) (xs : List Lexeme) : Bytes := xs.flatMap (Lexeme.bytes f)

/-- At each place the lexeme there is taken. -/
inductive Lexed (f : Family) : List Lexeme → Prop where
  | nil : Lexed f []
  | cons {x : Lexeme} {xs : List Lexeme} (hx : x.Taken f (bytesOf f xs)) (h : Lexed f xs) :
      Lexed f (x :: xs)

/-! ### The blocks of lexemes -/

/-- A comment block among the bytes of a source. -/
structure BlockSpan where
  text   : Bytes
  line   : Nat
  start  : Nat
  stop   : Nat
  inline : Bool

/-- The line on which a place stands. -/
def lineAfter (before : Bytes) : Nat := 1 + before.count newline

/-- Some byte between the last newline and a place is no white space. -/
def codeAfter (before : Bytes) : Bool :=
  (before.reverse.takeWhile (· ≠ newline)).any (· ∉ asciiSpaces)

/-- The comment blocks of lexemes that stand behind other bytes. -/
def blocksAfter (f : Family) (before : Bytes) : List Lexeme → List BlockSpan
  | [] => []
  | x :: xs =>
    let rest := blocksAfter f (before ++ x.bytes f) xs
    match x with
    | .block inner =>
      { text := inner
        line := lineAfter before
        start := before.length
        stop := before.length + (x.bytes f).length
        inline := codeAfter before } :: rest
    | _ => rest

/-- The line of the opener without a closer. -/
def unclosedAfter (f : Family) (before : Bytes) : List Lexeme → Option Nat
  | [] => none
  | .unclosed _ :: _ => some (lineAfter before)
  | x :: xs => unclosedAfter f (before ++ x.bytes f) xs

/-! ### Uniqueness -/

theorem IsQuote.ne {q : UInt8} (h : IsQuote q) : q ≠ backslash ∧ q ≠ newline := by
  rcases h with rfl | rfl <;> exact ⟨by decide, by decide⟩

/-- A string ends at one place only. -/
theorem StringTail.unique {q : UInt8} (hq : IsQuote q) {w r w' r' : Bytes}
    (h : StringTail q w r) (h' : StringTail q w' r') (e : w ++ r = w' ++ r') :
    w = w' ∧ r = r' := by
  obtain ⟨hb, hn⟩ := hq.ne
  have hbn : backslash ≠ newline := by decide
  -- two different rules disagree about the first byte, or about whether there is one
  induction h generalizing w' r' with
  | quote rest | line rest | done | lone => cases h' <;> simp_all [eq_comm]
  | escape b h ih =>
      cases h' with
      | escape b' h' =>
          obtain ⟨rfl, ew⟩ := List.cons.inj (List.cons.inj e).2
          obtain ⟨rfl, rfl⟩ := ih h' ew
          exact ⟨rfl, rfl⟩
      | quote _ | line _ | done | lone | other _ _ _ _ _ => simp_all [eq_comm]
  | other b _ _ _ h ih =>
      cases h' with
      | other b' _ _ _ h' =>
          obtain ⟨rfl, ew⟩ := List.cons.inj e
          obtain ⟨rfl, rfl⟩ := ih h' ew
          exact ⟨rfl, rfl⟩
      | quote _ | line _ | done | lone | escape _ _ => simp_all [eq_comm]

/-- Of two stretches without a newline, each before a newline or the end, neither is longer. -/
theorem line_unique {w r w' r' : Bytes} (hw : newline ∉ w) (hw' : newline ∉ w')
    (hr : ∀ b ∈ r.head?, b = newline) (hr' : ∀ b ∈ r'.head?, b = newline)
    (e : w ++ r = w' ++ r') : w = w' ∧ r = r' := by
  induction w generalizing w' with
  | nil =>
      cases w' with
      | nil => exact ⟨rfl, e⟩
      | cons b w' =>
          rw [List.nil_append, List.cons_append] at e
          rw [e] at hr
          exact absurd (hr b rfl) (List.ne_of_not_mem_cons hw').symm
  | cons c w ih =>
      cases w' with
      | nil =>
          rw [List.nil_append, List.cons_append] at e
          rw [← e] at hr'
          exact absurd (hr' c rfl) (List.ne_of_not_mem_cons hw).symm
      | cons b w' =>
          obtain ⟨rfl, ew⟩ := List.cons.inj e
          obtain ⟨rfl, rfl⟩ := ih (List.not_mem_of_not_mem_cons hw)
            (List.not_mem_of_not_mem_cons hw') ew
          exact ⟨rfl, rfl⟩

/-- Of each kind, at most one lexeme fits at a place. -/
theorem Lexeme.Fits.unique {f : Family} {x y : Lexeme} {r r' : Bytes} (hx : x.Fits f r)
    (hy : y.Fits f r') (hrank : x.rank = y.rank) (e : x.bytes f ++ r = y.bytes f ++ r') :
    x = y ∧ r = r' := by
  cases x <;> cases y <;> cases hrank
  case string.string w w' =>
    obtain ⟨-, q, tail, hq, rfl, h⟩ := hx
    obtain ⟨-, q', tail', -, rfl, h'⟩ := hy
    obtain ⟨rfl, etail⟩ := List.cons.inj e
    obtain ⟨rfl, rfl⟩ := h.unique hq h' etail
    exact ⟨rfl, rfl⟩
  case lineComment.lineComment w w' =>
    obtain ⟨-, -, hw, hr⟩ := hx
    obtain ⟨-, -, hw', hr'⟩ := hy
    obtain ⟨rfl, rfl⟩ := line_unique hw hw' hr hr' e
    exact ⟨rfl, rfl⟩
  case block.block inner inner' =>
    -- neither text is shorter than the other
    simp only [Lexeme.bytes, List.append_assoc, List.append_cancel_left_eq] at e
    have hle := hx inner' r' (by simpa using e)
    have hge := hy inner r (by simpa using e.symm)
    obtain ⟨rfl, erest⟩ := List.append_inj e (Nat.le_antisymm hle hge)
    exact ⟨rfl, List.append_cancel_left erest⟩
  case unclosed.unclosed inner inner' =>
    obtain ⟨rfl, -⟩ := hx
    obtain ⟨rfl, -⟩ := hy
    simp only [Lexeme.bytes, List.append_nil, List.append_cancel_left_eq] at e
    exact ⟨by rw [e], rfl⟩
  case byte.byte b b' =>
    obtain ⟨rfl, rfl⟩ := List.cons.inj e
    exact ⟨rfl, rfl⟩

theorem Lexeme.Taken.unique {f : Family} {x y : Lexeme} {r r' : Bytes} (hx : x.Taken f r)
    (hy : y.Taken f r') (e : x.bytes f ++ r = y.bytes f ++ r') : x = y ∧ r = r' :=
  hx.1.unique hy.1 (Nat.le_antisymm (hx.2 y r' hy.1 e.symm) (hy.2 x r hx.1 e)) e

theorem encode_opening_ne_nil (f : Family) : encode f.opening ≠ [] := by
  cases f <;> decide

theorem Lexeme.Fits.bytes_ne_nil {f : Family} {x : Lexeme} {r : Bytes} (h : x.Fits f r) :
    x.bytes f ≠ [] := by
  cases x with
  | string w =>
      obtain ⟨-, q, tail, -, rfl, -⟩ := h
      exact List.cons_ne_nil q tail
  | lineComment w =>
      rintro rfl
      exact absurd (List.prefix_nil.1 h.2.1) (by decide)
  | block inner =>
      intro e
      exact encode_opening_ne_nil f (List.append_eq_nil_iff.1 (List.append_eq_nil_iff.1 e).1).1
  | unclosed inner =>
      intro e
      exact encode_opening_ne_nil f (List.append_eq_nil_iff.1 e).1
  | byte b => exact List.cons_ne_nil b []

/-- **Bytes fall into lexemes in at most one way.** -/
theorem Lexed.unique {f : Family} {xs ys : List Lexeme} (hx : Lexed f xs) (hy : Lexed f ys)
    (e : bytesOf f xs = bytesOf f ys) : xs = ys := by
  induction hx generalizing ys with
  | nil =>
      cases hy with
      | nil => rfl
      | cons hy _ => exact absurd (List.append_eq_nil_iff.1 e.symm).1 hy.1.bytes_ne_nil
  | cons hx _ ih =>
      cases hy with
      | nil => exact absurd (List.append_eq_nil_iff.1 e).1 hx.1.bytes_ne_nil
      | cons hy hys =>
          obtain ⟨rfl, erest⟩ := hx.unique hy e
          rw [ih hys erest]

end PatternBook
