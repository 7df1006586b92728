import PatternBook.Comment.Token

/-!
# Comment blocks

The comment blocks of a source, each with its place: the line it starts on, the bytes it covers,
and whether code stands before it on its line.  A block that follows code is a remark on that code
and heads nothing; the others each head the code up to the next one (`Chapter`).
-/

namespace PatternBook

/-- A place in a source: the bytes before it, its line, and whether code stands before it on that
line. -/
structure Place where
  offset    : Nat
  line      : Nat
  afterCode : Bool
  deriving DecidableEq, Repr

namespace Place

/-- The start of a source. -/
def start : Place := ⟨0, 1, false⟩

/-- A space, tab, newline, form feed or carriage return. -/
def isLayout (c : Char) : Bool :=
  c == ' ' || c == '\t' || c == '\n' || c == '\x0C' || c == '\r'

/-- The place after a character. -/
def next (p : Place) (c : Char) : Place :=
  if c = '\n' then ⟨p.offset + c.utf8Size, p.line + 1, false⟩
  else ⟨p.offset + c.utf8Size, p.line, p.afterCode || !isLayout c⟩

/-- The place after a text. -/
def past (p : Place) (t : Text) : Place := t.foldl next p

theorem past_append (p : Place) (s t : Text) : p.past (s ++ t) = (p.past s).past t := by
  simp [past, List.foldl_append]

end Place

/-- A comment block without its delimiters. -/
structure Block where
  text   : Text
  /-- The line of its opener; the first line is 1. -/
  line   : Nat
  /-- The first byte of its opener. -/
  start  : Nat
  /-- The first byte after its closer. -/
  stop   : Nat
  /-- Code stands before its opener on the same line. -/
  inline : Bool
  deriving DecidableEq, Repr

/-- The block at a place. -/
def Block.at (f : Family) (p : Place) (inner : Text) : Block where
  text := inner
  line := p.line
  start := p.offset
  stop := (p.past ((Token.block inner).text f)).offset
  inline := p.afterCode

/-- All blocks of a source, and the line of an opener that is never closed. -/
structure Extraction where
  blocks   : List Block
  unclosed : Option Nat
  deriving DecidableEq, Repr

/-- The blocks of the tokens that start at a place. -/
def Extraction.ofTokens (f : Family) : Place → List Token → Extraction
  | _, [] => ⟨[], none⟩
  | p, token :: rest =>
    let found := ofTokens f (p.past (token.text f)) rest
    match token with
    | .block inner => ⟨Block.at f p inner :: found.blocks, found.unclosed⟩
    | .unclosed _ => ⟨found.blocks, some p.line⟩
    | _ => found

/-- The blocks of a source. -/
def extract (f : Family) (source : Text) : Extraction :=
  Extraction.ofTokens f .start (tokens f source)

/-! ### Chapters -/

/-- A block that heads code, and the code up to the next such block. -/
structure Chapter where
  head : Block
  code : Text
  deriving DecidableEq, Repr

/-- The text before the first chapter, and the chapters. -/
def Chapter.ofTokens (f : Family) : Place → List Token → Text × List Chapter
  | _, [] => ([], [])
  | p, token :: rest =>
    let found := ofTokens f (p.past (token.text f)) rest
    match token with
    | .block inner =>
      if p.afterCode then (token.text f ++ found.1, found.2)
      else ([], ⟨Block.at f p inner, found.1⟩ :: found.2)
    | _ => (token.text f ++ found.1, found.2)

/-- The chapters of a source. -/
def chapters (f : Family) (source : Text) : List Chapter :=
  (Chapter.ofTokens f .start (tokens f source)).2

end PatternBook
