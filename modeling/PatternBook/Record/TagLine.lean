import PatternBook.Record.Basic

/-!
# Tag lines

The lines of a comment block without their gutter, and the lines among them that carry a tag: an
`@`, a name that starts with a letter, and then either nothing or a blank and the tag's text.
-/

namespace PatternBook

/-- A word of the vocabulary. -/
inductive Keyword where
  /-- A tag that a record has once. -/
  | single (tag : Tag)
  /-- A tag that adds a variant. -/
  | variant (kind : VariantKind)
  deriving DecidableEq, Repr

namespace Keyword

/-- The vocabulary. -/
def all : List Keyword := Tag.all.map .single ++ [.variant .modifier, .variant .state]

/-- The word after the `@`. -/
def name : Keyword → Text
  | .single tag => tag.name
  | .variant kind => kind.name

/-- The tag says nothing without a value. -/
def needsValue : Keyword → Bool
  | .single tag => !tag.isFlag
  | .variant _ => true

/-- The word of the vocabulary with that name, in that case. -/
def ofName (name : Text) : Option Keyword := all.find? (·.name = name)

theorem ofName_name (k : Keyword) : ofName k.name = some k := by
  cases k with
  | single tag => cases tag <;> decide
  | variant kind => cases kind <;> decide

theorem name_of_ofName {name : Text} {k : Keyword} (h : ofName name = some k) : k.name = name := by
  simpa using List.find?_some h

end Keyword

/-- A line of a comment block without its gutter: one `*` at the start and one space after it.
Blanks are trimmed at the end, and at the start of the line, but not after the gutter. -/
def dropGutter (line : Text) : Text :=
  match Text.trimStart line with
  | '*' :: ' ' :: rest => Text.trimEnd rest
  | '*' :: rest => Text.trimEnd rest
  | rest => Text.trimEnd rest

/-- A character that can stand in a tag name after its first letter. -/
def isTagNameChar (c : Char) : Bool := c.isAlphanum || c == '_' || c == '-'

/-- The name and the text of a tag, if the line, which starts with no blank, carries one. -/
def tagOfLine (line : Text) : Option (Text × Text) :=
  match line with
  | '@' :: c :: t =>
    if c.isAlpha then
      let name := c :: t.takeWhile isTagNameChar
      match t.dropWhile isTagNameChar with
      | [] => some (name, [])
      | d :: rest => if isSpaceOrTab d then some (name, rest) else none
    else none
  | _ => none

/-- What a line of a block is. -/
inductive Line where
  /-- A tag of the vocabulary with the text that follows it. -/
  | tag (keyword : Keyword) (text : Text)
  /-- A tag with a name outside the vocabulary, as written. -/
  | unknownTag (text : Text)
  /-- Any other line. -/
  | prose (text : Text)
  deriving DecidableEq, Repr

/-- A line without its gutter, sorted.  A tag may be indented; prose keeps its indentation. -/
def Line.ofText (line : Text) : Line :=
  match tagOfLine (Text.trimStart line) with
  | none => .prose line
  | some (name, text) =>
    match Keyword.ofName name with
    | some keyword => .tag keyword (Text.trim text)
    | none => .unknownTag line

end PatternBook
