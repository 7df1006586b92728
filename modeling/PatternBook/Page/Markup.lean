import PatternBook.Text.Basic

/-!
# Markup

A page as a tree of elements.  Texts and attribute values are escaped when the tree is written, so
what they say cannot be taken for markup; only verbatim parts are written as they are.

* `escape_append`: escaping works character by character.
* `print_element`: an element is its start tag, its children and its end tag.
-/

namespace PatternBook

/-- A piece of a page. -/
inductive Markup where
  | text (t : Text)
  /-- Markup that came as text. -/
  | verbatim (t : Text)
  | element (name : Text) (attributes : List (Text × Text)) (children : List Markup)
  /-- An element without content and without an end tag. -/
  | void (name : Text) (attributes : List (Text × Text))
  deriving Repr, Inhabited

namespace Markup

/-! ### Escaping -/

/-- A character in a text or an attribute value. -/
def escapeChar (c : Char) : Text :=
  if c = '&' then "&amp;"
  else if c = '<' then "&lt;"
  else if c = '>' then "&gt;"
  else if c = '"' then "&quot;"
  else [c]

/-- A text in which nothing is markup. -/
def escape (t : Text) : Text := t.flatMap escapeChar

theorem escape_append (s t : Text) : escape (s ++ t) = escape s ++ escape t := by
  simp [escape]

/-! ### Writing -/

/-- An attribute with its value between quotes. -/
def printAttribute (pair : Text × Text) : Text :=
  " " ++ pair.1 ++ "=\"" ++ escape pair.2 ++ "\""

/-- A start tag. -/
def startTag (name : Text) (attributes : List (Text × Text)) : Text :=
  "<" ++ name ++ attributes.flatMap printAttribute ++ ">"

/-- An end tag. -/
def endTag (name : Text) : Text := "</" ++ name ++ ">"

mutual

/-- The form of a piece. -/
def print : Markup → Text
  | .text t => escape t
  | .verbatim t => t
  | .element name attributes children =>
    startTag name attributes ++ printAll children ++ endTag name
  | .void name attributes => startTag name attributes

/-- The form of pieces, one after the other. -/
def printAll : List Markup → Text
  | [] => []
  | piece :: rest => print piece ++ printAll rest

end

theorem print_element (name : Text) (attributes : List (Text × Text)) (children : List Markup) :
    (element name attributes children).print =
      startTag name attributes ++ printAll children ++ endTag name := by
  simp [print]

theorem printAll_append (s t : List Markup) : printAll (s ++ t) = printAll s ++ printAll t := by
  induction s with
  | nil => rfl
  | cons piece s ih => simp [printAll, ih]

/-! ### Short forms -/

/-- The end of a line. -/
def newline : Markup := .text "\n"

/-- An element without attributes that holds a text. -/
def simple (name : Text) (t : Text) : Markup := .element name [] [.text t]

end Markup

end PatternBook
