import PatternBook.Text.Basic

/-!
# Comment families

How comments and strings are written in a kind of source file.
-/

namespace PatternBook

/-- The conventions that a group of file types shares. -/
inductive Family where
  /-- Block comments and quoted strings. -/
  | css
  /-- Block comments, line comments and quoted strings. -/
  | script
  /-- Tag-like comments; an apostrophe in prose starts no string. -/
  | markup
  deriving DecidableEq, Repr

namespace Family

/-- The extensions of files with line comments. -/
def scriptExtensions : List Text :=
  ["js", "mjs", "cjs", "jsx", "ts", "tsx", "scss", "sass", "less", "styl"]

/-- The extensions of markup files. -/
def markupExtensions : List Text :=
  ["html", "htm", "hbs", "handlebars", "mustache", "njk", "twig", "xml", "svg", "vue"]

/-- The family of a lower-case extension; an unknown one is read like a stylesheet. -/
def ofExtension (ext : Text) : Family :=
  if ext ∈ scriptExtensions then .script
  else if ext ∈ markupExtensions then .markup
  else .css

/-- What opens a comment block. -/
def opening : Family → Text
  | .css | .script => "/*"
  | .markup => "<!--"

/-- What closes a comment block. -/
def closing : Family → Text
  | .css | .script => "*/"
  | .markup => "-->"

/-- Quotes delimit strings. -/
def hasStrings : Family → Bool
  | .css | .script => true
  | .markup => false

/-- Two slashes start a comment that ends with the line. -/
def hasLineComments : Family → Bool
  | .script => true
  | .css | .markup => false

end Family

end PatternBook
