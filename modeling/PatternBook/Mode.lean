import PatternBook.Record.Findings

/-!
# Modes and layouts

How the files of a section are read, and how its records are laid out on the page.
-/

namespace PatternBook

/-- How the files of a section are read. -/
inductive Mode where
  | css
  | script
  | markup
  /-- With the variables that the code declares. -/
  | variable
  deriving DecidableEq, Repr

namespace Mode

/-- The word for a mode. -/
def name : Mode → Text
  | .css => "css"
  | .script => "script"
  | .markup => "markup"
  | .variable => "variable"

/-- The mode that a word asks for. -/
def ofText? (t : Text) : Option Mode :=
  if t = "css" then some .css
  else if t = "script" ∨ t = "js" ∨ t = "javascript" ∨ t = "scss" ∨ t = "less" then some .script
  else if t = "markup" ∨ t = "html" then some .markup
  else if t = "variable" ∨ t = "variables" then some .variable
  else none

theorem ofText?_name (m : Mode) : ofText? m.name = some m := by
  cases m <;> decide

/-- How a file with that extension is read.  A mode decides over the extension, except the one for
variables, which keeps the comments of the file type. -/
def resolve (mode : Option Mode) (ext : Text) : Family × Dialect :=
  match mode with
  | some .css => (.css, .standard)
  | some .script => (.script, .standard)
  | some .markup => (.markup, .standard)
  | some .variable => (.ofExtension ext, .variable)
  | none => (.ofExtension ext, .standard)

end Mode

/-- How the records of a section are laid out. -/
inductive Layout where
  | patterns
  | declarations
  deriving DecidableEq, Repr

namespace Layout

/-- The word for a layout. -/
def name : Layout → Text
  | .patterns => "patterns"
  | .declarations => "variables"

/-- The layout that a word asks for. -/
def ofText? (t : Text) : Option Layout :=
  if t = "patterns" then some .patterns
  else if t = "variables" then some .declarations
  else none

theorem ofText?_name (l : Layout) : ofText? l.name = some l := by
  cases l <;> decide

end Layout

end PatternBook
