import PatternBook.Text.Basic

/-!
# The style of the page

The rules of the stylesheet that every page carries.
-/

namespace PatternBook.Page

/-- A rule of the stylesheet: what it applies to and what it sets. -/
structure StyleRule where
  selector     : Text
  declarations : List (Text × Text)
  deriving Repr

namespace StyleRule

/-- A declaration and the blank after it. -/
def printDeclaration (declaration : Text × Text) : Text :=
  declaration.1 ++ ": " ++ declaration.2 ++ "; "

/-- The rule on a line of its own. -/
def print (rule : StyleRule) : Text :=
  rule.selector ++ " \x7b " ++ rule.declarations.flatMap printDeclaration ++ "\x7d\n"

end StyleRule

/-- The rules of the page. -/
def styleRules : List StyleRule :=
  [⟨"body", [("font-family", "system-ui, sans-serif"), ("max-width", "64em"),
      ("margin", "2em auto"), ("padding", "0 1em"), ("color", "#1a1a1a")]⟩,
   ⟨"nav ul", [("list-style", "none"), ("padding-left", "1em")]⟩,
   ⟨"code", [("background", "#f4f4f4"), ("padding", "0.15em 0.3em"), ("border-radius", "3px")]⟩,
   ⟨"pre", [("background", "#f4f4f4"), ("padding", "1em"), ("border-radius", "5px"),
      ("overflow-x", "auto")]⟩,
   ⟨"dt", [("font-weight", "bold"), ("margin-top", "0.5em")]⟩,
   ⟨"dd", [("margin-left", "1.5em")]⟩,
   ⟨"table", [("border-collapse", "collapse")]⟩,
   ⟨"td, th", [("border-bottom", "1px solid #ddd"), ("padding", "0.4em 0.8em"),
      ("text-align", "left")]⟩,
   ⟨".sg-pattern", [("border-top", "1px solid #ddd"), ("padding", "1em 0")]⟩,
   ⟨".sg-source", [("color", "#666"), ("font-size", "0.85em")]⟩,
   ⟨".sg-example", [("border", "1px dashed #bbb"), ("padding", "1em"), ("margin", "0.5em 0")]⟩,
   ⟨".sg-swatch", [("display", "inline-block"), ("width", "1.5em"), ("height", "1.5em"),
      ("border", "1px solid #ccc"), ("border-radius", "3px"), ("vertical-align", "middle")]⟩,
   ⟨".sg-badge", [("display", "inline-block"), ("font-size", "0.75em"),
      ("padding", "0.1em 0.4em"), ("border-radius", "3px"), ("margin-left", "0.5em"),
      ("background", "#c77966"), ("color", "white")]⟩,
   ⟨".sg-diagnostics", [("color", "#703030")]⟩]

/-- The stylesheet of the page. -/
def stylesheet : Text := styleRules.flatMap StyleRule.print

end PatternBook.Page
