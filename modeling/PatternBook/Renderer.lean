import PatternBook.Artifact
import PatternBook.Page.Document

/-!
# Renderers

The forms in which a library can be written.
-/

namespace PatternBook

/-- A form of the document.  Writing may fail, with causes from the outermost to the innermost. -/
structure Renderer where
  /-- The extension of the document's file. -/
  extension : Text
  render    : Library → Except (List Text) Text

namespace Renderer

/-- The page. -/
def html : Renderer := ⟨"html", fun l => .ok (Page.document l)⟩

/-- The library as JSON. -/
def json : Renderer := ⟨"json", fun l => .ok (Artifact.document l)⟩

/-- The renderer of that name. -/
def ofName? (name : Text) : Option Renderer :=
  if name = "html" then some html
  else if name = "json" then some json
  else none

/-- The wording for a name without a renderer. -/
def unknownMessage (name : Text) : Text :=
  "unknown format: " ++ name ++ ". Use html or json"

end Renderer

end PatternBook
