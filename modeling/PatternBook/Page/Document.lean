import PatternBook.Anchor
import PatternBook.Library
import PatternBook.Page.Markup
import PatternBook.Page.Style

/-!
# The page

The library as a page: an index of sections and titled records, and a section with an article for
each record that is not hidden, each with an anchor of its own.  Example markup is shown twice,
once as it is and once as a listing.
-/

namespace PatternBook.Page

open Markup (newline simple)

/-! ### Anchors -/

/-- A section with its anchor, and its visible records with theirs. -/
structure Plan where
  source  : Section
  anchor  : Text
  records : List (Record × Text)
  deriving Repr

/-- The records of a section that the page shows. -/
def visible (s : Section) : List Record := s.records.filter (!·.isHidden)

/-- The heading from which the anchor of a record is made. -/
def headingOf (s : Section) (r : Record) : Text := s.title ++ " " ++ r.title.getD "pattern"

/-- The anchors of sections in order, after those used before. -/
def plansFrom (used : Anchors) : List Section → List Plan
  | [] => []
  | s :: rest =>
    let (anchor, used) := used.next s.title
    let (anchors, used) := used.nextAll ((visible s).map (headingOf s))
    ⟨s, anchor, (visible s).zip anchors⟩ :: plansFrom used rest

theorem plansFrom_cons (used : Anchors) (s : Section) (rest : List Section) :
    plansFrom used (s :: rest) =
      ⟨s, used.name s.title, (visible s).zip
        ((used.add (Anchors.base s.title)).nextAll ((visible s).map (headingOf s))).1⟩ ::
      plansFrom ((used.add (Anchors.base s.title)).nextAll ((visible s).map (headingOf s))).2
        rest := rfl

/-- The anchors of a library. -/
def plans (l : Library) : List Plan := plansFrom .empty l.sections

/-! ### Parts of an article -/

/-- The value looks like a colour: a hexadecimal one, or one of the colour functions. -/
def looksLikeColor (value : Text) : Bool :=
  let v := (Text.trim value).map Char.toLower
  (match v with
    | '#' :: digits => !digits.isEmpty && digits.all fun c =>
        c.isDigit || ('a' ≤ c && c ≤ 'f')
    | _ => false) ||
  (["rgb(", "rgba(", "hsl(", "hsla("] : List Text).any fun f => (Text.after? f v).isSome

/-- The pieces between empty lines. -/
def splitParagraphs : Text → List Text
  | [] => [[]]
  | '\n' :: '\n' :: t => [] :: splitParagraphs t
  | c :: t =>
    match splitParagraphs t with
    | [] => [[c]]
    | piece :: rest => (c :: piece) :: rest

/-- The paragraphs of a body. -/
def paragraphs (body : Text) : List Text :=
  ((splitParagraphs body).map Text.trim).filter (!·.isEmpty)

/-- An element on a line of its own. -/
def line (name : Text) (children : List Markup) : List Markup :=
  [.element name [] children, newline]

/-- A row of a table of variables. -/
def variableRow (v : Variable) : List Markup :=
  let swatch : List Markup :=
    if looksLikeColor v.value then
      [.element "span" [("class", "sg-swatch"), ("style", "background: " ++ v.value)] []]
    else []
  [.text "  ",
   .element "tr" []
    [.element "td" [] swatch,
     .element "td" [] [simple "code" v.name],
     .element "td" [] [simple "code" v.value],
     simple "td" (v.comment.getD [])],
   newline]

/-- A table of variables. -/
def variableTable (declared : List Variable) : List Markup :=
  [.element "table" []
    ([newline,
      .element "thead" []
        [.element "tr" [] [simple "th" [], simple "th" "Name", simple "th" "Value",
          simple "th" "Note"]],
      newline,
      .element "tbody" [] (newline :: declared.flatMap variableRow),
      newline]),
   newline]

/-- An entry of a list of variants. -/
def variantEntry (v : Variant) : List Markup :=
  [.text "  ", .element "dt" [] [simple "code" v.name], newline] ++
    (if v.description.isEmpty then [] else [.text "  ", simple "dd" v.description, newline])

/-- A list of variants under a heading, unless there are none. -/
def variantList (heading : Text) (variants : List Variant) : List Markup :=
  if variants.isEmpty then []
  else
    [simple "h4" heading, newline,
     .element "dl" [] (newline :: variants.flatMap variantEntry), newline]

/-- Heading, place, description and body of a record. -/
def articleHead (r : Record) : List Markup :=
  let badge : List Markup :=
    if r.isDeprecated then
      [.text " ", .element "span" [("class", "sg-badge")] [.text "deprecated"]]
    else []
  let note : List Markup :=
    match r.tags.get .deprecated with
    | some note =>
      if note.isEmpty then []
      else line "p" [simple "strong" "Deprecated:", .text (" " ++ note)]
    | none => []
  line "h3" (.text (r.title.getD "Untitled") :: badge) ++
  [.element "p" [("class", "sg-source")]
    [simple "code" (r.sourcePath.toText ++ ":" ++ Text.ofNat r.line)], newline] ++
  ((r.tags.get .description).toList.flatMap fun t => line "p" [.text t]) ++
  note ++
  (paragraphs r.body).flatMap fun t => line "p" [.text t]

/-- An example, live and as a listing. -/
def exampleOf (selectorPrefix : Option Text) (markup : Text) : List Markup :=
  let live : Markup :=
    match selectorPrefix with
    | some scope => .element "div" [("class", scope)] [.verbatim markup]
    | none => .verbatim markup
  line "h4" [.text "Example"] ++
  [.element "div" [("class", "sg-example")] [live], newline,
   .element "pre" [] [.element "code" [("class", "language-html")] [.text markup]], newline]

/-- What the article of a pattern says after its head. -/
def patternBody (selectorPrefix : Option Text) (r : Record) : List Markup :=
  ((r.tags.get .usage).toList.flatMap fun t =>
    line "h4" [.text "Usage"] ++ line "p" [.text t]) ++
  (((r.tags.get .sample).filter (!·.isEmpty)).toList.flatMap (exampleOf selectorPrefix)) ++
  variantList "Modifiers" (r.variantsOf .modifier) ++
  variantList "States" (r.variantsOf .state) ++
  (if r.declared.isEmpty then [] else variableTable r.declared)

/-- What the article of a group of variables says after its head. -/
def declarationsBody (r : Record) : List Markup :=
  ((r.tags.get .usage).toList.flatMap fun t => line "p" [simple "em" t]) ++
  (if r.declared.isEmpty then
    [.element "pre" [] [.element "code" [("class", "language-css")] [.text r.code]], newline]
  else variableTable r.declared)

/-- The article of a record. -/
def article (layout : Layout) (selectorPrefix : Option Text) (r : Record) (anchor : Text) :
    List Markup :=
  let body :=
    match layout with
    | .patterns => patternBody selectorPrefix r
    | .declarations => declarationsBody r
  [.element "article" [("class", "sg-pattern"), ("id", anchor)]
    (newline :: articleHead r ++ body), newline]

/-! ### Sections -/

/-- The diagnostics of a section with their files, in file order. -/
def problems (s : Section) : List (SourceFile × Diagnostic) :=
  s.files.flatMap fun file => file.diagnostics.map fun d => (file, d)

/-- An entry of a list of problems. -/
def problemEntry (problem : SourceFile × Diagnostic) : List Markup :=
  [.text "  ",
   .element "li" []
    [simple "code" problem.1.path.toText, .text (": " ++ problem.2.toText)],
   newline]

/-- The problems of a section, unless there are none. -/
def problemList (s : Section) : List Markup :=
  let all := problems s
  if all.isEmpty then []
  else
    [.element "details" [("class", "sg-diagnostics")]
      ([newline, simple "summary" (Text.ofNat all.length ++ " problem(s)"), newline,
        .element "ul" [] (newline :: all.flatMap problemEntry), newline]),
     newline]

/-- The notice of a section that shows no record. -/
def emptyNotice : List Markup :=
  [.element "p" [("class", "sg-empty")] [simple "em" "No patterns documented."], newline]

/-- A section of the page. -/
def sectionOf (selectorPrefix : Option Text) (p : Plan) : List Markup :=
  [.element "section" [("id", p.anchor)]
    ([newline, simple "h2" p.source.title, newline] ++
      (if p.records.isEmpty then emptyNotice else []) ++
      (p.records.flatMap fun r => article p.source.layout selectorPrefix r.1 r.2) ++
      problemList p.source),
   newline]

/-! ### The whole page -/

/-- A link within the page. -/
def link (anchor : Text) (t : Text) : Markup := .element "a" [("href", '#' :: anchor)] [.text t]

/-- The titles of the records of a plan that have one, with their anchors. -/
def titled (p : Plan) : List (Text × Text) :=
  p.records.filterMap fun r => r.1.title.map fun t => (t, r.2)

/-- The entry of a section in the index. -/
def indexEntry (p : Plan) : List Markup :=
  let inner : List Markup :=
    if (titled p).isEmpty then []
    else
      [.text "\n    ",
       .element "ul" []
        (newline :: ((titled p).flatMap fun entry =>
          [.text "      ", .element "li" [] [link entry.2 entry.1], newline]) ++ [.text "    "]),
       .text "\n  "]
  [.text "  ", .element "li" [] (link p.anchor p.source.title :: inner), newline]

/-- The head of the page. -/
def head (l : Library) : Markup :=
  .element "head" []
    ([newline,
      .void "meta" [("charset", "utf-8")], newline,
      .void "meta" [("name", "viewport"), ("content", "width=device-width, initial-scale=1")],
      newline,
      simple "title" l.template.title, newline] ++
      ((l.template.assets ++ l.includes.css).flatMap fun href =>
        [.void "link" [("rel", "stylesheet"), ("href", href)], newline]) ++
      [simple "style" ('\n' :: stylesheet), newline])

/-- The body of the page. -/
def body (l : Library) : Markup :=
  .element "body" []
    ([newline,
      .element "header" [] [simple "h1" l.template.title], newline,
      .element "nav" []
        [newline, simple "h2" "Index", newline,
         .element "ul" [] (newline :: (plans l).flatMap indexEntry), newline],
      newline,
      .element "main" []
        (newline :: (plans l).flatMap (sectionOf l.template.selectorPrefix)),
      newline] ++
      (l.includes.js.flatMap fun src => [.element "script" [("src", src)] [], newline]))

/-- The page as a tree. -/
def tree (l : Library) : Markup :=
  .element "html" [("lang", "en")] [newline, head l, newline, body l, newline]

/-- The page as text. -/
def document (l : Library) : Text := "<!DOCTYPE html>\n" ++ (tree l).print ++ "\n"

end PatternBook.Page
