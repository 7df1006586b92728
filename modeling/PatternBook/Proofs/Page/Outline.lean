import Mathlib.Data.List.Basic
import PatternBook.Page.Document
import PatternBook.Proofs.Page.Items

/-!
# The outline of a page

Only some elements of a page have to do with its order: the index and its links, the sections, the
articles with their headings, and the lists of problems.  These are its landmarks, and most parts of
a page have none.

* `Markup.filter_elementsAll`: what is looked for among the landmarks is found in the outline.
* `Page.outline_sectionContent`, `Page.outline_indexEntry`: the landmarks of a section and of an
  entry of the index.
* `Page.outline_tree`: the landmarks of a page.
-/

namespace PatternBook

/-- The elements that have to do with the order of a page. -/
def landmarks : List Text :=
  ["nav", "a", "section", "article", "h2", "h3", "details", "summary", "li"]

/-- The element is a landmark. -/
def isLandmark (name : Text) : Bool := landmarks.contains name

/-- The elements that are no landmarks. -/
inductive IsFiller : Text → Prop
  | html : IsFiller "html"
  | head : IsFiller "head"
  | title : IsFiller "title"
  | style : IsFiller "style"
  | body : IsFiller "body"
  | header : IsFiller "header"
  | h1 : IsFiller "h1"
  | main : IsFiller "main"
  | script : IsFiller "script"
  | ul : IsFiller "ul"
  | p : IsFiller "p"
  | span : IsFiller "span"
  | code : IsFiller "code"
  | strong : IsFiller "strong"
  | em : IsFiller "em"
  | h4 : IsFiller "h4"
  | div : IsFiller "div"
  | pre : IsFiller "pre"
  | dl : IsFiller "dl"
  | dt : IsFiller "dt"
  | dd : IsFiller "dd"
  | table : IsFiller "table"
  | thead : IsFiller "thead"
  | tbody : IsFiller "tbody"
  | tr : IsFiller "tr"
  | th : IsFiller "th"
  | td : IsFiller "td"

theorem IsFiller.isLandmark {name : Text} (h : IsFiller name) : isLandmark name = false := by
  cases h <;> decide +kernel

theorem isLandmark_of_mem {name : Text} (h : name ∈ landmarks) : isLandmark name = true :=
  List.contains_iff_mem.2 h

namespace Markup

/-! ### Elements of parts -/

section

variable (p : Text → Bool)

theorem elementsAll_nil : elementsAll p [] = [] := by rw [elementsAll]

theorem elementsAll_cons (piece : Markup) (rest : List Markup) :
    elementsAll p (piece :: rest) = elementsOf p piece ++ elementsAll p rest := by
  rw [elementsAll]

theorem elementsAll_append (s t : List Markup) :
    elementsAll p (s ++ t) = elementsAll p s ++ elementsAll p t := by
  induction s with
  | nil => rw [elementsAll_nil, List.nil_append, List.nil_append]
  | cons piece s ih =>
      rw [List.cons_append, elementsAll_cons, elementsAll_cons, ih, List.append_assoc]

theorem elementsAll_flatMap {α : Type} (f : α → List Markup) (l : List α) :
    elementsAll p (l.flatMap f) = l.flatMap fun a => elementsAll p (f a) := by
  induction l with
  | nil => exact elementsAll_nil p
  | cons a l ih => rw [List.flatMap_cons, elementsAll_append, ih, List.flatMap_cons]

theorem elementsOf_text (t : Text) : elementsOf p (.text t) = [] := by rw [elementsOf]

theorem elementsOf_verbatim (t : Text) : elementsOf p (.verbatim t) = [] := by rw [elementsOf]

theorem elementsOf_void (name : Text) (attributes : List (Text × Text)) :
    elementsOf p (.void name attributes) = [] := by rw [elementsOf]

variable {p} {name : Text}

theorem elementsOf_mark (h : p name = true) (attributes : List (Text × Text))
    (children : List Markup) :
    elementsOf p (.element name attributes children)
      = ⟨name, attributes, children⟩ :: elementsAll p children := by
  rw [elementsOf, if_pos h]

theorem elementsOf_other (h : p name = false) (attributes : List (Text × Text))
    (children : List Markup) :
    elementsOf p (.element name attributes children) = elementsAll p children := by
  rw [elementsOf, h]
  rfl

end

mutual

/-- Of the elements with some names, those with fewer names are picked out. -/
theorem filter_elementsOf {p q : Text → Bool} (h : ∀ n, p n = true → q n = true)
    (piece : Markup) :
    (elementsOf q piece).filter (fun e => p e.name) = elementsOf p piece := by
  cases piece with
  | text s => rw [elementsOf_text, elementsOf_text]; rfl
  | verbatim s => rw [elementsOf_verbatim, elementsOf_verbatim]; rfl
  | element name attributes children =>
      have hchildren := filter_elementsAll h children
      cases hp : p name with
      | true =>
          rw [elementsOf_mark (h name hp), elementsOf_mark hp, ← hchildren]
          exact List.filter_cons_of_pos hp
      | false =>
          rw [elementsOf_other hp, ← hchildren]
          cases hq : q name with
          | true =>
              rw [elementsOf_mark hq]
              exact List.filter_cons_of_neg (by rw [hp]; exact Bool.false_ne_true)
          | false => rw [elementsOf_other hq]
  | void name attributes => rw [elementsOf_void, elementsOf_void]; rfl

theorem filter_elementsAll {p q : Text → Bool} (h : ∀ n, p n = true → q n = true)
    (pieces : List Markup) :
    (elementsAll q pieces).filter (fun e => p e.name) = elementsAll p pieces := by
  cases pieces with
  | nil => rw [elementsAll_nil, elementsAll_nil]; rfl
  | cons piece rest =>
      rw [elementsAll_cons, elementsAll_cons, List.filter_append, filter_elementsOf h piece,
        filter_elementsAll h rest]

end

/-- The landmarks of pieces, in document order. -/
def outline (pieces : List Markup) : List Element := elementsAll isLandmark pieces

/-- The pieces have no landmark. -/
def Quiet (pieces : List Markup) : Prop := outline pieces = []

section

variable {s t : List Markup} {name : Text}

theorem outline_append (s t : List Markup) : outline (s ++ t) = outline s ++ outline t :=
  elementsAll_append isLandmark s t

theorem outline_flatMap {α : Type} (f : α → List Markup) (l : List α) :
    outline (l.flatMap f) = l.flatMap fun a => outline (f a) :=
  elementsAll_flatMap isLandmark f l

theorem outline_text_cons (u : Text) : outline (.text u :: t) = outline t := by
  rw [outline, elementsAll_cons, elementsOf_text, List.nil_append, outline]

theorem outline_newline_cons : outline (newline :: t) = outline t := outline_text_cons _

theorem outline_mark_cons (h : name ∈ landmarks) (attributes : List (Text × Text)) :
    outline (.element name attributes s :: t)
      = ⟨name, attributes, s⟩ :: (outline s ++ outline t) := by
  rw [outline, elementsAll_cons, elementsOf_mark (isLandmark_of_mem h)]
  rfl

theorem outline_filler_cons (h : IsFiller name) (attributes : List (Text × Text)) :
    outline (.element name attributes s :: t) = outline s ++ outline t := by
  rw [outline, elementsAll_cons, elementsOf_other h.isLandmark]
  rfl

theorem quiet_nil : Quiet [] := elementsAll_nil isLandmark

theorem quiet_append : Quiet (s ++ t) ↔ Quiet s ∧ Quiet t := by
  rw [Quiet, outline_append]
  exact List.append_eq_nil_iff

theorem quiet_text_cons (u : Text) : Quiet (.text u :: t) ↔ Quiet t := by
  rw [Quiet, outline_text_cons, Quiet]

theorem quiet_newline_cons : Quiet (newline :: t) ↔ Quiet t := quiet_text_cons _

theorem quiet_verbatim_cons (u : Text) : Quiet (.verbatim u :: t) ↔ Quiet t := by
  rw [Quiet, outline, elementsAll_cons, elementsOf_verbatim]
  rfl

theorem quiet_void_cons (attributes : List (Text × Text)) :
    Quiet (.void name attributes :: t) ↔ Quiet t := by
  rw [Quiet, outline, elementsAll_cons, elementsOf_void]
  rfl

theorem quiet_element_cons (h : IsFiller name) (attributes : List (Text × Text)) :
    Quiet (.element name attributes s :: t) ↔ Quiet s ∧ Quiet t := by
  rw [Quiet, outline_filler_cons h]
  exact List.append_eq_nil_iff

theorem quiet_simple_cons (h : IsFiller name) (u : Text) :
    Quiet (simple name u :: t) ↔ Quiet t := by
  rw [simple, quiet_element_cons h, quiet_text_cons]
  exact and_iff_right quiet_nil

theorem quiet_flatMap {α : Type} {f : α → List Markup} {l : List α} (h : ∀ a, Quiet (f a)) :
    Quiet (l.flatMap f) := by
  rw [Quiet, outline_flatMap]
  exact List.flatMap_eq_nil_iff.2 fun a _ => h a

theorem quiet_ite {c : Prop} [Decidable c] (hs : Quiet s) (ht : Quiet t) :
    Quiet (if c then s else t) := by
  by_cases h : c
  · rwa [if_pos h]
  · rwa [if_neg h]

end

end Markup

namespace Page

open Markup (Element Quiet newline outline outline_append outline_flatMap outline_mark_cons
  outline_newline_cons outline_filler_cons outline_text_cons quiet_append quiet_element_cons
  quiet_flatMap quiet_ite quiet_newline_cons quiet_nil quiet_simple_cons quiet_text_cons
  quiet_verbatim_cons quiet_void_cons simple)

/-! ### Parts without landmarks -/

theorem quiet_line {name : Text} (h : IsFiller name) (children : List Markup) :
    Quiet (line name children) ↔ Quiet children := by
  rw [line, quiet_element_cons h, quiet_newline_cons]
  exact and_iff_left quiet_nil

theorem quiet_variableRow (v : Variable) : Quiet (variableRow v) := by
  have hswatch : Quiet (if looksLikeColor v.value then
      [.element "span" [("class", "sg-swatch"), ("style", "background: " ++ v.value)] []]
    else []) := by
    refine quiet_ite ?_ quiet_nil
    simp only [quiet_element_cons, quiet_nil, and_true, IsFiller.span]
  simp only [variableRow, hswatch, quiet_text_cons, quiet_element_cons, quiet_simple_cons,
    quiet_newline_cons, quiet_nil, and_true, IsFiller.tr, IsFiller.td, IsFiller.code]

theorem quiet_variableTable (declared : List Variable) : Quiet (variableTable declared) := by
  have hrows := quiet_flatMap (l := declared) quiet_variableRow
  simp only [variableTable, hrows, quiet_element_cons, quiet_simple_cons, quiet_newline_cons,
    quiet_nil, and_true, IsFiller.table, IsFiller.thead, IsFiller.tbody, IsFiller.tr, IsFiller.th]

theorem quiet_variantEntry (v : Variant) : Quiet (variantEntry v) := by
  have hdescription : Quiet (if v.description.isEmpty then []
      else [.text "  ", simple "dd" v.description, newline]) := by
    refine quiet_ite quiet_nil ?_
    simp only [quiet_text_cons, quiet_simple_cons, quiet_newline_cons,
      quiet_nil, IsFiller.dd]
  simp only [variantEntry, hdescription, quiet_append, quiet_text_cons, quiet_element_cons,
    quiet_simple_cons, quiet_newline_cons, quiet_nil, and_true, IsFiller.dt, IsFiller.code]

theorem quiet_variantList (heading : Text) (variants : List Variant) :
    Quiet (variantList heading variants) := by
  have hentries := quiet_flatMap (l := variants) quiet_variantEntry
  refine quiet_ite quiet_nil ?_
  simp only [hentries, quiet_element_cons, quiet_simple_cons,
    quiet_newline_cons, quiet_nil, and_true, IsFiller.h4, IsFiller.dl]

theorem quiet_paragraph (t : Text) : Quiet (line "p" [.text t]) := by
  rw [quiet_line .p, quiet_text_cons]
  exact quiet_nil

theorem quiet_exampleOf (selectorPrefix : Option Text) (markup : Text) :
    Quiet (exampleOf selectorPrefix markup) := by
  cases selectorPrefix with
  | none =>
      simp only [exampleOf, quiet_line, quiet_append, quiet_text_cons, quiet_verbatim_cons,
        quiet_element_cons, quiet_newline_cons, quiet_nil, and_true, IsFiller.h4, IsFiller.div,
        IsFiller.pre, IsFiller.code]
  | some scope =>
      simp only [exampleOf, quiet_line, quiet_append, quiet_text_cons, quiet_verbatim_cons,
        quiet_element_cons, quiet_newline_cons, quiet_nil, and_true, IsFiller.h4, IsFiller.div,
        IsFiller.pre, IsFiller.code]

theorem quiet_patternBody (selectorPrefix : Option Text) (r : Record) :
    Quiet (patternBody selectorPrefix r) := by
  have husage : Quiet ((r.tags.get .usage).toList.flatMap fun t =>
      line "h4" [.text "Usage"] ++ line "p" [.text t]) := quiet_flatMap fun t => by
    simp only [quiet_line, quiet_append, quiet_text_cons, quiet_nil,
      and_true, IsFiller.h4, IsFiller.p]
  have hsample : Quiet (((r.tags.get .sample).filter (!·.isEmpty)).toList.flatMap
      (exampleOf selectorPrefix)) := quiet_flatMap (quiet_exampleOf selectorPrefix)
  have hdeclared : Quiet (if r.declared.isEmpty then [] else variableTable r.declared) :=
    quiet_ite quiet_nil (quiet_variableTable r.declared)
  simp only [patternBody, quiet_append, husage, hsample, hdeclared, quiet_variantList, and_true]

theorem quiet_declarationsBody (r : Record) : Quiet (declarationsBody r) := by
  have husage : Quiet ((r.tags.get .usage).toList.flatMap fun t => line "p" [simple "em" t]) :=
    quiet_flatMap fun t => by
      simp only [quiet_line, quiet_simple_cons, quiet_nil, IsFiller.p, IsFiller.em]
  have hcode : Quiet [.element "pre" []
      [.element "code" [("class", "language-css")] [.text r.code]], newline] := by
    simp only [quiet_element_cons, quiet_text_cons, quiet_newline_cons,
      quiet_nil, and_true, IsFiller.pre, IsFiller.code]
  rw [declarationsBody, quiet_append]
  exact ⟨husage, quiet_ite hcode (quiet_variableTable r.declared)⟩

theorem quiet_emptyNotice : Quiet emptyNotice := by
  simp only [emptyNotice, quiet_element_cons, quiet_simple_cons,
    quiet_newline_cons, quiet_nil, and_true, IsFiller.p, IsFiller.em]

theorem quiet_head (l : Library) : Quiet [head l] := by
  have hlinks : Quiet ((l.template.assets ++ l.includes.css).flatMap fun href =>
      [.void "link" [("rel", "stylesheet"), ("href", href)], newline]) :=
    quiet_flatMap fun href => by
      simp only [quiet_void_cons, quiet_newline_cons, quiet_nil]
  simp only [head, hlinks, quiet_append, quiet_element_cons, quiet_simple_cons, quiet_void_cons,
    quiet_newline_cons, quiet_nil, and_true, IsFiller.head, IsFiller.title, IsFiller.style]

/-! ### Articles -/

/-- The mark of a deprecated record, behind its title. -/
def badge (r : Record) : List Markup :=
  if r.isDeprecated then
    [.text " ", .element "span" [("class", "sg-badge")] [.text "deprecated"]]
  else []

theorem quiet_badge (r : Record) : Quiet (badge r) := by
  refine quiet_ite ?_ quiet_nil
  simp only [quiet_element_cons, quiet_text_cons, quiet_nil, and_true, IsFiller.span]

/-- The heading of an article. -/
def headingElement (r : Record) : Element :=
  ⟨"h3", [], .text (r.title.getD "Untitled") :: badge r⟩

@[simp] theorem headingElement_name (r : Record) : (headingElement r).name = "h3" := rfl

/-- What the article says of a deprecation. -/
def deprecation (r : Record) : List Markup :=
  match r.tags.get .deprecated with
  | some note =>
    if note.isEmpty then []
    else line "p" [simple "strong" "Deprecated:", .text (" " ++ note)]
  | none => []

theorem quiet_deprecation (r : Record) : Quiet (deprecation r) := by
  rw [deprecation]
  split
  · refine quiet_ite quiet_nil ?_
    simp only [quiet_line, quiet_simple_cons, quiet_text_cons,
      quiet_nil, IsFiller.p, IsFiller.strong]
  · exact quiet_nil

theorem articleHead_eq (r : Record) :
    articleHead r =
      line "h3" (.text (r.title.getD "Untitled") :: badge r) ++
      [.element "p" [("class", "sg-source")]
        [simple "code" (r.sourcePath.toText ++ ":" ++ Text.ofNat r.line)], newline] ++
      ((r.tags.get .description).toList.flatMap fun t => line "p" [.text t]) ++
      deprecation r ++
      (paragraphs r.body).flatMap fun t => line "p" [.text t] := rfl

theorem outline_articleHead (r : Record) : outline (articleHead r) = [headingElement r] := by
  have hplace : Quiet [.element "p" [("class", "sg-source")]
      [simple "code" (r.sourcePath.toText ++ ":" ++ Text.ofNat r.line)], newline] := by
    simp only [quiet_element_cons, quiet_simple_cons,
      quiet_newline_cons, quiet_nil, and_true, IsFiller.p, IsFiller.code]
  have hdescription : Quiet ((r.tags.get .description).toList.flatMap fun t =>
      line "p" [.text t]) := quiet_flatMap quiet_paragraph
  have hbody : Quiet ((paragraphs r.body).flatMap fun t => line "p" [.text t]) :=
    quiet_flatMap quiet_paragraph
  rw [articleHead_eq, outline_append, outline_append, outline_append, outline_append, hplace,
    hdescription, quiet_deprecation r, hbody, line, outline_mark_cons (by simp [landmarks]),
    outline_text_cons, outline_newline_cons, quiet_badge r, quiet_nil]
  rfl

/-- What stands in an article. -/
def articleContent (layout : Layout) (selectorPrefix : Option Text) (r : Record) : List Markup :=
  newline :: articleHead r ++
    match layout with
    | .patterns => patternBody selectorPrefix r
    | .declarations => declarationsBody r

/-- An article as an element. -/
def articleElement (layout : Layout) (selectorPrefix : Option Text) (r : Record × Text) :
    Element :=
  ⟨"article", [("class", "sg-pattern"), ("id", r.2)], articleContent layout selectorPrefix r.1⟩

@[simp] theorem articleElement_name (layout : Layout) (selectorPrefix : Option Text)
    (r : Record × Text) : (articleElement layout selectorPrefix r).name = "article" := rfl

@[simp] theorem articleElement_children (layout : Layout) (selectorPrefix : Option Text)
    (r : Record × Text) : (articleElement layout selectorPrefix r).children =
      articleContent layout selectorPrefix r.1 := rfl

theorem article_eq (layout : Layout) (selectorPrefix : Option Text) (r : Record) (anchor : Text) :
    article layout selectorPrefix r anchor =
      [.element "article" [("class", "sg-pattern"), ("id", anchor)]
        (articleContent layout selectorPrefix r), newline] := rfl

theorem outline_articleContent (layout : Layout) (selectorPrefix : Option Text) (r : Record) :
    outline (articleContent layout selectorPrefix r) = [headingElement r] := by
  have hcontent : ∀ body, Quiet body →
      outline (newline :: articleHead r ++ body) = [headingElement r] := by
    intro body hbody
    rw [outline_append, outline_newline_cons, outline_articleHead, hbody, List.append_nil]
  cases layout with
  | patterns => exact hcontent _ (quiet_patternBody selectorPrefix r)
  | declarations => exact hcontent _ (quiet_declarationsBody r)

/-- The landmarks of an article are the article and its heading. -/
theorem outline_article (layout : Layout) (selectorPrefix : Option Text) (r : Record × Text) :
    outline (article layout selectorPrefix r.1 r.2)
      = [articleElement layout selectorPrefix r, headingElement r.1] := by
  rw [article_eq, outline_mark_cons (by simp [landmarks]), outline_articleContent,
    outline_newline_cons, quiet_nil]
  rfl

/-! ### Problems -/

/-- The problem as it is shown. -/
def problemElement (problem : SourceFile × Diagnostic) : Element :=
  ⟨"li", [], [simple "code" problem.1.path.toText, .text (": " ++ problem.2.toText)]⟩

@[simp] theorem problemElement_name (problem : SourceFile × Diagnostic) :
    (problemElement problem).name = "li" := rfl

/-- What stands in the list of the problems of a section. -/
def problemContent (s : Section) : List Markup :=
  [newline, simple "summary" (Text.ofNat (problems s).length ++ " problem(s)"), newline,
    .element "ul" [] (newline :: (problems s).flatMap problemEntry), newline]

theorem outline_problemEntry (problem : SourceFile × Diagnostic) :
    outline (problemEntry problem) = [problemElement problem] := by
  have hcontent : Quiet [simple "code" problem.1.path.toText,
      .text (": " ++ problem.2.toText)] := by
    simp only [quiet_simple_cons, quiet_text_cons, quiet_nil, IsFiller.code]
  rw [problemEntry, outline_text_cons, outline_mark_cons (by simp [landmarks]), hcontent,
    outline_newline_cons, quiet_nil]
  rfl

/-- The landmarks of a list of problems are its line of summary and its items. -/
theorem outline_problemContent (s : Section) :
    outline (problemContent s) =
      ⟨"summary", [], [.text (Text.ofNat (problems s).length ++ " problem(s)")]⟩ ::
        (problems s).map problemElement := by
  have hitems : outline ((problems s).flatMap problemEntry) = (problems s).map problemElement := by
    rw [outline_flatMap, List.map_eq_flatMap]
    exact List.flatMap_congr fun problem _ => outline_problemEntry problem
  rw [problemContent, outline_newline_cons, simple, outline_mark_cons (by simp [landmarks]),
    outline_text_cons, quiet_nil, outline_newline_cons, outline_filler_cons .ul,
    outline_newline_cons, hitems, outline_newline_cons, quiet_nil, List.append_nil]
  rfl

theorem outline_problemList (s : Section) :
    outline (problemList s) =
      if (problems s).isEmpty then []
      else ⟨"details", [("class", "sg-diagnostics")], problemContent s⟩ ::
        outline (problemContent s) := by
  rw [problemList]
  split
  · exact quiet_nil
  · have hnewline : Quiet [newline] := (quiet_newline_cons).2 quiet_nil
    rw [outline_mark_cons (by simp [landmarks]), hnewline, List.append_nil]
    rfl

/-! ### Sections -/

/-- What stands in a section. -/
def sectionContent (selectorPrefix : Option Text) (p : Plan) : List Markup :=
  [newline, simple "h2" p.source.title, newline] ++
    (if p.records.isEmpty then emptyNotice else []) ++
    (p.records.flatMap fun r => article p.source.layout selectorPrefix r.1 r.2) ++
    problemList p.source

/-- A section as an element. -/
def sectionElement (selectorPrefix : Option Text) (p : Plan) : Element :=
  ⟨"section", [("id", p.anchor)], sectionContent selectorPrefix p⟩

@[simp] theorem sectionElement_name (selectorPrefix : Option Text) (p : Plan) :
    (sectionElement selectorPrefix p).name = "section" := rfl

@[simp] theorem sectionElement_children (selectorPrefix : Option Text) (p : Plan) :
    (sectionElement selectorPrefix p).children = sectionContent selectorPrefix p := rfl

theorem sectionOf_eq (selectorPrefix : Option Text) (p : Plan) :
    sectionOf selectorPrefix p =
      [.element "section" [("id", p.anchor)] (sectionContent selectorPrefix p), newline] := rfl

/-- The landmarks of what stands in a section: its heading, its articles with theirs, and its
problems. -/
theorem outline_sectionContent (selectorPrefix : Option Text) (p : Plan) :
    outline (sectionContent selectorPrefix p) =
      ⟨"h2", [], [.text p.source.title]⟩ ::
        (p.records.flatMap fun r =>
          [articleElement p.source.layout selectorPrefix r, headingElement r.1]) ++
        outline (problemList p.source) := by
  have hnotice : Quiet (if p.records.isEmpty then emptyNotice else []) :=
    quiet_ite quiet_emptyNotice quiet_nil
  have harticles : outline (p.records.flatMap fun r =>
      article p.source.layout selectorPrefix r.1 r.2) = p.records.flatMap fun r =>
        [articleElement p.source.layout selectorPrefix r, headingElement r.1] := by
    rw [outline_flatMap]
    exact List.flatMap_congr fun r _ => outline_article p.source.layout selectorPrefix r
  rw [sectionContent, outline_append, outline_append, outline_append, outline_newline_cons, simple,
    outline_mark_cons (by simp [landmarks]), outline_text_cons, outline_newline_cons, quiet_nil,
    hnotice, harticles]
  rfl

theorem outline_sectionOf (selectorPrefix : Option Text) (p : Plan) :
    outline (sectionOf selectorPrefix p) =
      sectionElement selectorPrefix p :: outline (sectionContent selectorPrefix p) := by
  have hnewline : Quiet [newline] := quiet_newline_cons.2 quiet_nil
  rw [sectionOf_eq, outline_mark_cons (by simp [landmarks]), hnewline, List.append_nil]
  rfl

/-! ### The index -/

/-- A link within the page as an element. -/
def linkElement (anchor t : Text) : Element := ⟨"a", [("href", '#' :: anchor)], [.text t]⟩

@[simp] theorem linkElement_name (anchor t : Text) : (linkElement anchor t).name = "a" := rfl

theorem outline_link (anchor t : Text) (rest : List Markup) :
    outline (link anchor t :: rest) = linkElement anchor t :: outline rest := by
  rw [link, outline_mark_cons (by simp [landmarks]), outline_text_cons, quiet_nil]
  rfl

/-- The records of the entry of a section. -/
def entryRecords (p : Plan) : List Markup :=
  if (titled p).isEmpty then []
  else
    [.text "\n    ",
     .element "ul" []
      (newline :: ((titled p).flatMap fun entry =>
        [.text "      ", .element "li" [] [link entry.2 entry.1], newline]) ++ [.text "    "]),
     .text "\n  "]

theorem indexEntry_eq (p : Plan) :
    indexEntry p =
      [.text "  ", .element "li" [] (link p.anchor p.source.title :: entryRecords p),
        newline] := rfl

theorem outline_entryRecords (p : Plan) :
    outline (entryRecords p) = (titled p).flatMap fun entry =>
      [⟨"li", [], [link entry.2 entry.1]⟩, linkElement entry.2 entry.1] := by
  have hentry : ∀ entry : Text × Text,
      outline [.text "      ", .element "li" [] [link entry.2 entry.1], newline]
        = [⟨"li", [], [link entry.2 entry.1]⟩, linkElement entry.2 entry.1] := by
    intro entry
    rw [outline_text_cons, outline_mark_cons (by simp [landmarks]), outline_link,
      outline_newline_cons, quiet_nil]
    rfl
  have hend : ∀ t : Text, Quiet [.text t] := fun t => (quiet_text_cons t).2 quiet_nil
  rw [entryRecords]
  split
  · next hnone => rw [List.isEmpty_iff.1 hnone, quiet_nil, List.flatMap_nil]
  · rw [outline_text_cons, outline_filler_cons .ul, outline_append,
      outline_newline_cons, outline_flatMap, hend, hend, List.append_nil, List.append_nil]
    exact List.flatMap_congr fun entry _ => hentry entry

/-- The landmarks of an entry of the index: its items, each with a link. -/
theorem outline_indexEntry (p : Plan) :
    outline (indexEntry p) =
      ⟨"li", [], link p.anchor p.source.title :: entryRecords p⟩ ::
        linkElement p.anchor p.source.title ::
        (titled p).flatMap fun entry =>
          [⟨"li", [], [link entry.2 entry.1]⟩, linkElement entry.2 entry.1] := by
  have hnewline : Quiet [newline] := quiet_newline_cons.2 quiet_nil
  rw [indexEntry_eq, outline_text_cons, outline_mark_cons (by simp [landmarks]), outline_link,
    outline_entryRecords, hnewline, List.append_nil]

/-- What stands in the index. -/
def indexContent (l : Library) : List Markup :=
  [newline, simple "h2" "Index", newline,
   .element "ul" [] (newline :: (plans l).flatMap indexEntry), newline]

theorem outline_indexContent (l : Library) :
    outline (indexContent l) =
      ⟨"h2", [], [.text "Index"]⟩ :: (plans l).flatMap fun p => outline (indexEntry p) := by
  have hnewline : Quiet [newline] := quiet_newline_cons.2 quiet_nil
  rw [indexContent, outline_newline_cons, simple, outline_mark_cons (by simp [landmarks]),
    outline_text_cons, quiet_nil, outline_newline_cons, outline_filler_cons .ul,
    outline_newline_cons, outline_flatMap, hnewline, List.append_nil]
  rfl

/-! ### The whole page -/

theorem body_eq (l : Library) :
    body l = .element "body" []
      ([newline,
        .element "header" [] [simple "h1" l.template.title], newline,
        .element "nav" [] (indexContent l), newline,
        .element "main" [] (newline :: (plans l).flatMap (sectionOf l.template.selectorPrefix)),
        newline] ++
        (l.includes.js.flatMap fun src => [.element "script" [("src", src)] [], newline])) := rfl

theorem outline_body (l : Library) :
    outline [body l] =
      ⟨"nav", [], indexContent l⟩ :: (outline (indexContent l) ++
        (plans l).flatMap fun p => outline (sectionOf l.template.selectorPrefix p)) := by
  have hheader : Quiet [simple "h1" l.template.title] := (quiet_simple_cons .h1 _).2 quiet_nil
  have hscripts : Quiet (l.includes.js.flatMap fun src =>
      [.element "script" [("src", src)] [], newline]) := quiet_flatMap fun src => by
    simp only [quiet_element_cons, quiet_newline_cons, quiet_nil, and_true, IsFiller.script]
  rw [body_eq, outline_filler_cons .body, outline_append, hscripts, quiet_nil,
    outline_newline_cons, outline_filler_cons .header, hheader, outline_newline_cons,
    outline_mark_cons (by simp [landmarks]), outline_newline_cons, outline_filler_cons .main,
    outline_newline_cons, outline_newline_cons, outline_flatMap, quiet_nil]
  simp only [List.append_nil, List.nil_append]

/-- **The landmarks of a page**: the index with its entries, and the sections. -/
theorem outline_tree (l : Library) :
    outline [tree l] =
      ⟨"nav", [], indexContent l⟩ :: (outline (indexContent l) ++
        (plans l).flatMap fun p => outline (sectionOf l.template.selectorPrefix p)) := by
  have hcons : ∀ (piece : Markup) (rest : List Markup),
      outline (piece :: rest) = outline [piece] ++ outline rest := fun piece rest => by
    rw [← outline_append, List.singleton_append]
  rw [tree, outline_filler_cons .html, outline_newline_cons, hcons, quiet_head,
    outline_newline_cons, hcons, outline_body, outline_newline_cons, quiet_nil]
  simp only [List.append_nil, List.nil_append]

end Page

end PatternBook
