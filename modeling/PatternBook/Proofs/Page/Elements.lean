import PatternBook.Page.Document
import PatternBook.Proofs.Page.Nesting

/-!
# The elements of a page

The parts of a page consist of its elements and of texts that are escaped.  Only an example is
written as it is, and a page that shows none has no other verbatim part.

* `Page.allOwn_article`: the article of a record without an example.
* `Page.isOwn_tree`: a page whose plans show no example.
-/

namespace PatternBook.Page

open Markup (AllOwn allOwn_append allOwn_cons allOwn_flatMap allOwn_nil isOwn_element isOwn_text
  isOwn_void newline simple)
open PageTag (IsElement IsVoid)

/-! ### Short forms -/

theorem isOwn_newline : newline.IsOwn := isOwn_text _

theorem isOwn_simple (name t : Text) : (simple name t).IsOwn ↔ IsElement name [] := by
  simp only [simple, isOwn_element, isOwn_text, allOwn_cons, allOwn_nil, List.map_nil, and_true]

theorem allOwn_line (name : Text) (children : List Markup) :
    AllOwn (line name children) ↔ IsElement name [] ∧ AllOwn children := by
  simp only [line, isOwn_element, isOwn_newline, allOwn_cons, allOwn_nil, List.map_nil, and_true]

/-- A text in a paragraph of its own. -/
theorem allOwn_paragraph (t : Text) : AllOwn (line "p" [.text t]) := by
  simp only [allOwn_line, isOwn_text, allOwn_cons, allOwn_nil, and_true, IsElement.p]

/-- What is shown of a value, if there is one. -/
theorem allOwn_toList {α : Type} {o : Option α} {f : α → List Markup} (h : ∀ a, AllOwn (f a)) :
    AllOwn (o.toList.flatMap f) :=
  allOwn_flatMap fun a _ => h a

/-- What is shown on a condition. -/
theorem allOwn_ite {p : Prop} [Decidable p] {s t : List Markup} (hs : AllOwn s) (ht : AllOwn t) :
    AllOwn (if p then s else t) := by
  by_cases h : p
  · rwa [if_pos h]
  · rwa [if_neg h]

/-! ### Parts of an article -/

theorem allOwn_variableRow (v : Variable) : AllOwn (variableRow v) := by
  have hswatch : AllOwn (if looksLikeColor v.value then
      [.element "span" [("class", "sg-swatch"), ("style", "background: " ++ v.value)] []]
    else []) := by
    refine allOwn_ite ?_ allOwn_nil
    simp only [isOwn_element, allOwn_cons, allOwn_nil, List.map_cons, List.map_nil, and_true,
      IsElement.spanStyle]
  simp only [variableRow, hswatch, isOwn_element, isOwn_text, isOwn_newline, isOwn_simple,
    allOwn_cons, allOwn_nil, List.map_nil, and_true, IsElement.tr, IsElement.td, IsElement.code]

theorem allOwn_variableTable (declared : List Variable) : AllOwn (variableTable declared) := by
  have hrows := allOwn_flatMap (l := declared) fun v _ => allOwn_variableRow v
  simp only [variableTable, hrows, isOwn_element, isOwn_newline, isOwn_simple, allOwn_cons,
    allOwn_nil, List.map_nil, and_true, IsElement.table, IsElement.thead, IsElement.tbody,
    IsElement.tr, IsElement.th]

theorem allOwn_variantEntry (v : Variant) : AllOwn (variantEntry v) := by
  have hdescription : AllOwn (if v.description.isEmpty then []
      else [.text "  ", simple "dd" v.description, newline]) := by
    refine allOwn_ite allOwn_nil ?_
    simp only [isOwn_text, isOwn_newline, isOwn_simple, allOwn_cons, allOwn_nil, and_true,
      IsElement.dd]
  simp only [variantEntry, hdescription, isOwn_element, isOwn_text, isOwn_newline, isOwn_simple,
    allOwn_append, allOwn_cons, allOwn_nil, List.map_nil, and_true, IsElement.dt, IsElement.code]

theorem allOwn_variantList (heading : Text) (variants : List Variant) :
    AllOwn (variantList heading variants) := by
  have hentries := allOwn_flatMap (l := variants) fun v _ => allOwn_variantEntry v
  refine allOwn_ite allOwn_nil ?_
  simp only [hentries, isOwn_element, isOwn_newline, isOwn_simple, allOwn_cons, allOwn_nil,
    List.map_nil, and_true, IsElement.h4, IsElement.dl]

theorem allOwn_articleHead (r : Record) : AllOwn (articleHead r) := by
  have hbadge : AllOwn (if r.isDeprecated then
      [.text " ", .element "span" [("class", "sg-badge")] [.text "deprecated"]] else []) := by
    refine allOwn_ite ?_ allOwn_nil
    simp only [isOwn_element, isOwn_text, allOwn_cons, allOwn_nil, List.map_cons, List.map_nil,
      and_true, IsElement.spanClass]
  have hdescription := allOwn_toList (o := r.tags.get .description) allOwn_paragraph
  have hbody := allOwn_flatMap (l := paragraphs r.body) fun t _ => allOwn_paragraph t
  simp only [articleHead, hbadge, hdescription, hbody, allOwn_line, isOwn_newline, isOwn_simple,
    isOwn_element, isOwn_text, allOwn_append, allOwn_cons, allOwn_nil, List.map_cons,
    List.map_nil, and_true, true_and, IsElement.h3, IsElement.pClass, IsElement.code]
  cases r.tags.get .deprecated with
  | none => exact allOwn_nil
  | some note =>
      refine allOwn_ite allOwn_nil ?_
      simp only [allOwn_line, isOwn_simple, isOwn_text, allOwn_cons, allOwn_nil, and_true,
        IsElement.p, IsElement.strong]

/-- Without an example nothing of a pattern is written as it is. -/
theorem allOwn_patternBody (selectorPrefix : Option Text) {r : Record}
    (h : ∀ sample ∈ r.tags.get .sample, sample = []) :
    AllOwn (patternBody selectorPrefix r) := by
  have hsample : (r.tags.get .sample).filter (!·.isEmpty) = none := by
    rw [Option.filter_eq_none_iff]
    intro sample hmem
    rw [h sample hmem]
    nofun
  have husage := allOwn_toList (o := r.tags.get .usage)
    (f := fun t => line "h4" [.text "Usage"] ++ line "p" [.text t]) fun t => by
      simp only [allOwn_line, isOwn_text, allOwn_append, allOwn_cons, allOwn_nil, and_true,
        IsElement.h4, IsElement.p]
  have hdeclared : AllOwn (if r.declared.isEmpty then [] else variableTable r.declared) :=
    allOwn_ite allOwn_nil (allOwn_variableTable r.declared)
  simp only [patternBody, hsample, husage, hdeclared, allOwn_variantList, allOwn_append,
    Option.toList_none, List.flatMap_nil, allOwn_nil, and_true]

theorem allOwn_declarationsBody (r : Record) : AllOwn (declarationsBody r) := by
  have husage := allOwn_toList (o := r.tags.get .usage) (f := fun t => line "p" [simple "em" t])
    fun t => by
      simp only [allOwn_line, isOwn_simple, allOwn_cons, allOwn_nil, and_true, IsElement.p,
        IsElement.em]
  rw [declarationsBody, allOwn_append]
  refine ⟨husage, allOwn_ite ?_ (allOwn_variableTable r.declared)⟩
  simp only [isOwn_element, isOwn_text, isOwn_newline, allOwn_cons, allOwn_nil, List.map_cons,
    List.map_nil, and_true, IsElement.pre, IsElement.codeClass]

/-- **The article of a record** has an example at most where the layout shows one. -/
theorem allOwn_article {layout : Layout} {r : Record}
    (h : layout = .patterns → ∀ sample ∈ r.tags.get .sample, sample = [])
    (selectorPrefix : Option Text) (anchor : Text) :
    AllOwn (article layout selectorPrefix r anchor) := by
  have harticle : ∀ body, AllOwn body →
      AllOwn [.element "article" [("class", "sg-pattern"), ("id", anchor)]
        (newline :: articleHead r ++ body), newline] := by
    intro body hbody
    simp only [hbody, allOwn_articleHead, isOwn_newline, isOwn_element, allOwn_append,
      allOwn_cons, allOwn_nil, List.map_cons, List.map_nil, and_true, IsElement.article]
  cases layout with
  | patterns => exact harticle _ (allOwn_patternBody selectorPrefix (h rfl))
  | declarations => exact harticle _ (allOwn_declarationsBody r)

/-! ### Sections -/

theorem allOwn_problemEntry (problem : SourceFile × Diagnostic) :
    AllOwn (problemEntry problem) := by
  simp only [problemEntry, isOwn_newline, isOwn_simple, isOwn_element, isOwn_text, allOwn_cons,
    allOwn_nil, List.map_nil, and_true, IsElement.li, IsElement.code]

theorem allOwn_problemList (s : Section) : AllOwn (problemList s) := by
  have hentries := allOwn_flatMap (l := problems s) fun p _ => allOwn_problemEntry p
  refine allOwn_ite allOwn_nil ?_
  simp only [hentries, isOwn_newline, isOwn_simple, isOwn_element, allOwn_cons, allOwn_nil,
    List.map_cons, List.map_nil, and_true, IsElement.details, IsElement.summary, IsElement.ul]

theorem allOwn_emptyNotice : AllOwn emptyNotice := by
  simp only [emptyNotice, isOwn_newline, isOwn_simple, isOwn_element, allOwn_cons, allOwn_nil,
    List.map_cons, List.map_nil, and_true, IsElement.pClass, IsElement.em]

/-- No record of the plan shows an example. -/
def Plan.ShowsNoExample (p : Plan) : Prop :=
  p.source.layout = .patterns → ∀ r ∈ p.records, ∀ sample ∈ r.1.tags.get .sample, sample = []

theorem allOwn_sectionOf (selectorPrefix : Option Text) {p : Plan} (h : p.ShowsNoExample) :
    AllOwn (sectionOf selectorPrefix p) := by
  have harticles : AllOwn (p.records.flatMap fun r =>
      article p.source.layout selectorPrefix r.1 r.2) :=
    allOwn_flatMap fun r hr => allOwn_article (fun hlayout => h hlayout r hr) selectorPrefix r.2
  have hnotice : AllOwn (if p.records.isEmpty then emptyNotice else []) :=
    allOwn_ite allOwn_emptyNotice allOwn_nil
  simp only [sectionOf, harticles, hnotice, allOwn_problemList, isOwn_newline, isOwn_simple,
    isOwn_element, allOwn_append, allOwn_cons, allOwn_nil, List.map_cons, List.map_nil, and_true,
    IsElement.sectionId, IsElement.h2]

/-! ### The whole page -/

theorem isOwn_link (anchor t : Text) : (link anchor t).IsOwn := by
  simp only [link, isOwn_element, isOwn_text, allOwn_cons, allOwn_nil, List.map_cons,
    List.map_nil, and_true, IsElement.a]

theorem allOwn_indexEntry (p : Plan) : AllOwn (indexEntry p) := by
  have hentries : AllOwn ((titled p).flatMap fun entry =>
      [.text "      ", .element "li" [] [link entry.2 entry.1], newline]) :=
    allOwn_flatMap fun entry _ => by
      simp only [isOwn_link, isOwn_newline, isOwn_element, isOwn_text, allOwn_cons, allOwn_nil,
        List.map_nil, and_true, IsElement.li]
  have hinner : AllOwn (if (titled p).isEmpty then [] else
      [.text "\n    ",
       .element "ul" []
        (newline :: ((titled p).flatMap fun entry =>
          [.text "      ", .element "li" [] [link entry.2 entry.1], newline]) ++ [.text "    "]),
       .text "\n  "]) := by
    refine allOwn_ite allOwn_nil ?_
    simp only [hentries, isOwn_newline, isOwn_element, isOwn_text, allOwn_append, allOwn_cons,
      allOwn_nil, List.map_nil, and_true, IsElement.ul]
  simp only [indexEntry, hinner, isOwn_link, isOwn_newline, isOwn_element, isOwn_text,
    allOwn_cons, allOwn_nil, List.map_nil, and_true, IsElement.li]

theorem isOwn_head (l : Library) : (head l).IsOwn := by
  have hlinks : AllOwn ((l.template.assets ++ l.includes.css).flatMap fun href =>
      [.void "link" [("rel", "stylesheet"), ("href", href)], newline]) :=
    allOwn_flatMap fun href _ => by
      simp only [isOwn_newline, isOwn_void, allOwn_cons, allOwn_nil, List.map_cons, List.map_nil,
        and_true, IsVoid.link]
  simp only [head, hlinks, isOwn_newline, isOwn_simple, isOwn_element, isOwn_void, allOwn_append,
    allOwn_cons, allOwn_nil, List.map_cons, List.map_nil, and_true, IsElement.head,
    IsElement.title, IsElement.style, IsVoid.charset, IsVoid.viewport]

theorem isOwn_body {l : Library} (h : ∀ p ∈ plans l, p.ShowsNoExample) : (body l).IsOwn := by
  have hindex := allOwn_flatMap (l := plans l) fun p _ => allOwn_indexEntry p
  have hsections := allOwn_flatMap (l := plans l) fun p hp =>
    allOwn_sectionOf l.template.selectorPrefix (h p hp)
  have hscripts : AllOwn (l.includes.js.flatMap fun src =>
      [.element "script" [("src", src)] [], newline]) :=
    allOwn_flatMap fun src _ => by
      simp only [isOwn_newline, isOwn_element, allOwn_cons, allOwn_nil, List.map_cons,
        List.map_nil, and_true, IsElement.script]
  simp only [body, hindex, hsections, hscripts, isOwn_newline, isOwn_simple, isOwn_element,
    allOwn_append, allOwn_cons, allOwn_nil, List.map_nil, and_true, IsElement.body,
    IsElement.header, IsElement.h1, IsElement.nav, IsElement.h2, IsElement.ul, IsElement.main]

/-- **A page without examples consists of its own elements.** -/
theorem isOwn_tree {l : Library} (h : ∀ p ∈ plans l, p.ShowsNoExample) : (tree l).IsOwn := by
  simp only [tree, isOwn_head, isOwn_body h, isOwn_newline, isOwn_element, allOwn_cons,
    allOwn_nil, List.map_cons, List.map_nil, and_true, IsElement.html]

end PatternBook.Page
