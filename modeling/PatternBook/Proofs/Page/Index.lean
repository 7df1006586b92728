import Mathlib.Data.List.Basic
import PatternBook.Proofs.Page.Landmarks
import PatternBook.Proofs.Page.Safety

/-!
# The index of a page

The index and the sections of a page are written one after the other, from the same plans.  Read
back from the page, they agree: what can be linked to is each section and each visible record, in
order and with the anchors that the headings get one after the other, and the index links those of
them that have a title.

* `Page.entries`, `Page.anchored`: what a page shows, and the anchors it gets.
* `Page.anchored_eq`: the plans hand out these anchors.
* `Page.Indexed`: what it is for the index and the body of a page to agree.
* `Page.document_indexed`: they do, on every page that shows no example.
-/

namespace PatternBook

/-! ### Reading elements -/

namespace PageElement

/-- What stands between the tags of the element, as it is written. -/
def inner (e : PageElement) : Text := e.content.flatMap PageItem.print

/-- The value of an attribute, as it is written. -/
def attribute? (e : PageElement) (name : Text) : Option Text := e.attributes.lookup name

/-- The element as it is written. -/
def print (e : PageElement) : Text :=
  (PageTag.opening e.name e.attributes).print ++ e.inner ++ (PageTag.closing e.name).print

end PageElement

/-- What a link can refer to: an element with its anchor and its heading. -/
structure PageTarget where
  element : Text
  anchor  : Option Text
  heading : Option Text
  deriving DecidableEq, Repr

/-- A link: what it refers to, and its text. -/
structure PageLink where
  reference : Option Text
  label     : Text
  deriving DecidableEq, Repr

/-- A list of problems: the texts of its summaries and of its items. -/
structure PageProblems where
  summaries : List Text
  items     : List Text
  deriving DecidableEq, Repr

namespace PageElement

/-- The element as something that can be linked to. -/
def target (e : PageElement) : PageTarget where
  element := e.name
  anchor := e.attribute? "id"
  heading := (named ["h2", "h3"] e.content).head?.map inner

/-- The element as a link. -/
def link (e : PageElement) : PageLink where
  reference := e.attribute? "href"
  label := e.inner

/-- The lists of problems in the element. -/
def problems (e : PageElement) : List PageProblems :=
  (named ["details"] e.content).map fun list =>
    ⟨(named ["summary"] list.content).map inner, (named ["li"] list.content).map inner⟩

end PageElement

/-- What can be linked to: the sections and the articles. -/
def targets (items : List PageItem) : List PageTarget :=
  (named ["section", "article"] items).map PageElement.target

/-- The links within the page. -/
def links (items : List PageItem) : List PageLink := (named ["a"] items).map PageElement.link

namespace Markup

theorem printAll_singleton (piece : Markup) : printAll [piece] = piece.print :=
  List.append_nil piece.print

namespace Element

theorem inner_written (e : Element) : e.written.inner = printAll e.children :=
  print_itemsAll e.children

theorem print_written (e : Element) :
    e.written.print = (Markup.element e.name e.attributes e.children).print := by
  rw [PageElement.print, inner_written, print_element, ← print_opening, ← print_closing]
  rfl

variable {e : Element}

theorem target_written (h : AllOwn e.children) :
    e.written.target = ⟨e.name, e.written.attribute? "id",
      (pick ["h2", "h3"] (outline e.children)).head?.map fun heading => heading.written.inner⟩ := by
  unfold PageElement.target
  rw [named_content (by simp [landmarks]) h, List.head?_map, Option.map_map]
  rfl

theorem problems_written (h : AllOwn e.children) :
    e.written.problems = (pick ["details"] (outline e.children)).map fun list =>
      ⟨(pick ["summary"] (outline list.children)).map fun summary => summary.written.inner,
        (pick ["li"] (outline list.children)).map fun item => item.written.inner⟩ := by
  unfold PageElement.problems
  rw [named_content (by simp [landmarks]) h, List.map_map]
  refine List.map_congr_left fun list hlist => ?_
  have hown : AllOwn list.children := allOwn_of_mem_pick _ h hlist
  rw [Function.comp_apply, named_content (by simp [landmarks]) hown,
    named_content (by simp [landmarks]) hown, List.map_map, List.map_map]
  rfl

end Element

end Markup

/-! ### Anchors in order -/

namespace Anchors

theorem nextAll_cons (used : Anchors) (heading : Text) (rest : List Text) :
    used.nextAll (heading :: rest) =
      (used.name heading :: ((used.add (base heading)).nextAll rest).1,
        ((used.add (base heading)).nextAll rest).2) := rfl

theorem nextAll_append (used : Anchors) (s t : List Text) :
    used.nextAll (s ++ t) =
      ((used.nextAll s).1 ++ ((used.nextAll s).2.nextAll t).1,
        ((used.nextAll s).2.nextAll t).2) := by
  induction s generalizing used with
  | nil => rfl
  | cons heading s ih =>
      rw [List.cons_append, nextAll_cons, ih, nextAll_cons, List.cons_append]

theorem length_nextAll (used : Anchors) (headings : List Text) :
    (used.nextAll headings).1.length = headings.length := by
  induction headings generalizing used with
  | nil => rfl
  | cons heading rest ih =>
      rw [nextAll_cons, List.length_cons, List.length_cons, ih]

end Anchors

namespace Page

open Markup (AllOwn Element escape newline outline pick pick_cons_of_mem printAll simple)

/-- A section that a page shows, or a record in it. -/
structure Entry where
  source  : Section
  record? : Option Record

namespace Entry

/-- The element that shows the entry. -/
def element (e : Entry) : Text :=
  match e.record? with
  | none => "section"
  | some _ => "article"

/-- The heading from which the anchor is made. -/
def heading (e : Entry) : Text :=
  match e.record? with
  | none => e.source.title
  | some r => e.source.title ++ " " ++ r.title.getD "pattern"

/-- What the index calls the entry, if it lists it. -/
def title? (e : Entry) : Option Text :=
  match e.record? with
  | none => some e.source.title
  | some r => r.title

/-- The heading over the entry as it is written. -/
def headline (e : Entry) : Text :=
  match e.record? with
  | none => escape e.source.title
  | some r => escape (r.title.getD "Untitled") ++
      (if r.isDeprecated then " <span class=\"sg-badge\">deprecated</span>" else [] : Text)

end Entry

/-- The entries of a section: the section, and its visible records by file and in source order. -/
def entriesOf (s : Section) : List Entry :=
  ⟨s, none⟩ :: s.files.flatMap fun file =>
    (file.records.filter (!·.isHidden)).map fun r => ⟨s, some r⟩

/-- What a page shows, in order. -/
def entries (l : Library) : List Entry := l.sections.flatMap entriesOf

/-- What a page shows, with the anchors that the headings get one after the other. -/
def anchored (l : Library) : List (Entry × Text) :=
  (entries l).zip (Anchors.nextAll .empty ((entries l).map Entry.heading)).1

/-- The entries of a plan with their anchors. -/
def Plan.anchored (p : Plan) : List (Entry × Text) :=
  (⟨p.source, none⟩, p.anchor) :: p.records.map fun r => (⟨p.source, some r.1⟩, r.2)

theorem entriesOf_eq (s : Section) :
    entriesOf s = ⟨s, none⟩ :: (visible s).map fun r => ⟨s, some r⟩ := by
  rw [entriesOf, visible, Section.records, List.filter_flatMap, List.map_flatMap]

theorem heading_entriesOf (s : Section) :
    (entriesOf s).map Entry.heading = s.title :: (visible s).map (headingOf s) := by
  rw [entriesOf_eq, List.map_cons, List.map_map]
  rfl

theorem zip_entriesOf (s : Section) (anchor : Text) (anchors : List Text) :
    (entriesOf s).zip (anchor :: anchors) = Plan.anchored ⟨s, anchor, (visible s).zip anchors⟩ := by
  rw [entriesOf_eq, List.zip_cons_cons, List.zip_map_left, Plan.anchored]
  rfl

/-- The plans of sections hand out the anchors that their headings get. -/
theorem anchored_plansFrom (used : Anchors) (ss : List Section) :
    (ss.flatMap entriesOf).zip
        (used.nextAll ((ss.flatMap entriesOf).map Entry.heading)).1
      = (plansFrom used ss).flatMap Plan.anchored := by
  induction ss generalizing used with
  | nil => rfl
  | cons s rest ih =>
      have hlength : (entriesOf s).length =
          (used.nextAll ((entriesOf s).map Entry.heading)).1.length := by
        rw [Anchors.length_nextAll, List.length_map]
      rw [List.flatMap_cons, List.map_append, Anchors.nextAll_append, List.zip_append hlength, ih,
        heading_entriesOf, plansFrom_cons, List.flatMap_cons, Anchors.nextAll_cons, zip_entriesOf]

/-- **The plans of a page hand out the anchors** that the headings get one after the other. -/
theorem anchored_eq (l : Library) : anchored l = (plans l).flatMap Plan.anchored :=
  anchored_plansFrom .empty l.sections

/-! ### The shown library -/

/-- The entry as something that can be linked to. -/
def targetOf (e : Entry × Text) : PageTarget := ⟨e.1.element, some e.2, some e.1.headline⟩

/-- The link of the index to the entry, if it lists it. -/
def linkOf? (e : Entry × Text) : Option PageLink :=
  e.1.title?.map fun title => ⟨some ('#' :: e.2), escape title⟩

/-- A diagnostic of a file as the page says it. -/
def sayDiagnostic (path : Path) (d : Diagnostic) : Text :=
  "<code>" ++ escape path.toText ++ "</code>" ++ ": " ++ escape d.toText

/-- The list of the diagnostics of a section, by file and in their order, if there are any. -/
def problemsOf (s : Section) : List PageProblems :=
  if ∀ file ∈ s.files, file.diagnostics = [] then []
  else
    [⟨[Text.ofNat (s.files.flatMap (·.diagnostics)).length ++ " problem(s)"],
      s.files.flatMap fun file => file.diagnostics.map (sayDiagnostic file.path)⟩]

theorem problems_eq_nil_iff (s : Section) :
    problems s = [] ↔ ∀ file ∈ s.files, file.diagnostics = [] := by
  rw [problems, List.flatMap_eq_nil_iff]
  simp only [List.map_eq_nil_iff]

theorem length_problems (s : Section) :
    (problems s).length = (s.files.flatMap (·.diagnostics)).length := by
  simp only [problems, List.length_flatMap, List.length_map]

theorem inner_text (name : Text) (attributes : List (Text × Text)) (t : Text) :
    (⟨name, attributes, [.text t]⟩ : Element).written.inner = escape t := by
  rw [Element.inner_written]
  exact List.append_nil (escape t)

theorem inner_headingElement (s : Section) (r : Record) :
    (headingElement r).written.inner = Entry.headline ⟨s, some r⟩ := by
  have hbadge : printAll (badge r) =
      (if r.isDeprecated then " <span class=\"sg-badge\">deprecated</span>" else [] : Text) := by
    rw [badge]
    split
    · decide +kernel
    · rfl
  rw [Element.inner_written]
  exact congrArg (escape (r.title.getD "Untitled") ++ ·) hbadge

section

variable {l : Library} {p : Plan}

theorem allOwn_sectionElement (hown : AllOwn [tree l]) (hp : p ∈ plans l) :
    AllOwn (sectionElement l.template.selectorPrefix p).children := by
  refine Markup.allOwn_of_mem_pick ["section"] hown ?_
  rw [pick_sections]
  exact List.mem_map_of_mem hp

theorem target_section (hown : AllOwn [tree l]) (hp : p ∈ plans l)
    (hplain : Markup.IsPlain p.anchor) :
    (sectionElement l.template.selectorPrefix p).written.target =
      targetOf (⟨p.source, none⟩, p.anchor) := by
  have hanchor : (sectionElement l.template.selectorPrefix p).written.attribute? "id" =
      some p.anchor := congrArg some (Markup.escape_eq_self hplain)
  have hheading : (pick ["h2", "h3"] (outline
      (sectionElement l.template.selectorPrefix p).children)).head? =
        some ⟨"h2", [], [.text p.source.title]⟩ := by
    rw [sectionElement_children, outline_sectionContent, List.cons_append,
      pick_cons_of_mem (by simp)]
    rfl
  rw [Element.target_written (allOwn_sectionElement hown hp), hanchor, hheading, Option.map_some,
    inner_text]
  rfl

theorem target_article (hown : AllOwn [tree l]) (hp : p ∈ plans l) {r : Record × Text}
    (hr : r ∈ p.records) (hplain : Markup.IsPlain r.2) :
    (articleElement p.source.layout l.template.selectorPrefix r).written.target =
      targetOf (⟨p.source, some r.1⟩, r.2) := by
  have hcontent :
      AllOwn (articleElement p.source.layout l.template.selectorPrefix r).children := by
    refine Markup.allOwn_of_mem_pick ["article"] hown ?_
    rw [pick_articles]
    exact List.mem_flatMap.2 ⟨p, hp, List.mem_map_of_mem hr⟩
  have hanchor : (articleElement p.source.layout l.template.selectorPrefix r).written.attribute?
      "id" = some r.2 := congrArg some (Markup.escape_eq_self hplain)
  have hheading : (pick ["h2", "h3"] (outline (articleElement p.source.layout
      l.template.selectorPrefix r).children)).head? = some (headingElement r.1) := by
    rw [articleElement_children, outline_articleContent, pick_cons_of_mem (by simp)]
    rfl
  rw [Element.target_written hcontent, hanchor, hheading, Option.map_some,
    inner_headingElement p.source]
  rfl

theorem link_linkElement {anchor : Text} (hplain : Markup.IsPlain anchor) (t : Text) :
    (linkElement anchor t).written.link = ⟨some ('#' :: anchor), escape t⟩ := by
  have hreference : (linkElement anchor t).written.attribute? "href" = some ('#' :: anchor) :=
    congrArg some (Markup.escape_eq_self (List.forall_mem_cons.2 ⟨by decide, hplain⟩))
  unfold PageElement.link
  rw [hreference, linkElement, inner_text]

theorem inner_problemElement (problem : SourceFile × Diagnostic) :
    (problemElement problem).written.inner = sayDiagnostic problem.1.path problem.2 := by
  have hopen : Markup.startTag "code" [] = "<code>" := by decide +kernel
  have hclose : Markup.endTag "code" = "</code>" := by decide +kernel
  have hcolon : escape ": " = ": " := Markup.escape_eq_self (by decide)
  rw [Element.inner_written, problemElement, printAll, printAll, printAll, simple,
    Markup.print_element, hopen, hclose, printAll, printAll, Markup.print, Markup.print,
    List.append_nil, List.append_nil, Markup.escape_append, hcolon]
  exact (List.append_assoc ..).symm

theorem problems_section (hown : AllOwn [tree l]) (hp : p ∈ plans l) :
    (sectionElement l.template.selectorPrefix p).written.problems = problemsOf p.source := by
  rw [Element.problems_written (allOwn_sectionElement hown hp), sectionElement_children,
    pick_details, problemsOf]
  by_cases hnone : ∀ file ∈ p.source.files, file.diagnostics = []
  · rw [if_pos hnone, if_pos (List.isEmpty_iff.2 ((problems_eq_nil_iff _).2 hnone))]
    rfl
  · have hitems : (problems p.source).map (fun problem => (problemElement problem).written.inner) =
        p.source.files.flatMap fun file => file.diagnostics.map (sayDiagnostic file.path) := by
      rw [problems, List.map_flatMap]
      refine congrArg (List.flatMap · _) (funext fun file => ?_)
      rw [List.map_map]
      exact List.map_congr_left fun d _ => inner_problemElement (file, d)
    rw [if_neg hnone, if_neg (mt (fun h => (problems_eq_nil_iff _).1 (List.isEmpty_iff.1 h)) hnone),
      List.map_singleton, pick_summaries, pick_items, List.map_singleton, inner_text, List.map_map,
      Markup.escape_eq_self ((isPlain_ofNat _).append (by decide)), length_problems]
    exact congrArg (fun items => [PageProblems.mk [_] items]) hitems

/-- What can be linked to is what the page shows. -/
theorem map_target (hown : AllOwn [tree l]) :
    (pick ["section", "article"] (outline [tree l])).map (fun e => e.written.target) =
      (anchored l).map targetOf := by
  rw [pick_targets, anchored_eq, List.map_flatMap, List.map_flatMap]
  refine List.flatMap_congr fun p hp => ?_
  obtain ⟨-, -, hplain, hplains⟩ := of_mem_plansFrom hp
  rw [Plan.anchored, List.map_cons, List.map_cons, List.map_map, List.map_map,
    target_section hown hp hplain]
  refine congrArg _ (List.map_congr_left fun r hr => ?_)
  exact target_article hown hp hr (hplains r hr)

/-- The index links what has a title. -/
theorem map_link (l : Library) :
    (pick ["a"] (outline (indexContent l))).map (fun e => e.written.link) =
      (anchored l).filterMap linkOf? := by
  rw [pick_indexContent, anchored_eq, List.map_flatMap, List.filterMap_flatMap]
  refine List.flatMap_congr fun p hp => ?_
  obtain ⟨-, -, hplain, hplains⟩ := of_mem_plansFrom hp
  have hsection : linkOf? (⟨p.source, none⟩, p.anchor) =
      some ⟨some ('#' :: p.anchor), escape p.source.title⟩ := rfl
  have hrecord : ∀ r ∈ p.records, (r.1.title.map fun t => (linkElement r.2 t).written.link) =
      linkOf? (⟨p.source, some r.1⟩, r.2) := by
    intro r hr
    simp only [link_linkElement (hplains r hr)]
    rfl
  rw [List.map_cons, link_linkElement hplain, titled, List.map_map, List.map_filterMap,
    Plan.anchored, List.filterMap_cons_some hsection, List.filterMap_map]
  refine congrArg _ (List.filterMap_congr fun r hr => ?_)
  rw [Option.map_map]
  exact hrecord r hr

/-- The articles are those of the visible records. -/
theorem map_print_articles (l : Library) :
    (pick ["article"] (outline [tree l])).map (fun e => e.written.print ++ ['\n']) =
      (anchored l).filterMap fun e => e.1.record?.map fun r =>
        printAll (article e.1.source.layout l.template.selectorPrefix r e.2) := by
  have harticle : ∀ (p : Plan) (r : Record × Text),
      (articleElement p.source.layout l.template.selectorPrefix r).written.print ++ ['\n'] =
        printAll (article p.source.layout l.template.selectorPrefix r.1 r.2) := by
    intro p r
    have hnewline : printAll [newline] = ['\n'] := by decide +kernel
    rw [Element.print_written, article_eq, printAll, hnewline]
    rfl
  rw [pick_articles, anchored_eq, List.map_flatMap, List.filterMap_flatMap]
  refine List.flatMap_congr fun p _ => ?_
  rw [Plan.anchored, List.filterMap_cons_none rfl, List.filterMap_map, List.map_map,
    ← List.filterMap_eq_map]
  exact List.filterMap_congr fun r _ => congrArg some (harticle p r)

/-- A page has a section for each section of the library. -/
theorem map_problems (hown : AllOwn [tree l]) :
    (pick ["section"] (outline [tree l])).map (fun e => e.written.problems) =
      l.sections.map problemsOf := by
  have hsources : ∀ (used : Anchors) (ss : List Section),
      (plansFrom used ss).map Plan.source = ss := by
    intro used ss
    induction ss generalizing used with
    | nil => rfl
    | cons s rest ih => rw [plansFrom_cons, List.map_cons, ih]
  rw [pick_sections, List.map_map, ← hsources .empty l.sections, List.map_map]
  exact List.map_congr_left fun p hp => problems_section hown hp

end

/-! ### The whole page -/

/-- The plans of a library show no example if its visible records have none to show. -/
theorem showsNoExample_plans {l : Library}
    (h : ∀ s ∈ l.sections, s.layout = .patterns → ∀ r ∈ s.records, r.isHidden = false →
      ∀ sample ∈ r.tags.get .sample, sample = []) :
    ∀ p ∈ plans l, p.ShowsNoExample := by
  intro p hp hlayout r hr
  obtain ⟨hsource, hvisible, -⟩ := of_mem_plansFrom hp
  obtain ⟨hmem, hshown⟩ := List.mem_filter.1 (hvisible r hr)
  exact h p.source hsource hlayout r.1 hmem (by simpa using hshown)

/-- What a page consists of, and its landmarks among that. -/
theorem exists_items {l : Library} (hown : AllOwn [tree l]) :
    ∃ page items, document l = doctype ++ page ∧ Consists items page ∧
      ∀ names ⊆ landmarks, named names items =
        (pick names (outline [tree l])).map Element.written := by
  have hdocument : document l = doctype ++ ((tree l).print ++ "\n") :=
    List.append_assoc doctype (tree l).print ("\n" : Text)
  have hconsists : Consists (Markup.itemsAll [tree l] ++ [.char '\n'])
      ((tree l).print ++ "\n") := by
    refine ⟨List.forall_mem_append.2 ⟨Markup.isOwn_itemsAll _ hown, fun i hi => ?_⟩, ?_⟩
    · obtain rfl := List.mem_singleton.1 hi
      exact (by decide : '\n' ≠ '<')
    · rw [List.flatMap_append, Markup.print_itemsAll, Markup.printAll_singleton]
      rfl
  refine ⟨_, _, hdocument, hconsists, fun names hnames => ?_⟩
  rw [Markup.named_itemsAll hnames hown]
  exact List.append_nil _

/-- The index and the body of a page agree, as its tags and characters show. -/
structure Indexed (l : Library) (items : List PageItem) : Prop where
  /-- What can be linked to is each section and each visible record, in order, with the anchors
  that their headings get one after the other. -/
  shown    : targets items = (anchored l).map targetOf
  /-- The articles are those of the visible records, each on lines of its own. -/
  articles : (named ["article"] items).map (fun e => e.print ++ ['\n']) =
    (anchored l).filterMap fun e => e.1.record?.map fun r =>
      printAll (article e.1.source.layout l.template.selectorPrefix r e.2)
  /-- There is one index, and it links those entries that have a title. -/
  index    : (named ["nav"] items).map (fun e => links e.content) =
    [(anchored l).filterMap linkOf?]
  /-- Nothing else links into the page. -/
  linked   : links items = (anchored l).filterMap linkOf?
  resolved : ∀ link ∈ links items, ∃ target ∈ targets items,
    link.reference = target.anchor.map ('#' :: ·)
  /-- Each section has the list of its problems, if there are any. -/
  problems : (named ["section"] items).map PageElement.problems = l.sections.map problemsOf

/-- Where the landmarks of a tree are found, its index and its body agree. -/
theorem indexed_of_named {l : Library} (hown : AllOwn [tree l]) {items : List PageItem}
    (hnamed : ∀ names ⊆ landmarks, named names items =
      (pick names (outline [tree l])).map Element.written) : Indexed l items := by
  have hshown : targets items = (anchored l).map targetOf := by
    rw [targets, hnamed _ (by simp [landmarks]), List.map_map, ← map_target hown]
    rfl
  have hlinked : links items = (anchored l).filterMap linkOf? := by
    rw [links, hnamed _ (by simp [landmarks]), pick_links, List.map_map, ← map_link]
    rfl
  have hindex : AllOwn (indexContent l) := by
    have hmem : ⟨"nav", [], indexContent l⟩ ∈ pick ["nav"] (outline [tree l]) := by
      rw [pick_index]
      exact List.mem_singleton_self _
    exact Markup.allOwn_of_mem_pick ["nav"] hown hmem
  refine ⟨hshown, ?articles, ?index, hlinked, fun link hlink => ?resolved, ?problems⟩
  case articles =>
    rw [hnamed _ (by simp [landmarks]), List.map_map, ← map_print_articles]
    rfl
  case index =>
    rw [hnamed _ (by simp [landmarks]), pick_index, List.map_singleton, List.map_singleton, links,
      Markup.named_content (by simp [landmarks]) hindex, List.map_map, ← map_link]
    rfl
  case resolved =>
    rw [hlinked] at hlink
    obtain ⟨entry, hentry, hlink⟩ := List.mem_filterMap.1 hlink
    refine ⟨targetOf entry, hshown ▸ List.mem_map_of_mem hentry, ?_⟩
    obtain ⟨title, -, rfl⟩ := Option.map_eq_some_iff.1 hlink
    rfl
  case problems =>
    rw [hnamed _ (by simp [landmarks]), List.map_map, ← map_problems hown]
    rfl

/-- **The index and the body of a page agree.**  Where no example is shown, a page is read in one
way, and read so, what it shows, what it links and which problems it lists are those of the
library. -/
theorem document_indexed {l : Library}
    (h : ∀ s ∈ l.sections, s.layout = .patterns → ∀ r ∈ s.records, r.isHidden = false →
      ∀ sample ∈ r.tags.get .sample, sample = []) :
    ∃ page items, document l = doctype ++ page ∧
      (∀ items', Consists items' page ↔ items' = items) ∧ Indexed l items := by
  have hown : AllOwn [tree l] :=
    (Markup.allOwn_cons ..).2 ⟨isOwn_tree (showsNoExample_plans h), Markup.allOwn_nil⟩
  obtain ⟨page, items, hdocument, hconsists, hnamed⟩ := exists_items hown
  refine ⟨page, items, hdocument, fun items' => ⟨hconsists.unique, ?_⟩,
    indexed_of_named hown hnamed⟩
  rintro rfl
  exact hconsists

/-- Two sections of one title; in the first one a hidden record, a record without a title and a
deprecated one, in two files that have problems. -/
def repeatedLibrary : Library where
  destination := .nowhere
  template := {}
  includes := {}
  sections :=
    [{ title := "A", mode := none, layout := .patterns
       files :=
        [{ path := .ofText "a.css", extension := "css"
           records := [{ tags := { title := some "Gone", hidden := some [] } }, {}]
           diagnostics := [⟨.emptyTag, some 2, "<x>"⟩] },
         { path := .ofText "b.css", extension := "css"
           records := [{ tags := { title := some "<B>", deprecated := some [] } }]
           diagnostics := [⟨.duplicateTag, some 1, "y"⟩, ⟨.unreadable, none, "z"⟩] }] },
     { title := "A", mode := none, layout := .declarations, files := [] }]
  output := none

theorem document_indexed_repeated :
    ∃ page items, document repeatedLibrary = doctype ++ page ∧ Consists items page ∧
      (targets items).map PageTarget.anchor =
        (["a", "a-pattern", "a-b", "a-1"] : List Text).map some ∧
      links items = [⟨some "#a", "A"⟩, ⟨some "#a-b", "&lt;B&gt;"⟩, ⟨some "#a-1", "A"⟩] ∧
      (named ["section"] items).map PageElement.problems =
        [[⟨["3 problem(s)"],
          ["<code>a.css</code>: line 2: &lt;x&gt;", "<code>b.css</code>: line 1: y",
            "<code>b.css</code>: z"]⟩], []] := by
  have hexamples : ∀ s ∈ repeatedLibrary.sections, s.layout = .patterns →
      ∀ r ∈ s.records, r.isHidden = false → ∀ sample ∈ r.tags.get .sample, sample = [] := by
    decide +kernel
  have hanchors : ((anchored repeatedLibrary).map targetOf).map PageTarget.anchor =
      (["a", "a-pattern", "a-b", "a-1"] : List Text).map some := by decide +kernel
  have hlinks : (anchored repeatedLibrary).filterMap linkOf? =
      [⟨some "#a", "A"⟩, ⟨some "#a-b", "&lt;B&gt;"⟩, ⟨some "#a-1", "A"⟩] := by decide +kernel
  have hproblems : repeatedLibrary.sections.map problemsOf =
      [[⟨["3 problem(s)"],
        ["<code>a.css</code>: line 2: &lt;x&gt;", "<code>b.css</code>: line 1: y",
          "<code>b.css</code>: z"]⟩], []] := by decide +kernel
  obtain ⟨page, items, hpage, hitems, hindexed⟩ := document_indexed hexamples
  exact ⟨page, items, hpage, (hitems items).2 rfl, hindexed.shown ▸ hanchors,
    hindexed.linked ▸ hlinks, hindexed.problems ▸ hproblems⟩

end Page

end PatternBook
