import Mathlib.Data.List.Basic
import PatternBook.Proofs.Page.Outline

/-!
# Landmarks by name

The landmarks of one name are picked out of the outline of a page, and where they are looked for in
the page as it is written, the same ones are found.

* `Markup.named_itemsAll`: looking for landmarks in what is written.
* `Page.pick_targets`: the sections and the articles of a page, in document order.
* `Page.pick_links`, `Page.pick_indexContent`: its links, all of them in the index.
* `Page.pick_details`: the list of the problems of a section.
-/

namespace PatternBook

/-- The elements with one of the names, in document order. -/
def named (names : List Text) (items : List PageItem) : List PageElement :=
  elements names.contains items

namespace Markup

/-- Of the elements, those with one of the names. -/
def pick (names : List Text) (es : List Element) : List Element :=
  es.filter fun e => names.contains e.name

section

variable {names : List Text} {e : Element} {es : List Element}

theorem pick_nil : pick names [] = [] := rfl

theorem pick_cons_of_mem (h : e.name ∈ names) : pick names (e :: es) = e :: pick names es :=
  List.filter_cons_of_pos (List.contains_iff_mem.2 h)

theorem pick_cons_of_notMem (h : e.name ∉ names) : pick names (e :: es) = pick names es :=
  List.filter_cons_of_neg (by rwa [List.contains_iff_mem])

/-- Picking fewer names from what was picked is picking them at once. -/
theorem pick_pick (names : List Text) {fewer : List Text} (h : fewer ⊆ names) (es : List Element) :
    pick fewer (pick names es) = pick fewer es := by
  rw [pick, pick, List.filter_filter]
  refine List.filter_congr fun e _ => ?_
  rw [Bool.eq_iff_iff, Bool.and_eq_true, List.contains_iff_mem, List.contains_iff_mem]
  exact ⟨fun hmem => hmem.1, fun hmem => ⟨hmem, h hmem⟩⟩

theorem pick_append (s t : List Element) : pick names (s ++ t) = pick names s ++ pick names t :=
  List.filter_append s t

theorem pick_flatMap {α : Type} (f : α → List Element) (l : List α) :
    pick names (l.flatMap f) = l.flatMap fun a => pick names (f a) :=
  List.filter_flatMap

theorem pick_map_of_mem {α : Type} {f : α → Element} (h : ∀ a, (f a).name ∈ names) (l : List α) :
    pick names (l.map f) = l.map f := by
  refine List.filter_eq_self.2 fun e he => ?_
  obtain ⟨a, -, rfl⟩ := List.mem_map.1 he
  exact List.contains_iff_mem.2 (h a)

theorem pick_of_disjoint {others : List Text} (h : ∀ e ∈ es, e.name ∈ others)
    (hothers : ∀ n ∈ others, n ∉ names) : pick names es = [] :=
  List.filter_eq_nil_iff.2 fun e he => by
    rw [List.contains_iff_mem]
    exact hothers e.name (h e he)

end

theorem isVoidName_of_isLandmark {name : Text} (h : isLandmark name = true) :
    PageTag.isVoidName name = false := by
  have hall : ∀ n ∈ landmarks, PageTag.isVoidName n = false := by decide +kernel
  exact hall name (List.contains_iff_mem.1 h)

/-- Landmarks are found in what is written. -/
theorem named_itemsAll {names : List Text} (hnames : names ⊆ landmarks) {pieces : List Markup}
    (h : AllOwn pieces) (rest : List PageItem) :
    named names (itemsAll pieces ++ rest)
      = (pick names (outline pieces)).map Element.written ++ named names rest := by
  have hmark : ∀ n, names.contains n = true → isLandmark n = true := fun n hn =>
    isLandmark_of_mem (hnames (List.contains_iff_mem.1 hn))
  have hvoid : ∀ n, names.contains n = true → PageTag.isVoidName n = false := fun n hn =>
    isVoidName_of_isLandmark (hmark n hn)
  rw [named, elements_itemsAll hvoid pieces h, ← filter_elementsAll hmark]
  rfl

theorem named_content {names : List Text} (hnames : names ⊆ landmarks) {e : Element}
    (h : AllOwn e.children) :
    named names e.written.content = (pick names (outline e.children)).map Element.written := by
  rw [Element.written, ← List.append_nil (itemsAll e.children), named_itemsAll hnames h]
  exact List.append_nil _

mutual

/-- What stands in an element of a piece is of the page as the piece is. -/
theorem allOwn_elementsOf {p : Text → Bool} (piece : Markup) (h : piece.IsOwn) :
    ∀ e ∈ elementsOf p piece, AllOwn e.children := by
  cases piece with
  | text s => rw [elementsOf_text]; nofun
  | verbatim s => rw [elementsOf_verbatim]; nofun
  | element name attributes children =>
      obtain ⟨-, hchildren⟩ := (isOwn_element ..).1 h
      rw [elementsOf]
      split
      · exact List.forall_mem_cons.2 ⟨hchildren, allOwn_elementsAll children hchildren⟩
      · exact allOwn_elementsAll children hchildren
  | void name attributes => rw [elementsOf_void]; nofun

theorem allOwn_elementsAll {p : Text → Bool} (pieces : List Markup) (h : AllOwn pieces) :
    ∀ e ∈ elementsAll p pieces, AllOwn e.children := by
  cases pieces with
  | nil => rw [elementsAll_nil]; nofun
  | cons piece rest =>
      obtain ⟨hpiece, hrest⟩ := (allOwn_cons ..).1 h
      rw [elementsAll_cons, List.forall_mem_append]
      exact ⟨allOwn_elementsOf piece hpiece, allOwn_elementsAll rest hrest⟩

end

theorem allOwn_of_mem_pick (names : List Text) {pieces : List Markup} (h : AllOwn pieces)
    {e : Element} (he : e ∈ pick names (outline pieces)) : AllOwn e.children :=
  allOwn_elementsAll pieces h e (List.mem_filter.1 he).1

end Markup

namespace Page

open Markup (Element newline outline pick pick_append pick_cons_of_mem pick_cons_of_notMem
  pick_flatMap pick_map_of_mem pick_nil pick_of_disjoint pick_pick simple)

/-! ### The landmarks of a page -/

theorem name_problemElement (s : Section) : ∀ e ∈ (problems s).map problemElement,
    e.name ∈ (["li"] : List Text) := by
  intro e he
  obtain ⟨problem, -, rfl⟩ := List.mem_map.1 he
  simp

theorem name_problemContent (s : Section) : ∀ e ∈ outline (problemContent s),
    e.name ∈ (["summary", "li"] : List Text) := by
  rw [outline_problemContent, List.forall_mem_cons]
  exact ⟨by simp, fun e he => List.mem_cons_of_mem _ (name_problemElement s e he)⟩

theorem name_problemList (s : Section) : ∀ e ∈ outline (problemList s),
    e.name ∈ (["details", "summary", "li"] : List Text) := by
  rw [outline_problemList]
  split
  · nofun
  · refine List.forall_mem_cons.2 ⟨by simp, fun e he => ?_⟩
    exact List.mem_cons_of_mem _ (name_problemContent s e he)

theorem name_indexContent (l : Library) : ∀ e ∈ outline (indexContent l),
    e.name ∈ (["h2", "li", "a"] : List Text) := by
  rw [outline_indexContent, List.forall_mem_cons]
  refine ⟨by simp, fun e he => ?_⟩
  obtain ⟨p, -, he⟩ := List.mem_flatMap.1 he
  rw [outline_indexEntry] at he
  rcases List.mem_cons.1 he with rfl | he
  · simp
  · rcases List.mem_cons.1 he with rfl | he
    · simp
    · obtain ⟨entry, -, he⟩ := List.mem_flatMap.1 he
      rcases List.mem_pair.1 he with rfl | rfl
      · simp
      · simp

theorem name_sectionOf (selectorPrefix : Option Text) (p : Plan) :
    ∀ e ∈ outline (sectionOf selectorPrefix p),
      e.name ∈ (["section", "h2", "article", "h3", "details", "summary", "li"] : List Text) := by
  rw [outline_sectionOf, outline_sectionContent, List.cons_append, List.forall_mem_cons,
    List.forall_mem_cons, List.forall_mem_append]
  refine ⟨by simp, by simp, fun e he => ?_, fun e he => ?_⟩
  · obtain ⟨r, -, he⟩ := List.mem_flatMap.1 he
    rcases List.mem_pair.1 he with rfl | rfl
    · simp
    · simp
  · exact List.mem_append_right (["section", "h2", "article", "h3"] : List Text)
      (name_problemList p.source e he)

/-- Of a section, its own element and those of its articles can be linked to. -/
theorem pick_sectionOf (selectorPrefix : Option Text) (p : Plan) :
    pick ["section", "article"] (outline (sectionOf selectorPrefix p)) =
      sectionElement selectorPrefix p ::
        p.records.map (articleElement p.source.layout selectorPrefix) := by
  have harticle : ∀ r : Record × Text, pick ["section", "article"]
      [articleElement p.source.layout selectorPrefix r, headingElement r.1] =
        [articleElement p.source.layout selectorPrefix r] := by
    intro r
    rw [pick_cons_of_mem (by simp),
      pick_cons_of_notMem (by simp), pick_nil]
  have hproblems : pick ["section", "article"] (outline (problemList p.source)) = [] :=
    pick_of_disjoint (name_problemList p.source) (by simp)
  rw [outline_sectionOf, outline_sectionContent, List.cons_append,
    pick_cons_of_mem (by simp), pick_cons_of_notMem (by simp), pick_append,
    pick_flatMap, hproblems, List.append_nil, List.map_eq_flatMap]
  exact congrArg _ (List.flatMap_congr fun r _ => harticle r)

theorem pick_targets (l : Library) :
    pick ["section", "article"] (outline [tree l]) = (plans l).flatMap fun p =>
      sectionElement l.template.selectorPrefix p ::
        p.records.map (articleElement p.source.layout l.template.selectorPrefix) := by
  rw [outline_tree, pick_cons_of_notMem (by simp), pick_append,
    pick_of_disjoint (name_indexContent l) (by simp), List.nil_append, pick_flatMap]
  exact List.flatMap_congr fun p _ => pick_sectionOf _ p

theorem pick_sections (l : Library) :
    pick ["section"] (outline [tree l]) =
      (plans l).map (sectionElement l.template.selectorPrefix) := by
  have hplan : ∀ p : Plan, pick ["section"] (sectionElement l.template.selectorPrefix p ::
      p.records.map (articleElement p.source.layout l.template.selectorPrefix)) =
        [sectionElement l.template.selectorPrefix p] := by
    intro p
    rw [pick_cons_of_mem (by simp)]
    have harticles : ∀ e ∈ p.records.map (articleElement p.source.layout
        l.template.selectorPrefix), e.name ∈ (["article"] : List Text) := by
      intro e he
      obtain ⟨r, -, rfl⟩ := List.mem_map.1 he
      simp
    exact congrArg _ (pick_of_disjoint harticles (by simp))
  rw [← pick_pick ["section", "article"] (by simp), pick_targets, pick_flatMap,
    List.map_eq_flatMap]
  exact List.flatMap_congr fun p _ => hplan p

theorem pick_articles (l : Library) :
    pick ["article"] (outline [tree l]) = (plans l).flatMap fun p =>
      p.records.map (articleElement p.source.layout l.template.selectorPrefix) := by
  have hplan : ∀ p : Plan, pick ["article"] (sectionElement l.template.selectorPrefix p ::
      p.records.map (articleElement p.source.layout l.template.selectorPrefix)) =
        p.records.map (articleElement p.source.layout l.template.selectorPrefix) := fun p => by
    rw [pick_cons_of_notMem (by simp),
      pick_map_of_mem fun r => by simp]
  rw [← pick_pick ["section", "article"] (by simp), pick_targets, pick_flatMap]
  exact List.flatMap_congr fun p _ => hplan p

theorem pick_index (l : Library) :
    pick ["nav"] (outline [tree l]) = [⟨"nav", [], indexContent l⟩] := by
  have hsections : pick ["nav"] ((plans l).flatMap fun p =>
      outline (sectionOf l.template.selectorPrefix p)) = [] := by
    rw [pick_flatMap]
    exact List.flatMap_eq_nil_iff.2 fun p _ => pick_of_disjoint (name_sectionOf _ p) (by simp)
  rw [outline_tree, pick_cons_of_mem (by simp), pick_append,
    pick_of_disjoint (name_indexContent l) (by simp), hsections]
  rfl

/-- The links of the index. -/
theorem pick_indexContent (l : Library) :
    pick ["a"] (outline (indexContent l)) = (plans l).flatMap fun p =>
      linkElement p.anchor p.source.title ::
        (titled p).map fun entry => linkElement entry.2 entry.1 := by
  have hentry : ∀ entry : Text × Text,
      pick ["a"] [⟨"li", [], [link entry.2 entry.1]⟩, linkElement entry.2 entry.1] =
        [linkElement entry.2 entry.1] := by
    intro entry
    rw [pick_cons_of_notMem (by simp), pick_cons_of_mem (by simp), pick_nil]
  have hplan : ∀ p : Plan, pick ["a"] (outline (indexEntry p)) =
      linkElement p.anchor p.source.title ::
        (titled p).map fun entry => linkElement entry.2 entry.1 := by
    intro p
    rw [outline_indexEntry, pick_cons_of_notMem (by simp), pick_cons_of_mem (by simp),
      pick_flatMap, List.map_eq_flatMap]
    exact congrArg _ (List.flatMap_congr fun entry _ => hentry entry)
  rw [outline_indexContent, pick_cons_of_notMem (by simp), pick_flatMap]
  exact List.flatMap_congr fun p _ => hplan p

/-- A page has no links within it but those of the index. -/
theorem pick_links (l : Library) :
    pick ["a"] (outline [tree l]) = pick ["a"] (outline (indexContent l)) := by
  have hsections : pick ["a"] ((plans l).flatMap fun p =>
      outline (sectionOf l.template.selectorPrefix p)) = [] := by
    rw [pick_flatMap]
    exact List.flatMap_eq_nil_iff.2 fun p _ => pick_of_disjoint (name_sectionOf _ p) (by simp)
  rw [outline_tree, pick_cons_of_notMem (by simp), pick_append, hsections, List.append_nil]

/-- The list of the problems of a section, if there are any. -/
theorem pick_details (selectorPrefix : Option Text) (p : Plan) :
    pick ["details"] (outline (sectionContent selectorPrefix p)) =
      if (problems p.source).isEmpty then []
      else [⟨"details", [("class", "sg-diagnostics")], problemContent p.source⟩] := by
  have harticles : pick ["details"] (p.records.flatMap fun r =>
      [articleElement p.source.layout selectorPrefix r, headingElement r.1]) = [] := by
    rw [pick_flatMap]
    refine List.flatMap_eq_nil_iff.2 fun r _ => ?_
    rw [pick_cons_of_notMem (by simp),
      pick_cons_of_notMem (by simp), pick_nil]
  rw [outline_sectionContent, List.cons_append, pick_cons_of_notMem (by simp), pick_append,
    harticles, List.nil_append, outline_problemList]
  split
  · rfl
  · rw [pick_cons_of_mem (by simp), pick_of_disjoint (name_problemContent _) (by simp)]

theorem pick_summaries (s : Section) :
    pick ["summary"] (outline (problemContent s)) =
      [⟨"summary", [], [.text (Text.ofNat (problems s).length ++ " problem(s)")]⟩] := by
  rw [outline_problemContent, pick_cons_of_mem (by simp)]
  exact congrArg _ (pick_of_disjoint (name_problemElement s) (by simp))

theorem pick_items (s : Section) :
    pick ["li"] (outline (problemContent s)) = (problems s).map problemElement := by
  rw [outline_problemContent, pick_cons_of_notMem (by simp),
    pick_map_of_mem fun problem => by simp]

end Page

end PatternBook
