import PatternBook.Page.Document

/-!
# Hidden records leave no trace

The page of a library is the page of the library without its hidden records: they have no article,
no entry in the index and no anchor, they count for nothing where a section says that it is empty,
and what else the page says of their files does not depend on them.

* `Library.withoutHidden`: the library as far as the page may show it.
* `Page.document_withoutHidden`: deleting hidden records does not change the page.
* `Page.document_eq_of_withoutHidden`: libraries that differ in hidden records only have one page.
-/

namespace PatternBook

/-- The file without its hidden records, and without the text in which they still stand. -/
def SourceFile.withoutHidden (file : SourceFile) : SourceFile :=
  { file with text? := none, records := file.records.filter (!·.isHidden) }

/-- The section without its hidden records. -/
def Section.withoutHidden (s : Section) : Section :=
  { s with files := s.files.map SourceFile.withoutHidden }

/-- The library without its hidden records. -/
def Library.withoutHidden (l : Library) : Library :=
  { l with sections := l.sections.map Section.withoutHidden }

namespace Page

/-- The plan for the section without its hidden records. -/
def Plan.withoutHidden (p : Plan) : Plan := { p with source := p.source.withoutHidden }

/-! ### Anchors -/

theorem visible_withoutHidden (s : Section) : visible s.withoutHidden = visible s := by
  simp only [visible, Section.records, Section.withoutHidden, SourceFile.withoutHidden,
    List.flatMap_map, List.filter_flatMap, List.filter_filter, Bool.and_self]

theorem headingOf_withoutHidden (s : Section) : headingOf s.withoutHidden = headingOf s := rfl

/-- Hidden records take no anchors. -/
theorem plansFrom_withoutHidden (used : Anchors) (ss : List Section) :
    plansFrom used (ss.map Section.withoutHidden)
      = (plansFrom used ss).map Plan.withoutHidden := by
  induction ss generalizing used with
  | nil => rfl
  | cons s rest ih =>
      rw [List.map_cons, plansFrom_cons, plansFrom_cons, visible_withoutHidden,
        headingOf_withoutHidden]
      exact congrArg _ (ih _)

/-! ### Sections -/

/-- A problem is shown with the path of its file. -/
theorem problemEntry_withoutHidden (problem : SourceFile × Diagnostic) :
    problemEntry (problem.1.withoutHidden, problem.2) = problemEntry problem := rfl

theorem problems_withoutHidden (s : Section) :
    problems s.withoutHidden
      = (problems s).map fun problem => (problem.1.withoutHidden, problem.2) := by
  simp only [problems, Section.withoutHidden, List.flatMap_map, List.map_flatMap, List.map_map]
  rfl

theorem problemList_withoutHidden (s : Section) :
    problemList s.withoutHidden = problemList s := by
  rw [problemList, problemList, problems_withoutHidden, List.isEmpty_map, List.length_map,
    List.flatMap_map]
  simp only [problemEntry_withoutHidden]

theorem sectionOf_withoutHidden (selectorPrefix : Option Text) (p : Plan) :
    sectionOf selectorPrefix p.withoutHidden = sectionOf selectorPrefix p := by
  rw [sectionOf, sectionOf, Plan.withoutHidden, problemList_withoutHidden]
  rfl

theorem indexEntry_withoutHidden (p : Plan) : indexEntry p.withoutHidden = indexEntry p := rfl

/-! ### The whole page -/

theorem head_withoutHidden (l : Library) : head l.withoutHidden = head l := rfl

theorem body_withoutHidden (l : Library) : body l.withoutHidden = body l := by
  have hplans : plans l.withoutHidden = (plans l).map Plan.withoutHidden :=
    plansFrom_withoutHidden .empty l.sections
  rw [body, body, hplans, List.flatMap_map, List.flatMap_map]
  simp only [indexEntry_withoutHidden, sectionOf_withoutHidden]
  rfl

theorem tree_withoutHidden (l : Library) : tree l.withoutHidden = tree l := by
  rw [tree, tree, head_withoutHidden, body_withoutHidden]

/-- **Deleting the hidden records does not change the page.** -/
theorem document_withoutHidden (l : Library) : document l.withoutHidden = document l := by
  unfold document
  rw [tree_withoutHidden]

/-- **Hidden records leave no trace in the page**: libraries that are equal once their hidden
records are deleted have the same page, whatever the hidden records say and wherever they stand. -/
theorem document_eq_of_withoutHidden {l l' : Library} (h : l.withoutHidden = l'.withoutHidden) :
    document l = document l' := by
  rw [← document_withoutHidden l, h, document_withoutHidden]

/-- A section with one file, which has a visible record between the given others. -/
def draftLibrary (before after : List Record) : Library where
  destination := .nowhere
  template := {}
  includes := {}
  sections :=
    [{ title := "Menu", mode := none, layout := .patterns
       files := [{ path := .ofText "menu.css", extension := "css"
                   records := before ++ [{ tags := { title := some "Item" } }] ++ after
                   diagnostics := [⟨.emptyTag, some 1, "empty @usage tag"⟩] }] }]
  output := none

/-- Hidden records with the title of the visible one, on either side of it. -/
theorem document_eq_draft :
    document (draftLibrary [{ tags := { title := some "Item", hidden := some [] } }] [])
      = document (draftLibrary []
          [{ tags := { title := some "Item", hidden := some "yet" } },
           { tags := { sample := some "<b>", hidden := some [] }, body := "Soon." }]) :=
  document_eq_of_withoutHidden (by decide +kernel)

end Page

end PatternBook
