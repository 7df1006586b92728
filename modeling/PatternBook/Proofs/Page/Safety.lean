import PatternBook.Proofs.Page.Elements

/-!
# Texts cannot bring tags into a page

Whatever the texts of a library say, the page has its own tags only, and they are closed in order.
Only examples are written as they are: they are left out here, where a page shows none.

* `Anchors.isPlain_name`: an anchor is the same whether it is escaped or not.
* `Page.document_wellFormed`: the tags of a page are its own, and all of them are closed.
-/

namespace PatternBook

open Markup (IsPlain)

/-! ### Anchors -/

theorem isPlain_slug (t : Text) : IsPlain (slug t) := by
  intro c hc
  obtain ⟨d, hd, rfl⟩ := List.mem_map.1 hc
  obtain ⟨-, hd⟩ := List.mem_filter.1 hd
  by_cases hspace : d = ' '
  · subst hspace
    decide
  · rw [if_neg hspace]
    refine ⟨?_, ?_, ?_, ?_⟩ <;> rintro rfl <;> revert hd <;> decide

theorem isPlain_ofNat (n : Nat) : IsPlain (Text.ofNat n) := by
  intro c hc
  have hdigit : c.isDigit = true := Nat.isDigit_of_mem_toDigits (by decide) (by decide) hc
  refine ⟨?_, ?_, ?_, ?_⟩ <;> rintro rfl <;> revert hdigit <;> decide

namespace Anchors

theorem isPlain_base (heading : Text) : IsPlain (base heading) := by
  rw [base]
  split
  · decide
  · exact isPlain_slug heading

/-- **An anchor is plain**, whatever its heading says. -/
theorem isPlain_name (used : Anchors) (heading : Text) : IsPlain (used.name heading) := by
  rw [name]
  split
  · exact isPlain_base heading
  · next n _ => exact ((isPlain_base heading).append (by decide)).append (isPlain_ofNat (n + 1))

theorem isPlain_nextAll (used : Anchors) (headings : List Text) :
    ∀ anchor ∈ (used.nextAll headings).1, IsPlain anchor := by
  induction headings generalizing used with
  | nil => nofun
  | cons heading rest ih =>
      rw [nextAll]
      exact List.forall_mem_cons.2 ⟨isPlain_name used heading, ih _⟩

end Anchors

namespace Page

/-! ### Plans -/

/-- The anchors of the plan are plain. -/
def Plan.HasPlainAnchors (p : Plan) : Prop :=
  IsPlain p.anchor ∧ ∀ r ∈ p.records, IsPlain r.2

/-- A plan is for a section of the library and for records that the page shows. -/
theorem of_mem_plansFrom {used : Anchors} {ss : List Section} {p : Plan}
    (h : p ∈ plansFrom used ss) :
    p.source ∈ ss ∧ (∀ r ∈ p.records, r.1 ∈ visible p.source) ∧ p.HasPlainAnchors := by
  induction ss generalizing used with
  | nil => cases h
  | cons s rest ih =>
      rw [plansFrom] at h
      rcases List.mem_cons.1 h with rfl | h
      · refine ⟨List.mem_cons_self, fun r hr => (List.of_mem_zip hr).1,
          Anchors.isPlain_name used s.title, fun r hr => ?_⟩
        exact Anchors.isPlain_nextAll _ _ r.2 (List.of_mem_zip hr).2
      · obtain ⟨hsource, hrest⟩ := ih h
        exact ⟨List.mem_cons_of_mem s hsource, hrest⟩

/-! ### Documents -/

/-- The first line of a page. -/
def doctype : Text := "<!DOCTYPE html>\n"

/-- **Texts cannot bring tags into a page.**  Where no example is shown, every `<` behind the
doctype starts a tag of the page, the tags are determined by the text of the page, and all of them
are closed in order; and the anchors are the same whether they are escaped or not. -/
theorem document_wellFormed {l : Library}
    (h : ∀ s ∈ l.sections, s.layout = .patterns → ∀ r ∈ s.records, r.isHidden = false →
      ∀ sample ∈ r.tags.get .sample, sample = []) :
    ∃ page, document l = doctype ++ page ∧
      (∀ before after, page = before ++ '<' :: after →
        ∃ tag : PageTag, tag.IsOwn ∧ tag.print <+: '<' :: after) ∧
      (∃ tags, (∀ tags', Tagged tags' page ↔ tags' = tags) ∧ closesAll [] tags = true) ∧
      ∀ p ∈ plans l, Markup.escape p.anchor = p.anchor ∧
        ∀ r ∈ p.records, Markup.escape r.2 = r.2 := by
  have hplans : ∀ p ∈ plans l, p.ShowsNoExample := by
    intro p hp hlayout r hr
    obtain ⟨hsource, hvisible, -⟩ := of_mem_plansFrom hp
    obtain ⟨hmem, hshown⟩ := List.mem_filter.1 (hvisible r hr)
    exact h p.source hsource hlayout r.1 hmem (by simpa using hshown)
  have hown := isOwn_tree hplans
  have hend : Tagged [] ("\n" : Text) := .char (by decide) .nil
  have htagged := Markup.tagged_print (tree l) hown hend
  rw [List.append_nil] at htagged
  have hdocument : document l = doctype ++ ((tree l).print ++ "\n") :=
    List.append_assoc doctype (tree l).print ("\n" : Text)
  refine ⟨(tree l).print ++ "\n", hdocument, fun before after hpage => htagged.start hpage,
    ⟨(tree l).tags, fun tags' => ?_, ?_⟩, fun p hp => ?_⟩
  · exact ⟨fun h' => htagged.unique h', fun heq => heq ▸ htagged⟩
  · rw [← List.append_nil (tree l).tags, Markup.closesAll_tags (tree l) hown]
    rfl
  · obtain ⟨-, -, hanchor, hanchors⟩ := of_mem_plansFrom hp
    exact ⟨Markup.escape_eq_self hanchor, fun r hr => Markup.escape_eq_self (hanchors r hr)⟩

/-- Texts that look like markup wherever a text may stand, and examples that the page does not
show: of a hidden record, and of a group of variables. -/
def hostileLibrary : Library where
  destination := .nowhere
  template :=
    { title := "</title><script>", selectorPrefix := some "x\"><b>", assets := ["\"><img>"] }
  includes := { css := ["</head>"], js := ["\"></script>"] }
  sections :=
    [{ title := "<h1>", mode := none, layout := .patterns
       files := [{ path := .ofText "<a>.css", extension := "css"
                   records :=
                     [{ tags := { title := some "</h3>", sample := some [] }
                        variants := [⟨.state, "<i>", "\"&"⟩], body := "</p>" },
                      { tags := { sample := some "<br>", hidden := some [] } }]
                   diagnostics := [⟨.emptyTag, some 1, "</li>"⟩] }] },
     { title := "<h1>", mode := some .variable, layout := .declarations
       files := [{ path := .ofText "v.css", extension := "css"
                   records :=
                     [{ tags := { sample := some "<br>" }
                        declared := [⟨"--a", "#fff\"", some "</td>"⟩] }] }] }]
  output := none

theorem document_wellFormed_hostile :
    ∃ page, document hostileLibrary = doctype ++ page ∧
      ∃ tags, Tagged tags page ∧ closesAll [] tags = true := by
  have hexamples : ∀ s ∈ hostileLibrary.sections, s.layout = .patterns →
      ∀ r ∈ s.records, r.isHidden = false → ∀ sample ∈ r.tags.get .sample, sample = [] := by
    decide +kernel
  obtain ⟨page, hpage, -, ⟨tags, htags, hclosed⟩, -⟩ := document_wellFormed hexamples
  exact ⟨page, hpage, tags, (htags tags).2 rfl, hclosed⟩

end Page

end PatternBook
