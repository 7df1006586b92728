import PatternBook.Proofs.Text.Cuts

/-!
# The tags of a page

A page has a small vocabulary of tags, and a value of an attribute stands between quotes and has
neither quotes nor angle brackets of its own.  Apart from the doctype, a text in which every `<`
starts such a tag has its tags in one way only.

* `Tagged.start`: every `<` starts a tag.
* `Tagged.unique`: the tags of a text are determined.
* `closesAll`: each tag is closed, the last one opened first.
-/

namespace PatternBook

/-- A tag as it is written. -/
inductive PageTag where
  /-- A start tag with its attributes; their values as they are written between the quotes. -/
  | opening (name : Text) (attributes : List (Text × Text))
  | closing (name : Text)
  deriving DecidableEq, Repr

namespace PageTag

/-- An attribute as it is written. -/
def printAttribute (pair : Text × Text) : Text :=
  ' ' :: (pair.1 ++ '=' :: '"' :: (pair.2 ++ ['"']))

/-- The form of a tag. -/
def print : PageTag → Text
  | .opening name attributes => '<' :: (name ++ (attributes.flatMap printAttribute ++ ['>']))
  | .closing name => '<' :: '/' :: (name ++ ['>'])

/-! ### The vocabulary -/

/-- The elements of a page, each with the names of its attributes. -/
inductive IsElement : Text → List Text → Prop
  | html : IsElement "html" ["lang"]
  | head : IsElement "head" []
  | title : IsElement "title" []
  | style : IsElement "style" []
  | body : IsElement "body" []
  | header : IsElement "header" []
  | h1 : IsElement "h1" []
  | nav : IsElement "nav" []
  | h2 : IsElement "h2" []
  | ul : IsElement "ul" []
  | li : IsElement "li" []
  | a : IsElement "a" ["href"]
  | main : IsElement "main" []
  | sectionId : IsElement "section" ["id"]
  | p : IsElement "p" []
  | pClass : IsElement "p" ["class"]
  | em : IsElement "em" []
  | article : IsElement "article" ["class", "id"]
  | h3 : IsElement "h3" []
  | spanClass : IsElement "span" ["class"]
  | code : IsElement "code" []
  | codeClass : IsElement "code" ["class"]
  | strong : IsElement "strong" []
  | h4 : IsElement "h4" []
  | divClass : IsElement "div" ["class"]
  | pre : IsElement "pre" []
  | dl : IsElement "dl" []
  | dt : IsElement "dt" []
  | dd : IsElement "dd" []
  | table : IsElement "table" []
  | thead : IsElement "thead" []
  | tbody : IsElement "tbody" []
  | tr : IsElement "tr" []
  | th : IsElement "th" []
  | td : IsElement "td" []
  | spanStyle : IsElement "span" ["class", "style"]
  | details : IsElement "details" ["class"]
  | summary : IsElement "summary" []
  | script : IsElement "script" ["src"]

/-- The elements of a page that have no end tag. -/
inductive IsVoid : Text → List Text → Prop
  | charset : IsVoid "meta" ["charset"]
  | viewport : IsVoid "meta" ["name", "content"]
  | link : IsVoid "link" ["rel", "href"]

/-- Whether the elements of that name have no end tag. -/
def isVoidName (name : Text) : Bool := name = "meta" || name = "link"

/-- A value that cannot be taken for more than a value. -/
def Quotable (value : Text) : Prop := ∀ c ∈ value, c ≠ '<' ∧ c ≠ '>' ∧ c ≠ '"'

instance (value : Text) : Decidable (Quotable value) := List.decidableBAll _ value

/-- The tag is one of a page. -/
def IsOwn : PageTag → Prop
  | .opening name attributes =>
    (IsElement name (attributes.map Prod.fst) ∨ IsVoid name (attributes.map Prod.fst)) ∧
      ∀ a ∈ attributes, Quotable a.2
  | .closing name => ∃ names, IsElement name names

theorem IsElement.isVoidName {name : Text} {names : List Text} (h : IsElement name names) :
    isVoidName name = false := by
  cases h <;> decide +kernel

theorem IsVoid.isVoidName {name : Text} {names : List Text} (h : IsVoid name names) :
    isVoidName name = true := by
  cases h <;> decide +kernel

/-! ### Words -/

/-- A text of letters and digits. -/
def IsWord (t : Text) : Prop := ∀ c ∈ t, c.isAlphanum = true

instance (t : Text) : Decidable (IsWord t) := List.decidableBAll _ t

theorem IsElement.isWord {name : Text} {names : List Text} (h : IsElement name names) :
    (name ≠ [] ∧ IsWord name) ∧ ∀ n ∈ names, IsWord n := by
  cases h <;> decide +kernel

theorem IsVoid.isWord {name : Text} {names : List Text} (h : IsVoid name names) :
    (name ≠ [] ∧ IsWord name) ∧ ∀ n ∈ names, IsWord n := by
  cases h <;> decide +kernel

theorem IsOwn.isWord {name : Text} {attributes : List (Text × Text)}
    (h : (opening name attributes).IsOwn) :
    (name ≠ [] ∧ IsWord name) ∧ ∀ n ∈ attributes.map Prod.fst, IsWord n := by
  rcases h.1 with h | h
  · exact h.isWord
  · exact h.isWord

theorem IsOwn.attributes {name : Text} {attributes : List (Text × Text)}
    (h : (opening name attributes).IsOwn) : ∀ a ∈ attributes, IsWord a.1 ∧ Quotable a.2 :=
  fun a ha => ⟨h.isWord.2 a.1 (List.mem_map_of_mem ha), h.2 a ha⟩

theorem IsOwn.closingName {name : Text} (h : (closing name).IsOwn) : IsWord name := by
  obtain ⟨names, h⟩ := h
  exact h.isWord.1.2

/-- A word goes as far as it can. -/
theorem IsWord.append_inj {u v s t : Text} (hu : IsWord u) (hv : IsWord v)
    (hs : ∀ c ∈ s.head?, c.isAlphanum = false) (ht : ∀ c ∈ t.head?, c.isAlphanum = false)
    (h : u ++ s = v ++ t) : u = v ∧ s = t := by
  have htake := congrArg (List.takeWhile Char.isAlphanum) h
  have hdrop := congrArg (List.dropWhile Char.isAlphanum) h
  rw [Text.takeWhile_append_of_stop hu hs, Text.takeWhile_append_of_stop hv ht] at htake
  rw [Text.dropWhile_append_of_stop hu hs, Text.dropWhile_append_of_stop hv ht] at hdrop
  exact ⟨htake, hdrop⟩

/-! ### Reading tags back -/

theorem quote_notMem {value : Text} (h : Quotable value) : '"' ∉ value := fun hmem =>
  (h _ hmem).2.2 rfl

/-- Behind a name there is an attribute or the end of the tag. -/
theorem stop_attributes (attributes : List (Text × Text)) (rest : Text) :
    ∀ c ∈ (attributes.flatMap printAttribute ++ '>' :: rest).head?, c.isAlphanum = false := by
  cases attributes with
  | nil => exact Text.stop_cons rfl rest
  | cons a attributes => exact Text.stop_cons rfl _

theorem attributes_inj {as bs : List (Text × Text)}
    (has : ∀ a ∈ as, IsWord a.1 ∧ Quotable a.2) (hbs : ∀ b ∈ bs, IsWord b.1 ∧ Quotable b.2)
    {s t : Text}
    (h : as.flatMap printAttribute ++ '>' :: s = bs.flatMap printAttribute ++ '>' :: t) :
    as = bs ∧ s = t := by
  induction as generalizing bs with
  | nil =>
      cases bs with
      | nil => exact ⟨rfl, (List.cons.inj h).2⟩
      | cons b bs => exact absurd (List.cons.inj h).1 (by decide)
  | cons a as ih =>
      cases bs with
      | nil => exact absurd (List.cons.inj h).1 (by decide)
      | cons b bs =>
          obtain ⟨⟨hname, hvalue⟩, has⟩ := List.forall_mem_cons.1 has
          obtain ⟨⟨hname', hvalue'⟩, hbs⟩ := List.forall_mem_cons.1 hbs
          simp only [List.flatMap_cons, printAttribute, List.cons_append, List.append_assoc,
            List.nil_append] at h
          obtain ⟨hnames, hrest⟩ := hname.append_inj hname' (Text.stop_cons rfl _)
            (Text.stop_cons rfl _) (List.cons.inj h).2
          obtain ⟨hvalues, hrest⟩ := Text.append_cons_inj (quote_notMem hvalue)
            (quote_notMem hvalue') (List.cons.inj (List.cons.inj hrest).2).2
          obtain ⟨rfl, hst⟩ := ih has hbs hrest
          exact ⟨congrArg (· :: as) (Prod.ext hnames hvalues), hst⟩

theorem print_ne {name name' : Text} {attributes : List (Text × Text)}
    (h : (opening name attributes).IsOwn) (s t : Text) :
    (opening name attributes).print ++ s ≠ (closing name').print ++ t := by
  intro heq
  obtain ⟨hne, hword⟩ := h.isWord.1
  cases name with
  | nil => exact hne rfl
  | cons c name =>
      obtain rfl : c = '/' := (List.cons.inj (List.cons.inj heq).2).1
      exact absurd (hword _ List.mem_cons_self) (by decide)

/-- **A tag is read in one way.** -/
theorem print_append_inj {a b : PageTag} (ha : a.IsOwn) (hb : b.IsOwn) {s t : Text}
    (h : a.print ++ s = b.print ++ t) : a = b ∧ s = t := by
  cases a with
  | opening name attributes =>
      cases b with
      | opening name' attributes' =>
          simp only [print, List.cons_append, List.append_assoc, List.nil_append] at h
          obtain ⟨rfl, hrest⟩ := ha.isWord.1.2.append_inj hb.isWord.1.2
            (stop_attributes attributes s) (stop_attributes attributes' t) (List.cons.inj h).2
          obtain ⟨rfl, hst⟩ := attributes_inj ha.attributes hb.attributes hrest
          exact ⟨rfl, hst⟩
      | closing name' => exact absurd h (print_ne ha s t)
  | closing name =>
      cases b with
      | opening name' attributes' => exact absurd h.symm (print_ne hb t s)
      | closing name' =>
          simp only [print, List.cons_append, List.append_assoc, List.nil_append] at h
          obtain ⟨rfl, hrest⟩ := ha.closingName.append_inj hb.closingName (Text.stop_cons rfl _)
            (Text.stop_cons rfl _) (List.cons.inj (List.cons.inj h).2).2
          exact ⟨rfl, (List.cons.inj hrest).2⟩

theorem angle_notMem_word {t : Text} (h : IsWord t) : '<' ∉ t := fun hmem =>
  absurd (h _ hmem) (by decide)

/-- The only `<` of a tag is the first one. -/
theorem angle_notMem_tail {tag : PageTag} (h : tag.IsOwn) : '<' ∉ tag.print.tail := by
  cases tag with
  | opening name attributes =>
      have hattributes : '<' ∉ attributes.flatMap printAttribute := by
        intro hmem
        obtain ⟨a, ha, hmem⟩ := List.mem_flatMap.1 hmem
        obtain ⟨hname, hvalue⟩ := h.attributes a ha
        have hvalue' : '<' ∉ a.2 := fun hmem => (hvalue _ hmem).1 rfl
        simp [printAttribute, angle_notMem_word hname, hvalue'] at hmem
      simp [print, angle_notMem_word h.isWord.1.2, hattributes]
  | closing name => simp [print, angle_notMem_word h.closingName]

theorem print_eq_cons (tag : PageTag) : tag.print = '<' :: tag.print.tail := by
  cases tag <;> rfl

end PageTag

/-! ### The tags of a text -/

/-- The text consists of the given tags, in order, and of characters other than `<`. -/
inductive Tagged : List PageTag → Text → Prop
  | nil : Tagged [] []
  | char {c : Char} {tags : List PageTag} {t : Text} (hc : c ≠ '<') (h : Tagged tags t) :
      Tagged tags (c :: t)
  | tag {tag : PageTag} {tags : List PageTag} {t : Text} (htag : tag.IsOwn) (h : Tagged tags t) :
      Tagged (tag :: tags) (tag.print ++ t)

namespace Tagged

variable {tags : List PageTag} {t : Text}

/-- **Every `<` starts a tag.** -/
theorem start (h : Tagged tags t) {before after : Text} (ht : t = before ++ '<' :: after) :
    ∃ tag : PageTag, tag.IsOwn ∧ tag.print <+: '<' :: after := by
  induction h generalizing before with
  | nil => cases before <;> cases ht
  | char hc h ih =>
      cases before with
      | nil => exact absurd (List.cons.inj ht).1 hc
      | cons d before => exact ih (List.cons.inj ht).2
  | @tag tag tags t htag h ih =>
      rcases List.append_eq_append_iff.1 ht with ⟨between, hbefore, ht⟩ | ⟨inside, htext, hafter⟩
      · exact ih ht
      · -- The `<` is in the tag, where it can only be the first character, or right behind it.
        cases inside with
        | nil => exact ih (show t = [] ++ '<' :: after from hafter.symm)
        | cons d inside =>
            obtain ⟨rfl, -⟩ := List.cons.inj hafter
            cases before with
            | nil => exact ⟨tag, htag, htext ▸ ⟨t, hafter.symm⟩⟩
            | cons e before =>
                refine absurd ?_ (PageTag.angle_notMem_tail htag)
                rw [htext]
                exact List.mem_append_right before List.mem_cons_self

theorem of_cons {c : Char} (hc : c ≠ '<') (h : Tagged tags (c :: t)) : Tagged tags t := by
  generalize htext : c :: t = text at h
  cases h with
  | nil => cases htext
  | char _ h =>
      obtain ⟨-, rfl⟩ := List.cons.inj htext
      exact h
  | tag htag h =>
      rw [PageTag.print_eq_cons] at htext
      exact absurd (List.cons.inj htext).1 hc

theorem of_tag {tag : PageTag} (htag : tag.IsOwn) (h : Tagged tags (tag.print ++ t)) :
    ∃ rest, tags = tag :: rest ∧ Tagged rest t := by
  generalize htext : tag.print ++ t = text at h
  cases h with
  | nil =>
      rw [PageTag.print_eq_cons] at htext
      cases htext
  | char hc h =>
      rw [PageTag.print_eq_cons] at htext
      exact absurd (List.cons.inj htext).1.symm hc
  | tag htag' h =>
      obtain ⟨rfl, rfl⟩ := PageTag.print_append_inj htag htag' htext
      exact ⟨_, rfl, h⟩

theorem eq_nil (h : Tagged tags []) : tags = [] := by
  generalize htext : ([] : Text) = text at h
  cases h with
  | nil => rfl
  | char hc h => cases htext
  | tag htag h =>
      rw [PageTag.print_eq_cons] at htext
      cases htext

/-- **The tags of a text are determined.** -/
theorem unique (h : Tagged tags t) {tags' : List PageTag} (h' : Tagged tags' t) :
    tags' = tags := by
  induction h generalizing tags' with
  | nil => exact h'.eq_nil
  | char hc h ih => exact ih (h'.of_cons hc)
  | tag htag h ih =>
      obtain ⟨rest, rfl, hrest⟩ := h'.of_tag htag
      rw [ih hrest]

end Tagged

/-- The tags are closed, the last one opened first, after those that are open already. -/
def closesAll : (opened : List Text) → List PageTag → Bool
  | opened, [] => opened.isEmpty
  | opened, .opening name _ :: rest =>
    if PageTag.isVoidName name then closesAll opened rest else closesAll (name :: opened) rest
  | [], .closing _ :: _ => false
  | top :: opened, .closing name :: rest => top = name && closesAll opened rest

end PatternBook
