import PatternBook.Proofs.Page.Nesting

/-!
# Reading a page

A page is read as tags and the characters between them.  A text in which every `<` starts a tag of a
page can be read in one way, and then its elements can be picked out by their names, each with its
attributes and with what stands between its tags.

* `Consists.unique`: the tags and characters of a text are determined.
* `elements`: the elements of a page, in document order.
* `Markup.elements_itemsAll`: the elements of what is printed are those of the tree.
-/

namespace PatternBook

/-- A tag, or a character between tags. -/
inductive PageItem where
  | tag (tag : PageTag)
  | char (c : Char)
  deriving DecidableEq, Repr

namespace PageItem

/-- The item as it is written. -/
def print : PageItem → Text
  | .tag a => a.print
  | .char c => [c]

/-- The tag is one of a page, and the character starts none. -/
def IsOwn : PageItem → Prop
  | .tag a => a.IsOwn
  | .char c => c ≠ '<'

theorem print_ne_nil (item : PageItem) : item.print ≠ [] := by
  cases item with
  | tag a => rw [print, PageTag.print_eq_cons]; exact List.cons_ne_nil _ _
  | char c => exact List.cons_ne_nil c []

/-- An item is read in one way. -/
theorem print_inj {i j : PageItem} (hi : i.IsOwn) (hj : j.IsOwn) {s t : Text}
    (h : i.print ++ s = j.print ++ t) : i = j ∧ s = t := by
  cases i with
  | tag a =>
      cases j with
      | tag b =>
          obtain ⟨rfl, hst⟩ := PageTag.print_append_inj hi hj h
          exact ⟨rfl, hst⟩
      | char c =>
          rw [print, PageTag.print_eq_cons] at h
          exact absurd (List.cons.inj h).1.symm hj
  | char c =>
      cases j with
      | tag b =>
          rw [print, print, PageTag.print_eq_cons] at h
          exact absurd (List.cons.inj h).1 hi
      | char d =>
          obtain ⟨rfl, hst⟩ := List.cons.inj h
          exact ⟨rfl, hst⟩

end PageItem

/-- The text consists of the given tags of a page and of characters that start none. -/
def Consists (items : List PageItem) (t : Text) : Prop :=
  (∀ i ∈ items, i.IsOwn) ∧ items.flatMap PageItem.print = t

/-- **The tags and characters of a text are determined.** -/
theorem Consists.unique {items items' : List PageItem} {t : Text} (h : Consists items t)
    (h' : Consists items' t) : items' = items := by
  obtain ⟨hown, rfl⟩ := h
  obtain ⟨hown', heq⟩ := h'
  induction items generalizing items' with
  | nil =>
      cases items' with
      | nil => rfl
      | cons j items' => exact absurd (List.append_eq_nil_iff.1 heq).1 j.print_ne_nil
  | cons i items ih =>
      cases items' with
      | nil => exact absurd (List.append_eq_nil_iff.1 heq.symm).1 i.print_ne_nil
      | cons j items' =>
          obtain ⟨hi, hown⟩ := List.forall_mem_cons.1 hown
          obtain ⟨hj, hown'⟩ := List.forall_mem_cons.1 hown'
          obtain ⟨hij, hrest⟩ := PageItem.print_inj hj hi heq
          rw [hij, ih hown hown' hrest]

/-! ### Elements -/

/-- An element of a page, with its attributes as they are written. -/
structure PageElement where
  name       : Text
  attributes : List (Text × Text)
  content    : List PageItem
  deriving DecidableEq, Repr

/-- What stands before the end tag of an element of that name, of which `inner` more are open. -/
def untilClosed (name : Text) (inner : Nat) : List PageItem → List PageItem
  | [] => []
  | .char c :: rest => .char c :: untilClosed name inner rest
  | .tag (.opening n attributes) :: rest =>
    .tag (.opening n attributes) :: untilClosed name (if n = name then inner + 1 else inner) rest
  | .tag (.closing n) :: rest =>
    if n = name then
      match inner with
      | 0 => []
      | inner + 1 => .tag (.closing n) :: untilClosed name inner rest
    else .tag (.closing n) :: untilClosed name inner rest

/-- The elements whose names are asked for, in the order of their start tags. -/
def elements (p : Text → Bool) : List PageItem → List PageElement
  | [] => []
  | .char _ :: rest => elements p rest
  | .tag (.opening n attributes) :: rest =>
    if p n then ⟨n, attributes, untilClosed n 0 rest⟩ :: elements p rest else elements p rest
  | .tag (.closing _) :: rest => elements p rest

theorem untilClosed_of_ne {name n : Text} (h : n ≠ name) (inner : Nat) (rest : List PageItem) :
    untilClosed name inner (.tag (.closing n) :: rest)
      = .tag (.closing n) :: untilClosed name inner rest := by
  cases inner with
  | zero => rw [untilClosed, if_neg h]
  | succ inner => rw [untilClosed, if_neg h]

theorem untilClosed_chars (name : Text) (inner : Nat) (s : Text) (rest : List PageItem) :
    untilClosed name inner (s.map .char ++ rest) = s.map .char ++ untilClosed name inner rest := by
  induction s with
  | nil => rfl
  | cons c s ih => rw [List.map_cons, List.cons_append, untilClosed, ih, List.cons_append]

theorem elements_chars (p : Text → Bool) (s : Text) (rest : List PageItem) :
    elements p (s.map .char ++ rest) = elements p rest := by
  induction s with
  | nil => rfl
  | cons c s ih => rw [List.map_cons, List.cons_append, elements, ih]

namespace Markup

/-! ### The items of a tree -/

mutual

/-- The items of a piece. -/
def items : Markup → List PageItem
  | .text t => (escape t).map .char
  | .verbatim t => t.map .char
  | .element name attributes children =>
    .tag (opening name attributes) :: (itemsAll children ++ [.tag (.closing name)])
  | .void name attributes => [.tag (opening name attributes)]

/-- The items of pieces, one after the other. -/
def itemsAll : List Markup → List PageItem
  | [] => []
  | piece :: rest => items piece ++ itemsAll rest

end

theorem flatMap_print_chars (s : Text) : (s.map PageItem.char).flatMap PageItem.print = s := by
  rw [List.flatMap_map]
  exact List.flatMap_singleton' s

mutual

theorem print_items (piece : Markup) : piece.items.flatMap PageItem.print = piece.print := by
  cases piece with
  | text s => rw [items, print, flatMap_print_chars]
  | verbatim s => rw [items, print, flatMap_print_chars]
  | element name attributes children =>
      rw [items, print_element, List.flatMap_cons, List.flatMap_append, print_itemsAll children,
        PageItem.print, print_opening, List.flatMap_singleton, PageItem.print, print_closing,
        List.append_assoc]
  | void name attributes =>
      rw [items, print, List.flatMap_singleton, PageItem.print, print_opening]

theorem print_itemsAll (pieces : List Markup) :
    (itemsAll pieces).flatMap PageItem.print = printAll pieces := by
  cases pieces with
  | nil => rfl
  | cons piece rest =>
      rw [itemsAll, printAll, List.flatMap_append, print_items piece, print_itemsAll rest]

end

mutual

theorem isOwn_items (piece : Markup) (h : piece.IsOwn) : ∀ i ∈ piece.items, i.IsOwn := by
  cases piece with
  | text s =>
      rw [items]
      intro i hi
      obtain ⟨c, hc, rfl⟩ := List.mem_map.1 hi
      exact (quotable_escape s c hc).1
  | verbatim s => rw [IsOwn] at h; exact h.elim
  | element name attributes children =>
      obtain ⟨helement, hchildren⟩ := (isOwn_element ..).1 h
      rw [items, List.forall_mem_cons, List.forall_mem_append]
      refine ⟨isOwn_opening (.inl helement), isOwn_itemsAll children hchildren, ?_⟩
      intro i hi
      obtain rfl := List.mem_singleton.1 hi
      exact ⟨_, helement⟩
  | void name attributes =>
      rw [items]
      intro i hi
      obtain rfl := List.mem_singleton.1 hi
      exact isOwn_opening (.inr ((isOwn_void ..).1 h))

theorem isOwn_itemsAll (pieces : List Markup) (h : AllOwn pieces) :
    ∀ i ∈ itemsAll pieces, i.IsOwn := by
  cases pieces with
  | nil => rw [itemsAll]; nofun
  | cons piece rest =>
      obtain ⟨hpiece, hrest⟩ := (allOwn_cons ..).1 h
      rw [itemsAll, List.forall_mem_append]
      exact ⟨isOwn_items piece hpiece, isOwn_itemsAll rest hrest⟩

end

/-! ### The elements of a tree -/

/-- An element of a tree. -/
structure Element where
  name       : Text
  attributes : List (Text × Text)
  children   : List Markup

/-- The element as a page has it. -/
def Element.written (e : Element) : PageElement where
  name := e.name
  attributes := e.attributes.map fun pair => (pair.1, escape pair.2)
  content := itemsAll e.children

mutual

/-- The elements of a piece whose names are asked for, in document order. -/
def elementsOf (p : Text → Bool) : Markup → List Element
  | .text _ => []
  | .verbatim _ => []
  | .element name attributes children =>
    if p name then ⟨name, attributes, children⟩ :: elementsAll p children
    else elementsAll p children
  | .void _ _ => []

/-- The elements of pieces, one after the other. -/
def elementsAll (p : Text → Bool) : List Markup → List Element
  | [] => []
  | piece :: rest => elementsOf p piece ++ elementsAll p rest

end

mutual

/-- The tags of a piece are closed in it, so that it does not end what it stands in. -/
theorem untilClosed_items {name : Text} (hname : PageTag.isVoidName name = false)
    (piece : Markup) (h : piece.IsOwn) (inner : Nat) (rest : List PageItem) :
    untilClosed name inner (piece.items ++ rest) = piece.items ++ untilClosed name inner rest := by
  cases piece with
  | text s => rw [items]; exact untilClosed_chars name inner _ rest
  | verbatim s => rw [items]; exact untilClosed_chars name inner _ rest
  | element n attributes children =>
      have hchildren := untilClosed_itemsAll hname children ((isOwn_element ..).1 h).2
      rw [items, opening]
      simp only [List.cons_append, List.append_assoc, List.nil_append]
      rw [untilClosed, hchildren]
      by_cases hn : n = name
      · rw [if_pos hn, untilClosed, if_pos hn]
      · rw [if_neg hn, untilClosed_of_ne hn]
  | void n attributes =>
      have hn : n ≠ name := by
        rintro rfl
        rw [((isOwn_void ..).1 h).isVoidName] at hname
        cases hname
      rw [items, opening, List.singleton_append, untilClosed, if_neg hn]
      rfl

theorem untilClosed_itemsAll {name : Text} (hname : PageTag.isVoidName name = false)
    (pieces : List Markup) (h : AllOwn pieces) (inner : Nat) (rest : List PageItem) :
    untilClosed name inner (itemsAll pieces ++ rest)
      = itemsAll pieces ++ untilClosed name inner rest := by
  cases pieces with
  | nil => rfl
  | cons piece pieces =>
      obtain ⟨hpiece, hpieces⟩ := (allOwn_cons ..).1 h
      rw [itemsAll, List.append_assoc, List.append_assoc,
        untilClosed_items hname piece hpiece, untilClosed_itemsAll hname pieces hpieces]

end

mutual

theorem elements_items {p : Text → Bool} (hp : ∀ n, p n = true → PageTag.isVoidName n = false)
    (piece : Markup) (h : piece.IsOwn) (rest : List PageItem) :
    elements p (piece.items ++ rest)
      = (piece.elementsOf p).map Element.written ++ elements p rest := by
  cases piece with
  | text s => rw [items, elementsOf]; exact elements_chars p _ rest
  | verbatim s => rw [items, elementsOf]; exact elements_chars p _ rest
  | element n attributes children =>
      obtain ⟨helement, hown⟩ := (isOwn_element ..).1 h
      have hchildren := elements_itemsAll hp children hown
      have hcontent : untilClosed n 0 (itemsAll children ++ .tag (.closing n) :: rest)
          = itemsAll children := by
        rw [untilClosed_itemsAll helement.isVoidName children hown, untilClosed, if_pos rfl,
          List.append_nil]
      rw [items, opening, elementsOf]
      simp only [List.cons_append, List.append_assoc, List.nil_append]
      rw [elements, hchildren, elements, hcontent]
      split
      · rfl
      · rfl
  | void n attributes =>
      have hn : p n = false := by
        cases hpn : p n with
        | false => rfl
        | true => exact absurd ((isOwn_void ..).1 h).isVoidName (by rw [hp n hpn]; nofun)
      rw [items, opening, elementsOf, List.singleton_append, elements, hn]
      rfl

/-- **The elements of what is printed are those of the tree.** -/
theorem elements_itemsAll {p : Text → Bool} (hp : ∀ n, p n = true → PageTag.isVoidName n = false)
    (pieces : List Markup) (h : AllOwn pieces) (rest : List PageItem) :
    elements p (itemsAll pieces ++ rest)
      = (elementsAll p pieces).map Element.written ++ elements p rest := by
  cases pieces with
  | nil => rfl
  | cons piece pieces =>
      obtain ⟨hpiece, hpieces⟩ := (allOwn_cons ..).1 h
      rw [itemsAll, elementsAll, List.append_assoc, elements_items hp piece hpiece,
        elements_itemsAll hp pieces hpieces, List.map_append, List.append_assoc]

end

end Markup

end PatternBook
