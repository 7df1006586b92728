import PatternBook.Page.Markup
import PatternBook.Proofs.Page.Tags

/-!
# The tags of markup

A piece of a page whose elements are all of the vocabulary, and which has no part that is written
verbatim, is written with the tags of its elements and no others, each of them closed.

* `Markup.tagged_print`: every `<` in the form of a piece belongs to one of its tags.
* `Markup.closesAll_tags`: the tags of a piece are closed.
-/

namespace PatternBook.Markup

/-! ### Escaping -/

theorem escapeChar_eq_self {c : Char} (h : c ≠ '&' ∧ c ≠ '<' ∧ c ≠ '>' ∧ c ≠ '"') :
    escapeChar c = [c] := by
  obtain ⟨hamp, hlt, hgt, hquot⟩ := h
  rw [escapeChar, if_neg hamp, if_neg hlt, if_neg hgt, if_neg hquot]

/-- What a character is written as has no quote and no angle bracket. -/
theorem quotable_escapeChar (c : Char) : PageTag.Quotable (escapeChar c) := by
  by_cases hamp : c = '&'
  · subst hamp; decide
  · by_cases hlt : c = '<'
    · subst hlt; decide
    · by_cases hgt : c = '>'
      · subst hgt; decide
      · by_cases hquot : c = '"'
        · subst hquot; decide
        · rw [escapeChar_eq_self ⟨hamp, hlt, hgt, hquot⟩]
          intro d hd
          obtain rfl := List.mem_singleton.1 hd
          exact ⟨hlt, hgt, hquot⟩

theorem quotable_escape (t : Text) : PageTag.Quotable (escape t) := by
  intro c hc
  obtain ⟨d, -, hd⟩ := List.mem_flatMap.1 hc
  exact quotable_escapeChar d c hd

theorem angle_notMem_escape (t : Text) : '<' ∉ escape t := fun hmem =>
  (quotable_escape t _ hmem).1 rfl

/-- No character of the text means anything in markup. -/
def IsPlain (t : Text) : Prop := ∀ c ∈ t, c ≠ '&' ∧ c ≠ '<' ∧ c ≠ '>' ∧ c ≠ '"'

instance (t : Text) : Decidable (IsPlain t) := List.decidableBAll _ t

theorem IsPlain.append {s t : Text} (hs : IsPlain s) (ht : IsPlain t) : IsPlain (s ++ t) := by
  intro c hc
  rcases List.mem_append.1 hc with hc | hc
  · exact hs c hc
  · exact ht c hc

/-- A plain text is written as it is. -/
theorem escape_eq_self {t : Text} (h : IsPlain t) : escape t = t := by
  induction t with
  | nil => rfl
  | cons c t ih =>
      obtain ⟨hc, ht⟩ := List.forall_mem_cons.1 h
      rw [escape, List.flatMap_cons, escapeChar_eq_self hc, ← escape, ih ht]
      rfl

/-! ### Tags -/

/-- The start tag of an element. -/
def opening (name : Text) (attributes : List (Text × Text)) : PageTag :=
  .opening name (attributes.map fun pair => (pair.1, escape pair.2))

theorem print_opening (name : Text) (attributes : List (Text × Text)) :
    (opening name attributes).print = startTag name attributes := by
  have hattributes : (attributes.map fun pair => (pair.1, escape pair.2)).flatMap
      PageTag.printAttribute = attributes.flatMap printAttribute := by
    rw [List.flatMap_map]
    refine congrArg (fun f => attributes.flatMap f) (funext fun pair => ?_)
    simp [PageTag.printAttribute, printAttribute]
  rw [opening, PageTag.print, hattributes]
  simp [startTag]

theorem print_closing (name : Text) : (PageTag.closing name).print = endTag name := by
  simp [PageTag.print, endTag]

mutual

/-- The tags of a piece. -/
def tags : Markup → List PageTag
  | .text _ => []
  | .verbatim _ => []
  | .element name attributes children =>
    opening name attributes :: (tagsAll children ++ [.closing name])
  | .void name attributes => [opening name attributes]

/-- The tags of pieces, one after the other. -/
def tagsAll : List Markup → List PageTag
  | [] => []
  | piece :: rest => tags piece ++ tagsAll rest

end

/-! ### Pieces of a page -/

mutual

/-- The piece consists of elements of a page, and of texts that are escaped. -/
def IsOwn : Markup → Prop
  | .text _ => True
  | .verbatim _ => False
  | .element name attributes children =>
    PageTag.IsElement name (attributes.map Prod.fst) ∧ AllOwn children
  | .void name attributes => PageTag.IsVoid name (attributes.map Prod.fst)

/-- All pieces do. -/
def AllOwn : List Markup → Prop
  | [] => True
  | piece :: rest => IsOwn piece ∧ AllOwn rest

end

@[simp] theorem isOwn_text (t : Text) : (text t).IsOwn := by simp only [IsOwn]

@[simp] theorem isOwn_element (name : Text) (attributes : List (Text × Text))
    (children : List Markup) :
    (element name attributes children).IsOwn ↔
      PageTag.IsElement name (attributes.map Prod.fst) ∧ AllOwn children := by
  rw [IsOwn]

@[simp] theorem isOwn_void (name : Text) (attributes : List (Text × Text)) :
    (void name attributes).IsOwn ↔ PageTag.IsVoid name (attributes.map Prod.fst) := by
  rw [IsOwn]

@[simp] theorem allOwn_nil : AllOwn [] := by simp only [AllOwn]

@[simp] theorem allOwn_cons (piece : Markup) (rest : List Markup) :
    AllOwn (piece :: rest) ↔ piece.IsOwn ∧ AllOwn rest := by
  rw [AllOwn]

@[simp] theorem allOwn_append (s t : List Markup) : AllOwn (s ++ t) ↔ AllOwn s ∧ AllOwn t := by
  induction s with
  | nil => simp
  | cons piece s ih => rw [List.cons_append, allOwn_cons, allOwn_cons, ih, and_assoc]

theorem allOwn_flatMap {α : Type} {f : α → List Markup} {l : List α}
    (h : ∀ a ∈ l, AllOwn (f a)) : AllOwn (l.flatMap f) := by
  induction l with
  | nil => exact allOwn_nil
  | cons a l ih =>
      obtain ⟨ha, hl⟩ := List.forall_mem_cons.1 h
      rw [List.flatMap_cons, allOwn_append]
      exact ⟨ha, ih hl⟩

/-! ### Writing -/

theorem isOwn_opening {name : Text} {attributes : List (Text × Text)}
    (h : PageTag.IsElement name (attributes.map Prod.fst) ∨
      PageTag.IsVoid name (attributes.map Prod.fst)) :
    (opening name attributes).IsOwn := by
  have hnames : (attributes.map fun pair => (pair.1, escape pair.2)).map Prod.fst
      = attributes.map Prod.fst := by
    rw [List.map_map]
    rfl
  refine ⟨hnames ▸ h, fun a ha => ?_⟩
  obtain ⟨pair, -, rfl⟩ := List.mem_map.1 ha
  exact quotable_escape pair.2

/-- Characters other than `<` bring no tags. -/
theorem tagged_append {s : Text} (hs : '<' ∉ s) {ts : List PageTag} {t : Text} (h : Tagged ts t) :
    Tagged ts (s ++ t) := by
  induction s with
  | nil => exact h
  | cons c s ih =>
      exact .char (List.ne_of_not_mem_cons hs).symm (ih (List.not_mem_of_not_mem_cons hs))

mutual

/-- **Every `<` in the form of a piece belongs to one of its tags.** -/
theorem tagged_print (piece : Markup) (hpiece : piece.IsOwn) {ts : List PageTag} {t : Text}
    (h : Tagged ts t) : Tagged (piece.tags ++ ts) (piece.print ++ t) := by
  cases piece with
  | text s =>
      rw [print, tags]
      exact tagged_append (angle_notMem_escape s) h
  | verbatim s => rw [IsOwn] at hpiece; exact hpiece.elim
  | element name attributes children =>
      obtain ⟨helement, hchildren⟩ := (isOwn_element ..).1 hpiece
      have hclosing : Tagged (.closing name :: ts) (endTag name ++ t) :=
        print_closing name ▸ .tag ⟨_, helement⟩ h
      rw [print_element, tags, ← print_opening]
      simp only [List.cons_append, List.append_assoc, List.nil_append]
      exact .tag (isOwn_opening (.inl helement)) (tagged_printAll children hchildren hclosing)
  | void name attributes =>
      rw [print, tags, ← print_opening]
      exact .tag (isOwn_opening (.inr ((isOwn_void ..).1 hpiece))) h

theorem tagged_printAll (pieces : List Markup) (hpieces : AllOwn pieces) {ts : List PageTag}
    {t : Text} (h : Tagged ts t) : Tagged (tagsAll pieces ++ ts) (printAll pieces ++ t) := by
  cases pieces with
  | nil => exact h
  | cons piece rest =>
      obtain ⟨hpiece, hrest⟩ := (allOwn_cons ..).1 hpieces
      rw [tagsAll, printAll, List.append_assoc, List.append_assoc]
      exact tagged_print piece hpiece (tagged_printAll rest hrest h)

end

mutual

/-- **The tags of a piece are closed**, whatever is open around it. -/
theorem closesAll_tags (piece : Markup) (hpiece : piece.IsOwn) (opened : List Text)
    (rest : List PageTag) : closesAll opened (piece.tags ++ rest) = closesAll opened rest := by
  cases piece with
  | text s => rw [tags]; rfl
  | verbatim s => rw [tags]; rfl
  | element name attributes children =>
      obtain ⟨helement, hchildren⟩ := (isOwn_element ..).1 hpiece
      rw [tags, opening]
      simp only [List.cons_append, List.append_assoc, List.nil_append, closesAll,
        helement.isVoidName, Bool.false_eq_true, if_false]
      rw [closesAll_tagsAll children hchildren]
      simp [closesAll]
  | void name attributes =>
      have hvoid := (isOwn_void ..).1 hpiece
      rw [tags, opening]
      simp [closesAll, hvoid.isVoidName]

theorem closesAll_tagsAll (pieces : List Markup) (hpieces : AllOwn pieces) (opened : List Text)
    (rest : List PageTag) :
    closesAll opened (tagsAll pieces ++ rest) = closesAll opened rest := by
  cases pieces with
  | nil => rw [tagsAll]; rfl
  | cons piece pieces =>
      obtain ⟨hpiece, hpieces⟩ := (allOwn_cons ..).1 hpieces
      rw [tagsAll, List.append_assoc, closesAll_tags piece hpiece,
        closesAll_tagsAll pieces hpieces]

end

end PatternBook.Markup
