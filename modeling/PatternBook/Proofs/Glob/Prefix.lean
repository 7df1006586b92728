import PatternBook.Glob.Pattern
import PatternBook.Proofs.Path.Spelling
import PatternBook.Proofs.Text.Lines

/-!
# Patterns behind a directory

A pattern with the name of a directory in front of it, and a separator between the two.  If no
character of that name has a meaning of its own, the whole reads as the pattern does, with one part
to be looked up for each part of the name.

* `piecesFrom_plain`: plain characters are read as they are.
* `Pattern.ofText_behind`: the pattern behind a directory, mistakes included.
-/

namespace PatternBook

namespace Glob

/-! ### Plain characters -/

theorem isGlob_cons {c : Char} {t : Text} (h : isGlob (c :: t) = false) :
    c ≠ '?' ∧ c ≠ '*' ∧ c ≠ '[' ∧ isGlob t = false := by
  simp only [isGlob, List.any_cons, Bool.or_eq_false_iff, beq_eq_false_iff_ne] at h ⊢
  exact ⟨h.1.1.2, h.1.1.1, h.1.2, h.2⟩

theorem isGlob_append (s t : Text) : isGlob (s ++ t) = (isGlob s || isGlob t) := List.any_append

/-- Plain characters are read as they are. -/
theorem piecesFrom_plain {t : Text} (ht : isGlob t = false) (before : Option Char) (rest : Text) :
    piecesFrom before (t ++ rest)
      = (piecesFrom (t.getLast?.or before) rest).map (t.map Piece.char ++ ·) := by
  induction t generalizing before with
  | nil =>
      simp only [List.nil_append, List.getLast?_nil, Option.none_or, List.map_nil]
      cases piecesFrom before rest <;> rfl
  | cons c t ih =>
      obtain ⟨hany, hmany, hclass, ht⟩ := isGlob_cons ht
      have hlast : (c :: t).getLast?.or before = t.getLast?.or (some c) := by
        rw [List.getLast?_cons]
        cases t.getLast? <;> rfl
      rw [List.cons_append, piecesFrom, if_neg hany, if_neg hmany, if_neg hclass, ih ht, hlast]
      cases piecesFrom (t.getLast?.or (some c)) rest <;> rfl

/-- Behind a separator a pattern is read as at the start of a text. -/
theorem piecesFrom_slash (t : Text) : piecesFrom (some '/') t = piecesFrom none t := by
  have hstars : ∀ t, starsAt (some '/') t = starsAt none t := fun t => by simp [starsAt]
  cases t with
  | nil => rw [piecesFrom, piecesFrom]
  | cons c t => rw [piecesFrom, piecesFrom, hstars]

/-- A pattern behind plain characters that end in a separator has the pieces that it has alone. -/
theorem pieces_behind {front t : Text} (hfront : isGlob front = false)
    (hlast : front.getLast? = some '/') :
    pieces (front ++ t) = (pieces t).map (front.map Piece.char ++ ·) := by
  rw [pieces, piecesFrom_plain hfront, hlast, Option.some_or, piecesFrom_slash, pieces]

/-! ### Plain parts -/

theorem Part.ofText_plain {t : Text} (h : isGlob t = false) : Part.ofText t = .ok (.literal t) := by
  have hpieces : pieces t = .ok (t.map Piece.char) := by
    have := piecesFrom_plain h none []
    rw [List.append_nil] at this
    rw [pieces, this, piecesFrom]
    simp [Except.map]
  have hdeep : t.map Piece.char ≠ [.deep] := by
    intro hd
    cases t with
    | nil => cases hd
    | cons c t => cases hd
  simp only [Part.ofText, hpieces, bind, Except.bind, pure, Except.pure, if_neg hdeep, h]
  rfl

theorem mapM_ofText_plain {ts : List Text} (h : ∀ t ∈ ts, isGlob t = false) (rest : List Text) :
    (ts ++ rest).mapM Part.ofText
      = (rest.mapM Part.ofText).map (ts.map Part.literal ++ ·) := by
  induction ts with
  | nil =>
      rw [List.nil_append]
      cases rest.mapM Part.ofText <;> rfl
  | cons t ts ih =>
      obtain ⟨ht, hts⟩ := List.forall_mem_cons.1 h
      rw [List.cons_append, List.mapM_cons, Part.ofText_plain ht, ih hts]
      cases rest.mapM Part.ofText <;> rfl

theorem collapse_literals (names : List Text) (parts : List Part) :
    collapse (names.map .literal ++ parts) = names.map .literal ++ collapse parts := by
  induction names with
  | nil => rfl
  | cons name names ih => rw [List.map_cons, List.cons_append, collapse, ih]; rfl; rintro ⟨⟩

/-- A text that ends in a separator is cut by itself. -/
theorem cutParts_append {front : Text} (h : front = [] ∨ front.getLast? = some '/') (t : Text) :
    cutParts (front ++ t) = cutParts front ++ cutParts t := by
  rcases h with rfl | h
  · rfl
  obtain ⟨s, rfl⟩ := List.getLast?_eq_some_iff.1 h
  have hfront : cutParts (s ++ ['/']) = Text.splitOn '/' s := by
    rw [cutParts, Text.splitOn_append_cons]
    simp [Text.splitOn]
  rw [hfront, List.append_assoc, List.singleton_append, cutParts, Text.splitOn_append_cons,
    List.getLast?_append, cutParts]
  obtain ⟨last, hlast⟩ :=
    Option.isSome_iff_exists.1 (List.getLast?_isSome.2 (Text.splitOn_ne_nil '/' t))
  rw [hlast, Option.some_or]
  split
  · rw [List.dropLast_append_of_ne_nil (Text.splitOn_ne_nil '/' t)]
  · rfl

/-- The parts that are looked up are names. -/
def Named (parts : List Part) : Prop := ∀ name, Part.literal name ∈ parts → '/' ∉ name

theorem mem_of_mem_collapse {part : Part} {parts : List Part} (h : part ∈ collapse parts) :
    part ∈ parts := by
  fun_induction collapse parts with
  | case1 rest inner hinner ih =>
      rw [hinner] at ih
      exact List.mem_cons_of_mem _ (ih h)
  | case2 rest hinner ih =>
      rcases List.mem_cons.1 h with rfl | h
      · exact List.mem_cons_self
      · exact List.mem_cons_of_mem _ (ih h)
  | case3 first rest hfirst ih =>
      rcases List.mem_cons.1 h with rfl | h
      · exact List.mem_cons_self
      · exact List.mem_cons_of_mem _ (ih h)
  | case4 => exact h

/-- A part that is looked up is a part as written. -/
theorem Part.eq_of_ofText_literal {t name : Text} (h : Part.ofText t = .ok (.literal name)) :
    name = t := by
  rw [Part.ofText] at h
  cases hpieces : pieces t with
  | error e => rw [hpieces] at h; cases h
  | ok ps =>
      rw [hpieces] at h
      simp only [bind, Except.bind, pure, Except.pure, Except.ok.injEq] at h
      split at h
      · cases h
      · split at h
        · cases h
        · exact (Part.literal.inj h).symm

theorem named_of_mapM {ts : List Text} (h : ∀ t ∈ ts, '/' ∉ t) {parts : List Part}
    (hparts : ts.mapM Part.ofText = .ok parts) : Named parts := by
  induction ts generalizing parts with
  | nil => cases hparts; nofun
  | cons t ts ih =>
      obtain ⟨ht, hts⟩ := List.forall_mem_cons.1 h
      rw [List.mapM_cons] at hparts
      cases hpart : Part.ofText t with
      | error e => rw [hpart] at hparts; cases hparts
      | ok part =>
          cases hrest : ts.mapM Part.ofText with
          | error e => rw [hpart, hrest] at hparts; cases hparts
          | ok rest =>
              rw [hpart, hrest] at hparts
              cases hparts
              intro name hname
              rcases List.mem_cons.1 hname with rfl | hname
              · exact Part.eq_of_ofText_literal hpart ▸ ht
              · exact ih hts hrest name hname

/-! ### The pattern -/

/-- The parts of a directory that are looked up one after the other, from the root or from where
relative paths start. -/
def frontNames (base : Text) : List Text :=
  let front := base ++ Path.separator base
  cutParts (if base.head? = some '/' then front.drop 1 else front)

theorem mem_cutParts {t part : Text} (h : part ∈ cutParts t) : part ∈ Text.splitOn '/' t := by
  rw [cutParts] at h
  split at h
  · exact List.dropLast_subset _ h
  · exact h

theorem isGlob_append_separator {base : Text} (h : isGlob base = false) :
    isGlob (base ++ Path.separator base) = false := by
  rw [isGlob_append, h, Path.separator]
  split <;> rfl

/-- The parts of a directory are made of its characters. -/
theorem mem_of_mem_frontNames {base name : Text} (hname : name ∈ frontNames base) {c : Char}
    (hc : c ∈ name) : c ∈ base ++ Path.separator base := by
  rw [frontNames] at hname
  split at hname
  · exact List.mem_of_mem_drop (Text.mem_of_mem_splitOn (mem_cutParts hname) hc)
  · exact Text.mem_of_mem_splitOn (mem_cutParts hname) hc

theorem slash_notMem_frontNames {base name : Text} (hname : name ∈ frontNames base) :
    '/' ∉ name := by
  rw [frontNames] at hname
  exact Text.notMem_of_mem_splitOn (mem_cutParts hname)

theorem isGlob_frontNames {base : Text} (h : isGlob base = false) :
    ∀ name ∈ frontNames base, isGlob name = false := by
  have hplain := List.any_eq_false.1 (isGlob_append_separator h)
  exact fun name hname => List.any_eq_false.2 fun c hc => hplain c (mem_of_mem_frontNames hname hc)

/-- The parts of a directory come before those of the pattern behind it. -/
theorem cutParts_behind (base t : Text) :
    cutParts (if base.head? = some '/' then (base ++ Path.separator base ++ t).drop 1
      else base ++ Path.separator base ++ t) = frontNames base ++ cutParts t := by
  have hlast := Path.getLast?_append_separator base
  rw [frontNames]
  by_cases habsolute : base.head? = some '/'
  · obtain ⟨r, rfl⟩ := List.head?_eq_some_iff.1 habsolute
    have hdrop : ('/' :: r ++ Path.separator ('/' :: r) ++ t).drop 1
        = ('/' :: r ++ Path.separator ('/' :: r)).drop 1 ++ t := rfl
    simp only [if_pos habsolute]
    rw [hdrop]
    refine cutParts_append ?_ t
    -- without its first separator the root has no parts at all
    cases hrest : r ++ Path.separator ('/' :: r) with
    | nil => exact .inl hrest
    | cons c u =>
        refine .inr ?_
        rw [List.cons_append, hrest] at hlast
        rw [List.cons_append, hrest]
        exact hlast
  · simp only [if_neg habsolute]
    exact cutParts_append (.inr hlast) t

/-- **A pattern behind a directory** has the mistake that it has alone, or else the parts that it
has alone behind those of the directory. -/
theorem Pattern.ofText_behind {base t : Text} (hbase : base ≠ []) (hplain : isGlob base = false)
    (ht : t ≠ []) (hrelative : t.head? ≠ some '/') :
    Pattern.ofText (base ++ Path.separator base ++ t) = (Pattern.ofText t).map fun pattern =>
      ⟨base.head? == some '/', (frontNames base).map .literal ++ pattern.parts,
        pattern.foldersOnly⟩ := by
  have hpieces := pieces_behind (t := t) (isGlob_append_separator hplain)
    (Path.getLast?_append_separator base)
  have hhead : (base ++ Path.separator base ++ t).head? = base.head? := by
    obtain ⟨c, base, rfl⟩ := List.exists_cons_of_ne_nil hbase
    rfl
  have hend : (base ++ Path.separator base ++ t).getLast? = t.getLast? := by
    obtain ⟨last, hl⟩ := Option.isSome_iff_exists.1 (List.getLast?_isSome.2 ht)
    rw [List.getLast?_append, hl, Option.some_or]
  have hstart : (t.head? == some '/') = false := by simpa using hrelative
  -- the whole is checked first, then its parts; those of the directory have no mistake
  simp only [Pattern.ofText, hpieces, hhead, hend, hstart, beq_iff_eq, cutParts_behind]
  cases pieces t with
  | error e => rfl
  | ok ps =>
      simp only [Except.map, bind, Except.bind, mapM_ofText_plain (isGlob_frontNames hplain),
        Bool.false_eq_true, if_false]
      cases (cutParts t).mapM Part.ofText with
      | error e => rfl
      | ok parts => simp only [pure, Except.pure, collapse_literals]

/-- A pattern that can be read is absolute if its text is, and what it looks up are names. -/
theorem Pattern.spec {t : Text} {pattern : Pattern} (h : Pattern.ofText t = .ok pattern) :
    pattern.absolute = (t.head? == some '/') ∧ Named pattern.parts := by
  rw [Pattern.ofText] at h
  cases hpieces : pieces t with
  | error e => rw [hpieces] at h; cases h
  | ok ps =>
      rw [hpieces] at h
      simp only [bind, Except.bind, pure, Except.pure] at h
      split at h
      · cases h
      · next parts hparts =>
        cases h
        have hnamed :=
          named_of_mapM (fun t ht => Text.notMem_of_mem_splitOn (mem_cutParts ht)) hparts
        exact ⟨rfl, fun name hname => hnamed name (mem_of_mem_collapse hname)⟩

end Glob

end PatternBook
