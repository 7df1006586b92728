import Mathlib.Data.List.Sort
import PatternBook.Discovery

/-!
# The union of patterns

Patterns stand for the paths that they match, one after the other, less those that are the same as
a path before.  Paths are compared by their components, so that of several spellings of one path
the first is kept.  What is found is described without the search: it is the union of the matched
paths in the order of their first occurrences (`IsUnion`), and there is only one such list.

* `IsUnion.addNew`: one more list of paths is taken in.
* `IsUnion.unique`: paths have one union.
* `expandAll_union`: the patterns are expanded to the union of their matches, or the first of them
  that cannot be expanded is reported; further patterns only add paths at the end.
-/

namespace PatternBook.Discovery

/-! ### The union of paths -/

/-- The place of the first path that is the same as another one. -/
def firstPlace (all : List Path) (p : Path) : Nat := all.findIdx fun q => decide (q.Same p)

/-- The first path that is the same as another one. -/
def firstSpelling (all : List Path) (p : Path) : Option Path := all.find? fun q => decide (q.Same p)

/-- The files are the union of the paths in `all`, in the order of their first occurrences. -/
structure IsUnion (all files : List Path) : Prop where
  distinct : files.Pairwise fun p q => ¬ p.Same q
  complete : ∀ p ∈ all, ∃ q ∈ files, q.Same p
  spelled  : ∀ q ∈ files, firstSpelling all q = some q
  ordered  : files.Pairwise fun p q => firstPlace all p < firstPlace all q

section

variable {all files : List Path} {p q : Path}

theorem firstSpelling_congr (h : p.Same q) : firstSpelling all p = firstSpelling all q := by
  refine congrArg (List.find? · all) (funext fun r => decide_eq_decide.2 ?_)
  exact ⟨fun hr => hr.trans h, fun hr => hr.trans h.symm⟩

/-- A path that occurs before stays where it occurs first. -/
theorem firstSpelling_append (h : firstSpelling all q = some q) (rest : List Path) :
    firstSpelling (all ++ rest) q = some q := by
  unfold firstSpelling at h ⊢
  rw [List.find?_append, h, Option.some_or]

theorem firstPlace_lt (h : firstSpelling all q = some q) : firstPlace all q < all.length :=
  List.findIdx_lt_length.2 ⟨q, List.mem_of_find?_eq_some h, decide_eq_true (Path.Same.refl q)⟩

theorem firstPlace_append (h : firstSpelling all q = some q) (rest : List Path) :
    firstPlace (all ++ rest) q = firstPlace all q := by
  have hlt := firstPlace_lt h
  unfold firstPlace at hlt ⊢
  rw [List.findIdx_append, if_pos hlt]

namespace IsUnion

theorem nil : IsUnion [] [] where
  distinct := .nil
  complete _ h := absurd h List.not_mem_nil
  spelled _ h := absurd h List.not_mem_nil
  ordered := .nil

theorem mem_iff (h : IsUnion all files) : q ∈ files ↔ firstSpelling all q = some q := by
  refine ⟨h.spelled q, fun hq => ?_⟩
  obtain ⟨r, hr, hsame⟩ := h.complete q (List.mem_of_find?_eq_some hq)
  have hspelled := h.spelled r hr
  rw [firstSpelling_congr hsame, hq] at hspelled
  exact Option.some.inj hspelled ▸ hr

/-- **Paths have one union.** -/
theorem unique {files' : List Path} (h : IsUnion all files) (h' : IsUnion all files') :
    files = files' := by
  let before (p q : Path) : Prop := firstPlace all p < firstPlace all q
  have : Std.Irrefl before := ⟨fun _ => Nat.lt_irrefl _⟩
  have : Std.Antisymm before := ⟨fun _ _ hpq hqp => absurd hqp (Nat.lt_asymm hpq)⟩
  exact List.Pairwise.eq_of_mem_iff (r := before) h.ordered h'.ordered fun q =>
    h.mem_iff.trans h'.mem_iff.symm

/-! ### One more path -/

theorem ordered_append (h : IsUnion all files) (p : Path) :
    files.Pairwise fun q r => firstPlace (all ++ [p]) q < firstPlace (all ++ [p]) r := by
  refine h.ordered.imp_of_mem fun {q r} hq hr hlt => ?_
  rwa [firstPlace_append (h.spelled q hq), firstPlace_append (h.spelled r hr)]

/-- A path that is the same as one of the files adds nothing. -/
theorem old (h : IsUnion all files) (hp : ∃ q ∈ files, q.Same p) : IsUnion (all ++ [p]) files where
  distinct := h.distinct
  complete r hr := by
    rcases List.mem_append.1 hr with hr | hr
    · exact h.complete r hr
    · obtain rfl := List.mem_singleton.1 hr
      exact hp
  spelled q hq := firstSpelling_append (h.spelled q hq) [p]
  ordered := h.ordered_append p

/-- Any other path is a file of its own, behind those before. -/
theorem new (h : IsUnion all files) (hp : ∀ q ∈ files, ¬ q.Same p) :
    IsUnion (all ++ [p]) (files ++ [p]) := by
  have hall : ∀ r ∈ all, ¬ r.Same p := fun r hr hsame => by
    obtain ⟨q, hq, hqr⟩ := h.complete r hr
    exact hp q hq (hqr.trans hsame)
  have hspelling : firstSpelling all p = none :=
    List.find?_eq_none.2 fun r hr => by simpa using hall r hr
  have hplace : firstPlace (all ++ [p]) p = all.length := by
    have hlen : firstPlace all p = all.length :=
      List.findIdx_eq_length.2 fun r hr => decide_eq_false (hall r hr)
    rw [firstPlace] at hlen ⊢
    rw [List.findIdx_append, hlen, if_neg (Nat.lt_irrefl _), List.findIdx_cons,
      decide_eq_true (Path.Same.refl p)]
    exact Nat.zero_add _
  constructor
  · refine List.pairwise_append.2 ⟨h.distinct, List.pairwise_singleton _ _, fun q hq r hr => ?_⟩
    obtain rfl := List.mem_singleton.1 hr
    exact hp q hq
  · intro r hr
    rcases List.mem_append.1 hr with hr | hr
    · obtain ⟨q, hq, hsame⟩ := h.complete r hr
      exact ⟨q, List.mem_append_left _ hq, hsame⟩
    · exact ⟨r, List.mem_append_right _ hr, Path.Same.refl r⟩
  · intro q hq
    rcases List.mem_append.1 hq with hq | hq
    · exact firstSpelling_append (h.spelled q hq) [p]
    · obtain rfl := List.mem_singleton.1 hq
      rw [firstSpelling] at hspelling ⊢
      rw [List.find?_append, hspelling, Option.none_or, List.find?_cons_of_pos]
      exact decide_eq_true (Path.Same.refl q)
  · refine List.pairwise_append.2
      ⟨h.ordered_append p, List.pairwise_singleton _ _, fun q hq r hr => ?_⟩
    obtain rfl := List.mem_singleton.1 hr
    have hq := h.spelled q hq
    rw [hplace, firstPlace_append hq]
    exact firstPlace_lt hq

/-! ### More paths -/

/-- **The union takes in the paths of one more pattern.** -/
theorem addNew (h : IsUnion all files) (paths : List Path) :
    IsUnion (all ++ paths) (addNew files paths) := by
  induction paths generalizing all files with
  | nil => rwa [List.append_nil]
  | cons p rest ih =>
      rw [List.append_cons, Discovery.addNew]
      split
      · next hany =>
          refine ih (h.old ?_)
          simpa using hany
      · next hany =>
          refine ih (h.new ?_)
          simpa using hany

end IsUnion

theorem prefix_addNew (files paths : List Path) : files <+: addNew files paths := by
  induction paths generalizing files with
  | nil => exact List.prefix_rfl
  | cons p rest ih =>
      rw [addNew]
      split
      · exact ih files
      · exact (List.prefix_append files [p]).trans (ih (files ++ [p]))

end

/-! ### Patterns -/

variable {expand : Globber} {patterns : List Text} {all files : List Path}
  {e : Mishap PatternError}

/-- All patterns can be expanded, and `all` is what they match, one after the other. -/
inductive Matches (expand : Globber) : List Text → List Path → Prop where
  | nil : Matches expand [] []
  | cons {pattern : Text} {patterns : List Text} {paths all : List Path} :
      expand pattern = .ok paths → Matches expand patterns all →
      Matches expand (pattern :: patterns) (paths ++ all)

/-- Some pattern cannot be expanded, and the first of these goes wrong in that way. -/
def FirstFailure (expand : Globber) (patterns : List Text) (e : Mishap PatternError) : Prop :=
  ∃ before pattern after, patterns = before ++ pattern :: after ∧
    (∃ all, Matches expand before all) ∧ expand pattern = .error e

theorem matches_or_firstFailure (expand : Globber) (patterns : List Text) :
    (∃ all, Matches expand patterns all) ∨ ∃ e, FirstFailure expand patterns e := by
  induction patterns with
  | nil => exact .inl ⟨[], .nil⟩
  | cons pattern patterns ih =>
      cases hp : expand pattern with
      | error e => exact .inr ⟨e, [], pattern, patterns, rfl, ⟨[], .nil⟩, hp⟩
      | ok paths =>
          rcases ih with ⟨all, hall⟩ | ⟨e, before, failing, after, rfl, ⟨all, hall⟩, he⟩
          · exact .inl ⟨paths ++ all, .cons hp hall⟩
          · exact .inr
              ⟨e, pattern :: before, failing, after, rfl, ⟨paths ++ all, .cons hp hall⟩, he⟩

/-- What the patterns match is added to what has been found. -/
theorem expandFrom_of_matches {seen : List Path} (hmatch : Matches expand patterns all)
    (h : IsUnion seen files) :
    ∃ found, expandFrom expand files patterns = .ok found ∧ IsUnion (seen ++ all) found := by
  induction hmatch generalizing seen files with
  | nil => exact ⟨files, rfl, by rwa [List.append_nil]⟩
  | @cons pattern patterns paths all hp _ ih =>
      obtain ⟨found, hfound, hunion⟩ := ih (h.addNew paths)
      refine ⟨found, ?_, by rwa [← List.append_assoc]⟩
      rw [expandFrom, hp]
      exact hfound

theorem expandFrom_append (files : List Path) (patterns more : List Text) :
    expandFrom expand files (patterns ++ more)
      = (expandFrom expand files patterns).bind fun found => expandFrom expand found more := by
  induction patterns generalizing files with
  | nil => rfl
  | cons pattern patterns ih =>
      rw [List.cons_append, expandFrom, expandFrom]
      cases expand pattern with
      | error e => rfl
      | ok paths => exact ih (addNew files paths)

/-- What has been found stays in front. -/
theorem prefix_of_expandFrom {found : List Path}
    (h : expandFrom expand files patterns = .ok found) : files <+: found := by
  induction patterns generalizing files with
  | nil =>
      cases h
      exact List.prefix_rfl
  | cons pattern patterns ih =>
      rw [expandFrom] at h
      cases hp : expand pattern with
      | error e => rw [hp] at h; cases h
      | ok paths =>
          rw [hp] at h
          exact (prefix_addNew files paths).trans (ih h)

/-! ### The whole expansion -/

theorem expandAll_of_matches (h : Matches expand patterns all) :
    ∃ files, expandAll expand patterns = .ok files ∧ IsUnion all files :=
  expandFrom_of_matches h .nil

theorem expandAll_of_firstFailure (h : FirstFailure expand patterns e) :
    expandAll expand patterns = .error e := by
  obtain ⟨before, pattern, after, rfl, ⟨all, hall⟩, he⟩ := h
  obtain ⟨files, hfiles, -⟩ := expandAll_of_matches hall
  rw [expandAll] at hfiles ⊢
  rw [expandFrom_append, hfiles]
  show expandFrom expand files (pattern :: after) = .error e
  rw [expandFrom, he]

theorem expandAll_eq_error_iff :
    expandAll expand patterns = .error e ↔ FirstFailure expand patterns e := by
  refine ⟨fun h => ?_, expandAll_of_firstFailure⟩
  rcases matches_or_firstFailure expand patterns with ⟨all, hall⟩ | ⟨e', he⟩
  · obtain ⟨files, hfiles, -⟩ := expandAll_of_matches hall
    rw [hfiles] at h
    cases h
  · rw [expandAll_of_firstFailure he] at h
    cases h
    exact he

theorem expandAll_eq_ok_iff :
    expandAll expand patterns = .ok files ↔
      ∃ all, Matches expand patterns all ∧ IsUnion all files := by
  constructor
  · intro h
    rcases matches_or_firstFailure expand patterns with ⟨all, hall⟩ | ⟨e, he⟩
    · obtain ⟨files', hfiles, hunion⟩ := expandAll_of_matches hall
      rw [hfiles] at h
      cases h
      exact ⟨all, hall, hunion⟩
    · rw [expandAll_of_firstFailure he] at h
      cases h
  · rintro ⟨all, hall, hunion⟩
    obtain ⟨files', hfiles, hunion'⟩ := expandAll_of_matches hall
    rw [hfiles, hunion.unique hunion']

theorem expandAll_append (expand : Globber) (patterns more : List Text) :
    expandAll expand (patterns ++ more)
      = (expandAll expand patterns).bind fun files => expandFrom expand files more :=
  expandFrom_append [] patterns more

/-- **Patterns are expanded to the union of their matches**, in the order of first occurrences and
spelled as there, or the first of them that cannot be expanded is the answer.  What more patterns
at the end find comes behind what was found without them. -/
theorem expandAll_union (expand : Globber) (patterns : List Text) :
    (∀ e, expandAll expand patterns = .error e ↔ FirstFailure expand patterns e) ∧
      (∀ files, expandAll expand patterns = .ok files ↔
        ∃ all, Matches expand patterns all ∧ IsUnion all files) ∧
      ∀ more longer, expandAll expand (patterns ++ more) = .ok longer →
        ∃ files, expandAll expand patterns = .ok files ∧ files <+: longer := by
  refine ⟨fun e => expandAll_eq_error_iff, fun files => expandAll_eq_ok_iff,
    fun more longer h => ?_⟩
  rw [expandAll_append] at h
  cases hfiles : expandAll expand patterns with
  | error e => rw [hfiles] at h; cases h
  | ok files =>
      rw [hfiles] at h
      exact ⟨files, rfl, prefix_of_expandFrom h⟩

/-- Patterns that match two files, in different spellings, and one that cannot be expanded. -/
def twoSpellings : Globber := fun pattern =>
  if pattern = "css/*" then .ok [.ofText "css/a", .ofText "css/b"]
  else if pattern = "css//*" then .ok [.ofText "css//b", .ofText "css/./b", .ofText "./css/a"]
  else .error (.failure ⟨pattern, "unclosed"⟩)

theorem expandAll_union_twoSpellings :
    FirstFailure twoSpellings ["css/*", "[", "[a"] (.failure ⟨"[", "unclosed"⟩) ∧
      (∃ all, Matches twoSpellings ["css//*", "css/*"] all ∧
        IsUnion all [.ofText "css//b", .ofText "./css/a", .ofText "css/a"]) ∧
      ∃ files, expandAll twoSpellings ["css//*"] = .ok files ∧
        files <+: [.ofText "css//b", .ofText "./css/a", .ofText "css/a"] :=
  ⟨((expandAll_union twoSpellings _).1 _).1 rfl,
    ((expandAll_union twoSpellings _).2.1 _).1 rfl,
    (expandAll_union twoSpellings ["css//*"]).2.2 ["css/*"] _ rfl⟩

end PatternBook.Discovery
