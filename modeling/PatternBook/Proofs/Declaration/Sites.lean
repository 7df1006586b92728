import PatternBook.Proofs.Declaration.Spacing

/-!
# Where declarations stand

A declaration stands somewhere in a piece of code (`Site`): on one line, at the start of that line
or behind a boundary.  What is written behind its semicolon can be a comment (`Remark`).  Places
in the code count characters.

* `comment_of_leads`, `comment_eq_some_iff`: the comment that is read is the one that stands there.
* `Site.eq_of_start`: at most one declaration starts at a place.
* `ScanFrom`: a list of declarations that takes, from a place on, the first one that stands there,
  and goes on behind it and its comment.
* `ScanFrom.unique`: there is at most one such list.
-/

namespace PatternBook.Declaration

variable {code : Text}

/-! ### Comments behind a semicolon -/

/-- A comment: all that it takes up, with the blanks in front of it, and what is written in it. -/
structure Remark where
  text    : Text
  content : Text

/-- The text starts with the comment.  A block ends with the first `*/` in it, and a line comment
with the text. -/
inductive Remark.Leads : Remark → Text → Prop
  | block {content rest : Text} (blanks : Blanks)
      (hfirst : ∀ s r, content ++ "*/" ++ rest = s ++ "*/" ++ r → content <+: s) :
      Leads ⟨blanks ++ "/*" ++ content ++ "*/", content⟩ (blanks ++ "/*" ++ content ++ "*/" ++ rest)
  | line (blanks : Blanks) (content : Text) :
      Leads ⟨blanks ++ "//" ++ content, content⟩ (blanks ++ "//" ++ content)

theorem remark_eq_some_iff {t c : Text} : remark t = some c ↔ c = Text.trim t ∧ c ≠ [] := by
  rw [remark]
  split
  · next h =>
      refine iff_of_false (by simp) ?_
      rintro ⟨rfl, hne⟩
      exact hne (List.isEmpty_iff.1 h)
  · next h =>
      rw [Option.some.injEq, eq_comm]
      refine (and_iff_left_of_imp ?_).symm
      rintro rfl
      exact fun hnil => h (List.isEmpty_iff.2 hnil)

theorem splitAt?_of_first {mark content rest : Text}
    (h : ∀ s r, content ++ mark ++ rest = s ++ mark ++ r → content <+: s) :
    Text.splitAt? mark (content ++ mark ++ rest) = some (content, rest) := by
  cases hcut : Text.splitAt? mark (content ++ mark ++ rest) with
  | none => exact absurd rfl (Text.ne_of_splitAt?_eq_none hcut content rest)
  | some cut =>
      obtain ⟨s, r⟩ := cut
      have heq := Text.eq_of_splitAt? hcut
      have hle := (h s r heq).length_le
      obtain rfl := (Text.prefix_of_splitAt? hcut rfl).eq_of_length_le hle
      rw [List.append_cancel_left heq]

theorem dropWhile_blanks {c : Char} (hc : isSpaceOrTab c = false) (blanks : Blanks) (t : Text) :
    (blanks ++ c :: t).dropWhile isSpaceOrTab = c :: t :=
  Text.dropWhile_append_of_stop blanks.2 (Text.stop_cons hc t)

/-- **The comment with which a text starts** is the one that is read, and the text goes on behind
it. -/
theorem comment_of_leads {r : Remark} {t : Text} (h : r.Leads t) :
    ∃ rest, t = r.text ++ rest ∧ comment t = (remark r.content, rest) := by
  cases h with
  | @block content rest blanks hfirst =>
      refine ⟨rest, rfl, ?_⟩
      have ht : (blanks : Text) ++ "/*" ++ content ++ "*/" ++ rest
          = blanks ++ '/' :: '*' :: (content ++ "*/" ++ rest) := by simp
      rw [ht, comment, dropWhile_blanks (by decide)]
      simp only [splitAt?_of_first hfirst]
  | line blanks content =>
      refine ⟨[], (List.append_nil _).symm, ?_⟩
      have ht : (blanks : Text) ++ "//" ++ content = blanks ++ '/' :: '/' :: content := by simp
      rw [comment, ht, dropWhile_blanks (by decide)]
      rfl

/-- Without a comment at its start, a text is left as it is. -/
theorem comment_of_not_leads {t : Text} (h : ∀ r : Remark, ¬ r.Leads t) :
    comment t = (none, t) := by
  let blanks : Blanks := ⟨t.takeWhile isSpaceOrTab, fun c hc => List.mem_takeWhile_imp hc⟩
  have ht : (blanks : Text) ++ t.dropWhile isSpaceOrTab = t := List.takeWhile_append_dropWhile
  rw [comment]
  split
  · next inner hd =>
      cases hcut : Text.splitAt? "*/" inner with
      | none => rfl
      | some cut =>
          obtain ⟨content, rest⟩ := cut
          have hinner := Text.eq_of_splitAt? hcut
          have hblock : (blanks : Text) ++ "/*" ++ content ++ "*/" ++ rest = t := by
            rw [← ht, hd, hinner]; simp
          have hleads := Remark.Leads.block blanks
            fun s r heq => Text.prefix_of_splitAt? hcut (hinner.trans heq)
          rw [hblock] at hleads
          exact absurd hleads (h _)
  · next content hd =>
      have hline : (blanks : Text) ++ "//" ++ content = t := by rw [← ht, hd]; simp
      have hleads := Remark.Leads.line blanks content
      rw [hline] at hleads
      exact absurd hleads (h _)
  · rfl

/-- What is skipped in front of the next declaration is the comment, or nothing. -/
theorem exists_skipped (t : Text) :
    ∃ skipped, t = skipped ++ (comment t).2 ∧ ∀ m, 0 < m →
      ((∃ r : Remark, r.Leads t ∧ m ≤ r.text.length) ↔ m ≤ skipped.length) := by
  by_cases hr : ∃ r : Remark, r.Leads t
  · obtain ⟨r, hr⟩ := hr
    obtain ⟨rest, ht, hcomment⟩ := comment_of_leads hr
    refine ⟨r.text, by rw [hcomment, ← ht], fun m _ => ⟨?_, fun hle => ⟨r, hr, hle⟩⟩⟩
    rintro ⟨r', hr', hle⟩
    obtain ⟨rest', ht', hcomment'⟩ := comment_of_leads hr'
    obtain rfl : rest = rest' := congrArg Prod.snd (hcomment.symm.trans hcomment')
    rwa [List.append_cancel_right (ht.symm.trans ht')]
  · have hnone : ∀ r : Remark, ¬ r.Leads t := fun r h => hr ⟨r, h⟩
    refine ⟨[], by rw [comment_of_not_leads hnone, List.nil_append], fun m hm => ?_⟩
    exact iff_of_false (fun ⟨r, h, _⟩ => hnone r h) (Nat.not_le.2 hm)

theorem comment_eq_some_iff {t c : Text} :
    (comment t).1 = some c ↔ ∃ r : Remark, r.Leads t ∧ c = Text.trim r.content ∧ c ≠ [] := by
  constructor
  · intro h
    by_cases hr : ∃ r : Remark, r.Leads t
    · obtain ⟨r, hr⟩ := hr
      obtain ⟨rest, -, hcomment⟩ := comment_of_leads hr
      rw [hcomment] at h
      exact ⟨r, hr, remark_eq_some_iff.1 h⟩
    · rw [comment_of_not_leads fun r h => hr ⟨r, h⟩] at h
      cases h
  · rintro ⟨r, hr, h⟩
    obtain ⟨rest, -, hcomment⟩ := comment_of_leads hr
    rw [hcomment]
    exact remark_eq_some_iff.2 h

/-! ### Sites -/

/-- A declaration where it stands in a piece of code: on one line, at the start of that line or
behind white space, `;` or `{`. -/
@[ext]
structure Site (code : Text) where
  before     : Text
  name       : Text
  gap        : Blanks
  /-- What stands between the colon and the semicolon. -/
  raw        : Text
  after      : Text
  isName     : IsName name
  raw_ne_nil : raw ≠ []
  inValue    : ∀ c ∈ raw, endsValue c = false ∧ c ≠ '\n'
  behind     : ∀ c ∈ before.getLast?, isBoundary c = true
  eq_code    : code = before ++ (name ++ gap ++ ':' :: raw ++ [';']) ++ after

namespace Site

/-- The declaration, with its semicolon. -/
def text (s : Site code) : Text := s.name ++ s.gap ++ ':' :: s.raw ++ [';']

/-- Where the declaration starts, in characters. -/
def start (s : Site code) : Nat := s.before.length

/-- Where the declaration ends, in characters. -/
def stop (s : Site code) : Nat := s.start + s.text.length

/-- What follows the semicolon on its line. -/
def rest (s : Site code) : Text := (Text.lines s.after).headD []

/-- What the declaration declares.  It has a comment exactly when one that is not blank follows
the semicolon. -/
structure Declares (s : Site code) (v : Variable) : Prop where
  name    : v.name = s.name
  value   : v.value = Text.trim s.raw
  comment : ∀ c, v.comment = some c ↔
    ∃ r : Remark, r.Leads s.rest ∧ c = Text.trim r.content ∧ c ≠ []

/-- A declaration that starts at that place is hidden by this one: it starts inside of it or of
its comment, or there is no boundary left in front of it. -/
def Covers (s : Site code) (n : Nat) : Prop :=
  s.start < n ∧ (n ≤ s.stop ∨ ∃ r : Remark, r.Leads s.rest ∧ n ≤ s.stop + r.text.length)

theorem start_lt_stop (s : Site code) : s.start < s.stop := by
  simp only [stop, text, List.length_append, List.length_cons]
  omega

theorem stop_le_length (s : Site code) : s.stop ≤ code.length := by
  have h := congrArg List.length s.eq_code
  rw [List.length_append, List.length_append] at h
  simp only [stop, start, text]
  omega

theorem isSpaceOrTab_eq_false_of_mem {name : Text} (h : IsName name) {c : Char} (hc : c ∈ name) :
    isSpaceOrTab c = false := by
  by_contra hblank
  rcases Text.eq_of_isSpaceOrTab (Bool.of_not_eq_false hblank) with rfl | rfl <;>
    exact h.notMem (by decide) (by decide) (by decide) hc

/-- What stands in front of the colon has none. -/
theorem colon_notMem (s : Site code) : ':' ∉ s.name ++ s.gap := by
  intro h
  rcases List.mem_append.1 h with h | h
  · exact s.isName.notMem (by decide) (by decide) (by decide) h
  · exact Blanks.notMem (by decide) s.gap h

theorem semicolon_notMem (s : Site code) : ';' ∉ s.name ++ s.gap ++ ':' :: s.raw :=
  semicolon_notMem_front s.isName s.gap.2 fun c hc => (s.inValue c hc).1

theorem newline_notMem (s : Site code) : '\n' ∉ s.text := by
  intro h
  simp only [text, List.mem_append, List.mem_cons] at h
  rcases h with ((h | h) | h | h) | h | h
  · exact s.isName.notMem (by decide) (by decide) (by decide) h
  · exact Blanks.notMem (by decide) s.gap h
  · exact absurd h (by decide)
  · exact (s.inValue _ h).2 rfl
  · exact absurd h (by decide)
  · cases h

/-- **At most one declaration starts at a place.** -/
theorem eq_of_start {s t : Site code} (h : s.start = t.start) : s = t := by
  have hcode := s.eq_code.symm.trans t.eq_code
  simp only [List.append_assoc] at hcode
  obtain ⟨hbefore, htail⟩ := List.append_inj hcode h
  have htext : s.name ++ s.gap ++ ':' :: s.raw ++ ';' :: s.after
      = t.name ++ t.gap ++ ':' :: t.raw ++ ';' :: t.after := by simpa using htail
  obtain ⟨hfront, hafter⟩ := Text.append_cons_inj s.semicolon_notMem t.semicolon_notMem htext
  obtain ⟨hnames, hraw⟩ := Text.append_cons_inj s.colon_notMem t.colon_notMem hfront
  have hname (r : Site code) : (r.name ++ r.gap).takeWhile (!isSpaceOrTab ·) = r.name := by
    refine Text.takeWhile_append_of_stop ?_ ?_
    · intro c hc
      rw [isSpaceOrTab_eq_false_of_mem r.isName hc, Bool.not_false]
    · intro c hc
      rw [r.gap.2 c (List.mem_of_head? hc), Bool.not_true]
  have heq : s.name = t.name := by rw [← hname s, hnames, hname t]
  rw [heq] at hnames
  exact Site.ext hbefore heq (Subtype.ext (List.append_cancel_left hnames)) hraw hafter

end Site

/-! ### Scans -/

/-- The declarations that are found from a place on: they stand one behind the other, each behind
the comments of those before it, and every other declaration is hidden by one of them. -/
structure ScanFrom (n : Nat) (sites : List (Site code)) : Prop where
  le_start : ∀ s ∈ sites, n ≤ s.start
  disjoint : sites.Pairwise fun s t => s.stop < t.start
  outside  : sites.Pairwise fun s t =>
    ∀ r : Remark, r.Leads s.rest → s.stop + r.text.length < t.start
  complete : ∀ t : Site code, n ≤ t.start → t ∈ sites ∨ ∃ s ∈ sites, s.Covers t.start

/-- The declarations that are found in a piece of code. -/
abbrev Scan (sites : List (Site code)) : Prop := ScanFrom 0 sites

namespace ScanFrom

variable {n : Nat} {sites found : List (Site code)}

/-- Of two declarations that are found, none hides the other. -/
theorem not_covers (h : ScanFrom n sites) {s t : Site code} (hs : s ∈ sites) (ht : t ∈ sites) :
    ¬ s.Covers t.start := by
  rintro ⟨hlt, hcovers⟩
  obtain ⟨i, hi, rfl⟩ := List.mem_iff_getElem.1 hs
  obtain ⟨j, hj, rfl⟩ := List.mem_iff_getElem.1 ht
  have hij : i < j := by
    rcases Nat.lt_trichotomy i j with hij | rfl | hij
    · exact hij
    · exact absurd hlt (Nat.lt_irrefl _)
    · have hdisjoint := List.pairwise_iff_getElem.1 h.disjoint j i hj hi hij
      have := (sites[j]).start_lt_stop
      omega
  rcases hcovers with hle | ⟨r, hr, hle⟩
  · exact absurd (List.pairwise_iff_getElem.1 h.disjoint i j hi hj hij) (Nat.not_lt.2 hle)
  · exact absurd (List.pairwise_iff_getElem.1 h.outside i j hi hj hij r hr) (Nat.not_lt.2 hle)

theorem mem_of_mem (h : ScanFrom n sites) (h' : ScanFrom n found) {s : Site code}
    (hs : s ∈ sites) : s ∈ found := by
  -- by the place of `s`: what hides it in the one list stands before it, and so in both
  induction hstart : s.start using Nat.strongRecOn generalizing s sites found with
  | ind k ih =>
      subst hstart
      rcases h'.complete s (h.le_start s hs) with hmem | ⟨t, ht, hcovers⟩
      · exact hmem
      · exact absurd hcovers (h.not_covers (ih t.start hcovers.1 h' h ht rfl) hs)

theorem sorted (h : ScanFrom n sites) : sites.Pairwise fun s t => s.start < t.start :=
  h.disjoint.imp fun {s _} hlt => s.start_lt_stop.trans hlt

/-- **What is found from a place on is determined.** -/
theorem unique (h : ScanFrom n sites) (h' : ScanFrom n found) : sites = found := by
  have hperm : sites.Perm found := by
    refine (List.perm_ext_iff_of_nodup ?_ ?_).2 fun s => ⟨h.mem_of_mem h', h'.mem_of_mem h⟩
    · exact h.sorted.imp fun hlt heq => absurd (congrArg Site.start heq) hlt.ne
    · exact h'.sorted.imp fun hlt heq => absurd (congrArg Site.start heq) hlt.ne
  exact hperm.eq_of_pairwise (fun s t _ _ hst hts => absurd hst hts.asymm) h.sorted h'.sorted

/-- Where no declaration starts, the scan moves on by one character. -/
theorem skip (h : ScanFrom (n + 1) sites) (hn : ∀ t : Site code, t.start ≠ n) :
    ScanFrom n sites where
  le_start s hs := Nat.le_of_succ_le (h.le_start s hs)
  disjoint := h.disjoint
  outside := h.outside
  complete t ht := h.complete t (Nat.lt_of_le_of_ne ht (hn t).symm)

/-- A declaration is found, and the scan moves on to the first place that it does not hide. -/
theorem cons {s : Site code} (h : ScanFrom n sites)
    (hn : ∀ k, s.start < k → (s.Covers k ↔ k < n)) (hlt : s.start < n) :
    ScanFrom s.start (s :: sites) where
  le_start t ht := by
    rcases List.mem_cons.1 ht with rfl | ht
    · exact Nat.le_refl _
    · exact hlt.le.trans (h.le_start t ht)
  disjoint := by
    refine List.pairwise_cons.2 ⟨fun t ht => ?_, h.disjoint⟩
    have hle := h.le_start t ht
    by_contra hstop
    have hcovers : s.Covers t.start := ⟨by omega, .inl (Nat.not_lt.1 hstop)⟩
    have := (hn _ hcovers.1).1 hcovers
    omega
  outside := by
    refine List.pairwise_cons.2 ⟨fun t ht r hr => ?_, h.outside⟩
    have hle := h.le_start t ht
    by_contra hstop
    have hcovers : s.Covers t.start := ⟨by omega, .inr ⟨r, hr, Nat.not_lt.1 hstop⟩⟩
    have := (hn _ hcovers.1).1 hcovers
    omega
  complete t ht := by
    rcases Nat.eq_or_lt_of_le ht with heq | hstart
    · exact .inl (List.mem_cons.2 (.inl (Site.eq_of_start heq.symm)))
    · by_cases hk : t.start < n
      · exact .inr ⟨s, List.mem_cons_self, (hn _ hstart).2 hk⟩
      · rcases h.complete t (Nat.not_lt.1 hk) with hmem | ⟨r, hr, hcovers⟩
        · exact .inl (List.mem_cons_of_mem s hmem)
        · exact .inr ⟨r, List.mem_cons_of_mem s hr, hcovers⟩

/-- Behind the code there is nothing to find. -/
theorem nil (hn : code.length ≤ n) : ScanFrom n ([] : List (Site code)) where
  le_start _ hs := absurd hs List.not_mem_nil
  disjoint := List.Pairwise.nil
  outside := List.Pairwise.nil
  complete t ht := by
    have := t.start_lt_stop
    have := t.stop_le_length
    omega

end ScanFrom

end PatternBook.Declaration
