import Mathlib.Data.List.Forall2
import PatternBook.Proofs.Declaration.Sites
import PatternBook.Proofs.Text.Returns

/-!
# The declarations of a piece of code

The reader of declarations goes through the code line by line, and finds the declarations that
stand in it from its start on (`Scan`), in order.

* `Text.LineEnd`: what can follow a line in a text.
* `Finds.of_first?`, `Finds.of_first?_none`: what one step of the reader finds at a place.
* `finds_inLine`, `finds_ofCode`: what it finds in the rest of a line, and in the rest of the code.
* `ofCode_scan`: each variable is declared where a declaration stands that is found.
-/

namespace PatternBook

/-! ### The end of a line -/

namespace Text

/-- The rest of a line and what can follow it: nothing, or the end of the line. -/
inductive LineEnd (line : Text) : Text → Prop
  | last (h : '\n' ∉ line) : LineEnd line []
  | newline (h : '\n' ∉ line) (hlast : line.getLast? ≠ some '\r') (t : Text) :
      LineEnd line ('\n' :: t)
  | return (h : '\n' ∉ line) (t : Text) : LineEnd line ('\r' :: '\n' :: t)

namespace LineEnd

variable {s line t u after : Text}

theorem newline_notMem (h : LineEnd line after) : '\n' ∉ line := by
  cases h <;> assumption

theorem drop (h : LineEnd (s ++ line) after) : LineEnd line after := by
  have hline : '\n' ∉ line := fun hm => h.newline_notMem (List.mem_append_right s hm)
  cases h with
  | last => exact .last hline
  | newline _ hlast t =>
      refine .newline hline (fun hr => hlast ?_) t
      rw [List.getLast?_append, hr, Option.some_or]
  | «return» _ t => exact .return hline t

/-- The rest of the line is the first line there is. -/
theorem headD_lines (h : LineEnd line after) : (lines (line ++ after)).headD [] = line := by
  cases h with
  | last h =>
      rw [List.append_nil, lines_eq_of_notMem h]
      cases line <;> rfl
  | newline h hlast t => rw [lines_append_newline h, dropReturn, if_neg hlast, List.headD_cons]
  | «return» h t =>
      have hr : '\n' ∉ line ++ ['\r'] := by simpa using h
      have hline : line ++ '\r' :: '\n' :: t = (line ++ ['\r']) ++ '\n' :: t := by simp
      rw [hline, lines_append_newline hr, dropReturn_append, List.headD_cons]

/-- What is on one line and ends with another character than a carriage return lies in front of
the end of the line. -/
theorem exists_append {c : Char} (h : LineEnd line after) (hc : c ≠ '\r') (ht : '\n' ∉ t ++ [c])
    (heq : line ++ after = t ++ [c] ++ u) : ∃ r, line = t ++ [c] ++ r ∧ u = r ++ after := by
  rcases List.append_eq_append_iff.1 heq with ⟨v, hv, hafter⟩ | ⟨r, hline, hu⟩
  · -- what goes beyond the line would start with its end
    cases v with
    | nil => exact ⟨[], by rw [List.append_nil, hv, List.append_nil], by rw [hafter]; rfl⟩
    | cons d v =>
        have hd : d ∈ t ++ [c] := by rw [hv]; simp
        cases h with
        | last => cases hafter
        | newline =>
            obtain ⟨rfl, -⟩ := List.cons.inj hafter
            exact absurd hd ht
        | «return» =>
            obtain ⟨rfl, htail⟩ := List.cons.inj hafter
            cases v with
            | nil => exact absurd (List.cons.inj (List.append_inj_right' hv rfl)).1 hc
            | cons e v =>
                obtain ⟨rfl, -⟩ := List.cons.inj htail
                exact absurd (by rw [hv]; simp) ht
  · exact ⟨r, hline, hu⟩

/-- The end of the first line of a text. -/
theorem of_dropReturn (h : '\n' ∉ s) (t : Text) :
    ∃ e, s = dropReturn s ++ e ∧ (e = [] ∨ e = ['\r']) ∧
      LineEnd (dropReturn s) (e ++ '\n' :: t) := by
  by_cases hlast : s.getLast? = some '\r'
  · obtain ⟨line, rfl⟩ := List.getLast?_eq_some_iff.1 hlast
    rw [dropReturn_append]
    exact ⟨['\r'], rfl, .inr rfl, .return (fun hm => h (List.mem_append_left _ hm)) t⟩
  · rw [dropReturn, if_neg hlast]
    exact ⟨[], (List.append_nil s).symm, .inl rfl, .newline h hlast t⟩

end LineEnd

/-- The first line of a text and what follows it. -/
theorem exists_lineEnd (t : Text) :
    ∃ after, t = (lines t).headD [] ++ after ∧ LineEnd ((lines t).headD []) after := by
  by_cases hmem : '\n' ∈ t
  · obtain ⟨s, u, rfl, hs⟩ := List.eq_append_cons_of_mem hmem
    obtain ⟨e, he, -, hend⟩ := LineEnd.of_dropReturn hs u
    rw [lines_append_newline hs, List.headD_cons]
    refine ⟨e ++ '\n' :: u, ?_, hend⟩
    rw [← List.append_assoc, ← he]
  · have hend := LineEnd.last hmem
    have hline := hend.headD_lines
    rw [List.append_nil] at hline
    rw [hline]
    exact ⟨[], (List.append_nil t).symm, hend⟩

end Text

namespace Declaration

open Text (LineEnd)

/-! ### Steps -/

section

variable {code before line after rest : Text} {v : Variable}

/-- A declaration that is read stands where it is read, and hides what starts before the place
where reading goes on. -/
theorem exists_site (hcode : code = before ++ line ++ after) (hend : LineEnd line after)
    (hbehind : ∀ c ∈ before.getLast?, isBoundary c = true) (h : first? line = some (v, rest)) :
    ∃ (s : Site code) (read : Text), s.start = before.length ∧ s.Declares v ∧
      line = read ++ rest ∧ s.start < (before ++ read).length ∧
      ∀ k, s.start < k → (s.Covers k ↔ k ≤ (before ++ read).length) := by
  obtain ⟨name, gap, raw, behind, hname, hgap, hne, hraw, hline, rfl, rfl⟩ :=
    first?_eq_some_iff.1 h
  have hnewline := hend.newline_notMem
  have hread : line = name ++ gap ++ ':' :: raw ++ [';'] ++ behind := by rw [hline]; simp
  let s : Site code :=
    { before := before, name := name, gap := ⟨gap, hgap⟩, raw := raw, after := behind ++ after
      isName := hname, raw_ne_nil := hne, behind := hbehind
      inValue := fun c hc => ⟨hraw c hc, fun hc' => hnewline (by rw [hread, ← hc']; simp [hc])⟩
      eq_code := by rw [hcode, hread]; simp }
  have hrest : s.rest = behind := by
    rw [hread] at hend
    exact hend.drop.headD_lines
  have hdeclares : s.Declares ⟨name, Text.trim raw, (comment behind).1⟩ :=
    ⟨rfl, rfl, fun c => by rw [hrest]; exact comment_eq_some_iff⟩
  obtain ⟨skipped, hskipped, hreach⟩ := exists_skipped behind
  have hlength : (before ++ (s.text ++ skipped)).length = s.stop + skipped.length := by
    simp only [List.length_append, Site.stop, Site.start, s]
    omega
  refine ⟨s, s.text ++ skipped, rfl, hdeclares, ?_, ?_, fun k hk => ?_⟩
  · rw [List.append_assoc, ← hskipped]
    exact hread
  · rw [hlength]
    exact Nat.lt_add_right _ s.start_lt_stop
  · rw [hlength, Site.Covers, and_iff_right hk, hrest]
    by_cases hstop : k ≤ s.stop
    · exact iff_of_true (.inl hstop) (Nat.le_add_right_of_le hstop)
    · have hfurther := hreach (k - s.stop) (by omega)
      rw [or_iff_right hstop, Nat.add_comm, ← Nat.sub_le_iff_le_add, ← hfurther]
      refine exists_congr fun r => and_congr_right fun _ => ?_
      omega

/-- Where no declaration is read, none stands. -/
theorem start_ne (hcode : code = before ++ line ++ after) (hend : LineEnd line after)
    (h : first? line = none) (s : Site code) : s.start ≠ before.length := by
  intro hs
  have heq := hcode.symm.trans s.eq_code
  simp only [List.append_assoc] at heq
  obtain ⟨-, htail⟩ := List.append_inj heq hs.symm
  have htext : line ++ after = s.name ++ s.gap ++ ':' :: s.raw ++ [';'] ++ s.after := by
    rw [htail]
    simp
  obtain ⟨r, hline, -⟩ := hend.exists_append (by decide) s.newline_notMem htext
  have hfront : line = s.name ++ s.gap ++ ':' :: (s.raw ++ ';' :: r) := by rw [hline]; simp
  have hread := first?_eq_some_iff.2 ⟨s.name, s.gap, s.raw, r, s.isName, s.gap.2, s.raw_ne_nil,
    fun c hc => (s.inValue c hc).1, hfront, rfl, rfl⟩
  rw [h] at hread
  cases hread

end

/-- From a place on, those are the declarations that are found. -/
def Finds (code : Text) (n : Nat) (vs : List Variable) : Prop :=
  ∃ sites : List (Site code), ScanFrom n sites ∧ List.Forall₂ Site.Declares sites vs

section

variable {code before line after rest : Text} {v : Variable} {vs : List Variable}

/-- **A declaration is read**, and the scan goes on behind it. -/
theorem Finds.of_first? (hcode : code = before ++ line ++ after) (hend : LineEnd line after)
    (hbehind : ∀ c ∈ before.getLast?, isBoundary c = true) (h : first? line = some (v, rest)) :
    ∃ read, line = read ++ rest ∧ ∀ vs, Finds code ((before ++ read).length + 1) vs →
      Finds code before.length (v :: vs) := by
  obtain ⟨s, read, hstart, hdeclares, hline, hlt, hcovers⟩ := exists_site hcode hend hbehind h
  refine ⟨read, hline, ?_⟩
  rintro vs ⟨sites, hscan, hsites⟩
  have hcons := hscan.cons (fun k hk => (hcovers k hk).trans Nat.lt_succ_iff.symm)
    (Nat.lt_succ_of_lt hlt)
  exact ⟨s :: sites, hstart ▸ hcons, List.Forall₂.cons hdeclares hsites⟩

/-- **Nothing is read**, and the scan moves on by one character. -/
theorem Finds.of_first?_none (hcode : code = before ++ line ++ after) (hend : LineEnd line after)
    (h : first? line = none) (hvs : Finds code (before.length + 1) vs) :
    Finds code before.length vs := by
  obtain ⟨sites, hscan, hsites⟩ := hvs
  exact ⟨sites, hscan.skip (start_ne hcode hend h), hsites⟩

/-- Without a boundary in front of it, no declaration stands. -/
theorem Finds.of_not_boundary {c : Char} (hcode : code = before ++ c :: rest)
    (hc : isBoundary c = false) (hvs : Finds code (before.length + 2) vs) :
    Finds code (before.length + 1) vs := by
  obtain ⟨sites, hscan, hsites⟩ := hvs
  refine ⟨sites, hscan.skip fun s hs => ?_, hsites⟩
  have hlength : s.before.length = (before ++ [c]).length := by simpa [Site.start] using hs
  have heq : s.before ++ (s.name ++ s.gap ++ ':' :: s.raw ++ [';'] ++ s.after)
      = before ++ [c] ++ rest := by
    rw [← List.append_assoc, ← s.eq_code, hcode, List.append_cons]
  have hbehind := s.behind c
  rw [(List.append_inj heq hlength).1, List.getLast?_concat, hc] at hbehind
  cases hbehind rfl

/-! ### Runs -/

/-- At the start of a line or behind a boundary, when it is known what is found further on in the
line. -/
theorem finds_ofLine (hcode : code = before ++ line ++ after) (hend : LineEnd line after)
    (hbehind : ∀ c ∈ before.getLast?, isBoundary c = true)
    (hin : ∀ read rest, line = read ++ rest →
      Finds code ((before ++ read).length + 1) (inLine rest ++ vs)) :
    Finds code before.length (ofLine line ++ vs) := by
  cases hf : first? line with
  | none =>
      have hline := hin [] line rfl
      rw [List.append_nil] at hline
      rw [ofLine_of_first?_none hf]
      exact Finds.of_first?_none hcode hend hf hline
  | some found =>
      obtain ⟨v, rest⟩ := found
      obtain ⟨read, hline, hcons⟩ := Finds.of_first? hcode hend hbehind hf
      rw [ofLine_of_first? hf]
      exact hcons _ (hin read rest hline)

/-- **The rest of a line.**  At the place where it starts nothing is looked for any more. -/
theorem finds_inLine (hcode : code = before ++ line ++ after) (hend : LineEnd line after)
    (hvs : Finds code ((before ++ line).length + 1) vs) :
    Finds code (before.length + 1) (inLine line ++ vs) := by
  -- by the length of the rest: behind a declaration the reader goes on with a shorter one
  induction hn : line.length using Nat.strongRecOn generalizing before line with
  | ind n ih =>
      subst hn
      cases line with
      | nil => rwa [List.append_nil, ← List.nil_append vs, ← inLine_nil] at hvs
      | cons c line =>
          have hbehind : before ++ c :: line = before ++ [c] ++ line := List.append_cons ..
          have hone : before.length + 1 = (before ++ [c]).length := by simp
          rw [hbehind] at hcode hvs
          have hline : LineEnd line after := LineEnd.drop (s := [c]) hend
          have hin : ∀ read rest, line = read ++ rest →
              Finds code ((before ++ [c] ++ read).length + 1) (inLine rest ++ vs) := by
            rintro read rest rfl
            rw [← List.append_assoc] at hcode hvs
            refine ih rest.length ?_ hcode hline.drop hvs rfl
            simp only [List.length_cons, List.length_append]
            omega
          cases hc : isBoundary c with
          | true =>
              have hc' : ∀ d ∈ (before ++ [c]).getLast?, isBoundary d = true := by
                rw [List.getLast?_concat]
                rintro d ⟨⟩
                exact hc
              rw [inLine_cons_boundary hc, hone]
              exact finds_ofLine hcode hline hc' hin
          | false =>
              have hcons : code = before ++ c :: (line ++ after) := by rw [hcode]; simp
              rw [inLine_cons_other hc]
              refine Finds.of_not_boundary hcons hc ?_
              simpa using hin [] line rfl

/-- **A line**, with what is found behind it. -/
theorem finds_line (hcode : code = before ++ line ++ after) (hend : LineEnd line after)
    (hbehind : ∀ c ∈ before.getLast?, isBoundary c = true)
    (hvs : Finds code ((before ++ line).length + 1) vs) :
    Finds code before.length (ofLine line ++ vs) := by
  refine finds_ofLine hcode hend hbehind ?_
  rintro read rest rfl
  rw [← List.append_assoc] at hcode hvs
  exact finds_inLine hcode hend.drop hvs

theorem ofCode_append_newline (h : '\n' ∉ line) (t : Text) :
    ofCode (line ++ '\n' :: t) = ofLine (Text.dropReturn line) ++ ofCode t := by
  rw [ofCode, Text.lines_append_newline h, List.flatMap_cons, ofCode]

/-- **The code from the start of a line on.** -/
theorem finds_ofCode {t : Text} (hcode : code = before ++ t)
    (hbehind : ∀ c ∈ before.getLast?, isBoundary c = true) :
    Finds code before.length (ofCode t) := by
  -- by the number of characters: what follows the first line is shorter
  induction hn : t.length using Nat.strongRecOn generalizing before t with
  | ind n ih =>
      subst hn
      by_cases hmem : '\n' ∈ t
      · obtain ⟨s, u, rfl, hs⟩ := List.eq_append_cons_of_mem hmem
        have hu : Finds code (before ++ s ++ ['\n']).length (ofCode u) := by
          refine ih u.length ?_ ?_ ?_ rfl
          · simp only [List.length_append, List.length_cons]
            omega
          · rw [hcode]
            simp
          · rw [List.getLast?_concat]
            rintro c ⟨⟩
            decide
        rw [List.length_append, List.length_singleton] at hu
        obtain ⟨e, he, hreturn, hend⟩ := LineEnd.of_dropReturn hs u
        have hcode' : code = before ++ Text.dropReturn s ++ (e ++ '\n' :: u) := by
          rw [hcode, List.append_assoc, ← List.append_assoc _ e, ← he]
        rw [ofCode_append_newline hs]
        refine finds_line hcode' hend hbehind ?_
        rcases hreturn with rfl | rfl
        · rwa [← List.append_nil (Text.dropReturn s), ← he]
        · -- nothing starts between the carriage return and the newline
          have hreturn : before ++ s = before ++ Text.dropReturn s ++ ['\r'] := by
            rw [List.append_assoc, ← he]
          rw [hreturn] at hu
          have hempty := LineEnd.newline List.not_mem_nil (by decide) u
          have hcode'' : code = before ++ Text.dropReturn s ++ ['\r'] ++ [] ++ '\n' :: u := by
            rw [hcode']
            simp
          have hskip := Finds.of_first?_none hcode'' hempty rfl hu
          rwa [List.length_append, List.length_singleton] at hskip
      · rw [ofCode_eq_ofLine hmem, ← List.append_nil (ofLine t)]
        rw [← List.append_nil t, ← List.append_assoc] at hcode
        refine finds_line hcode (.last hmem) hbehind ⟨[], ScanFrom.nil ?_, List.Forall₂.nil⟩
        rw [hcode, List.append_nil]
        exact Nat.le_succ _

end

/-- There is a scan of each piece of code, and the reader finds what is declared in it. -/
theorem exists_scan (code : Text) :
    ∃ sites : List (Site code), Scan sites ∧ List.Forall₂ Site.Declares sites (ofCode code) := by
  have hstart : ∀ c ∈ ([] : Text).getLast?, isBoundary c = true := fun _ h => by cases h
  exact finds_ofCode (List.nil_append code).symm hstart

/-- **Each variable is really declared, once, in order.**  The declarations that are found in a
piece of code stand in it one behind the other, each behind the comments of those before it, and
each other one that stands there is hidden by one of them.  There is one such list, and the
variables are what it declares, one for one. -/
theorem ofCode_scan (code : Text) :
    ∃ sites : List (Site code), (∀ found : List (Site code), Scan found ↔ found = sites) ∧
      List.Forall₂ Site.Declares sites (ofCode code) := by
  obtain ⟨sites, hscan, hsites⟩ := exists_scan code
  refine ⟨sites, fun found => ⟨fun hfound => hfound.unique hscan, ?_⟩, hsites⟩
  rintro rfl
  exact hscan

end Declaration

end PatternBook
