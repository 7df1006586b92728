import PatternBook.Json.Scalar
import PatternBook.Proofs.Json.Grammar
import PatternBook.Proofs.Text.Cuts

/-!
# Reading tokens

The tokens that have a grammar of their own, numerals and strings, are read up to their ends.

* `SpellsNumeral.readNumeral`: a numeral ends where nothing follows that could go on with it.
* `SpellsChars.readString`: a string ends at its closing quote.
-/

namespace PatternBook.Json

open Document

/-! ### Blanks -/

theorem Blanks.isSpace {w : Text} (hw : Blanks w) : ∀ c ∈ w, isSpace c = true := by
  intro c hc
  rcases hw c hc with rfl | rfl | rfl | rfl <;> decide

theorem Blanks.skipSpace_append {w : Text} (hw : Blanks w) (t : Text) :
    skipSpace (w ++ t) = skipSpace t :=
  List.dropWhile_append_of_pos hw.isSpace

theorem skipSpace_cons {c : Char} (hc : isSpace c = false) (t : Text) :
    skipSpace (c :: t) = c :: t :=
  List.dropWhile_cons_of_neg (by simp [hc])

theorem skipSpace_skipSpace (t : Text) : skipSpace (skipSpace t) = skipSpace t := by
  cases h : skipSpace t with
  | nil => rfl
  | cons c u =>
      exact skipSpace_cons (Text.stop_dropWhile isSpace t c (by rw [← skipSpace, h]; rfl)) u

/-! ### Numerals -/

theorem isDigit_digitChar : ∀ {d : Nat}, d < 10 → (Nat.digitChar d).isDigit = true := by
  decide

theorem digitValue_digitChar : ∀ {d : Nat}, d < 10 → digitValue (Nat.digitChar d) = d := by
  decide

/-- No numeral can go on here. -/
def Stops (t : Text) : Prop := ∀ c ∈ t.head?, c.isDigit = false ∧ c ≠ '.' ∧ c ≠ 'e' ∧ c ≠ 'E'

namespace SpellsDigits

variable {digits : List Nat} {t : Text}

theorem isDigit (h : SpellsDigits digits t) : ∀ c ∈ t, c.isDigit = true := by
  intro c hc
  rw [h.eq] at hc
  obtain ⟨d, hd, rfl⟩ := List.mem_map.1 hc
  exact isDigit_digitChar (h.lt_ten d hd)

theorem map_digitValue (h : SpellsDigits digits t) : t.map digitValue = digits := by
  rw [h.eq, List.map_map]
  exact (List.map_congr_left fun d hd => digitValue_digitChar (h.lt_ten d hd)).trans
    (List.map_id digits)

theorem text_ne_nil (h : SpellsDigits digits t) : t ≠ [] := by
  rw [h.eq]
  exact fun hnil => h.ne_nil (List.map_eq_nil_iff.1 hnil)

end SpellsDigits

/-- A digit after the `e` is not a sign. -/
theorem readExponent_unsigned {n : Numeral} {e : Char} (he : e = 'e' ∨ e = 'E') {t : Text}
    (ht : ∀ c ∈ t.head?, c.isDigit = true) (hne : t ≠ []) :
    readExponent n (e :: t) = finishNumeral
      { n with exponent := some (false, (t.takeWhile Char.isDigit).map digitValue) }
      (t.dropWhile Char.isDigit) := by
  obtain ⟨d, t, rfl⟩ := List.exists_cons_of_ne_nil hne
  have hd : d.isDigit = true := ht d rfl
  simp only [readExponent, if_pos he]
  split
  case h_1 heq => cases heq; exact absurd hd (by decide)
  case h_2 heq => cases heq; exact absurd hd (by decide)
  case h_3 => simp [hd]

theorem SpellsExponent.readExponent {n : Numeral} {e : Option (Bool × List Nat)} {t rest : Text}
    (h : SpellsExponent e t) (hn : n.exponent = Option.none) (hrest : Stops rest) :
    readExponent n (t ++ rest) = finishNumeral { n with exponent := e } rest := by
  have stops : ∀ c ∈ rest.head?, c.isDigit = false := fun c hc => (hrest c hc).1
  cases h with
  | none =>
      have hsame : { n with exponent := Option.none } = n := by rw [← hn]
      rw [hsame]
      cases rest with
      | nil => rfl
      | cons c rest =>
          obtain ⟨-, -, he, hE⟩ := hrest c rfl
          simp [Document.readExponent, he, hE]
  | @unsigned c digits u he hu =>
      have hdigit : ∀ d ∈ (u ++ rest).head?, d.isDigit = true := by
        obtain ⟨d, u, rfl⟩ := List.exists_cons_of_ne_nil hu.text_ne_nil
        rintro _ ⟨⟩
        exact hu.isDigit d List.mem_cons_self
      rw [List.cons_append, readExponent_unsigned he hdigit (by simp [hu.text_ne_nil]),
        Text.takeWhile_append_of_stop hu.isDigit stops,
        Text.dropWhile_append_of_stop hu.isDigit stops, hu.map_digitValue]
  | @plus c digits u he hu =>
      simp [Document.readExponent, he, Text.takeWhile_append_of_stop hu.isDigit stops,
        Text.dropWhile_append_of_stop hu.isDigit stops, hu.text_ne_nil, hu.map_digitValue]
  | @minus c digits u he hu =>
      simp [Document.readExponent, he, Text.takeWhile_append_of_stop hu.isDigit stops,
        Text.dropWhile_append_of_stop hu.isDigit stops, hu.text_ne_nil, hu.map_digitValue]

theorem stops_nil : Stops [] := by
  rintro _ ⟨⟩

/-- What may follow the digits after the point. -/
theorem SpellsExponent.stop {e : Option (Bool × List Nat)} {t rest : Text}
    (h : SpellsExponent e t) (hrest : Stops rest) :
    ∀ c ∈ (t ++ rest).head?, c.isDigit = false ∧ c ≠ '.' := by
  cases h with
  | none => exact fun c hc => ⟨(hrest c hc).1, (hrest c hc).2.1⟩
  | unsigned he | plus he | minus he =>
      rintro _ ⟨⟩
      rcases he with rfl | rfl <;> decide

theorem SpellsPlaces.readPlaces {n : Numeral} {p : Option (List Nat)} {e : Option (Bool × List Nat)}
    {t u rest : Text} (h : SpellsPlaces p t) (he : SpellsExponent e u) (hp : n.places = Option.none)
    (hn : n.exponent = Option.none) (hrest : Stops rest) :
    readPlaces n (t ++ (u ++ rest)) = finishNumeral { n with places := p, exponent := e } rest := by
  have stop := he.stop hrest
  cases h with
  | none =>
      have hskip : Document.readPlaces n (u ++ rest) = Document.readExponent n (u ++ rest) := by
        unfold Document.readPlaces
        split
        · next heq => exact absurd rfl (stop '.' (by rw [heq]; rfl)).2
        · rfl
      rw [List.nil_append, hskip, he.readExponent hn hrest, ← hp]
  | @some digits v hv =>
      have htake := Text.takeWhile_append_of_stop hv.isDigit fun c hc => (stop c hc).1
      have hdrop := Text.dropWhile_append_of_stop hv.isDigit fun c hc => (stop c hc).1
      rw [List.cons_append, Document.readPlaces]
      simp [htake, hdrop, hv.text_ne_nil, hv.map_digitValue, hn, he.readExponent, hrest]

/-- What may follow the digits before the point. -/
theorem SpellsPlaces.stop {p : Option (List Nat)} {t rest : Text} (h : SpellsPlaces p t)
    (hrest : ∀ c ∈ rest.head?, c.isDigit = false) : ∀ c ∈ (t ++ rest).head?, c.isDigit = false := by
  cases h with
  | none => exact hrest
  | some => exact Text.stop_cons (by decide) _

theorem digitChar_eq_zero : ∀ {d : Nat}, d < 10 → Nat.digitChar d = '0' → d = 0 := by
  decide

/-- A numeral is read after its sign, from its first digit on. -/
theorem SpellsNumeral.readNumeral {n : Numeral} {t rest : Text} (h : SpellsNumeral n t)
    (hrest : Stops rest) : ∃ c u, t = sign n.negative ++ c :: u ∧ c.isDigit = true ∧
      readNumeral n.negative (c :: u ++ rest) = finishNumeral n rest := by
  obtain ⟨hwhole, hzero, hplaces, hexponent⟩ := h
  next whole places exponent =>
  obtain ⟨c, w, rfl⟩ := List.exists_cons_of_ne_nil hwhole.text_ne_nil
  refine ⟨c, w ++ places ++ exponent, by simp, hwhole.isDigit c List.mem_cons_self, ?_⟩
  have stop := hplaces.stop fun c hc => (hexponent.stop hrest c hc).1
  have htake := Text.takeWhile_append_of_stop hwhole.isDigit stop
  have hdrop := Text.dropWhile_append_of_stop hwhole.isDigit stop
  -- a zero in front stands alone, as the grammar says
  have halone : ∀ d r, c :: w = '0' :: d :: r → False := by
    rintro d r heq
    have hdigits := hwhole.eq
    rw [heq] at hdigits
    obtain ⟨a, ds, hds, ha, hr⟩ := List.map_eq_cons_iff.1 hdigits.symm
    have : n.whole = [0] := hzero (by
      rw [hds, digitChar_eq_zero (hwhole.lt_ten a (hds ▸ List.mem_cons_self)) ha]
      rfl)
    rw [hds] at this
    simp [(List.cons.inj this).2] at hr
  have hread : Document.readNumeral n.negative (c :: w ++ (places ++ (exponent ++ rest))) =
      Document.readPlaces ⟨n.negative, (c :: w).map digitValue, none, none⟩
        (places ++ (exponent ++ rest)) := by
    -- the case of a zero with a digit behind it is ruled out by `halone`
    simp only [Document.readNumeral, htake, hdrop]
  rw [hwhole.map_digitValue, hplaces.readPlaces hexponent rfl rfl hrest] at hread
  simpa using hread

/-! ### Strings -/

theorem hexValue?_of_spells {n : Nat} {c : Char} (h : SpellsHex n c) : hexValue? c = some n := by
  obtain ⟨hn, rfl | rfl⟩ := h
  · exact (by decide : ∀ n < 16, hexValue? (Nat.digitChar n) = some n) n hn
  · exact (by decide : ∀ n < 16, hexValue? (Nat.digitChar n).toUpper = some n) n hn

theorem unescape?_of_mem : ∀ p ∈ shortEscapes, unescape? p.1 = some p.2 ∧ p.1 ≠ 'u' := by
  decide

/-- The four digits of a code unit are read from behind the `u`. -/
theorem SpellsUnit.readHex {n : Nat} {u : Text} (h : SpellsUnit n u) :
    ∃ v, u = '\\' :: 'u' :: v ∧ ∀ t, readHex (v ++ t) = .ok (n, t) := by
  obtain ⟨ha, hb, hc, hd⟩ := h
  exact ⟨_, rfl, fun t => by
    simp [Document.readHex, hexValue?_of_spells ha, hexValue?_of_spells hb, hexValue?_of_spells hc,
      hexValue?_of_spells hd]⟩

/-- A code unit of the lower halves is read as one. -/
theorem SpellsUnit.readLowHalf {n : Nat} {u : Text} (h : SpellsUnit n u) (hlow : 0xDC00 ≤ n)
    (hhigh : n ≤ 0xDFFF) (t : Text) : readLowHalf (u ++ t) = .found n t := by
  obtain ⟨v, rfl, hread⟩ := h.readHex
  simp only [List.cons_append, Document.readLowHalf, hread]
  exact if_pos ⟨hlow, hhigh⟩

/-- The code of a character is not half of a pair. -/
theorem not_surrogate (c : Char) : c.toNat < 0xD800 ∨ 0xDFFF < c.toNat ∧ c.toNat < 0x110000 :=
  c.valid

theorem readString_plain {c : Char} (hlow : 0x20 ≤ c.toNat) (hquote : c ≠ '"') (hslash : c ≠ '\\')
    (t : Text) : readString (c :: t) = (readString t).cons c := by
  rw [readString.eq_def]
  simp only [if_neg hquote, if_neg hslash, if_neg (Nat.not_lt.2 hlow)]

theorem readString_short {e c : Char} (he : (e, c) ∈ shortEscapes) (t : Text) :
    readString ('\\' :: e :: t) = (readString t).cons c := by
  obtain ⟨hmeaning, hu⟩ := unescape?_of_mem _ he
  rw [readString, if_neg (by decide), if_pos rfl, if_neg hu]
  simp only [hmeaning]

theorem readString_unit {c : Char} {t rest : Text} (h : readHex t = .ok (c.toNat, rest)) :
    readString ('\\' :: 'u' :: t) = (readString rest).cons c := by
  have hc := not_surrogate c
  rw [readString, if_neg (by decide), if_pos rfl, if_pos rfl]
  split
  · next heq => cases h.symm.trans heq
  · next heq =>
    cases h.symm.trans heq
    rw [if_neg (by omega), if_neg (by omega), Char.ofNat_toNat]

theorem readString_pair {c : Char} {t rest after : Text} (hc : 0x10000 ≤ c.toNat)
    (h : readHex t = .ok (0xD800 + (c.toNat - 0x10000) / 0x400, rest))
    (hlow : readLowHalf rest = .found (0xDC00 + (c.toNat - 0x10000) % 0x400) after) :
    readString ('\\' :: 'u' :: t) = (readString after).cons c := by
  have hmax := not_surrogate c
  have hcode : 0x10000 + (0xD800 + (c.toNat - 0x10000) / 0x400 - 0xD800) * 0x400
      + (0xDC00 + (c.toNat - 0x10000) % 0x400 - 0xDC00) = c.toNat := by omega
  rw [readString, if_neg (by decide), if_pos rfl, if_pos rfl]
  split
  · next heq => cases h.symm.trans heq
  · next heq =>
    cases h.symm.trans heq
    rw [if_neg (by omega), if_pos (by omega)]
    -- only a lower half may follow an upper one
    split
    · next heq =>
      obtain ⟨rfl, rfl⟩ := LowHalf.found.inj (hlow.symm.trans heq)
      rw [hcode, Char.ofNat_toNat]
    · next heq => cases hlow.symm.trans heq
    · next heq => cases hlow.symm.trans heq

/-- A string is read up to its closing quote. -/
theorem SpellsChars.readString {s t : Text} (h : SpellsChars s t) (rest : Text) :
    readString (t ++ '"' :: rest) = ⟨some s, .ok rest⟩ := by
  induction h with
  | nil => rw [List.nil_append, readString.eq_def]; rfl
  | plain hlow hquote hslash _ ih =>
      rw [List.cons_append, readString_plain hlow hquote hslash, ih]
      rfl
  | short he _ ih =>
      rw [List.cons_append, List.cons_append, readString_short he, ih]
      rfl
  | unit hu _ ih =>
      obtain ⟨v, rfl, hread⟩ := hu.readHex
      rw [List.append_assoc, List.cons_append, List.cons_append, readString_unit (hread _), ih]
      rfl
  | pair hc hu hv _ ih =>
      obtain ⟨u, rfl, hreadu⟩ := hu.readHex
      have hlow := hv.readLowHalf (by omega) (by omega)
      simp only [List.append_assoc, List.cons_append]
      rw [readString_pair hc (hreadu _) (hlow _), ih]
      rfl

end PatternBook.Json
