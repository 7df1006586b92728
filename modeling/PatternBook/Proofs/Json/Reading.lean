import PatternBook.Json.Reader
import PatternBook.Proofs.Json.Tokens

/-!
# Reading what the grammar spells

The reader takes every text that the grammar has for a value, and finds that value.

* `SpellsValue.readValue`: a value at the start of a text, with fuel enough for its length.
* `SpellsText.ofText`: a whole JSON text.
* `SpellsText.unique`: a text spells one value at most.
-/

namespace PatternBook.Json

open Document

/-! ### Steps of the reader -/

theorem readValue_skipSpace (fuel : Nat) (t : Text) :
    readValue fuel (skipSpace t) = readValue fuel t := by
  cases fuel with
  | zero => rfl
  | succ fuel => simp only [readValue, skipSpace_skipSpace]

theorem readItems_skipSpace (fuel : Nat) (t : Text) :
    readItems fuel (skipSpace t) = readItems fuel t := by
  cases fuel with
  | zero => rfl
  | succ fuel => simp only [readItems, readValue_skipSpace]

theorem readFields_skipSpace (fuel : Nat) (t : Text) :
    readFields fuel (skipSpace t) = readFields fuel t := by
  cases fuel with
  | zero => rfl
  | succ fuel => simp only [readFields, skipSpace_skipSpace]

variable {fuel : Nat} {t u r rest : Text} {c : Char} {item : Document} {items : List Document}
  {key : Text} {fields : List (Except Fault Text × Document)}

/-- An array is read by its items, unless it closes at once. -/
theorem readValue_array (ht : skipSpace t = c :: u) (hc : c ≠ ']')
    (hread : readItems fuel t = (items, none, some rest)) :
    readValue (fuel + 1) ('[' :: t) = (.array items none, some rest) := by
  rw [← readItems_skipSpace, ht] at hread
  rw [readValue, skipSpace_cons (by decide)]
  simp [ht, hc, hread]

theorem readItems_last (hread : readValue fuel t = (item, some r))
    (hr : skipSpace r = ']' :: rest) : readItems (fuel + 1) t = ([item], none, some rest) := by
  simp only [readItems, hread, hr]

theorem readItems_more (hread : readValue fuel t = (item, some r)) (hr : skipSpace r = ',' :: u)
    (hmore : readItems fuel u = (items, none, some rest)) :
    readItems (fuel + 1) t = (item :: items, none, some rest) := by
  simp only [readItems, hread, hr, hmore]

/-- The field at the start of a text, and what is left behind it. -/
def ReadsField (fuel : Nat) (t : Text) (key : Text) (item : Document) (r : Text) : Prop :=
  ∃ u u' u'', skipSpace t = '"' :: u ∧ readString u = ⟨some key, .ok u'⟩ ∧
    skipSpace u' = ':' :: u'' ∧ readValue fuel u'' = (item, some r)

theorem ReadsField.last (h : ReadsField fuel t key item r) (hr : skipSpace r = '\x7d' :: rest) :
    readFields (fuel + 1) t = ([(.ok key, item)], none, some rest) := by
  obtain ⟨u, u', u'', ht, hkey, hcolon, hread⟩ := h
  simp only [readFields, ht, hkey, hcolon, hread, hr]

theorem ReadsField.more (h : ReadsField fuel t key item r) (hr : skipSpace r = ',' :: u)
    (hmore : readFields fuel u = (fields, none, some rest)) :
    readFields (fuel + 1) t = ((.ok key, item) :: fields, none, some rest) := by
  obtain ⟨v, v', v'', ht, hkey, hcolon, hread⟩ := h
  simp only [readFields, ht, hkey, hcolon, hread, hr, hmore]

/-- An object is read by its fields, unless it closes at once. -/
theorem readValue_object (ht : skipSpace t = '"' :: u)
    (hread : readFields fuel t = (fields, none, some rest)) :
    readValue (fuel + 1) ('\x7b' :: t) = (.object fields none, some rest) := by
  rw [← readFields_skipSpace, ht] at hread
  rw [readValue, skipSpace_cons (by decide)]
  simp [ht, hread]

/-! ### Values -/

theorem ofField_eq (field : Text × Value) : ofField field = (.ok field.1, ofValue field.2) := by
  cases field
  rfl

theorem Blanks.stops {w : Text} (hw : Blanks w) (hrest : Stops rest) : Stops (w ++ rest) := by
  cases w with
  | nil => exact hrest
  | cons c w =>
      rintro _ ⟨⟩
      rcases hw c List.mem_cons_self with rfl | rfl | rfl | rfl <;> decide

theorem ne_of_isDigit (hc : c.isDigit = true) {d : Char} (hd : d.isDigit = false) : c ≠ d := by
  rintro rfl
  exact absurd hc (by simp [hd])

theorem isSpace_of_isDigit (hc : c.isDigit = true) : isSpace c = false := by
  simp [isSpace, ne_of_isDigit hc]

/-- The character of a value that the reader sees first. -/
theorem SpellsValue.head {v : Value} (h : SpellsValue v t) :
    ∃ c u, t = c :: u ∧ isSpace c = false ∧ c ≠ ']' := by
  cases h with
  | null | boolTrue | boolFalse => exact ⟨_, _, rfl, by decide, by decide⟩
  | @number n x _ ht =>
      obtain ⟨c, u, rfl, hc, -⟩ := ht.readNumeral stops_nil
      cases hn : n.negative with
      | true => exact ⟨_, _, rfl, by decide, by decide⟩
      | false => exact ⟨c, u, rfl, isSpace_of_isDigit hc, ne_of_isDigit hc (by decide)⟩
  | string | emptyArray | array | emptyObject | object => exact ⟨_, _, rfl, by decide, by decide⟩

theorem SpellsText.head {v : Value} (h : SpellsText v t) (rest : Text) :
    ∃ c u, skipSpace (t ++ rest) = c :: u ∧ c ≠ ']' := by
  obtain ⟨hw, hv, hw'⟩ := h
  next w t w' =>
  obtain ⟨c, u, rfl, hspace, hc⟩ := hv.head
  exact ⟨c, u ++ (w' ++ rest), by
    rw [List.append_assoc, List.append_assoc, hw.skipSpace_append]
    exact skipSpace_cons hspace _, hc⟩

theorem SpellsItems.head {vs : List Value} (h : SpellsItems vs t) (rest : Text) :
    ∃ c u, skipSpace (t ++ rest) = c :: u ∧ c ≠ ']' := by
  cases h with
  | last h => exact h.head rest
  | more h _ => rw [List.append_assoc]; exact h.head _

theorem SpellsFields.head {fs : List (Text × Value)} (h : SpellsFields fs t) (rest : Text) :
    ∃ u, skipSpace (t ++ rest) = '"' :: u := by
  have field_head : ∀ {field : Text × Value} {t : Text}, SpellsField field t → ∀ rest : Text,
      ∃ u, skipSpace (t ++ rest) = '"' :: u := by
    rintro _ _ ⟨hw, -, -, -⟩ rest
    simp only [List.append_assoc, hw.skipSpace_append]
    exact ⟨_, skipSpace_cons (by decide) _⟩
  cases h with
  | last h => exact field_head h rest
  | more h _ => rw [List.append_assoc]; exact field_head h _

/-- A digit is none of the characters that other values start with. -/
theorem readValue_digit (hc : c.isDigit = true) :
    readValue (fuel + 1) (c :: t) = readNumeral false (c :: t) := by
  rw [readValue, skipSpace_cons (isSpace_of_isDigit hc)]
  simp [ne_of_isDigit hc, hc]

theorem readValue_minus : readValue (fuel + 1) ('-' :: t) = readNumeral true t := by
  rw [readValue, skipSpace_cons (by decide)]
  simp

theorem readValue_string {s : Text} (h : readString t = ⟨some s, .ok rest⟩) :
    readValue (fuel + 1) ('"' :: t) = (.string s, some rest) := by
  rw [readValue, skipSpace_cons (by decide)]
  simp [readStringValue, h]

mutual

/-- A value is read up to its end, if what follows cannot be a part of it. -/
theorem SpellsValue.readValue {v : Value} {t : Text} (h : SpellsValue v t) (fuel : Nat)
    (rest : Text) (hfuel : 2 * t.length ≤ fuel) (hrest : Stops rest) :
    readValue fuel (t ++ rest) = (ofValue v, some rest) := by
  -- no value has an empty spelling, so there is fuel for a step
  obtain ⟨c, u, ht, -, -⟩ := h.head
  obtain ⟨fuel, rfl⟩ : ∃ n, fuel = n + 1 :=
    ⟨fuel - 1, by rw [ht, List.length_cons] at hfuel; omega⟩
  clear ht
  cases h with
  | null | boolTrue | boolFalse => rfl
  | @number n x _ hn hx =>
      obtain ⟨c, u, rfl, hc, hread⟩ := hn.readNumeral hrest
      have hfinish : finishNumeral n rest = (ofValue (.number x), some rest) := by
        simp [finishNumeral, hx, ofValue]
      cases hneg : n.negative with
      | true => exact readValue_minus.trans ((hneg ▸ hread).trans hfinish)
      | false => exact (readValue_digit hc).trans ((hneg ▸ hread).trans hfinish)
  | @string s t hs =>
      rw [List.append_assoc]
      exact readValue_string (hs.readString rest)
  | @emptyArray w hw =>
      rw [List.append_assoc, List.cons_append, Document.readValue, skipSpace_cons (by decide)]
      simp [hw.skipSpace_append, skipSpace_cons, isSpace, ofValue, ofItems]
  | @array items t hitems =>
      obtain ⟨c, u, hhead, hc⟩ := hitems.head (']' :: rest)
      rw [List.append_assoc]
      refine readValue_array hhead hc (hitems.readItems fuel rest ?_)
      simp only [List.length_append, List.length_cons] at hfuel
      omega
  | @emptyObject w hw =>
      rw [List.append_assoc, List.cons_append, Document.readValue, skipSpace_cons (by decide)]
      simp [hw.skipSpace_append, skipSpace_cons, isSpace, ofValue, ofFields]
  | @object fields t hfields =>
      obtain ⟨u, hhead⟩ := hfields.head ('\x7d' :: rest)
      rw [List.append_assoc]
      refine readValue_object hhead (hfields.readFields fuel rest ?_)
      simp only [List.length_append, List.length_cons] at hfuel
      omega

/-- A value is found behind blanks, and nothing but blanks is left of its text. -/
theorem SpellsText.readValue {v : Value} {t : Text} (h : SpellsText v t) (fuel : Nat) (rest : Text)
    (hfuel : 2 * t.length ≤ fuel) (hrest : Stops rest) :
    ∃ r, readValue fuel (t ++ rest) = (ofValue v, some r) ∧ skipSpace r = skipSpace rest := by
  cases h with
  | @mk v w t w' hw hv hw' =>
      refine ⟨w' ++ rest, ?_, hw'.skipSpace_append rest⟩
      rw [← readValue_skipSpace, List.append_assoc, List.append_assoc, hw.skipSpace_append,
        readValue_skipSpace]
      refine hv.readValue fuel (w' ++ rest) ?_ (hw'.stops hrest)
      simp only [List.length_append] at hfuel
      omega

/-- Items are read up to the closing bracket. -/
theorem SpellsItems.readItems {vs : List Value} {t : Text} (h : SpellsItems vs t) (fuel : Nat)
    (rest : Text) (hfuel : 2 * t.length + 1 ≤ fuel) :
    readItems fuel (t ++ ']' :: rest) = (ofItems vs, none, some rest) := by
  obtain ⟨fuel, rfl⟩ : ∃ n, fuel = n + 1 := ⟨fuel - 1, by omega⟩
  cases h with
  | @last v t hv =>
      obtain ⟨r, hread, hr⟩ := hv.readValue fuel (']' :: rest) (by omega)
        (by rintro _ ⟨⟩; decide)
      exact readItems_last hread hr
  | @more v vs t u hv hvs =>
      simp only [List.length_append, List.length_cons] at hfuel
      obtain ⟨r, hread, hr⟩ := hv.readValue fuel (',' :: (u ++ ']' :: rest))
        (by omega) (by rintro _ ⟨⟩; decide)
      rw [List.append_assoc, List.cons_append]
      exact readItems_more hread hr (hvs.readItems fuel rest (by omega))

/-- A field is read up to its end. -/
theorem SpellsField.readsField {field : Text × Value} {t : Text} (h : SpellsField field t)
    (fuel : Nat) (rest : Text) (hfuel : 2 * t.length ≤ fuel) (hrest : Stops rest) :
    ∃ r, ReadsField fuel (t ++ rest) field.1 (ofValue field.2) r ∧
      skipSpace r = skipSpace rest := by
  cases h with
  | @mk key v w k w' t hw hk hw' hv =>
      simp only [List.length_append, List.length_cons] at hfuel
      obtain ⟨r, hread, hr⟩ := hv.readValue fuel rest (by omega) hrest
      refine ⟨r, ⟨_, _, _, ?_, hk.readString (w' ++ ':' :: (t ++ rest)), ?_, hread⟩, hr⟩
      · simp only [List.append_assoc, hw.skipSpace_append]
        exact skipSpace_cons (by decide) _
      · rw [hw'.skipSpace_append]
        exact skipSpace_cons (by decide) _

/-- Fields are read up to the closing brace. -/
theorem SpellsFields.readFields {fs : List (Text × Value)} {t : Text} (h : SpellsFields fs t)
    (fuel : Nat) (rest : Text) (hfuel : 2 * t.length + 1 ≤ fuel) :
    readFields fuel (t ++ '\x7d' :: rest) = (ofFields fs, none, some rest) := by
  obtain ⟨fuel, rfl⟩ : ∃ n, fuel = n + 1 := ⟨fuel - 1, by omega⟩
  cases h with
  | @last field t hfield =>
      obtain ⟨r, hread, hr⟩ := hfield.readsField fuel ('\x7d' :: rest) (by omega)
        (by rintro _ ⟨⟩; decide)
      simpa only [ofFields, ofField_eq] using hread.last hr
  | @more field fs t u hfield hfs =>
      simp only [List.length_append, List.length_cons] at hfuel
      obtain ⟨r, hread, hr⟩ := hfield.readsField fuel
        (',' :: (u ++ '\x7d' :: rest)) (by omega) (by rintro _ ⟨⟩; decide)
      rw [List.append_assoc, List.cons_append]
      simpa only [ofFields, ofField_eq] using hread.more hr (hfs.readFields fuel rest (by omega))

end

/-! ### Whole texts -/

/-- **A JSON text reads as the value that it spells**, and nothing is left over. -/
theorem SpellsText.ofText {v : Value} {t : Text} (h : SpellsText v t) :
    Document.ofText t = (ofValue v, none) := by
  obtain ⟨r, hread, hr⟩ := h.readValue (2 * t.length + 2) [] (by omega) stops_nil
  rw [List.append_nil] at hread
  simp only [Document.ofText, hread, hr]
  rfl

mutual

/-- A document without flaws is the document of one value. -/
theorem ofValue_injective : ∀ {v w : Value}, ofValue v = ofValue w → v = w
  | .null, w, h => by cases w <;> cases h; rfl
  | .bool b, w, h => by cases w <;> cases h; rfl
  | .number n, w, h => by cases w <;> cases h; rfl
  | .string s, w, h => by cases w <;> cases h; rfl
  | .array items, w, h => by
      cases w with
      | array others =>
          simp only [ofValue, Document.array.injEq, and_true] at h
          rw [ofItems_injective h]
      | null | bool | number | string | object => cases h
  | .object fields, w, h => by
      cases w with
      | object others =>
          simp only [ofValue, Document.object.injEq, and_true] at h
          rw [ofFields_injective h]
      | null | bool | number | string | array => cases h

theorem ofItems_injective : ∀ {vs ws : List Value}, ofItems vs = ofItems ws → vs = ws
  | [], ws, h => by cases ws <;> cases h; rfl
  | v :: vs, ws, h => by
      cases ws with
      | nil => cases h
      | cons w ws =>
          simp only [ofItems, List.cons.injEq] at h
          rw [ofValue_injective h.1, ofItems_injective h.2]

theorem ofFields_injective : ∀ {fs gs : List (Text × Value)}, ofFields fs = ofFields gs → fs = gs
  | [], gs, h => by cases gs <;> cases h; rfl
  | (key, v) :: fs, gs, h => by
      cases gs with
      | nil => cases h
      | cons g gs =>
          simp only [ofFields, ofField_eq, List.cons.injEq, Prod.mk.injEq, Except.ok.injEq] at h
          rw [h.1.1, ofValue_injective h.1.2, ofFields_injective h.2]

end

/-- A text spells one value at most. -/
theorem SpellsText.unique {v w : Value} {t : Text} (hv : SpellsText v t) (hw : SpellsText w t) :
    v = w :=
  ofValue_injective (congrArg Prod.fst (hv.ofText.symm.trans hw.ofText))

end PatternBook.Json
