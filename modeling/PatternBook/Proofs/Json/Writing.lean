import Mathlib.Data.Nat.Digits.Defs
import PatternBook.Json.Printer
import PatternBook.Proofs.Json.Grammar

/-!
# What the printer writes is JSON

The indented form of a value is a spelling of that value, whatever its strings hold, as long as its
numbers are integers that 64 bits have room for.

* `spellsChars_escape`: the characters of a string, one by one.
* `Value.spells_printAt`: a value at any depth.
-/

namespace PatternBook.Json

/-! ### Strings -/

theorem hexDigit_spells {n : Nat} (h : n < 16) : SpellsHex n (hexDigit n) := ⟨h, .inl rfl⟩

/-- A control character without a letter of its own is the code unit of its number. -/
theorem unit_of_control {n : Nat} (h : n < 0x20) :
    SpellsUnit n ("\\u00" ++ [hexDigit (n / 16), hexDigit (n % 16)]) := by
  have hzero : SpellsHex 0 '0' := hexDigit_spells (by decide)
  have hhigh : SpellsHex (n / 16) (hexDigit (n / 16)) := hexDigit_spells (by omega)
  have hlow : SpellsHex (n % 16) (hexDigit (n % 16)) := hexDigit_spells (by omega)
  have hunit := SpellsUnit.mk hzero hzero hhigh hlow
  have hn : ((0 * 16 + 0) * 16 + n / 16) * 16 + n % 16 = n := by omega
  rw [hn] at hunit
  exact hunit

/-- A character may be escaped wherever it stands. -/
theorem SpellsChars.cons_escape {s t : Text} (h : SpellsChars s t) (c : Char) :
    SpellsChars (c :: s) (escape c ++ t) := by
  unfold escape
  -- the seven characters that have a letter of their own
  iterate 7
    split
    · next hc => exact .short (by subst hc; decide) h
  split
  · next hlow => exact .unit (unit_of_control hlow) h
  · next hquote hslash _ _ _ _ _ hlow => exact .plain (Nat.not_lt.1 hlow) hquote hslash h

theorem spellsChars_escape (s : Text) : SpellsChars s (s.flatMap escape) := by
  induction s with
  | nil => exact .nil
  | cons c s ih => exact ih.cons_escape c

/-! ### Numbers -/

namespace Numeral

theorem maxSignificand_eq : maxSignificand = 2 ^ 64 - 1 := rfl

theorem absorb_append_singleton {s m d : Nat} {digits : List Nat}
    (h : absorb s digits = (m, [])) (hd : m * 10 + d ≤ maxSignificand) :
    absorb s (digits ++ [d]) = (m * 10 + d, []) := by
  induction digits generalizing s with
  | nil =>
      obtain rfl : s = m := congrArg Prod.fst h
      simp [absorb, hd]
  | cons e digits ih =>
      simp only [absorb] at h
      split at h
      · next he => simpa [absorb, he] using ih h
      · cases h

end Numeral

open Numeral (absorb absorb_append_singleton maxSignificand maxSignificand_eq)

/-- The last digit of a number stands behind the digits of the others. -/
theorem SpellsDigits.ofNat_snoc {n : Nat} {digits : List Nat} (hge : 10 ≤ n)
    (h : SpellsDigits digits (Text.ofNat (n / 10))) :
    SpellsDigits (digits ++ [n % 10]) (Text.ofNat n) := by
  refine ⟨by simp, fun d hd => ?_, ?_⟩
  · rcases List.mem_append.1 hd with hd | hd
    · exact h.lt_ten d hd
    · obtain rfl := List.mem_singleton.1 hd
      omega
  · rw [Text.ofNat, Nat.toDigits_of_base_le (by decide) hge, List.map_append, ← h.eq]
    rfl

/-- The decimal digits of a number make that number, and the first of them is zero for zero only. -/
theorem exists_spellsDigits_ofNat (n : Nat) (hn : n ≤ maxSignificand) :
    ∃ digits, SpellsDigits digits (Text.ofNat n) ∧ absorb 0 digits = (n, []) ∧
      (digits.head? = some 0 → digits = [0]) ∧ (0 < n → digits.head? ≠ some 0) := by
  induction n using Nat.strongRecOn with
  | ind n ih =>
      rcases Nat.lt_or_ge n 10 with hlt | hge
      · refine ⟨[n], ⟨by simp, by simpa using hlt, ?_⟩, ?_, ?_, ?_⟩
        · rw [Text.ofNat, Nat.toDigits_of_lt_base hlt]
          rfl
        · simp [absorb, hn]
        · simp
        · intro h
          simp only [List.head?_cons, ne_eq, Option.some.injEq]
          omega
      -- a number of more digits starts as its tenth does, which is not zero
      · obtain ⟨digits, hdigits, habsorb, -, hhead⟩ := ih (n / 10) (by omega) (by omega)
        have hpos := hhead (by omega)
        have hsum : n / 10 * 10 + n % 10 = n := by omega
        have hfirst : (digits ++ [n % 10]).head? = digits.head? := by
          obtain ⟨d, rest, rfl⟩ := List.exists_cons_of_ne_nil hdigits.ne_nil
          rfl
        refine ⟨digits ++ [n % 10], hdigits.ofNat_snoc hge, ?_, ?_, fun _ => hfirst ▸ hpos⟩
        · rw [absorb_append_singleton habsorb (by omega), hsum]
        · rw [hfirst]
          exact fun h => absurd h hpos

/-- The number is an integer of 64 bits, with or without a sign. -/
def Number.Integral : Number → Prop
  | .integer n => -(2 ^ 63) ≤ n ∧ n < 2 ^ 64
  | .real _ _ => False

/-- An integer of 64 bits is written as its numeral. -/
theorem Number.Integral.exists_numeral {x : Number} (h : x.Integral) :
    ∃ n, SpellsNumeral n x.print ∧ n.value = some x := by
  cases x with
  | real => exact h.elim
  | integer i =>
      obtain ⟨hlow, hhigh⟩ := h
      obtain ⟨digits, hdigits, habsorb, hzero, -⟩ :=
        exists_spellsDigits_ofNat i.natAbs (by rw [maxSignificand_eq]; omega)
      refine ⟨⟨decide (i < 0), digits, none, none⟩, ?_, ?_⟩
      · have hspells := SpellsNumeral.mk (n := ⟨decide (i < 0), digits, none, none⟩) hdigits hzero
          .none .none
        by_cases hneg : i < 0
        · simpa [sign, Number.print, hneg] using hspells
        · simpa [sign, Number.print, hneg] using hspells
      · have hpow : Nat.pow 2 63 = 2 ^ 63 := rfl
        by_cases hneg : i < 0
        · have hfits : 0 < i.natAbs ∧ i.natAbs ≤ Nat.pow 2 63 := by rw [hpow]; omega
          have habs : -(i.natAbs : Int) = i := by omega
          simp only [Numeral.value, habsorb, hneg, decide_true, if_true, if_pos hfits, habs]
        · have habs : (i.natAbs : Int) = i := by omega
          simp only [Numeral.value, habsorb, hneg, decide_false, Bool.false_eq_true, if_false, habs]

/-! ### Values -/

theorem blanks_newline (depth : Nat) : Blanks (newline depth) := by
  intro c hc
  rcases List.mem_cons.1 hc with rfl | hc
  · exact .inr (.inl rfl)
  · exact .inl (List.eq_of_mem_replicate hc)

theorem blanks_nil : Blanks [] := by
  intro c hc
  cases hc

namespace Value

mutual

/-- All readers agree about the value: its numbers are integers that 64 bits have room for, and no
object has two fields of one name. -/
def Plain : Value → Prop
  | .number n => n.Integral
  | .array items => AllPlain items
  | .object fields => (fields.map Prod.fst).Nodup ∧ AllPlainFields fields
  | _ => True

/-- The items are plain. -/
def AllPlain : List Value → Prop
  | [] => True
  | v :: rest => Plain v ∧ AllPlain rest

/-- The values of the fields are plain. -/
def AllPlainFields : List (Text × Value) → Prop
  | [] => True
  | field :: rest => PlainField field ∧ AllPlainFields rest

/-- The value of the field is plain. -/
def PlainField : Text × Value → Prop
  | (_, v) => Plain v

end

theorem allPlain_iff {items : List Value} : AllPlain items ↔ ∀ v ∈ items, v.Plain := by
  induction items with
  | nil => simp [AllPlain]
  | cons v rest ih => simp [AllPlain, ih]

theorem allPlainFields_iff {fields : List (Text × Value)} :
    AllPlainFields fields ↔ ∀ field ∈ fields, field.2.Plain := by
  induction fields with
  | nil => simp [AllPlainFields]
  | cons field rest ih =>
      obtain ⟨key, v⟩ := field
      simp [AllPlainFields, PlainField, ih]

mutual

/-- **What is printed for a value spells that value.** -/
theorem spells_printAt (depth : Nat) : ∀ {v : Value}, v.Plain → SpellsValue v (printAt depth v)
  | .null, _ => .null
  | .bool true, _ => .boolTrue
  | .bool false, _ => .boolFalse
  | .number x, h => by
      obtain ⟨n, hn, hx⟩ := Number.Integral.exists_numeral h
      exact .number hn hx
  | .string s, _ => .string (spellsChars_escape s)
  | .array [], _ => .emptyArray blanks_nil
  | .array (v :: rest), h => by
      have hitems := spells_printItems (depth + 1) h (List.cons_ne_nil v rest)
        (blanks_newline depth)
      simpa [printAt, printItems] using SpellsValue.array hitems
  | .object [], _ => .emptyObject blanks_nil
  | .object (field :: rest), h => by
      have hfields := spells_printFields (depth + 1) h.2 (List.cons_ne_nil field rest)
        (blanks_newline depth)
      simpa [printAt, printFields] using SpellsValue.object hfields

/-- Printed items without the comma before them, with the blanks that stand behind them. -/
theorem spells_printItems (depth : Nat) : ∀ {items : List Value}, AllPlain items → items ≠ [] →
    ∀ {w : Text}, Blanks w → SpellsItems items ((printItems depth items).tail ++ w)
  | [], _, hne, _, _ => absurd rfl hne
  | [v], h, _, w, hw => by
      have htext := SpellsText.mk (blanks_newline depth) (spells_printAt depth h.1) hw
      simpa [printItems] using SpellsItems.last htext
  | v :: v' :: rest, h, _, w, hw => by
      have htext := SpellsText.mk (blanks_newline depth) (spells_printAt depth h.1) blanks_nil
      have hrest := spells_printItems depth h.2 (List.cons_ne_nil v' rest) hw
      simpa [printItems] using SpellsItems.more htext hrest

theorem spells_printFields (depth : Nat) : ∀ {fields : List (Text × Value)},
    AllPlainFields fields → fields ≠ [] → ∀ {w : Text}, Blanks w →
      SpellsFields fields ((printFields depth fields).tail ++ w)
  | [], _, hne, _, _ => absurd rfl hne
  | [field], h, _, w, hw => by
      have hfield := spells_printField depth h.1 hw
      simpa [printFields] using SpellsFields.last hfield
  | field :: field' :: rest, h, _, w, hw => by
      have hfield := spells_printField depth h.1 blanks_nil
      have hrest := spells_printFields depth h.2 (List.cons_ne_nil field' rest) hw
      simpa [printFields] using SpellsFields.more hfield hrest

theorem spells_printField (depth : Nat) : ∀ {field : Text × Value}, PlainField field →
    ∀ {w : Text}, Blanks w → SpellsField field (newline depth ++ printField depth field ++ w)
  | (key, v), h, w, hw => by
      have hv := SpellsText.mk (w := " ") (by simp [Blanks]) (spells_printAt depth h) hw
      have hfield := SpellsField.mk (blanks_newline depth) (spellsChars_escape key) blanks_nil hv
      simpa [printField, quote] using hfield

end

end Value

end PatternBook.Json
