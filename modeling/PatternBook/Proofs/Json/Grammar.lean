import PatternBook.Json.Numeral

/-!
# The grammar of JSON

Which text spells which value, rule by rule, without a word about how a text is read or written.  A
value has many spellings: blanks may stand around each token, a character of a string may be escaped
in several ways, and a number may have places and an exponent.

* `SpellsValue`: the text of a value, from its first character to its last.
* `SpellsText`: the same with blanks around it, which is a whole JSON text.
-/

namespace PatternBook.Json

/-! ### Numerals -/

/-- Blanks between tokens. -/
def Blanks (t : Text) : Prop := ∀ c ∈ t, c = ' ' ∨ c = '\n' ∨ c = '\t' ∨ c = '\r'

/-- One digit or more, with their values. -/
structure SpellsDigits (digits : List Nat) (t : Text) : Prop where
  ne_nil : digits ≠ []
  lt_ten : ∀ d ∈ digits, d < 10
  eq     : t = digits.map Nat.digitChar

/-- The point and the digits after it, if there is one. -/
inductive SpellsPlaces : Option (List Nat) → Text → Prop where
  | none : SpellsPlaces none []
  | some {digits : List Nat} {t : Text} (h : SpellsDigits digits t) :
      SpellsPlaces (some digits) ('.' :: t)

/-- The exponent, if there is one. -/
inductive SpellsExponent : Option (Bool × List Nat) → Text → Prop where
  | none : SpellsExponent none []
  | unsigned {e : Char} {digits : List Nat} {t : Text} (he : e = 'e' ∨ e = 'E')
      (h : SpellsDigits digits t) : SpellsExponent (some (false, digits)) (e :: t)
  | plus {e : Char} {digits : List Nat} {t : Text} (he : e = 'e' ∨ e = 'E')
      (h : SpellsDigits digits t) : SpellsExponent (some (false, digits)) (e :: '+' :: t)
  | minus {e : Char} {digits : List Nat} {t : Text} (he : e = 'e' ∨ e = 'E')
      (h : SpellsDigits digits t) : SpellsExponent (some (true, digits)) (e :: '-' :: t)

/-- A minus sign, if the number has one. -/
def sign (negative : Bool) : Text := if negative then "-" else []

/-- A numeral: a zero before the point stands alone. -/
inductive SpellsNumeral : Numeral → Text → Prop where
  | mk {n : Numeral} {whole places exponent : Text} (hwhole : SpellsDigits n.whole whole)
      (hzero : n.whole.head? = some 0 → n.whole = [0]) (hplaces : SpellsPlaces n.places places)
      (hexponent : SpellsExponent n.exponent exponent) :
      SpellsNumeral n (sign n.negative ++ whole ++ places ++ exponent)

/-! ### Strings -/

/-- The letters behind a backslash that stand for a character. -/
def shortEscapes : List (Char × Char) :=
  [('"', '"'), ('\\', '\\'), ('/', '/'), ('b', '\x08'), ('f', '\x0C'), ('n', '\n'), ('r', '\r'),
    ('t', '\t')]

/-- A hexadecimal digit, in either case. -/
def SpellsHex (n : Nat) (c : Char) : Prop :=
  n < 16 ∧ (c = Nat.digitChar n ∨ c = (Nat.digitChar n).toUpper)

/-- The escape of a code unit of UTF-16. -/
inductive SpellsUnit : Nat → Text → Prop where
  | mk {a b c d : Nat} {w x y z : Char} (ha : SpellsHex a w) (hb : SpellsHex b x)
      (hc : SpellsHex c y) (hd : SpellsHex d z) :
      SpellsUnit (((a * 16 + b) * 16 + c) * 16 + d) ['\\', 'u', w, x, y, z]

/-- The characters between the quotes of a string. -/
inductive SpellsChars : Text → Text → Prop where
  | nil : SpellsChars [] []
  | plain {c : Char} {s t : Text} (hlow : 0x20 ≤ c.toNat) (hquote : c ≠ '"') (hslash : c ≠ '\\')
      (h : SpellsChars s t) : SpellsChars (c :: s) (c :: t)
  | short {e c : Char} {s t : Text} (he : (e, c) ∈ shortEscapes) (h : SpellsChars s t) :
      SpellsChars (c :: s) ('\\' :: e :: t)
  | unit {c : Char} {u s t : Text} (hu : SpellsUnit c.toNat u) (h : SpellsChars s t) :
      SpellsChars (c :: s) (u ++ t)
  /-- A character above the first plane is two code units. -/
  | pair {c : Char} {u v s t : Text} (hc : 0x10000 ≤ c.toNat)
      (hu : SpellsUnit (0xD800 + (c.toNat - 0x10000) / 0x400) u)
      (hv : SpellsUnit (0xDC00 + (c.toNat - 0x10000) % 0x400) v) (h : SpellsChars s t) :
      SpellsChars (c :: s) (u ++ v ++ t)

/-! ### Values -/

mutual

/-- A value from its first character to its last. -/
inductive SpellsValue : Value → Text → Prop where
  | null : SpellsValue .null "null"
  | boolTrue : SpellsValue (.bool true) "true"
  | boolFalse : SpellsValue (.bool false) "false"
  | number {n : Numeral} {x : Number} {t : Text} (ht : SpellsNumeral n t) (hx : n.value = some x) :
      SpellsValue (.number x) t
  | string {s t : Text} (h : SpellsChars s t) : SpellsValue (.string s) ('"' :: t ++ ['"'])
  | emptyArray {w : Text} (hw : Blanks w) : SpellsValue (.array []) ('[' :: w ++ [']'])
  | array {items : List Value} {t : Text} (h : SpellsItems items t) :
      SpellsValue (.array items) ('[' :: t ++ [']'])
  | emptyObject {w : Text} (hw : Blanks w) : SpellsValue (.object []) ('\x7b' :: w ++ ['\x7d'])
  | object {fields : List (Text × Value)} {t : Text} (h : SpellsFields fields t) :
      SpellsValue (.object fields) ('\x7b' :: t ++ ['\x7d'])

/-- A value with blanks around it. -/
inductive SpellsText : Value → Text → Prop where
  | mk {v : Value} {w t w' : Text} (hw : Blanks w) (h : SpellsValue v t) (hw' : Blanks w') :
      SpellsText v (w ++ t ++ w')

/-- One item or more, with commas between them. -/
inductive SpellsItems : List Value → Text → Prop where
  | last {v : Value} {t : Text} (h : SpellsText v t) : SpellsItems [v] t
  | more {v : Value} {items : List Value} {t u : Text} (h : SpellsText v t)
      (hitems : SpellsItems items u) : SpellsItems (v :: items) (t ++ ',' :: u)

/-- A key and a value with a colon between them. -/
inductive SpellsField : Text × Value → Text → Prop where
  | mk {key : Text} {v : Value} {w k w' t : Text} (hw : Blanks w) (hk : SpellsChars key k)
      (hw' : Blanks w') (h : SpellsText v t) :
      SpellsField (key, v) (w ++ '"' :: k ++ '"' :: w' ++ ':' :: t)

/-- One field or more, with commas between them. -/
inductive SpellsFields : List (Text × Value) → Text → Prop where
  | last {field : Text × Value} {t : Text} (h : SpellsField field t) : SpellsFields [field] t
  | more {field : Text × Value} {fields : List (Text × Value)} {t u : Text}
      (h : SpellsField field t) (hfields : SpellsFields fields u) :
      SpellsFields (field :: fields) (t ++ ',' :: u)

end

end PatternBook.Json
