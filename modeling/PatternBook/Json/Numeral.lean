import PatternBook.Json.Value

/-!
# Numerals

The number that a numeral stands for.  Digits are taken while they fit into 64 bits; a digit
before the point that does not fit counts as a factor of ten, and one after it not at all.  An
integer that fits is exact; any other numeral is a binary number, scaled by powers of ten one
rounding at a time, or out of range.
-/

namespace PatternBook.Json

/-- The parts of a numeral, as digits. -/
structure Numeral where
  negative  : Bool
  whole     : List Nat
  /-- The digits after the point, if there is one. -/
  places    : Option (List Nat)
  /-- The sign and the digits of the exponent, if there is one. -/
  exponent  : Option (Bool × List Nat)
  deriving DecidableEq, Repr

namespace Numeral

/-- The greatest significand. -/
def maxSignificand : Nat := Nat.pow 2 64 - 1

/-- The greatest exponent that is told from an endless one. -/
def maxExponent : Nat := Nat.pow 2 31 - 1

/-- The significand with digits taken while they fit, and the digits left. -/
def absorb (significand : Nat) : List Nat → Nat × List Nat
  | [] => (significand, [])
  | d :: rest =>
    if significand * 10 + d ≤ maxSignificand then absorb (significand * 10 + d) rest
    else (significand, d :: rest)

/-- An exponent, unless it is endless. -/
def exponentValue (value : Nat) : List Nat → Option Nat
  | [] => some value
  | d :: rest => if value * 10 + d ≤ maxExponent then exponentValue (value * 10 + d) rest else none

/-- `x * 10 ^ k`; steps of 308 while the exponent is below -308. -/
def scaleTen (x : Binary64) (k : Int) : Nat → Option Binary64
  | 0 => some .zero
  | fuel + 1 =>
    if k.natAbs ≤ 308 then
      if 0 ≤ k then x.mul (.powerOfTen k.toNat) else x.div (.powerOfTen k.natAbs)
    else if x.mantissa = 0 then some x
    else if 0 ≤ k then none
    else
      match x.div (.powerOfTen 308) with
      | some y => scaleTen y (k + 308) fuel
      | none => none

/-- The binary number for `significand * 10 ^ k`. -/
def real (negative : Bool) (significand : Nat) (k : Int) : Option Number :=
  match Binary64.ofQuotient significand 1 with
  | some x => (scaleTen x k 4).map (.real negative)
  | none => none

/-- The number, or `none` if it is out of range. -/
def value (n : Numeral) : Option Number :=
  let (whole, left) := absorb 0 n.whole
  match n.places, n.exponent, left with
  | none, none, [] =>
    if n.negative then
      if 0 < whole ∧ whole ≤ Nat.pow 2 63 then some (.integer (-whole)) else real true whole 0
    else some (.integer whole)
  | places, exponent, _ =>
    let (significand, unused) := absorb whole (places.getD [])
    let k : Int := left.length - ((places.getD []).length - unused.length : Nat)
    match exponent with
    | none => real n.negative significand k
    | some (down, digits) =>
      match exponentValue 0 digits with
      | some e => real n.negative significand (if down then k - e else k + e)
      | none =>
        if significand ≠ 0 ∧ !down then none else some (.real n.negative .zero)

end Numeral

end PatternBook.Json
