import PatternBook.Text.Basic

/-!
# Binary numbers of 64 bits

Finite, non-negative numbers with a mantissa of at most 53 bits, rounding to the nearest of them
(a tie goes to the even mantissa), and their shortest decimal form: the fewest digits that round
back to the number, and of those the nearest.
-/

namespace PatternBook

/-- The number `mantissa * 2 ^ exponent`. -/
structure Binary64 where
  mantissa : Nat
  exponent : Int
  deriving DecidableEq, Repr

namespace Binary64

/-- The number zero. -/
def zero : Binary64 := ⟨0, -1074⟩

/-- The numerator and the denominator of the number. -/
def fraction (x : Binary64) : Nat × Nat :=
  if 0 ≤ x.exponent then (x.mantissa * Nat.pow 2 x.exponent.toNat, 1)
  else (x.mantissa, Nat.pow 2 (-x.exponent).toNat)

/-! ### Rounding -/

/-- The quotient rounded to the nearest number, a tie to the even one. -/
def roundQuotient (num den : Nat) : Nat :=
  let quotient := num / den
  let twice := 2 * (num % den)
  if twice < den then quotient
  else if den < twice then quotient + 1
  else if quotient % 2 = 0 then quotient else quotient + 1

/-- The numerator and the denominator of `num / den` over `2 ^ e`. -/
def scale (num den : Nat) (e : Int) : Nat × Nat :=
  if 0 ≤ e then (num, den * Nat.pow 2 e.toNat) else (num * Nat.pow 2 (-e).toNat, den)

/-- The greatest `e` with `2 ^ e ≤ num / den`, for a positive quotient. -/
def floorLog2 (num den : Nat) : Int :=
  let guess : Int := (Nat.log2 num : Int) - Nat.log2 den
  let (n, d) := scale num den guess
  if d ≤ n then guess else guess - 1

/-- The nearest number, or `none` if that is out of range. -/
def ofQuotient (num den : Nat) : Option Binary64 :=
  if num = 0 then some zero
  else
    let e := max (-1074) (floorLog2 num den - 52)
    let (n, d) := scale num den e
    let m := roundQuotient n d
    let x : Binary64 := if m = Nat.pow 2 53 then ⟨Nat.pow 2 52, e + 1⟩ else ⟨m, e⟩
    if x.exponent ≤ 971 then some x else none

/-- The rounded product. -/
def mul (x y : Binary64) : Option Binary64 :=
  ofQuotient (x.fraction.1 * y.fraction.1) (x.fraction.2 * y.fraction.2)

/-- The rounded quotient. -/
def div (x y : Binary64) : Option Binary64 :=
  ofQuotient (x.fraction.1 * y.fraction.2) (x.fraction.2 * y.fraction.1)

/-- The number nearest to a power of ten, for an exponent up to 308. -/
def powerOfTen (k : Nat) : Binary64 := (ofQuotient (Nat.pow 10 k) 1).getD zero

/-! ### Decimal form -/

/-- Decimal digits and the exponent of the first of them: `d.ddd * 10 ^ exponent`. -/
structure Digits where
  digits   : Text
  exponent : Int
  deriving DecidableEq, Repr

/-- The least `k ≥ start` with `den ≤ num * 10 ^ k`, as far as the fuel goes. -/
def leastShift (num den : Nat) : Nat → Nat → Nat
  | 0, k => k
  | fuel + 1, k => if den ≤ num * Nat.pow 10 k then k else leastShift num den fuel (k + 1)

/-- The greatest `k` with `10 ^ k ≤ num / den`, for a positive quotient. -/
def floorLog10 (num den : Nat) : Int :=
  if den ≤ num then ((Nat.toDigits 10 (num / den)).length : Int) - 1
  else -(leastShift num den 400 1 : Int)

/-- `a / b` lies between `lo / b` and `hi / b`; the ends count if `ends`. -/
def within (ends : Bool) (lo a hi : Nat) : Bool :=
  if ends then lo ≤ a && a ≤ hi else lo < a && a < hi

/-- The multiples of `10 ^ place` next to the number that round back to it; the nearer, or the
even one of two at the same distance. -/
def onGrid (x : Binary64) (place : Int) : Option Nat :=
  let low : Nat := if x.mantissa = Nat.pow 2 52 ∧ -1074 < x.exponent then 1 else 2
  let (num, den) := fraction ⟨1, x.exponent⟩
  -- all over the common denominator `4 * den`, and over `10 ^ -place` when that is below one
  let (up, down) : Nat × Nat :=
    if 0 ≤ place then (1, Nat.pow 10 place.toNat) else (Nat.pow 10 (-place).toNat, 1)
  let value := 4 * x.mantissa * num * up
  let lo := (4 * x.mantissa - low) * num * up
  let hi := (4 * x.mantissa + 2) * num * up
  let unit := 4 * den * down
  let below := value / unit
  let ends := x.mantissa % 2 = 0
  let fits (d : Nat) : Bool := within ends lo (d * unit) hi
  if fits below && fits (below + 1) then
    let left := value - below * unit
    let right := (below + 1) * unit - value
    if left < right then some below
    else if right < left then some (below + 1)
    else if below % 2 = 0 then some below else some (below + 1)
  else if fits below then some below
  else if fits (below + 1) then some (below + 1)
  else none

/-- The first grid with a hit, from `count` digits on. -/
def shortestFrom (x : Binary64) (top : Int) : Nat → Nat → Digits
  | 0, _ => ⟨['0'], 0⟩
  | fuel + 1, count =>
    match onGrid x (top - count + 1) with
    | some n =>
      let digits := Text.ofNat n
      ⟨digits, top + ((digits.length : Int) - count)⟩
    | none => shortestFrom x top fuel (count + 1)

/-- The shortest digits of a positive number. -/
def shortest (x : Binary64) : Digits :=
  let (num, den) := x.fraction
  shortestFrom x (floorLog10 num den) 17 1

/-- The digits without zeros at their end. -/
def dropZeros (digits : Text) : Text :=
  (digits.reverse.dropWhile (· == '0')).reverse

/-- An exponent with its sign. -/
def exponentText (e : Int) : Text :=
  if 0 ≤ e then '+' :: Text.ofNat e.toNat else '-' :: Text.ofNat (-e).toNat

/-- The shortest decimal form.  It is positional with a point for exponents from -5 to 15, and
scientific beyond these. -/
def toText (x : Binary64) : Text :=
  if x.mantissa = 0 then "0.0"
  else
    let form := x.shortest
    let digits := dropZeros form.digits
    let e := form.exponent
    if -5 ≤ e ∧ e < 0 then "0." ++ List.replicate ((-e).toNat - 1) '0' ++ digits
    else if 0 ≤ e ∧ e ≤ 15 then
      let whole := digits.take (e.toNat + 1)
      let rest := digits.drop (e.toNat + 1)
      whole ++ List.replicate (e.toNat + 1 - whole.length) '0' ++ "." ++
        (if rest.isEmpty then ['0'] else rest)
    else
      let rest := digits.drop 1
      digits.take 1 ++ (if rest.isEmpty then [] else '.' :: rest) ++ "e" ++ exponentText e

end Binary64

end PatternBook
