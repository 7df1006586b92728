import PatternBook.Text.Basic

/-!
# UTF-8

Bytes of a text and the text of bytes.  Reading never fails: each longest run of bytes that starts
a character and does not finish it, and each byte that starts none, is one missing piece, and the
replacement character stands for it in `decode`.

* `pieces_encode`: reading what was written gives every character back.
* `decode_encode`, `decode?_encode`: the same for the two ways to fill the missing pieces.
-/

namespace PatternBook

/-- A sequence of bytes. -/
abbrev Bytes := List UInt8

namespace Utf8

/-! ### Writing -/

/-- The bytes of a code point, as numbers. -/
def encodeCode (n : Nat) : List Nat :=
  if n < 0x80 then [n]
  else if n < 0x800 then [0xC0 + n / 64, 0x80 + n % 64]
  else if n < 0x10000 then [0xE0 + n / 4096, 0x80 + n / 64 % 64, 0x80 + n % 64]
  else [0xF0 + n / 262144, 0x80 + n / 4096 % 64, 0x80 + n / 64 % 64, 0x80 + n % 64]

/-- The bytes of a text. -/
def encode (t : Text) : Bytes :=
  t.flatMap fun c => (encodeCode c.toNat).map UInt8.ofNat

theorem encode_append (s t : Text) : encode (s ++ t) = encode s ++ encode t := by
  simp [encode]

/-! ### Reading -/

/-- A character of which some bytes have been read: the next byte lies between `low` and `high`,
`more` bytes follow that one, and `code` is the code point so far. -/
structure Pending where
  more : Nat
  low  : Nat
  high : Nat
  code : Nat
  deriving DecidableEq, Repr

/-- What the first byte of a character says. -/
inductive Lead where
  | whole (c : Option Char)
  | part (p : Pending)
  deriving DecidableEq, Repr

/-- A first byte: an ASCII character, the start of a longer one, or neither. -/
def lead (b : Nat) : Lead :=
  if b < 0x80 then .whole (some (Char.ofNat b))
  else if b < 0xC2 then .whole none
  else if b < 0xE0 then .part ⟨0, 0x80, 0xBF, b - 0xC0⟩
  else if b = 0xE0 then .part ⟨1, 0xA0, 0xBF, 0⟩
  else if b = 0xED then .part ⟨1, 0x80, 0x9F, 0xD⟩
  else if b < 0xF0 then .part ⟨1, 0x80, 0xBF, b - 0xE0⟩
  else if b = 0xF0 then .part ⟨2, 0x90, 0xBF, 0⟩
  else if b < 0xF4 then .part ⟨2, 0x80, 0xBF, b - 0xF0⟩
  else if b = 0xF4 then .part ⟨2, 0x80, 0x8F, 4⟩
  else .whole none

/-- The characters of the bytes, `none` for a missing one, after a part of a character. -/
def piecesFrom : Option Pending → Bytes → List (Option Char)
  | none, [] => []
  | some _, [] => [none]
  | none, b :: t =>
    match lead b.toNat with
    | .whole c => c :: piecesFrom none t
    | .part p => piecesFrom (some p) t
  | some p, b :: t =>
    if p.low ≤ b.toNat ∧ b.toNat ≤ p.high then
      match p.more with
      | 0 => some (Char.ofNat (p.code * 64 + (b.toNat - 0x80))) :: piecesFrom none t
      | more + 1 => piecesFrom (some ⟨more, 0x80, 0xBF, p.code * 64 + (b.toNat - 0x80)⟩) t
    else
      none :: match lead b.toNat with
        | .whole c => c :: piecesFrom none t
        | .part q => piecesFrom (some q) t

/-- The characters of the bytes, `none` for each missing one. -/
def pieces (b : Bytes) : List (Option Char) := piecesFrom none b

/-- The text of the bytes, with the replacement character for each missing piece. -/
def decode (b : Bytes) : Text := (pieces b).map (·.getD '\uFFFD')

/-- The text of the bytes, if they are the bytes of one. -/
def decode? (b : Bytes) : Option Text := (pieces b).mapM id

/-! ### Reading what was written -/

theorem toNat_ofNat_of_lt {n : Nat} (h : n < 256) : (UInt8.ofNat n).toNat = n := by
  simp [Nat.mod_eq_of_lt h]

theorem ofNat_toNat (c : Char) : Char.ofNat c.toNat = c := by
  simp

theorem piecesFrom_encodeCode (n : Nat) (valid : n.isValidChar) (rest : Bytes) :
    piecesFrom none ((encodeCode n).map UInt8.ofNat ++ rest)
      = some (Char.ofNat n) :: piecesFrom none rest := by
  have hlt : n < 0x110000 := by
    rcases valid with h | h <;> omega
  have hsur : ¬ (0xD800 ≤ n ∧ n < 0xE000) := by
    rcases valid with h | h <;> omega
  unfold encodeCode
  split
  · next h =>
    have h1 := toNat_ofNat_of_lt (n := n) (by omega)
    simp only [List.map_cons, List.map_nil, List.cons_append, List.nil_append, piecesFrom, h1,
      lead, h, if_true]
  split
  · next h0 h =>
    have h1 := toNat_ofNat_of_lt (n := 0xC0 + n / 64) (by omega)
    have h2 := toNat_ofNat_of_lt (n := 0x80 + n % 64) (by omega)
    have hl : lead (0xC0 + n / 64) = .part ⟨0, 0x80, 0xBF, n / 64⟩ := by
      unfold lead
      rw [if_neg (by omega), if_neg (by omega), if_pos (by omega)]
      simp
    simp only [List.map_cons, List.map_nil, List.cons_append, List.nil_append, piecesFrom, h1, h2,
      hl]
    rw [if_pos (by omega), show n / 64 * 64 + (0x80 + n % 64 - 0x80) = n by omega]
  split
  · next h00 h0 h =>
    have h1 := toNat_ofNat_of_lt (n := 0xE0 + n / 4096) (by omega)
    have h2 := toNat_ofNat_of_lt (n := 0x80 + n / 64 % 64) (by omega)
    have h3 := toNat_ofNat_of_lt (n := 0x80 + n % 64) (by omega)
    have hl : ∃ low high, lead (0xE0 + n / 4096) = .part ⟨1, low, high, n / 4096⟩ ∧
        low ≤ 0x80 + n / 64 % 64 ∧ 0x80 + n / 64 % 64 ≤ high := by
      unfold lead
      rw [if_neg (by omega), if_neg (by omega), if_neg (by omega)]
      split
      · exact ⟨0xA0, 0xBF,
          by simp only [Lead.part.injEq, Pending.mk.injEq, true_and]; omega, by omega, by omega⟩
      split
      · exact ⟨0x80, 0x9F,
          by simp only [Lead.part.injEq, Pending.mk.injEq, true_and]; omega, by omega, by omega⟩
      rw [if_pos (by omega)]
      exact ⟨0x80, 0xBF,
        by simp only [Lead.part.injEq, Pending.mk.injEq, true_and]; omega, by omega, by omega⟩
    obtain ⟨low, high, hl, hlow, hhigh⟩ := hl
    simp only [List.map_cons, List.map_nil, List.cons_append, List.nil_append, piecesFrom, h1, h2,
      h3, hl]
    rw [if_pos ⟨hlow, hhigh⟩, if_pos (by omega),
      show (n / 4096 * 64 + (0x80 + n / 64 % 64 - 0x80)) * 64 + (0x80 + n % 64 - 0x80) = n
        by omega]
  · next h000 h00 h0 =>
    have h1 := toNat_ofNat_of_lt (n := 0xF0 + n / 262144) (by omega)
    have h2 := toNat_ofNat_of_lt (n := 0x80 + n / 4096 % 64) (by omega)
    have h3 := toNat_ofNat_of_lt (n := 0x80 + n / 64 % 64) (by omega)
    have h4 := toNat_ofNat_of_lt (n := 0x80 + n % 64) (by omega)
    have hl : ∃ low high, lead (0xF0 + n / 262144) = .part ⟨2, low, high, n / 262144⟩ ∧
        low ≤ 0x80 + n / 4096 % 64 ∧ 0x80 + n / 4096 % 64 ≤ high := by
      unfold lead
      rw [if_neg (by omega), if_neg (by omega), if_neg (by omega), if_neg (by omega),
        if_neg (by omega), if_neg (by omega)]
      split
      · exact ⟨0x90, 0xBF,
          by simp only [Lead.part.injEq, Pending.mk.injEq, true_and]; omega, by omega, by omega⟩
      split
      · exact ⟨0x80, 0xBF,
          by simp only [Lead.part.injEq, Pending.mk.injEq, true_and]; omega, by omega, by omega⟩
      rw [if_pos (by omega)]
      exact ⟨0x80, 0x8F,
        by simp only [Lead.part.injEq, Pending.mk.injEq, true_and]; omega, by omega, by omega⟩
    obtain ⟨low, high, hl, hlow, hhigh⟩ := hl
    simp only [List.map_cons, List.map_nil, List.cons_append, List.nil_append, piecesFrom, h1, h2,
      h3, h4, hl]
    rw [if_pos ⟨hlow, hhigh⟩, if_pos (by omega), if_pos (by omega),
      show ((n / 262144 * 64 + (0x80 + n / 4096 % 64 - 0x80)) * 64
        + (0x80 + n / 64 % 64 - 0x80)) * 64 + (0x80 + n % 64 - 0x80) = n by omega]

/-- **Reading what was written gives every character back.** -/
theorem pieces_encode_append (t : Text) (rest : Bytes) :
    pieces (encode t ++ rest) = t.map some ++ pieces rest := by
  induction t with
  | nil => rfl
  | cons c t ih =>
    have h := piecesFrom_encodeCode c.toNat c.valid (encode t ++ rest)
    rw [ofNat_toNat] at h
    simp only [pieces] at ih
    simp only [pieces, encode, List.flatMap_cons, List.append_assoc, List.map_cons,
      List.cons_append]
    simp only [encode] at h ih
    rw [h, ih]

theorem pieces_encode (t : Text) : pieces (encode t) = t.map some := by
  have h := pieces_encode_append t []
  simpa [pieces, piecesFrom] using h

theorem decode_encode (t : Text) : decode (encode t) = t := by
  simp [decode, pieces_encode, Function.comp_def]

theorem decode?_encode (t : Text) : decode? (encode t) = some t := by
  rw [decode?, pieces_encode]
  induction t with
  | nil => rfl
  | cons c t ih => simp [ih]

theorem encode_injective {s t : Text} (h : encode s = encode t) : s = t := by
  rw [← decode_encode s, h, decode_encode]

end Utf8

end PatternBook
