import PatternBook.Text.Basic

/-!
# Blanks

The characters with the Unicode property of white space, and the trimming that removes them.
Trimming either end twice is trimming it once (`trimStart_trimStart`, `trimEnd_trimEnd`).
-/

namespace PatternBook

/-- White space. -/
def isBlank (c : Char) : Bool :=
  let n := c.toNat
  (9 ≤ n && n ≤ 13) || n == 0x20 || n == 0x85 || n == 0xA0 || n == 0x1680 ||
    (0x2000 ≤ n && n ≤ 0x200A) || n == 0x2028 || n == 0x2029 || n == 0x202F || n == 0x205F ||
    n == 0x3000

/-- A space or a tab. -/
def isSpaceOrTab (c : Char) : Bool := c == ' ' || c == '\t'

namespace Text

/-- The text from its first character that is not blank. -/
def trimStart (t : Text) : Text := t.dropWhile isBlank

/-- The text up to its last character that is not blank. -/
def trimEnd (t : Text) : Text := (t.reverse.dropWhile isBlank).reverse

/-- The text without blanks at its ends. -/
def trim (t : Text) : Text := trimEnd (trimStart t)

theorem trimStart_trimStart (t : Text) : trimStart (trimStart t) = trimStart t := by
  induction t with
  | nil => rfl
  | cons c t ih =>
    cases h : isBlank c with
    | true => simpa [trimStart, List.dropWhile, h] using ih
    | false => simp [trimStart, List.dropWhile, h]

theorem trimEnd_trimEnd (t : Text) : trimEnd (trimEnd t) = trimEnd t := by
  have h := trimStart_trimStart t.reverse
  simp only [trimStart] at h
  simp [trimEnd, h]

end Text

end PatternBook
