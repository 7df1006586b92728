/-!
# Sets of characters given by ranges

A property of characters outside ASCII is a list of closed ranges of code points.  The tables of
this folder are such lists; a character below `0x80` is always decided by its own rule, so that
what is written in ASCII never depends on a table.
-/

namespace PatternBook

/-- Closed ranges of code points. -/
abbrev Ranges := List (Nat × Nat)

/-- The code point lies in one of the ranges. -/
def Ranges.contains (table : Ranges) (code : Nat) : Bool :=
  table.any fun range => range.1 ≤ code && code ≤ range.2

theorem Ranges.contains_iff {table : Ranges} {code : Nat} :
    table.contains code = true ↔ ∃ range ∈ table, range.1 ≤ code ∧ code ≤ range.2 := by
  simp [Ranges.contains]

end PatternBook
