import PatternBook.Comment.Block

/-!
# Places behind a text

What a text does to a place that moves over it: its bytes and its lines are added, and whether code
stands before the place is settled by its last line.

* `offset_past`, `line_past`, `afterCode_past_newline`: bytes, lines and code.
* `past_behind`: a place that starts further on moves in the same way.
-/

namespace PatternBook.Place

theorem offset_past (p : Place) (s : Text) : (p.past s).offset = p.offset + s.size := by
  induction s generalizing p with
  | nil => rfl
  | cons c s ih =>
      have hnext : (p.next c).offset = p.offset + c.utf8Size := by unfold next; split <;> rfl
      rw [Text.size, ← Nat.add_assoc, ← hnext]
      exact ih (p.next c)

theorem line_past (p : Place) (s : Text) : (p.past s).line = p.line + s.count '\n' := by
  induction s generalizing p with
  | nil => rfl
  | cons c s ih =>
      refine (ih (p.next c)).trans ?_
      by_cases hc : c = '\n'
      · subst hc
        rw [List.count_cons_self, Nat.add_comm _ 1, ← Nat.add_assoc]
        rfl
      · rw [List.count_cons_of_ne hc, next, if_neg hc]

theorem afterCode_past_newline (p : Place) (s : Text) :
    (p.past (s ++ ['\n'])).afterCode = false := by
  rw [past_append]
  rfl

/-! ### Further on -/

/-- The place, if a text whose last line has ended is put in front of its source. -/
def behind (a : Text) (p : Place) : Place :=
  ⟨p.offset + a.size, p.line + a.count '\n', p.afterCode⟩

theorem next_behind (a : Text) (p : Place) (c : Char) :
    (p.behind a).next c = (p.next c).behind a := by
  unfold next
  split <;> simp only [behind, mk.injEq, and_true] <;> omega

/-- A place that starts further on moves in the same way. -/
theorem past_behind (a : Text) (p : Place) (s : Text) :
    (p.behind a).past s = (p.past s).behind a := by
  induction s generalizing p with
  | nil => rfl
  | cons c s ih =>
      calc ((p.behind a).next c).past s
          = ((p.next c).behind a).past s := by rw [next_behind]
        _ = ((p.next c).past s).behind a := ih (p.next c)

end PatternBook.Place
