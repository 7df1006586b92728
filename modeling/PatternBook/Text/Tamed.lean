import PatternBook.Text.Quoted

/-!
# Text for a terminal

A text that comes from outside may hold controls that move the cursor of a terminal or change its
colours.  Tamed text names them by their codes instead.  Line ends, tabs and the other controls
stay, and so does a backslash: taming cannot be undone.

* `all_tamed`: nothing in a tamed text steers a terminal.
* `tamed_eq_self`: a text without such controls stays as it is.
-/

namespace PatternBook

/-- A control that steers a terminal: bell, backspace, form feed, escape, delete, or one of the
controls above ASCII. -/
def steersTerminal (c : Char) : Bool :=
  c == '\x07' || c == '\x08' || c == '\x0c' || c == '\x1b' || c == '\x7f' ||
    (0x80 ≤ c.toNat && c.toNat ≤ 0x9F)

namespace Text

/-- The escape that names an ASCII character by its two hexadecimal digits. -/
def byteEscape (c : Char) : Text :=
  "\\x" ++ [Nat.digitChar (c.toNat / 16), Nat.digitChar (c.toNat % 16)]

/-- A character, or its escape if it steers a terminal. -/
def tamedChar (c : Char) : Text :=
  if steersTerminal c then
    if c.toNat < 0x80 then byteEscape c else codeEscape c
  else [c]

/-- The text with escapes for what steers a terminal. -/
def tamed (t : Text) : Text := t.flatMap tamedChar

theorem tamedChar_eq_self {c : Char} (h : steersTerminal c = false) : tamedChar c = [c] := by
  simp [tamedChar, h]

theorem tamed_eq_self {t : Text} (h : ∀ c ∈ t, steersTerminal c = false) : tamed t = t := by
  induction t with
  | nil => rfl
  | cons c t ih =>
    simp only [List.mem_cons, forall_eq_or_imp] at h
    simpa [tamed, tamedChar_eq_self h.1] using ih h.2

theorem tamed_append (s t : Text) : tamed (s ++ t) = tamed s ++ tamed t := by
  simp [tamed]

/-- The escapes of the controls hold none themselves. -/
theorem escapes_steer_not :
    ∀ n < 0xA0, (tamedChar (Char.ofNat n)).all (fun c => !steersTerminal c) = true := by
  decide +kernel

theorem all_tamedChar (c : Char) : (tamedChar c).all (fun d => !steersTerminal d) = true := by
  cases h : steersTerminal c with
  | false => simp [tamedChar, h]
  | true =>
    have hc : c.toNat < 0xA0 := by
      simp only [steersTerminal, Bool.or_eq_true, Bool.and_eq_true, beq_iff_eq,
        decide_eq_true_eq] at h
      rcases h with ((((rfl | rfl) | rfl) | rfl) | rfl) | ⟨-, h⟩
      · decide
      · decide
      · decide
      · decide
      · decide
      · omega
    have := escapes_steer_not c.toNat hc
    rwa [Char.ofNat_toNat] at this

/-- Nothing in a tamed text steers a terminal. -/
theorem all_tamed (t : Text) : ∀ c ∈ tamed t, steersTerminal c = false := by
  intro c hc
  obtain ⟨d, -, hd⟩ := List.mem_flatMap.1 hc
  simpa using List.all_eq_true.1 (all_tamedChar d) c hd

end Text

end PatternBook
