import PatternBook.Text.Utf8

/-!
# The bytes of a text

An ASCII character is one byte, below `0x80`; every byte of any other character is at least
`0x80`.  So the bytes of an ASCII text stand in the bytes of another text only where its
characters do.

* `split_ascii`: a byte below `0x80` in a text is an ASCII character of it.
* `prefix_ascii`, `infix_ascii`: the same for the bytes of an ASCII text, at the start and anywhere.
-/

namespace PatternBook.Utf8

/-- The byte of an ASCII character. -/
def byteOf (c : Char) : UInt8 := UInt8.ofNat c.toNat

theorem encode_cons (c : Char) (t : Text) : encode (c :: t) = encode [c] ++ encode t :=
  encode_append [c] t

theorem encode_ascii {c : Char} (h : c.toNat < 0x80) : encode [c] = [byteOf c] := by
  simp [encode, encodeCode, h, byteOf]

theorem toNat_byteOf {c : Char} (h : c.toNat < 0x80) : (byteOf c).toNat = c.toNat :=
  toNat_ofNat_of_lt (by omega)

theorem byteOf_lt {c : Char} (h : c.toNat < 0x80) : byteOf c < 0x80 := by
  rw [UInt8.lt_iff_toNat_lt, toNat_byteOf h]
  exact h

theorem byteOf_inj {c d : Char} (hc : c.toNat < 0x80) (hd : d.toNat < 0x80)
    (h : byteOf c = byteOf d) : c = d := by
  have h' := congrArg UInt8.toNat h
  rw [toNat_byteOf hc, toNat_byteOf hd] at h'
  rw [← ofNat_toNat c, h', ofNat_toNat]

/-- The bytes of a character that is not ASCII. -/
theorem encode_wide {c : Char} (h : ¬ c.toNat < 0x80) : ∀ b ∈ encode [c], 0x80 ≤ b := by
  have hlt : c.toNat < 0x110000 := by
    rcases c.valid with h | h
    · exact Nat.lt_trans h (by decide)
    · exact h.2
  have key : ∀ n, 0x80 ≤ n → n < 256 → (0x80 : UInt8) ≤ UInt8.ofNat n := fun n h₁ h₂ => by
    rw [UInt8.le_iff_toNat_le, toNat_ofNat_of_lt h₂]
    exact h₁
  intro b hb
  simp only [encode, List.flatMap_cons, List.flatMap_nil, List.append_nil, List.mem_map] at hb
  obtain ⟨n, hn, rfl⟩ := hb
  unfold encodeCode at hn
  rw [if_neg h] at hn
  split at hn
  · simp only [List.mem_cons, List.not_mem_nil, or_false] at hn
    rcases hn with rfl | rfl <;> exact key _ (by omega) (by omega)
  split at hn
  · simp only [List.mem_cons, List.not_mem_nil, or_false] at hn
    rcases hn with rfl | rfl | rfl <;> exact key _ (by omega) (by omega)
  · simp only [List.mem_cons, List.not_mem_nil, or_false] at hn
    rcases hn with rfl | rfl | rfl | rfl <;> exact key _ (by omega) (by omega)

theorem length_encode_singleton (c : Char) : (encode [c]).length = c.utf8Size := by
  have h : c.val.toNat = c.toNat := rfl
  simp only [encode, List.flatMap_cons, List.flatMap_nil, List.append_nil, List.length_map,
    encodeCode, Char.utf8Size, UInt32.le_iff_toNat_le, h]
  repeat' split
  all_goals first | rfl | (simp at *; omega)

theorem encode_singleton_ne_nil (c : Char) : encode [c] ≠ [] := by
  intro h
  have := length_encode_singleton c
  rw [h] at this
  exact absurd this (Nat.ne_of_lt c.utf8Size_pos)

theorem encode_eq_nil_iff {t : Text} : encode t = [] ↔ t = [] := by
  cases t with
  | nil => exact iff_of_true rfl rfl
  | cons c t =>
      rw [encode_cons, List.append_eq_nil_iff]
      exact iff_of_false (fun h => encode_singleton_ne_nil c h.1) (List.cons_ne_nil c t)

/-- A character with a byte below `0x80` is that byte. -/
theorem eq_of_byteOf_mem {c d : Char} (hc : c.toNat < 0x80) (h : byteOf c ∈ encode [d]) :
    d = c := by
  by_cases hd : d.toNat < 0x80
  · rw [encode_ascii hd, List.mem_singleton] at h
    exact (byteOf_inj hc hd h).symm
  · exact absurd (encode_wide hd _ h) (UInt8.not_le.2 (byteOf_lt hc))

/-- **A byte below `0x80` in a text is an ASCII character of it.** -/
theorem split_ascii {c : Char} (hc : c.toNat < 0x80) {t : Text} {u v : Bytes}
    (h : encode t = u ++ byteOf c :: v) :
    ∃ s r, t = s ++ c :: r ∧ u = encode s ∧ v = encode r := by
  induction t generalizing u with
  | nil => cases u <;> cases h
  | cons d t ih =>
      -- the byte stands behind the bytes of `d`, or it is one of them
      have behind : ∀ w, u = encode [d] ++ w → encode t = w ++ byteOf c :: v →
          ∃ s r, d :: t = s ++ c :: r ∧ u = encode s ∧ v = encode r := by
        intro w hu ht
        obtain ⟨s, r, rfl, rfl, rfl⟩ := ih ht
        exact ⟨d :: s, r, rfl, by rw [hu, ← encode_cons], rfl⟩
      rw [encode_cons] at h
      rcases List.append_eq_append_iff.1 h with ⟨w, hu, ht⟩ | ⟨w, hd, hw⟩
      · exact behind w hu ht
      · cases w with
        | nil => exact behind [] (by simpa using hd.symm) (by simpa using hw.symm)
        | cons b w =>
            obtain ⟨rfl, hv⟩ := List.cons.inj hw
            obtain rfl := eq_of_byteOf_mem hc (hd ▸ List.mem_append_right u List.mem_cons_self)
            rw [encode_ascii hc] at hd
            obtain ⟨rfl, rfl⟩ : u = [] ∧ w = [] := by
              have := congrArg List.length hd
              simp only [List.length_append, List.length_cons, List.length_nil] at this
              exact ⟨List.length_eq_zero_iff.1 (by omega), List.length_eq_zero_iff.1 (by omega)⟩
            exact ⟨[], t, rfl, rfl, hv⟩

/-- All characters are ASCII. -/
def IsAscii (t : Text) : Prop := ∀ c ∈ t, c.toNat < 0x80

instance (t : Text) : Decidable (IsAscii t) := List.decidableBAll _ t

theorem prefix_ascii {m t : Text} {v : Bytes} (hm : IsAscii m) (h : encode t = encode m ++ v) :
    ∃ r, t = m ++ r ∧ v = encode r := by
  induction m generalizing t with
  | nil => exact ⟨t, rfl, h.symm⟩
  | cons c m ih =>
      have hc := hm c List.mem_cons_self
      rw [encode_cons, encode_ascii hc, List.append_assoc] at h
      obtain ⟨s, r, rfl, hs, hr⟩ := split_ascii (u := []) hc h
      obtain rfl := encode_eq_nil_iff.1 hs.symm
      obtain ⟨r, rfl, rfl⟩ := ih (fun d hd => hm d (List.mem_cons_of_mem c hd)) hr.symm
      exact ⟨r, rfl, rfl⟩

theorem infix_ascii {m t : Text} {u v : Bytes} (hm : IsAscii m) (hne : m ≠ [])
    (h : encode t = u ++ encode m ++ v) :
    ∃ s r, t = s ++ m ++ r ∧ u = encode s ∧ v = encode r := by
  cases m with
  | nil => exact absurd rfl hne
  | cons c m =>
      have hc := hm c List.mem_cons_self
      rw [encode_cons, encode_ascii hc, List.append_assoc, List.append_assoc] at h
      obtain ⟨s, r, rfl, rfl, hr⟩ := split_ascii hc h
      obtain ⟨r, rfl, rfl⟩ := prefix_ascii (fun d hd => hm d (List.mem_cons_of_mem c hd)) hr.symm
      exact ⟨s, r, by simp, rfl, rfl⟩

end PatternBook.Utf8
