import Mathlib.Data.List.Nodup
import PatternBook.Anchor
import PatternBook.Proofs.Text.Cuts

/-!
# The anchors of a document

An anchor stands for a use of a slug: the slug, and how often it was used before.  The headings
of a document make as many uses as there are headings, no two alike (`nodup_uses`), so two
headings share an anchor only if two different uses are written alike.  That happens in one way:
one slug is the other with a hyphen and the number of the use at its end (`ofUse_eq_ofUse_iff`).

* `nodup_nextAll_iff`: the anchors are distinct exactly when no slug is such a numbered form of
  another slug that is used that often.
* `exists_shared_anchor`: documents with a shared anchor exist.
-/

namespace PatternBook

/-! ### Numbers at the end of a text -/

namespace Text

theorem hyphen_notMem_ofNat (n : Nat) : '-' ∉ ofNat n := fun h =>
  absurd (Nat.isDigit_of_mem_toDigits (by decide) (by decide) h) (by decide)

theorem ofNat_injective {m n : Nat} (h : ofNat m = ofNat n) : m = n := by
  unfold ofNat at h
  rw [← Nat.ofDigitChars_ten_toDigits (n := m), h, Nat.ofDigitChars_ten_toDigits]

/-- A numbered text determines the text and the number: the number has no hyphen, so it starts
after the last one. -/
theorem numbered_inj {s t : Text} {m n : Nat}
    (h : s ++ "-" ++ ofNat m = t ++ "-" ++ ofNat n) : s = t ∧ m = n := by
  have h' : (ofNat m).reverse ++ '-' :: s.reverse = (ofNat n).reverse ++ '-' :: t.reverse := by
    simpa using congrArg List.reverse h
  obtain ⟨hn, hs⟩ := append_cons_inj (by simpa using hyphen_notMem_ofNat m)
    (by simpa using hyphen_notMem_ofNat n) h'
  exact ⟨List.reverse_injective hs, ofNat_injective (List.reverse_injective hn)⟩

end Text

namespace Anchors

/-! ### Uses -/

/-- The anchor for a slug that was used before as often as the number says. -/
def ofUse (use : Text × Nat) : Text :=
  match use.2 with
  | 0 => use.1
  | n + 1 => use.1 ++ "-" ++ Text.ofNat (n + 1)

theorem ofUse_succ (b : Text) {k : Nat} (hk : 0 < k) :
    ofUse (b, k) = b ++ "-" ++ Text.ofNat k := by
  cases k with
  | zero => exact absurd hk (Nat.lt_irrefl 0)
  | succ k => rfl

/-- The uses that headings make of their slugs, one after the other. -/
def uses (used : Anchors) : List Text → List (Text × Nat)
  | [] => []
  | heading :: rest =>
    (base heading, used.count (base heading)) :: uses (used.add (base heading)) rest

theorem nextAll_eq_map_uses (used : Anchors) (headings : List Text) :
    (nextAll used headings).1 = (uses used headings).map ofUse := by
  induction headings generalizing used with
  | nil => rfl
  | cons heading rest ih =>
      simp only [nextAll, next, uses, List.map_cons, ih]
      rfl

/-- A slug is used from its count on, once for each heading that has it. -/
theorem mem_uses {used : Anchors} {headings : List Text} {b : Text} {k : Nat} :
    (b, k) ∈ uses used headings ↔
      used.count b ≤ k ∧ k < used.count b + (headings.map base).count b := by
  induction headings generalizing used with
  | nil =>
      simp only [uses, List.not_mem_nil, List.map_nil, List.count_nil, false_iff]
      omega
  | cons heading rest ih =>
      simp only [uses, List.mem_cons, Prod.mk.injEq, ih, count_add, List.map_cons,
        List.count_cons, beq_iff_eq]
      by_cases hb : b = base heading
      -- the first use has the count itself, and the others start one higher
      · subst hb
        simp only [true_and, if_true]
        omega
      · simp only [hb, false_and, false_or, if_false, Ne.symm hb, Nat.add_zero]

/-- No use is made twice: a heading raises the count of its slug. -/
theorem nodup_uses (used : Anchors) (headings : List Text) : (uses used headings).Nodup := by
  induction headings generalizing used with
  | nil => exact List.nodup_nil
  | cons heading rest ih =>
      refine List.nodup_cons.2 ⟨fun h => ?_, ih _⟩
      have hle := (mem_uses.1 h).1
      rw [count_add, if_pos rfl] at hle
      omega

/-- Two uses are written alike if they are the same, or if one slug is the numbered form of the
other. -/
theorem ofUse_eq_ofUse_iff {b c : Text} {k m : Nat} :
    ofUse (b, k) = ofUse (c, m) ↔
      (b = c ∧ k = m) ∨ (k = 0 ∧ 0 < m ∧ b = c ++ "-" ++ Text.ofNat m) ∨
        (0 < k ∧ m = 0 ∧ c = b ++ "-" ++ Text.ofNat k) := by
  rcases Nat.eq_zero_or_pos k with rfl | hk <;> rcases Nat.eq_zero_or_pos m with rfl | hm
  · simp [ofUse]
  · rw [ofUse_succ c hm]
    have := Nat.ne_of_lt hm
    simp [ofUse, hm, this]
  · rw [ofUse_succ b hk]
    have := Nat.ne_of_gt hk
    simp [ofUse, hk, this, eq_comm]
  · rw [ofUse_succ b hk, ofUse_succ c hm]
    constructor
    · intro h
      exact .inl (Text.numbered_inj h)
    · rintro (⟨rfl, rfl⟩ | ⟨rfl, -, -⟩ | ⟨-, rfl, -⟩)
      · rfl
      · exact absurd hk (Nat.lt_irrefl 0)
      · exact absurd hm (Nat.lt_irrefl 0)

/-! ### Documents -/

theorem count_empty (b : Text) : count empty b = 0 := rfl

/-- **When the anchors of a document are distinct**: exactly when no slug `b` that is used more
than `k` times, `k` not zero, comes with a heading whose slug is `b`, a hyphen and `k`. -/
theorem nodup_nextAll_iff (headings : List Text) :
    (nextAll empty headings).1.Nodup ↔
      ∀ b k, 0 < k → k < (headings.map base).count b →
        b ++ "-" ++ Text.ofNat k ∉ headings.map base := by
  rw [nextAll_eq_map_uses, List.nodup_map_iff_inj_on (nodup_uses _ _)]
  have mem : ∀ {b k}, (b, k) ∈ uses empty headings ↔ k < (headings.map base).count b := by
    intro b k
    rw [mem_uses, count_empty]
    omega
  constructor
  · intro inj b k hk hb hmem
    -- the first use of the numbered slug is written like the use `k` of `b`
    have h₀ : (b ++ "-" ++ Text.ofNat k, 0) ∈ uses empty headings :=
      mem.2 (List.count_pos_iff.2 hmem)
    have h := inj _ h₀ _ (mem.2 hb) (ofUse_eq_ofUse_iff.2 (.inr (.inl ⟨rfl, hk, rfl⟩)))
    exact absurd (congrArg Prod.snd h) (Nat.ne_of_lt hk)
  · rintro free ⟨b, k⟩ hb ⟨c, m⟩ hc h
    rcases ofUse_eq_ofUse_iff.1 h with ⟨rfl, rfl⟩ | ⟨rfl, hm, rfl⟩ | ⟨hk, rfl, rfl⟩
    · rfl
    · exact absurd (List.count_pos_iff.1 (mem.1 hb)) (free c m hm (mem.1 hc))
    · exact absurd (List.count_pos_iff.1 (mem.1 hc)) (free b k hk (mem.1 hb))

/-- A heading can take an anchor that a repeated one has: the second `a` and the third `a-1`. -/
theorem exists_shared_anchor : ¬ ∀ headings, (nextAll empty headings).1.Nodup := by
  intro h
  exact absurd (h ["a", "a", "a-1"]) (by decide)

end Anchors

end PatternBook
