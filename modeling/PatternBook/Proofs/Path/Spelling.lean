import PatternBook.Path
import PatternBook.Proofs.Text.Bytes

/-!
# Paths spelled by texts

What is said of a path by its bytes is said of its spelling by characters, because `/` is ASCII.

* `isAbsolute_ofText`: a path is absolute if its spelling starts with `/`.
* `join_ofText`: two paths are joined by putting `/` between their spellings, unless the first one
  ends in it.
-/

namespace PatternBook

namespace Utf8

theorem head?_encode {c : Char} (hc : c.toNat < 0x80) (t : Text) :
    (encode t).head? = some (byteOf c) ↔ t.head? = some c := by
  constructor
  · intro h
    obtain ⟨v, hv⟩ := List.head?_eq_some_iff.1 h
    obtain ⟨s, r, rfl, hs, -⟩ := split_ascii (u := []) hc hv
    obtain rfl := encode_eq_nil_iff.1 hs.symm
    rfl
  · intro h
    obtain ⟨r, rfl⟩ := List.head?_eq_some_iff.1 h
    rw [encode_cons, encode_ascii hc]
    rfl

theorem getLast?_encode {c : Char} (hc : c.toNat < 0x80) (t : Text) :
    (encode t).getLast? = some (byteOf c) ↔ t.getLast? = some c := by
  constructor
  · intro h
    obtain ⟨u, hu⟩ := List.getLast?_eq_some_iff.1 h
    obtain ⟨s, r, rfl, -, hr⟩ := split_ascii hc hu
    obtain rfl := encode_eq_nil_iff.1 hr.symm
    exact List.getLast?_concat
  · intro h
    obtain ⟨s, rfl⟩ := List.getLast?_eq_some_iff.1 h
    rw [encode_append, encode_ascii hc, List.getLast?_concat]

/-- The byte of an ASCII character stands in the bytes of texts with that character only. -/
theorem mem_encode {c : Char} (hc : c.toNat < 0x80) {t : Text} : byteOf c ∈ encode t ↔ c ∈ t := by
  constructor
  · intro h
    obtain ⟨u, v, hsplit⟩ := List.append_of_mem h
    obtain ⟨s, r, rfl, -, -⟩ := split_ascii hc hsplit
    exact List.mem_append_right s List.mem_cons_self
  · intro h
    obtain ⟨s, r, rfl⟩ := List.append_of_mem h
    rw [encode_append, encode_cons, encode_ascii hc]
    exact List.mem_append_right _ (List.mem_append_left _ List.mem_cons_self)

end Utf8

namespace Path

theorem byteOf_slash : Utf8.byteOf '/' = slash := rfl

theorem isAbsolute_ofText (t : Text) : (ofText t).isAbsolute = true ↔ t.head? = some '/' := by
  rw [isAbsolute, beq_iff_eq, ← byteOf_slash]
  exact Utf8.head?_encode (by decide) t

/-- What stands between a path and one that is looked up from it. -/
def separator (r : Text) : Text := if r.getLast? = some '/' then [] else ['/']

/-- Something that ends in `/` once the separator is there. -/
theorem getLast?_append_separator (r : Text) : (r ++ separator r).getLast? = some '/' := by
  rw [separator]
  split
  · next h => rw [List.append_nil, h]
  · exact List.getLast?_concat

/-- An absolute path stays where it is. -/
theorem join_ofText_of_absolute {t : Text} (ht : t.head? = some '/') (p : Path) :
    p.join (ofText t) = ofText t := by
  rw [join, (isAbsolute_ofText t).2 ht, Bool.true_or, if_pos rfl]

/-- A relative path is looked up from another one by putting their spellings together. -/
theorem join_ofText {r t : Text} (hr : r ≠ []) (ht : t.head? ≠ some '/') :
    (ofText r).join (ofText t) = ofText (r ++ separator r ++ t) := by
  have habsolute : (ofText t).isAbsolute = false := by
    rw [← Bool.not_eq_true, isAbsolute_ofText]
    exact ht
  have hbytes : (ofText r).bytes.isEmpty = false := by
    rw [List.isEmpty_eq_false_iff]
    exact fun h => hr (Utf8.encode_eq_nil_iff.1 h)
  have hlast : ((ofText r).bytes.getLast? == some slash) = true ↔ r.getLast? = some '/' := by
    rw [beq_iff_eq, ← byteOf_slash]
    exact Utf8.getLast?_encode (by decide) r
  rw [join, habsolute, hbytes, separator]
  by_cases h : r.getLast? = some '/'
  · rw [if_neg (by nofun), if_pos (hlast.2 h), if_pos h, List.append_nil, ofText, ofText, ofText,
      Utf8.encode_append]
  · rw [if_neg (by nofun), if_neg (fun h' => h (hlast.1 h')), if_neg h, ofText, ofText, ofText,
      Utf8.encode_append, Utf8.encode_append, Utf8.encode_ascii (by decide), byteOf_slash,
      List.append_assoc]
    rfl

end Path

end PatternBook
