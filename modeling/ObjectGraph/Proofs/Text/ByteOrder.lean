import ObjectGraph.Text.Utf8

/-!
The order of texts by their characters is the order of their UTF-8 bytes.  A character of more bytes has a greater
first byte than one of fewer, and between characters of as many bytes the digits to the base 64 decide.
-/

namespace ObjectGraph.Utf8
variable {c d : Char} {cs ds : List Char} {a b : String}

/-- A code point by its digits to the base 64, as four bytes hold them. -/
theorem exists_digits {v : Nat} (h : v < 0x110000) : ∃ i j k l, i < 8 ∧ j < 64 ∧ k < 64 ∧ l < 64 ∧
    v = i * 262144 + j * 4096 + k * 64 + l ∧ v / 262144 % 8 = i ∧ v / 4096 % 64 = j ∧ v / 64 % 64 = k ∧ v % 64 = l :=
  ⟨v / 262144, v / 4096 % 64, v / 64 % 64, v % 64, by omega, by omega, by omega, by omega, by omega, by omega, rfl, rfl,
    rfl⟩

/-- The greater of two code points of four bytes has the greater bytes. -/
theorem four_bytes_lt {v w : Nat} (h : v < w) (hw : w < 0x110000) (as bs : List UInt8) :
    [UInt8.ofNat (v / 262144 % 8 + 240), UInt8.ofNat (v / 4096 % 64 + 128), UInt8.ofNat (v / 64 % 64 + 128),
        UInt8.ofNat (v % 64 + 128)] ++ as <
      [UInt8.ofNat (w / 262144 % 8 + 240), UInt8.ofNat (w / 4096 % 64 + 128), UInt8.ofNat (w / 64 % 64 + 128),
        UInt8.ofNat (w % 64 + 128)] ++ bs := by
  obtain ⟨i, j, k, l, hi, hj, hk, hl, hv, hvi, hvj, hvk, hvl⟩ := exists_digits (Nat.lt_trans h hw)
  obtain ⟨i', j', k', l', hi', hj', hk', hl', hw', hwi, hwj, hwk, hwl⟩ := exists_digits hw
  rw [hvi, hvj, hvk, hvl, hwi, hwj, hwk, hwl]
  rw [hv, hw'] at h
  simp only [List.cons_append, List.nil_append, List.cons_lt_cons_iff, UInt8.lt_iff_toNat_lt, ← UInt8.toNat_inj,
    UInt8.toNat_ofNat']
  clear hv hvi hvj hvk hvl hw hw' hwi hwj hwk hwl
  omega

theorem utf8EncodeChar_of_four_bytes (h : 65535 < c.val.toNat) : String.utf8EncodeChar c =
    [UInt8.ofNat (c.val.toNat / 262144 % 8 + 240), UInt8.ofNat (c.val.toNat / 4096 % 64 + 128),
      UInt8.ofNat (c.val.toNat / 64 % 64 + 128), UInt8.ofNat (c.val.toNat % 64 + 128)] := by
  have hone : ¬ c.val.toNat ≤ 127 := by omega
  have htwo : ¬ c.val.toNat ≤ 2047 := by omega
  have hthree : ¬ c.val.toNat ≤ 65535 := by omega
  simp only [String.utf8EncodeChar, hone, htwo, hthree, if_false]

theorem utf8EncodeChar_append_lt (h : c < d) (as bs : List UInt8) :
    String.utf8EncodeChar c ++ as < String.utf8EncodeChar d ++ bs := by
  have hlt : c.val.toNat < d.val.toNat := h
  have hmax : d.val.toNat < 0x110000 := by
    rcases d.valid with hsmall | hlarge
    · exact Nat.lt_trans hsmall (by decide)
    · exact hlarge.2
  by_cases hfour : 65535 < c.val.toNat
  · rw [utf8EncodeChar_of_four_bytes hfour, utf8EncodeChar_of_four_bytes (Nat.lt_trans hfour hlt)]
    exact four_bytes_lt hlt hmax as bs
  · -- With fewer bytes there are few digits, or the first bytes differ.
    simp only [String.utf8EncodeChar]
    repeat' split
    all_goals
      simp only [List.cons_append, List.nil_append, List.cons_lt_cons_iff, UInt8.lt_iff_toNat_lt, ← UInt8.toNat_inj,
        UInt8.toNat_ofNat']
      omega

theorem encode_cons : encode (c :: cs) = String.utf8EncodeChar c ++ encode cs := List.flatMap_cons

theorem encode_lt_of_lt (h : cs < ds) : encode cs < encode ds := by
  induction h with
  | nil =>
    rename_i d ds
    rw [encode_cons]
    have hne : String.utf8EncodeChar d ++ encode ds ≠ [] := fun hnil =>
      String.utf8EncodeChar_ne_nil (List.append_eq_nil_iff.mp hnil).1
    obtain ⟨x, xs, hx⟩ := List.exists_cons_of_ne_nil hne
    rw [hx]
    exact List.nil_lt_cons x xs
  | rel h => exact utf8EncodeChar_append_lt h _ _
  | cons _ ih =>
    rw [encode_cons, encode_cons]
    exact List.append_left_lt ih

/-- A text that stands before another one has the lesser bytes. -/
theorem encode_toList_lt (h : a < b) : encode a.toList < encode b.toList := encode_lt_of_lt (String.lt_iff.mp h)

end ObjectGraph.Utf8
