import ObjectGraph.Proofs.Text.Padding
import ObjectGraph.Text.Numeral

/-!
Decimal numerals read back: the digits of a number denote it, and what is read as an unsigned number
holds digits only, after a sign.  Every numeral of an integer reads as the integer.
-/

namespace ObjectGraph.Numeral

theorem ofDigits_digits (n : Nat) : ofDigits (digits n) = n := by
  have h := Nat.ofDigitChars_ten_toDigits (n := n)
  rw [Nat.ofDigitChars_eq_foldl] at h
  exact h

theorem digits_ne_nil (n : Nat) : digits n ≠ [] := Nat.toDigits_ne_nil

theorem isDigit_of_mem_digits {n : Nat} {c : Char} (h : c ∈ digits n) : c.isDigit = true :=
  Nat.isDigit_of_mem_toDigits (by decide) (by decide) h

theorem read?_of_isDigit {ds : List Char} (hne : ds ≠ []) (hall : ∀ d ∈ ds, d.isDigit = true) :
    read? ds = some (ofDigits ds) := by
  rw [read?, if_pos ⟨hne, List.all_eq_true.mpr hall⟩]

theorem read?_digits (n : Nat) : read? (digits n) = some n := by
  rw [read?_of_isDigit (digits_ne_nil n) fun _ => isDigit_of_mem_digits, ofDigits_digits]

theorem all_isDigit_of_read? {cs : List Char} {n : Nat} (h : read? cs = some n) : ∀ c ∈ cs, c.isDigit = true := by
  unfold read? at h
  split at h
  · rename_i hcs
    exact List.all_eq_true.mp hcs.2
  · cases h

/-- A sign is read away, and without one the whole text is. -/
theorem readUnsigned?_of_ne {cs : List Char} (h : ∀ rest, cs ≠ '+' :: rest) : readUnsigned? cs = read? cs := by
  unfold readUnsigned?
  split
  · rename_i rest
    exact absurd rfl (h rest)
  · rfl

theorem readUnsigned?_digits (n : Nat) : readUnsigned? (digits n) = some n := by
  rw [readUnsigned?_of_ne, read?_digits]
  intro rest h
  have : '+'.isDigit = true := isDigit_of_mem_digits (h ▸ List.mem_cons_self)
  exact absurd this (by decide)

theorem isDigit_or_plus_of_readUnsigned? {cs : List Char} {n : Nat} (h : readUnsigned? cs = some n) :
    ∀ c ∈ cs, c.isDigit = true ∨ c = '+' := by
  unfold readUnsigned? at h
  split at h
  · intro c hc
    rcases List.mem_cons.mp hc with rfl | hc
    · exact Or.inr rfl
    · exact Or.inl (all_isDigit_of_read? h c hc)
  · exact fun c hc => Or.inl (all_isDigit_of_read? h c hc)

/-! ### Integers -/

/-- The numerals of an integer: one or more digits, which a sign may precede. -/
inductive Denotes : List Char → Int → Prop
  | unsigned {ds : List Char} : ds ≠ [] → (∀ d ∈ ds, d.isDigit = true) → Denotes ds (ofDigits ds)
  | plus {ds : List Char} : ds ≠ [] → (∀ d ∈ ds, d.isDigit = true) → Denotes ('+' :: ds) (ofDigits ds)
  | minus {ds : List Char} : ds ≠ [] → (∀ d ∈ ds, d.isDigit = true) → Denotes ('-' :: ds) (-(ofDigits ds : Int))

variable {cs : List Char} {n : Int}

theorem readSigned?_of_denotes (h : Denotes cs n) : readSigned? cs = some n := by
  cases h with
  | unsigned hne hall =>
    have hsign {c : Char} (hc : c.isDigit = false) (rest : List Char) : cs ≠ c :: rest := by
      rintro rfl
      rw [hall c List.mem_cons_self] at hc
      cases hc
    unfold readSigned?
    split
    · exact absurd rfl (hsign (by decide) _)
    · exact absurd rfl (hsign (by decide) _)
    · rw [read?_of_isDigit hne hall]
      rfl
  | plus hne hall =>
    rw [readSigned?, read?_of_isDigit hne hall]
    rfl
  | minus hne hall =>
    rw [readSigned?, read?_of_isDigit hne hall]
    rfl

theorem toNat_of_isDigit {c : Char} (h : c.isDigit = true) : 48 ≤ c.toNat ∧ c.toNat ≤ 57 := by
  rw [Char.isDigit, Bool.and_eq_true, decide_eq_true_iff, decide_eq_true_iff] at h
  exact h

theorem not_isBlank_of_isDigit {c : Char} (h : c.isDigit = true) : isBlank c = false := by
  have hrange := toNat_of_isDigit h
  simp only [isBlank, Bool.or_eq_false_iff, Bool.and_eq_false_iff, decide_eq_false_iff_not, beq_eq_false_iff_ne]
  omega

/-- Digits are before all capitals, so they are in no case. -/
theorem toLower_of_isDigit {c : Char} (h : c.isDigit = true) : c.toLower = c := by
  have hrange := toNat_of_isDigit h
  refine dif_neg ?_
  rintro ⟨hcapital, -⟩
  have hafter : 65 ≤ c.toNat := hcapital
  omega

theorem isDigit_or_sign_of_denotes (h : Denotes cs n) : ∀ c ∈ cs, c.isDigit = true ∨ c = '+' ∨ c = '-' := by
  cases h with
  | unsigned _ hall => exact fun c hc => Or.inl (hall c hc)
  | plus _ hall => exact List.forall_mem_cons.mpr ⟨Or.inr (Or.inl rfl), fun c hc => Or.inl (hall c hc)⟩
  | minus _ hall => exact List.forall_mem_cons.mpr ⟨Or.inr (Or.inr rfl), fun c hc => Or.inl (hall c hc)⟩

theorem isTight_of_denotes (h : Denotes cs n) : IsTight cs := by
  refine isTight_of_all fun c hc => ?_
  rcases isDigit_or_sign_of_denotes h c hc with hdigit | rfl | rfl
  · exact not_isBlank_of_isDigit hdigit
  · rfl
  · rfl

theorem toList_ofInt (n : Int) :
    (ofInt n).toList = if n < 0 then '-' :: digits n.natAbs else digits n.natAbs := by
  unfold ofInt ofNat
  split
  · rw [String.toList_append, String.toList_ofList, String.toList_ofList]
    rfl
  · rw [String.toList_ofList]

theorem denotes_ofInt (n : Int) : Denotes (ofInt n).toList n := by
  have hdigits : ∀ d ∈ digits n.natAbs, d.isDigit = true := fun _ => isDigit_of_mem_digits
  rw [toList_ofInt]
  split
  · rename_i hneg
    have hminus := Denotes.minus (digits_ne_nil n.natAbs) hdigits
    rwa [ofDigits_digits, Int.ofNat_natAbs_of_nonpos (Int.le_of_lt hneg), Int.neg_neg] at hminus
  · rename_i hpos
    have hunsigned := Denotes.unsigned (digits_ne_nil n.natAbs) hdigits
    rwa [ofDigits_digits, Int.natAbs_of_nonneg (Int.not_lt.mp hpos)] at hunsigned

end ObjectGraph.Numeral
