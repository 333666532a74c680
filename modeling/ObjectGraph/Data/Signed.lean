/-!
Integers that fit in a number of bits, in two's complement.
-/

namespace ObjectGraph

/-- Whether an integer fits in a number of bits. -/
def FitsBits (bits : Nat) (n : Int) : Prop := -Nat.pow 2 (bits - 1) ≤ n ∧ n < Nat.pow 2 (bits - 1)

instance (bits : Nat) (n : Int) : Decidable (FitsBits bits n) := inferInstanceAs (Decidable (_ ∧ _))

/-- An integer of a number of bits. -/
structure Signed (bits : Nat) where
  toInt : Int
  fits : FitsBits bits toInt
deriving DecidableEq

namespace Signed

/-- The integer of a number of bits with a value, if it fits. -/
def ofInt? (bits : Nat) (n : Int) : Option (Signed bits) :=
  if h : FitsBits bits n then some ⟨n, h⟩ else none

theorem ofInt?_of_fits {bits : Nat} {n : Int} (h : FitsBits bits n) : ofInt? bits n = some ⟨n, h⟩ := dif_pos h

theorem ofInt?_of_not_fits {bits : Nat} {n : Int} (h : ¬ FitsBits bits n) : ofInt? bits n = none := dif_neg h

theorem toInt_of_ofInt? {bits : Nat} {n : Int} {m : Signed bits} (h : ofInt? bits n = some m) : m.toInt = n := by
  unfold ofInt? at h
  split at h <;> cases h
  rfl

/-- Zero fits in any number of bits. -/
def zero (bits : Nat) : Signed bits :=
  have hp : 0 < Nat.pow 2 (bits - 1) := Nat.pow_pos (by decide)
  ⟨0, Int.neg_nonpos_of_nonneg (Int.natCast_nonneg _), Int.natCast_pos.mpr hp⟩

end Signed

theorem FitsBits.mono {a b : Nat} {n : Int} (h : a ≤ b) (hn : FitsBits a n) : FitsBits b n := by
  have hp : Nat.pow 2 (a - 1) ≤ Nat.pow 2 (b - 1) := Nat.pow_le_pow_right (by decide) (Nat.sub_le_sub_right h 1)
  unfold FitsBits at *
  omega

/-- An integer as one of more bits. -/
def Signed.widen {a b : Nat} (h : a ≤ b) (n : Signed a) : Signed b := ⟨n.toInt, n.fits.mono h⟩

end ObjectGraph
