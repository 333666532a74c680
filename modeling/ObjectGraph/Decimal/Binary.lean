/-!
Binary floating-point formats: the number that a bit pattern stands for, and the pattern of the
number nearest to a quotient.
-/

namespace ObjectGraph

/-- A binary interchange format with a sign bit, `exponentBits` bits of exponent and `fractionBits` of fraction. -/
structure BinaryFormat where
  fractionBits : Nat
  exponentBits : Nat

namespace BinaryFormat

/-- The format of 64 bits. -/
def double : BinaryFormat := ⟨52, 11⟩

/-- The format of 32 bits. -/
def single : BinaryFormat := ⟨23, 8⟩

/-- The exponent of the weight of the last bit of the smallest numbers. -/
def minExponent (f : BinaryFormat) : Int := 2 - Nat.pow 2 (f.exponentBits - 1) - f.fractionBits

/-- The pattern of positive infinity. -/
def infinity (f : BinaryFormat) : Nat := (Nat.pow 2 f.exponentBits - 1) * Nat.pow 2 f.fractionBits

/-- The pattern of the sign. -/
def sign (f : BinaryFormat) : Nat := Nat.pow 2 (f.exponentBits + f.fractionBits)

end BinaryFormat

/-- What a bit pattern stands for; `finite neg m q` is `m * 2 ^ q` with a sign. -/
inductive Decoded
  | nan
  | infinite (neg : Bool)
  | finite (neg : Bool) (m : Nat) (q : Int)
deriving DecidableEq

namespace BinaryFormat

/-- Reads a bit pattern. -/
def decode (f : BinaryFormat) (bits : Nat) : Decoded :=
  let neg := f.sign ≤ bits
  let magnitude := bits % f.sign
  let biased := magnitude / Nat.pow 2 f.fractionBits
  let fraction := magnitude % Nat.pow 2 f.fractionBits
  if f.infinity < magnitude then .nan
  else if magnitude = f.infinity then .infinite neg
  else if biased = 0 then .finite neg fraction f.minExponent
  else .finite neg (Nat.pow 2 f.fractionBits + fraction) (f.minExponent + biased - 1)

/-- A quotient rounded to the nearest integer, and to the even one of two equally near. -/
def roundEven (n d : Nat) : Nat :=
  let q := n / d
  let r := n % d
  if 2 * r < d then q else if d < 2 * r then q + 1 else q + q % 2

/-- A quotient times a power of two, again as a quotient. -/
def scaled (n d : Nat) (e : Int) : Nat × Nat :=
  if 0 ≤ e then (n * Nat.pow 2 e.toNat, d) else (n, d * Nat.pow 2 (-e).toNat)

/-- The pattern of the number nearest to `n / d`, with an even fraction at a tie. -/
def nearest (f : BinaryFormat) (n d : Nat) : Nat :=
  if n = 0 then 0
  else
    let q := (n.log2 : Int) - d.log2 - f.fractionBits
    let whole := scaled n d (-q)
    let q := max f.minExponent (if whole.1 < whole.2 * Nat.pow 2 f.fractionBits then q - 1 else q)
    let whole := scaled n d (-q)
    min f.infinity ((q - f.minExponent).toNat * Nat.pow 2 f.fractionBits + roundEven whole.1 whole.2)

end BinaryFormat

end ObjectGraph
