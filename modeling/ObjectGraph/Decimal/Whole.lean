import ObjectGraph.Decimal.Binary

/-!
Whole numbers as floating-point numbers, and the whole part of a floating-point number.
-/

namespace ObjectGraph

/-- The pattern of the number nearest to an integer. -/
def BinaryFormat.ofInt (f : BinaryFormat) (n : Int) : Nat :=
  f.nearest n.natAbs 1 + if n < 0 then f.sign else 0

/-- The number of 64 bits nearest to an integer. -/
def doubleOfInt (n : Int) : Float := Float.ofBits (UInt64.ofNat (BinaryFormat.double.ofInt n))

/-- The number of 32 bits nearest to an integer. -/
def singleOfInt (n : Int) : Float32 := Float32.ofBits (UInt32.ofNat (BinaryFormat.single.ofInt n))

/-- The whole part of what a pattern stands for, if it is a number. -/
def Decoded.wholePart? : Decoded → Option Int
  | .finite neg m q =>
    let n := if 0 ≤ q then m * Nat.pow 2 q.toNat else m / Nat.pow 2 (-q).toNat
    some (if neg then -(n : Int) else n)
  | _ => none

/-- The whole part of a number of 64 bits, if it is finite. -/
def wholePart? (x : Float) : Option Int := (BinaryFormat.double.decode x.toBits.toNat).wholePart?

end ObjectGraph
