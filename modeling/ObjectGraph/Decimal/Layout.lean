import ObjectGraph.Decimal.Shortest
import ObjectGraph.Text.Numeral

/-!
The written forms of floating-point numbers: their shortest digits, laid out with a point or with
an exponent.
-/

namespace ObjectGraph

/-- The decisions of a written form of floating-point numbers. -/
structure FloatLayout where
  /-- The exponents of ten that are written out; without bounds all are. -/
  plain : Option (Int × Int)
  /-- What follows the digits of a whole number. -/
  wholeEnd : String
  /-- Which of two equally near decimals is written. -/
  tie : Shortest.Tie
  nan : String
  infinite : String
  negInfinite : String

namespace FloatLayout

/-- Digits with a point. -/
def pointed (layout : FloatLayout) (d : Shortest.Digits) : String :=
  let count : Int := d.digits.length
  if d.point ≤ 0 then "0." ++ String.ofList (List.replicate (-d.point).toNat '0' ++ d.digits)
  else if count ≤ d.point then
    String.ofList (d.digits ++ List.replicate (d.point - count).toNat '0') ++ layout.wholeEnd
  else
    String.ofList (d.digits.take d.point.toNat) ++ "." ++ String.ofList (d.digits.drop d.point.toNat)

/-- Digits with an exponent, which always has a sign. -/
def scientific (d : Shortest.Digits) : String :=
  let e := d.point - 1
  let tail := d.digits.drop 1
  String.ofList (d.digits.take 1) ++ (if tail.isEmpty then "" else "." ++ String.ofList tail) ++ "e" ++
    (if e < 0 then "-" else "+") ++ Numeral.ofNat e.natAbs

/-- The written form of a positive number `m * 2 ^ q`. -/
def positive (layout : FloatLayout) (f : BinaryFormat) (m : Nat) (q : Int) : String :=
  let d := Shortest.digits f layout.tie m q
  match layout.plain with
  | none => layout.pointed d
  | some (low, high) =>
    if low ≤ d.point - 1 ∧ d.point - 1 ≤ high then layout.pointed d else scientific d

/-- The written form of the number with a bit pattern. -/
def write (layout : FloatLayout) (f : BinaryFormat) (bits : Nat) : String :=
  match f.decode bits with
  | .nan => layout.nan
  | .infinite neg => if neg then layout.negInfinite else layout.infinite
  | .finite neg m q =>
    (if neg then "-" else "") ++ if m = 0 then "0" ++ layout.wholeEnd else layout.positive f m q

/-- The written form of a number of 64 bits. -/
def ofFloat (layout : FloatLayout) (x : Float) : String := layout.write .double x.toBits.toNat

/-- The written form of a number of 32 bits. -/
def ofFloat32 (layout : FloatLayout) (x : Float32) : String := layout.write .single x.toBits.toNat

end FloatLayout

end ObjectGraph
