import ObjectGraph.Decimal.Binary
import ObjectGraph.Text.Numeral

/-!
Decimal literals of floating-point numbers, and the number nearest to one.
-/

namespace ObjectGraph

/-- A number as it is written: `decimal neg n e` is `n * 10 ^ e` with a sign. -/
inductive RealLiteral
  | nan
  | infinite (neg : Bool)
  | decimal (neg : Bool) (n : Nat) (e : Int)
deriving DecidableEq

namespace RealLiteral

/-- The exponent of a literal: nothing, or `e` or `E` and an integer with an optional sign. -/
def readExponent? : List Char → Option Int
  | [] => some 0
  | c :: cs => if c = 'e' ∨ c = 'E' then Numeral.readSigned? cs else none

/-- An unsigned literal: a name, or digits with at most one point, and an exponent. -/
def readUnsigned? (neg : Bool) (cs : List Char) : Option RealLiteral :=
  let name := String.ofList (cs.map Char.toLower)
  if name = "nan" then some .nan
  else if name = "inf" ∨ name = "infinity" then some (.infinite neg)
  else
    let whole := cs.takeWhile Char.isDigit
    let rest := cs.dropWhile Char.isDigit
    let (fraction, rest) :=
      match rest with
      | '.' :: rest => (rest.takeWhile Char.isDigit, rest.dropWhile Char.isDigit)
      | _ => ([], rest)
    if whole.isEmpty && fraction.isEmpty then none
    else (readExponent? rest).map fun e => .decimal neg (Numeral.ofDigits (whole ++ fraction)) (e - fraction.length)

/-- A literal with an optional sign. -/
def read? : List Char → Option RealLiteral
  | '-' :: cs => readUnsigned? true cs
  | '+' :: cs => readUnsigned? false cs
  | cs => readUnsigned? false cs

/-- The pattern nearest to `n * 10 ^ e`.  Numbers far outside of the format are decided by their order of magnitude. -/
def magnitude (f : BinaryFormat) (n : Nat) (e : Int) : Nat :=
  if n = 0 then 0
  else
    let order := e + (Nat.toDigits 10 n).length
    if 400 < order then f.infinity
    else if order < -400 then 0
    else if 0 ≤ e then f.nearest (n * Nat.pow 10 e.toNat) 1
    else f.nearest n (Nat.pow 10 (-e).toNat)

/-- The pattern of the number nearest to a literal. -/
def bits (f : BinaryFormat) : RealLiteral → Nat
  | .nan => f.infinity + Nat.pow 2 (f.fractionBits - 1)
  | .infinite neg => f.infinity + if neg then f.sign else 0
  | .decimal neg n e => magnitude f n e + if neg then f.sign else 0

/-- The number of 64 bits nearest to a literal. -/
def toFloat (l : RealLiteral) : Float := Float.ofBits (UInt64.ofNat (l.bits .double))

/-- The number of 32 bits nearest to a literal. -/
def toFloat32 (l : RealLiteral) : Float32 := Float32.ofBits (UInt32.ofNat (l.bits .single))

end RealLiteral

end ObjectGraph
