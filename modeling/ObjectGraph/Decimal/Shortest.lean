import ObjectGraph.Decimal.Binary

/-!
The fewest decimal digits that read back to the same floating-point number.  A number is read back
from every decimal in the interval of reals that round to it; of the decimals with a given count of
digits, one lies in the interval exactly if one of the number's two neighbours among them does.
-/

namespace ObjectGraph.Shortest

/-- Which of two equally near decimals is taken. -/
inductive Tie
  | up
  | even
deriving DecidableEq

/-- Significant digits, and the place of the point: the number is `0.digits * 10 ^ point`. -/
structure Digits where
  digits : List Char
  point : Int

/-- The number of decimal digits of a positive number. -/
def width (n : Nat) : Nat := (Nat.toDigits 10 n).length

/-- A quotient times a power of ten, again as a quotient. -/
def scaled10 (n d : Nat) (e : Int) : Nat × Nat :=
  if 0 ≤ e then (n * Nat.pow 10 e.toNat, d) else (n, d * Nat.pow 10 (-e).toNat)

/-- The place of the point of a positive quotient: the least `p` with `n / d < 10 ^ p`. -/
def place (n d : Nat) : Int :=
  let p := (width n : Int) - width d
  let s := scaled10 n d (-p)
  if s.1 < s.2 then p else p + 1

/-- The interval of reals around `m * 2 ^ q` that round to it, in units of a quarter of `2 ^ q`. -/
def bounds (f : BinaryFormat) (m : Nat) (q : Int) : Nat × Nat :=
  (if m = Nat.pow 2 f.fractionBits ∧ f.minExponent < q then 4 * m - 1 else 4 * m - 2, 4 * m + 2)

/-- The decimal with digits at weights down to `10 ^ p` that is nearest to `m * 2 ^ q`, if one reads back. -/
def candidate? (f : BinaryFormat) (tie : Tie) (m : Nat) (q p : Int) : Option Nat :=
  -- The number, its interval and the grid, over one denominator.
  let u := BinaryFormat.scaled 1 1 (q - 2)
  let g := scaled10 1 1 p
  let unit := u.1 * g.2
  let grid := g.1 * u.2
  let (low, high) := bounds f m q
  let value := 4 * m * unit
  let below := value / grid
  let inside (c : Nat) : Bool :=
    if m % 2 = 0 then low * unit ≤ c * grid ∧ c * grid ≤ high * unit
    else low * unit < c * grid ∧ c * grid < high * unit
  let rest := value % grid
  let lowerNearer : Bool :=
    2 * rest < grid || (2 * rest == grid && tie == .even && below % 2 == 0)
  match inside below, inside (below + 1) with
  | true, true => some (if lowerNearer then below else below + 1)
  | true, false => some below
  | false, true => some (below + 1)
  | false, false => none

/-- Tries `k`, `k + 1`, … digits, as often as `more` says. -/
def search (f : BinaryFormat) (tie : Tie) (m : Nat) (q point : Int) : (more k : Nat) → Nat × Int
  | 0, _ => (0, 0)
  | more + 1, k =>
    match candidate? f tie m q (point - k) with
    | some c => (c, point - k)
    | none => search f tie m q point more (k + 1)

/-- The shortest digits of `m * 2 ^ q`, for a positive `m`. -/
def digits (f : BinaryFormat) (tie : Tie) (m : Nat) (q : Int) : Digits :=
  let s := BinaryFormat.scaled m 1 q
  -- No number needs more digits than this to be read back.
  let most := f.fractionBits / 3 + 3
  let (c, p) := search f tie m q (place s.1 s.2) most 1
  let ds := Nat.toDigits 10 c
  ⟨(ds.reverse.dropWhile (· == '0')).reverse, p + ds.length⟩

end ObjectGraph.Shortest
