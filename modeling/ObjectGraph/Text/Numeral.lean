/-!
Decimal numerals of natural numbers: writing with a least width, and reading of a run of digits.
-/

namespace ObjectGraph.Numeral

/-- The digits of a number, most significant first. -/
def digits (n : Nat) : List Char := Nat.toDigits 10 n

/-- The numeral of a number. -/
def ofNat (n : Nat) : String := String.ofList (digits n)

/-- The numeral of a number, filled with zeros on the left up to a width. -/
def padded (width n : Nat) : String :=
  String.ofList (List.replicate (width - (digits n).length) '0' ++ digits n)

/-- The numeral of an integer, with a sign only if it is negative. -/
def ofInt (n : Int) : String := if n < 0 then "-" ++ ofNat n.natAbs else ofNat n.natAbs

/-- The value of a decimal digit. -/
def digitValue (c : Char) : Nat := c.toNat - '0'.toNat

/-- The number that a list of digits denotes. -/
def ofDigits (cs : List Char) : Nat := cs.foldl (fun n c => 10 * n + digitValue c) 0

/-- The number that a text of one or more ASCII digits denotes. -/
def read? (cs : List Char) : Option Nat :=
  if cs ≠ [] ∧ cs.all Char.isDigit then some (ofDigits cs) else none

/-- The number of a text of one or more ASCII digits, which a `+` may precede. -/
def readUnsigned? : List Char → Option Nat
  | '+' :: cs => read? cs
  | cs => read? cs

/-- The number of a text of one or more ASCII digits, which a `+` or a `-` may precede. -/
def readSigned? : List Char → Option Int
  | '+' :: cs => (read? cs).map Int.ofNat
  | '-' :: cs => (read? cs).map fun n => -(n : Int)
  | cs => (read? cs).map Int.ofNat

/-- The digit of a value below sixteen, in lower case. -/
def hexDigit (n : Nat) : Char := (Nat.toDigits 16 n).headD '0'

end ObjectGraph.Numeral
