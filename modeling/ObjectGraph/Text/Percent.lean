import ObjectGraph.Text.Utf8

/-!
Percent encoding: a byte is written as `%` and two hexadecimal digits.
-/

namespace ObjectGraph.Percent

/-- The value of a hexadecimal digit. -/
def hexValue? (c : Char) : Option Nat :=
  if c.isDigit then some (c.toNat - '0'.toNat)
  else if 'a' ≤ c ∧ c ≤ 'f' then some (c.toNat - 'a'.toNat + 10)
  else if 'A' ≤ c ∧ c ≤ 'F' then some (c.toNat - 'A'.toNat + 10)
  else none

/-- The written form of a byte, with capital digits. -/
def ofByte (b : UInt8) : List Char :=
  let digit (n : Nat) : Char := ((Nat.toDigits 16 n).headD '0').toUpper
  ['%', digit (b.toNat / 16), digit (b.toNat % 16)]

/-- Encodes the characters of a class and all characters beyond ASCII. -/
def encode (inClass : Char → Bool) (cs : List Char) : List Char :=
  cs.flatMap fun c =>
    if c.toNat < 128 && !inClass c then [c] else (String.utf8EncodeChar c).flatMap ofByte

/-- The bytes of a text in which `%` and two hexadecimal digits stand for one byte. -/
def decode : List Char → List UInt8
  | '%' :: a :: b :: cs =>
    match hexValue? a, hexValue? b with
    | some x, some y => UInt8.ofNat (x * 16 + y) :: decode cs
    | _, _ => Utf8.encode ['%'] ++ decode (a :: b :: cs)
  | c :: cs => String.utf8EncodeChar c ++ decode cs
  | [] => []

end ObjectGraph.Percent
