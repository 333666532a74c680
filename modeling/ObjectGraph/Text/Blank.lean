/-!
White space: the characters with the Unicode property `White_Space`, and the cutting of runs of
them from the ends of a text.
-/

namespace ObjectGraph

/-- Whether a character has the Unicode property `White_Space`. -/
def isBlank (c : Char) : Bool :=
  let n := c.toNat
  (9 ≤ n && n ≤ 13) || n == 32 || n == 0x85 || n == 0xA0 || n == 0x1680 ||
    (0x2000 ≤ n && n ≤ 0x200A) || n == 0x2028 || n == 0x2029 || n == 0x202F || n == 0x205F || n == 0x3000

/-- The text after its leading blanks. -/
def dropBlanks (cs : List Char) : List Char := cs.dropWhile isBlank

/-- The text between its leading and its trailing blanks. -/
def trimBlanks (cs : List Char) : List Char := (dropBlanks (dropBlanks cs).reverse).reverse

/-- Dropping blanks never makes a text longer. -/
theorem length_dropBlanks_le (cs : List Char) : (dropBlanks cs).length ≤ cs.length :=
  (List.dropWhile_suffix isBlank).length_le

end ObjectGraph
