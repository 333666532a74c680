import ObjectGraph.Text.LetterTable

/-!
Upper and lower case of a single character, by the full case mappings of Unicode: the mapping of
one character may be several.  ASCII letters are decided without the tables.
-/

namespace ObjectGraph.Letter

/-- Whether a code point is one of the points of a stepped range. -/
def inRange (n first last step : Nat) : Bool :=
  first ≤ n && n ≤ last && (n - first) % step == 0

/-- The image of a code point under a table of ranges and a table of special cases. -/
def mapped (ranges : List (Nat × Nat × Nat × Int)) (specials : List (Nat × List Nat)) (c : Char) : List Char :=
  match specials.find? fun row => row.1 == c.toNat with
  | some row => row.2.map Char.ofNat
  | none =>
    match ranges.find? fun (first, last, step, _) => inRange c.toNat first last step with
    | some (_, _, _, shift) => [Char.ofNat (c.toNat + shift).toNat]
    | none => [c]

/-- The upper case of a character. -/
def upper (c : Char) : List Char :=
  if c.toNat < 128 then [c.toUpper] else mapped upperRanges upperSpecials c

/-- The lower case of a character. -/
def lower (c : Char) : List Char :=
  if c.toNat < 128 then [c.toLower] else mapped lowerRanges lowerSpecials c

/-- Whether a character has the Unicode property `Uppercase`. -/
def isCapital (c : Char) : Bool :=
  if c.toNat < 128 then c.isUpper
  else capitalRanges.any fun (first, last, step) => inRange c.toNat first last step

end ObjectGraph.Letter
