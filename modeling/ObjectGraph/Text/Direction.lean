import ObjectGraph.Text.DirectionTable

/-!
The directions of characters, and labels in which they do not get mixed up when they are displayed.
-/

namespace ObjectGraph

/-- How a character takes part in the direction of a text. -/
inductive Direction
  | leftToRight
  | rightToLeft
  | arabicNumber
  | europeanNumber
  | mark
  | neutral
deriving DecidableEq

namespace Direction

/-- The direction of a character. -/
def ofChar (c : Char) : Direction :=
  let n := c.toNat
  if PointTable.contains reversedLetters n then .rightToLeft
  else if PointTable.contains arabicDigits n then .arabicNumber
  else if PointTable.contains otherDigits n then .europeanNumber
  else if PointTable.contains spacelessMarks n then .mark
  else if PointTable.contains neutralSigns n then .neutral
  else .leftToRight

/-- Whether a character is written from right to left or is a number that is used among such characters. -/
def isReversed : Direction → Bool
  | rightToLeft | arabicNumber => true
  | _ => false

/-- Whether directions that begin from the left go on so and end so, marks apart. -/
def runsForward (ds : List Direction) : Bool :=
  ds.all (fun d => d != rightToLeft && d != arabicNumber) &&
    (ds.reverse.dropWhile (· == mark)).head?.any fun d => d == leftToRight || d == europeanNumber

/-- Whether directions that begin from the right go on so and end so, marks apart, with one kind of numbers. -/
def runsBackward (ds : List Direction) : Bool :=
  ds.all (· != leftToRight) && !(ds.contains europeanNumber && ds.contains arabicNumber) &&
    (ds.reverse.dropWhile (· == mark)).head?.any fun d => d != neutral

/-- Whether a label keeps its characters together in a name that has characters from right to left. -/
def isSteady (label : List Char) : Bool :=
  let ds := label.map ofChar
  match ds with
  | [] => true
  | .leftToRight :: _ => runsForward ds
  | .rightToLeft :: _ => runsBackward ds
  | _ => false

end Direction

end ObjectGraph
