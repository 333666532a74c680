import ObjectGraph.Text.JoiningTable

/-!
Letters that are written joined, and the places where they join.
-/

namespace ObjectGraph.Joining

/-- Whether a character is a mark. -/
def isMark (c : Char) : Bool := PointTable.contains marks c.toNat

/-- Whether a character is passed over when letters join. -/
def isTransparent (c : Char) : Bool := PointTable.contains transparent c.toNat

/-- Whether a letter joins the next one. -/
def joinsNext (c : Char) : Bool := PointTable.contains forward c.toNat

/-- Whether a letter joins the one before. -/
def joinsPrevious (c : Char) : Bool := PointTable.contains backward c.toNat

/-- Whether the letters around a place join; the text before it has its last character first. -/
def joinsAt (before after : List Char) : Bool :=
  (before.dropWhile isTransparent).head?.any joinsNext && (after.dropWhile isTransparent).head?.any joinsPrevious

end ObjectGraph.Joining
