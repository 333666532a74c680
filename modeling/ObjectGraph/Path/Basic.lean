import ObjectGraph.Text.Numeral

/-!
Property paths: names with subscripts, joined by points, and their text.
-/

namespace ObjectGraph

/-- What follows a name: nothing, an index in brackets or a key in parentheses. -/
inductive Subscript
  | none
  | index (i : Nat)
  | key (k : String)
deriving DecidableEq

/-- One segment of a path.  The name may be empty if a subscript follows. -/
structure Segment where
  name : String
  subscript : Subscript
deriving DecidableEq

/-- A path has one or more segments. -/
structure Path where
  segments : List Segment
  nonempty : segments ≠ []
deriving DecidableEq

namespace Subscript

/-- The text of a subscript. -/
def text : Subscript → String
  | none => ""
  | index i => "[" ++ Numeral.ofNat i ++ "]"
  | key k => "(" ++ k ++ ")"

end Subscript

namespace Segment

/-- The text of a segment. -/
def text (s : Segment) : String := s.name ++ s.subscript.text

end Segment

namespace Path

/-- The text of segments, with points between them. -/
def join (segments : List Segment) : String := ".".intercalate (segments.map Segment.text)

/-- The text of a path. -/
def text (p : Path) : String := join p.segments

/-- The text of the first `n` segments. -/
def textOfFirst (p : Path) (n : Nat) : String := join (p.segments.take n)

/-- The number of segments. -/
def size (p : Path) : Nat := p.segments.length

/-- All segments but the last. -/
def parents (p : Path) : List Segment := p.segments.dropLast

/-- The last segment. -/
def last (p : Path) : Segment := p.segments.getLast p.nonempty

end Path

end ObjectGraph
