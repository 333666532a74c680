import ObjectGraph.Value.Content

/-!
Equality of values.  A container equals itself; different lists, arrays and maps are equal if their
contents are, objects and records never.  Numbers compare as numbers, so NaN differs from itself.
-/

namespace ObjectGraph

/-- Equality of values that hold no others. -/
def Value.sameScalar : Value → Value → Bool
  | .null, .null => true
  | .bool a, .bool b => a == b
  | .char a, .char b => a == b
  | .int s a, .int t b => s == t && a.toInt == b.toInt
  | .wide a, .wide b => a.toInt == b.toInt
  | .single a, .single b => a == b
  | .double a, .double b => a == b
  | .text a, .text b => a == b
  | .date a, .date b => a == b
  | .time a, .time b => a == b
  | .dateTime a, .dateTime b => a == b
  | .url a, .url b => a.text == b.text
  | .path a, .path b => a.same b
  | _, _ => false

mutual

/-- Equality of contents. -/
def Content.same : Content → Content → Bool
  | .scalar a, .scalar b => a.sameScalar b
  | .list h as, .list j bs => h == j || Content.sameItems as bs
  | .array h c as, .array j d bs => h == j || (c == d && Content.sameItems as bs)
  | .map h as, .map j bs => h == j || Content.sameEntries as bs
  | .object h _, .object j _ => h == j
  | .record h _ _, .record j _ _ => h == j
  | _, _ => false

/-- Equality of elements one by one. -/
def Content.sameItems : List Content → List Content → Bool
  | [], [] => true
  | a :: as, b :: bs => a.same b && Content.sameItems as bs
  | _, _ => false

/-- Equality of entries one by one; both are in the order of their keys. -/
def Content.sameEntries : List (String × Content) → List (String × Content) → Bool
  | [], [] => true
  | (k, a) :: as, (j, b) :: bs => k == j && a.same b && Content.sameEntries as bs
  | _, _ => false

end

/-- Equality of values. -/
def Heap.same (H : Heap) (a b : Value) : Bool := (H.content a).same (H.content b)

end ObjectGraph
