import ObjectGraph.Decimal.Layout
import ObjectGraph.Value.Content

/-!
The text of a value.  Elements are separated by a comma and a blank, and maps are written in the
order of their keys.  Objects and records are written as their names and a mark for their identity.
-/

namespace ObjectGraph

/-- Floating-point numbers are displayed without an exponent, whole ones without a point. -/
def displayLayout : FloatLayout := ⟨none, "", .up, "NaN", "inf", "-inf"⟩

/-- The text of a value that holds no others. -/
def Value.scalarText : Value → String
  | .null => "null"
  | .bool b => if b then "true" else "false"
  | .char c => String.singleton c
  | .int _ n => Numeral.ofInt n.toInt
  | .wide n => Numeral.ofInt n.toInt
  | .single x => displayLayout.ofFloat32 x
  | .double x => displayLayout.ofFloat x
  | .text s => s
  | .date d => d.text
  | .time t => t.text
  | .dateTime t => t.text
  | .url u => u.text
  | .path p => p.text
  | .list _ | .array _ | .map _ | .object _ | .record _ => ""

/-- The name of a container with a mark for its identity. -/
def identityText (name : String) : String := name ++ "@PTR"

mutual

/-- The text of a content. -/
def Content.display (G : ClassGraph) : Content → String
  | .scalar v => v.scalarText
  | .list _ items => "[" ++ ", ".intercalate (Content.displayItems G items) ++ "]"
  | .array _ _ items => "[" ++ ", ".intercalate (Content.displayItems G items) ++ "]"
  | .map _ entries => "\x7b" ++ ", ".intercalate (Content.displayEntries G entries) ++ "\x7d"
  | .object _ c => identityText (G.nameOf c)
  | .record _ name _ => identityText name

/-- The texts of elements. -/
def Content.displayItems (G : ClassGraph) : List Content → List String
  | [] => []
  | c :: cs => c.display G :: Content.displayItems G cs

/-- The texts of entries. -/
def Content.displayEntries (G : ClassGraph) : List (String × Content) → List String
  | [] => []
  | (k, c) :: es => (k ++ "=" ++ c.display G) :: Content.displayEntries G es

end

/-- The text of a value. -/
def Heap.display (G : ClassGraph) (H : Heap) (v : Value) : String := (H.content v).display G

end ObjectGraph
