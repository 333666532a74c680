import ObjectGraph.Value.Display

/-!
Values written as JSON.  Records are written as their stored entries; objects and adapters cannot be
written, nor paths that are no text.
-/

namespace ObjectGraph

/-- Why a value cannot be written. -/
inductive JsonFault
  | pathNotText
  | adapter
  | object (cls : String)
deriving DecidableEq

/-- The wording of a fault. -/
def JsonFault.message : JsonFault → String
  | pathNotText => "path contains invalid UTF-8 characters"
  | adapter => "bean adapters cannot be serialized without a property resolver"
  | object c => "bean " ++ Error.quoted c ++ " cannot be serialized without a property resolver"

namespace Json

/-- Numbers of 64 bits from `1e-5` and below `1e16` have no exponent; a whole one ends in `.0`. -/
def doubleLayout : FloatLayout := ⟨some (-5, 15), ".0", .even, "null", "null", "null"⟩

/-- Numbers of 32 bits from `1e-6` and below `1e13` have no exponent; a whole one ends in `.0`. -/
def singleLayout : FloatLayout := ⟨some (-6, 12), ".0", .even, "null", "null", "null"⟩

/-- A character in a text. -/
def escape (c : Char) : List Char :=
  if c = '\x22' then "\x5c\x22".toList
  else if c = '\x5c' then "\x5c\x5c".toList
  else if c = '\x08' then "\x5cb".toList
  else if c = '\t' then "\x5ct".toList
  else if c = '\n' then "\x5cn".toList
  else if c = '\x0c' then "\x5cf".toList
  else if c = '\r' then "\x5cr".toList
  else if c.toNat < 32 then
    "\x5cu00".toList ++ [Numeral.hexDigit (c.toNat / 16), Numeral.hexDigit (c.toNat % 16)]
  else [c]

/-- A text between quotes. -/
def text (s : String) : String := "\x22" ++ String.ofList (s.toList.flatMap escape) ++ "\x22"

/-- A value that holds no others. -/
def scalar : Value → Except JsonFault String
  | .null => .ok "null"
  | .bool b => .ok (Value.scalarText (.bool b))
  | .int s n => .ok (Value.scalarText (.int s n))
  | .wide n => .ok (Value.scalarText (.wide n))
  | .single x => .ok (singleLayout.ofFloat32 x)
  | .double x => .ok (doubleLayout.ofFloat x)
  | .path p =>
    match p.text? with
    | some s => .ok (text s)
    | none => .error .pathNotText
  | v => .ok (text v.scalarText)

end Json

mutual

/-- The JSON of a content. -/
def Content.json (G : ClassGraph) : Content → Except JsonFault String
  | .scalar v => Json.scalar v
  | .list _ items => do return "[" ++ ",".intercalate (← Content.jsonItems G items) ++ "]"
  | .array _ _ items => do return "[" ++ ",".intercalate (← Content.jsonItems G items) ++ "]"
  | .map _ entries => do return "\x7b" ++ ",".intercalate (← Content.jsonEntries G entries) ++ "\x7d"
  | .object _ c => .error (.object (G.nameOf c))
  | .record _ _ none => .error .adapter
  | .record _ _ (some entries) => do return "\x7b" ++ ",".intercalate (← Content.jsonEntries G entries) ++ "\x7d"

/-- The JSON of elements. -/
def Content.jsonItems (G : ClassGraph) : List Content → Except JsonFault (List String)
  | [] => .ok []
  | c :: cs => do
    let s ← c.json G
    let ss ← Content.jsonItems G cs
    return s :: ss

/-- The JSON of entries. -/
def Content.jsonEntries (G : ClassGraph) : List (String × Content) → Except JsonFault (List String)
  | [] => .ok []
  | (k, c) :: es => do
    let s ← c.json G
    let ss ← Content.jsonEntries G es
    return (Json.text k ++ ":" ++ s) :: ss

end

/-- The JSON of a value. -/
def Heap.json (G : ClassGraph) (H : Heap) (v : Value) : Except JsonFault String := (H.fullContent v).json G

end ObjectGraph
