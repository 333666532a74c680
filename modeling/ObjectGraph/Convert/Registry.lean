import ObjectGraph.Convert.Converter
import ObjectGraph.Data.Assoc
import ObjectGraph.Object.Creation

/-!
A registry of converters by the type that they make.  An entry with a fallback is lenient: it gives
the fallback where there is no value or where the conversion fails.  An entry without is strict.
-/

namespace ObjectGraph

/-- A converter with what to fall back to. -/
structure ConverterEntry where
  converter : Converter
  fallback : Option Value

namespace ConverterEntry

def isStrict (e : ConverterEntry) : Bool := e.fallback.isNone

/-- Converts a value, with a way to convert the elements of an array. -/
def apply (G : ClassGraph) (element : Conversion) (target : Ty) (e : ConverterEntry) : Conversion := fun v H =>
  if v.isNull then
    match e.fallback with
    | some w => .ok (w, H)
    | none => .error (.conversion "null" (G.typeName target) "no value specified")
  else
    match e.converter.convert G element target v H, e.fallback with
    | .ok r, _ => .ok r
    | .error _, some w => .ok (w, H)
    | .error err, none => .error err

end ConverterEntry

/-- How a registry is set up. -/
structure RegistryConfig where
  isStrict : Bool
  /-- Whether slots of boxed types fall back to null instead of zero. -/
  nullBoxed : Bool
  /-- The length of the arrays to fall back to. -/
  arrayLength : Nat

/-- Lenient, with zeros and empty arrays to fall back to. -/
def RegistryConfig.standard : RegistryConfig := ⟨false, false, 0⟩

/-- Converters by the types that they make. -/
structure Registry where
  entries : Assoc Ty ConverterEntry

namespace Registry

/-- No converters. -/
def empty : Registry := ⟨.empty⟩

/-- The entry of a type. -/
def lookup? (R : Registry) (t : Ty) : Option ConverterEntry := R.entries.get? t

/-- The number of entries. -/
def size (R : Registry) : Nat := R.entries.size

/-- Sets the entry of a type. -/
def put (R : Registry) (t : Ty) (e : ConverterEntry) : Registry := ⟨R.entries.insert t e⟩

/-- Removes the entry of a type. -/
def remove (R : Registry) (t : Ty) : Registry := ⟨R.entries.erase t⟩

/-- Registers a converter.  A strict entry stays strict; otherwise the fallback is the zero of the type. -/
def register (R : Registry) (t : Ty) (k : Converter) : Registry :=
  let strict := (R.lookup? t).any ConverterEntry.isStrict
  R.put t ⟨k, if strict then none else some t.zero⟩

/-- Changes the fallback of the entry of a type, if there is an entry. -/
def setFallback (R : Registry) (t : Ty) (fallback : Option Value) : Registry :=
  match R.lookup? t with
  | some e => R.put t { e with fallback := fallback }
  | none => R

/-- The converter of a primitive type. -/
def ofPrimitive : Primitive → Converter
  | .bool => .boolean
  | .char => .character
  | p => .number p

/-- The types other than scalars and arrays that have a converter from the start. -/
def others : List (Ty × Converter) :=
  [(.wide, .wide), (.text, .text), (.date, .temporal .date []), (.time, .temporal .time []),
    (.dateTime, .temporal .dateTime []), (.url, .url), (.path, .path)]

/-- The types whose arrays have a converter from the start. -/
def components : List Ty :=
  Primitive.all.flatMap (fun p => [.primitive p, .boxed p]) ++ others.map Prod.fst

/-- The entries of a configuration that are no arrays. -/
def scalarEntries (config : RegistryConfig) : List (Ty × ConverterEntry) :=
  let fallback (v : Value) : Option Value := if config.isStrict then none else some v
  Primitive.all.flatMap (fun p =>
    [(.boxed p, ⟨ofPrimitive p, fallback (if config.nullBoxed then .null else p.zero)⟩),
      (.primitive p, ⟨ofPrimitive p, fallback p.zero⟩)]) ++
    others.map fun (t, k) => (t, ⟨k, fallback .null⟩)

/-- Registers the arrays of components; each has one array to fall back to. -/
def putArrays (config : RegistryConfig) (R : Registry) (H : Heap) : List Ty → Registry × Heap
  | [] => (R, H)
  | t :: ts =>
    let (h, H) := H.alloc .array (.filled t config.arrayLength)
    putArrays config (R.put (.array t) ⟨.array, if config.isStrict then none else some (.array h)⟩) H ts

/-- Registers all converters that there are from the start. -/
def putDefaults (config : RegistryConfig) (R : Registry) (H : Heap) : Registry × Heap :=
  let R := (scalarEntries config).foldl (fun R (t, e) => R.put t e) R
  putArrays config R H components

/-- A registry with the converters of a configuration. -/
def withConfig (config : RegistryConfig) (H : Heap) : Registry × Heap := putDefaults config empty H

/-- Converts a value to a type, with a way to convert the elements of an array.  A value that a slot of the
type accepts is only widened. -/
def convertWith (G : ClassGraph) (R : Registry) (element : Conversion) (t : Ty) : Conversion := fun v H =>
  if t = .any then .ok (v, H)
  else if !v.isNull && H.accepts G t v then (H.coerce G t "value" v).map fun w => (w, H)
  else
    match R.lookup? t with
    | some e => e.apply G element t v H
    | none => (H.coerce G t "value" v).map fun w => (w, H)

/-- Converts a value to a type. -/
def convert (G : ClassGraph) (R : Registry) : Ty → Conversion
  | .array c => R.convertWith G (convert G R c) (.array c)
  | t => R.convertWith G (fun v H => .ok (v, H)) t

/-- The way to convert the elements of an array of a type. -/
def elementConversion (G : ClassGraph) (R : Registry) (t : Ty) : Conversion := R.convert G (t.component?.getD .any)

/-- Converts a text by the entry of a type.  Without an entry the text is the answer. -/
def convertText (G : ClassGraph) (R : Registry) (t : Ty) (text : String) (H : Heap) : Except Error (Value × Heap) :=
  match R.lookup? t with
  | some e => e.apply G (R.elementConversion G t) t (.text text) H
  | none => .ok (.text text, H)

/-- Converts texts to the elements of an array of a type. -/
def convertTexts (G : ClassGraph) (R : Registry) (t : Ty) (texts : List String) (H : Heap) :
    Except Error (Value × Heap) := do
  let component := t.component?.getD t
  let element : Conversion := fun v H => R.convertText G component ((v.asText?).getD "") H
  let (vs, H) ← Converter.convertAll element H (texts.map .text)
  return H.newArray component vs

/-- The text of a value, or of the first element of the first element and so on of a list or an array.  Of
nothing there is no text. -/
def toTextWithin (G : ClassGraph) (R : Registry) : (depth : Nat) → Value → Heap → Except Error (Option String × Heap)
  | 0, _, H => .ok (none, H)
  | depth + 1, v, H =>
    match v, H.items? v with
    | .null, _ => .ok (none, H)
    | _, some [] => .ok (none, H)
    | _, some (w :: _) => toTextWithin G R depth w H
    | v, none => do
      let (w, H) ← R.convert G .text v H
      return (w.asText?, H)

/-- The text of a value. -/
def toText (G : ClassGraph) (R : Registry) (v : Value) (H : Heap) : Except Error (Option String × Heap) :=
  toTextWithin G R (H.size + 1) v H

end Registry

end ObjectGraph
