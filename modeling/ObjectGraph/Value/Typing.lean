import ObjectGraph.Heap

/-!
The types of values, which values a slot accepts, and the one conversion that every write does: a
scalar is widened to the type of its slot if nothing is lost.
-/

namespace ObjectGraph.Heap

/-- The type of a value by itself; scalars are of boxed types. -/
def typeOf (H : Heap) : Value → Ty
  | .null => .any
  | .bool _ => .boxed .bool
  | .char _ => .boxed .char
  | .int s _ => .boxed (.int s)
  | .single _ => .boxed .single
  | .double _ => .boxed .double
  | .wide _ => .wide
  | .text _ => .text
  | .date _ => .date
  | .time _ => .time
  | .dateTime _ => .dateTime
  | .url _ => .url
  | .path _ => .path
  | .list _ => .list
  | .array h => .array (H.get h).component
  | .map _ => .map
  | .object h => .object (H.get h).cls
  | .record _ => .record

/-- The name of a value's type in messages. -/
def typeName (G : ClassGraph) (H : Heap) (v : Value) : String :=
  match v, v.primitive? with
  | .null, _ => "null"
  | _, some p => p.name
  | _, none => G.typeName (H.typeOf v)

/-- The name of what a value is: the class of an object, the schema of a record, else the type. -/
def targetName (G : ClassGraph) (H : Heap) : Value → String
  | .object h => G.nameOf (H.get h).cls
  | .record h => (H.schemaOf h).name
  | v => H.typeName G v

/-- Whether a slot of a type can hold a value, possibly widened. -/
def accepts (G : ClassGraph) (H : Heap) : Ty → Value → Bool
  | t, .null => !t.isPrimitive
  | .any, _ => true
  | .primitive p, v | .boxed p, v => v.primitive?.any fun q => q == p || q.widensTo p
  | .wide, .wide _ => true
  | .wide, v => v.primitive?.any Primitive.isInteger
  | .text, .text _ => true
  | .date, .date _ => true
  | .time, .time _ => true
  | .dateTime, .dateTime _ => true
  | .url, .url _ => true
  | .path, .path _ => true
  | .list, .list _ => true
  | .map, .map _ => true
  | .record, .record _ => true
  | .array c, .array h => G.assignable c (H.get h).component
  | .object c, .object h => G.isSubclass (H.get h).cls c
  | _, _ => false

/-- The value that a slot of a type holds after a value has been written to it; `property` names the slot. -/
def coerce (G : ClassGraph) (H : Heap) (t : Ty) (property : String) (v : Value) : Except Error Value :=
  if v.isNull then
    if t.isPrimitive then .error (.nullForPrimitive property (G.typeName t)) else .ok .null
  else
    let widened :=
      match t with
      | .primitive p | .boxed p => v.widen? p
      | .wide => v.widenInteger?
      | _ => if H.accepts G t v then some v else none
    match widened with
    | some w => .ok w
    | none =>
      .error (.conversion (H.typeName G v) (G.typeName t)
        ("property " ++ Error.quoted property ++ " does not accept this value"))

/-- A value as a scalar of a primitive type, if nothing is lost. -/
def exactly (G : ClassGraph) (H : Heap) (p : Primitive) (v : Value) : Except Error Value :=
  match v.widen? p with
  | some w => .ok w
  | none => .error (.conversion (H.typeName G v) p.name "not losslessly convertible")

/-- A value as a text, if it is one. -/
def exactText (G : ClassGraph) (H : Heap) (v : Value) : Except Error Value :=
  match v with
  | .text s => .ok (.text s)
  | _ => .error (.conversion (H.typeName G v) "String" "not a string")

end ObjectGraph.Heap
