import ObjectGraph.Object.Creation
import ObjectGraph.Operation
import ObjectGraph.Value.Access

/-!
Records that grow.  A name that is not declared is declared when it is written, with the type of the
value; subscripts make lists and maps where there are none, and lengthen lists and arrays.  Over a
shared map, its keys are properties of any type even if they are not declared.
-/

namespace ObjectGraph

/-- A growing record, by its cell and that of its schema, and the map if it stands over a shared one. -/
structure GrowingRecord where
  cell : Handle .record
  schema : Handle .schema
  shared : Option (Handle .map)

namespace GrowingRecord
variable {G : ClassGraph}

/-- The growing record in a cell with a schema and a store. -/
def ofStore (cell : Handle .record) (schema : Handle .schema) : Store → GrowingRecord
  | .own _ => ⟨cell, schema, none⟩
  | .shared m => ⟨cell, schema, some m⟩

/-- The stored values. -/
def values (g : GrowingRecord) (H : Heap) : Dict Value :=
  match g.shared with
  | some m => H.get m
  | none => (H.stored? g.cell).getD .empty

/-- Replaces the stored values. -/
def setValues (g : GrowingRecord) (d : Dict Value) (H : Heap) : Heap :=
  match g.shared with
  | some m => H.set m d
  | none => H.set g.cell (.growing g.schema (.own d))

/-- Stores a value without any check. -/
def store (g : GrowingRecord) (name : String) (v : Value) (H : Heap) : Heap :=
  g.setValues ((g.values H).insert name v) H

/-- The stored value of a name; without one the answer is null. -/
def stored (g : GrowingRecord) (name : String) (H : Heap) : Value := ((g.values H).get? name).getD .null

/-- The property with a name: a declared one, or a key of the shared map. -/
def property? (g : GrowingRecord) (name : String) (H : Heap) : Option Property :=
  match (H.get g.schema).property? name with
  | some p => some p
  | none => if g.shared.isSome && (g.values H).contains name then some (.untyped name) else none

/-- The declared names in order, and then the other keys of the shared map. -/
def names (g : GrowingRecord) (H : Heap) : List String :=
  let S := H.get g.schema
  S.names ++ if g.shared.isSome then (g.values H).keys.filter fun k => !S.declares k else []

/-- Whether a name can be written. -/
def isWriteable (g : GrowingRecord) (name : String) (H : Heap) : Bool :=
  !(H.get g.schema).isRestricted || (g.property? name H).isSome

/-- The number of elements or entries of a property. -/
def size (g : GrowingRecord) (name : String) (H : Heap) : Nat := (H.length? (g.stored name H)).getD 0

/-- Declares a property. -/
def declare (g : GrowingRecord) (p : Property) : Op G Unit :=
  Op.tryWrite fun H => ((H.get g.schema).add p).map (H.set g.schema)

/-- Reads a property.  A declared one that holds nothing gets the value that fills new slots of its type. -/
def read (g : GrowingRecord) (name : String) : Op G Value :=
  Op.change fun H =>
    let v := g.stored name H
    if v.isNull then
      match g.property? name H with
      | none => (.null, H)
      | some p =>
        let (w, H) := G.defaultValue p.ty H
        (w, if w.isNull then H else g.store name w H)
    else (v, H)

/-- Writes a property. -/
def write (g : GrowingRecord) (name : String) (v : Value) : Op G Unit := do
  let p ←
    match ← Op.read (g.property? name) with
    | some p => pure p
    | none => do
      let p : Property := ⟨name, ← Op.read fun H => H.typeOf v, none⟩
      g.declare p
      pure p
  let w ← Op.tryRead fun H => H.coerce G p.ty name v
  Op.write (g.store name w)

/-- The container in a property that is to be subscripted, which is made if there is none. -/
def container (g : GrowingRecord) (name : String) (blank : Heap → Value × Heap) : Op G (Property × Value) := do
  if (← Op.read (g.property? name)).isNone then
    g.write name (← Op.change blank)
  let mut v ← g.read name
  if v.isNull then
    v ← Op.change blank
    g.write name v
  match ← Op.read (g.property? name) with
  | some p => return (p, v)
  | none => throw (.unknownProperty name (← Op.read fun H => (H.get g.schema).name))

/-- The list or array in a property, lengthened so that it has an element at an index.  A list is
lengthened in place, an array is replaced by a new one. -/
def lengthened (g : GrowingRecord) (name : String) (i : Nat) : Op G (Property × Value) := do
  let (p, v) ← g.container name fun H => H.newList []
  match v with
  | .list h =>
    Op.write fun H =>
      let items := H.get h
      if items.length ≤ i then H.set h (items ++ List.replicate (i + 1 - items.length) .null) else H
    return (p, v)
  | .array h =>
    let a ← Op.read fun H => H.get h
    if i < a.items.length then return (p, v)
    else
      let w ← Op.change fun H =>
        let (b, H) := a.grown G (i + 1) H
        let (j, H) := H.alloc .array b
        (Value.array j, g.store name (.array j) H)
      return (p, w)
  | _ => throw (.notIndexed name)

/-- Reads an element of a property. -/
def readElement (g : GrowingRecord) (name : String) (i : Nat) : Op G Value := do
  let (_, c) ← g.lengthened name i
  Op.tryRead fun H => H.element name i c

/-- Writes an element of a property. -/
def writeElement (g : GrowingRecord) (name : String) (i : Nat) (v : Value) : Op G Unit := do
  let (p, c) ← g.lengthened name i
  Op.tryWrite fun H => H.setElement G name i v p.elementTy c

/-- The container of entries in a property. -/
def keyed (g : GrowingRecord) (name : String) : Op G (Property × Value) := do
  let (p, v) ← g.container name fun H => H.newMap .empty
  if ← Op.read fun H => H.isKeyed v then return (p, v) else throw (.notMapped name)

/-- Reads an entry of a property. -/
def readEntry (g : GrowingRecord) (name key : String) : Op G Value := do
  let (_, c) ← g.keyed name
  Op.tryRead fun H => H.entry name key c

/-- Writes an entry of a property. -/
def writeEntry (g : GrowingRecord) (name key : String) (v : Value) : Op G Unit := do
  let (p, c) ← g.keyed name
  let w ← Op.tryRead fun H => H.coerce G p.elementTy name v
  Op.tryWrite fun H => H.setEntry name key w c

/-- Whether a property has an entry. -/
def hasEntry (g : GrowingRecord) (name key : String) (H : Heap) : Bool :=
  match H.hasEntry name key (g.stored name H) with
  | .ok b => b
  | .error _ => false

/-- Removes an entry of a property, if the property holds anything. -/
def eraseEntry (g : GrowingRecord) (name key : String) : Op G Unit :=
  Op.tryWrite fun H =>
    let v := g.stored name H
    if v.isNull then .ok H else H.eraseEntry name key v

end GrowingRecord

end ObjectGraph
