import ObjectGraph.Object.Access
import ObjectGraph.Record.Fixed
import ObjectGraph.Record.Growing

/-!
What all kinds of records can do, and how a schema that they share is changed.  An adapter reads and writes its
object through its own resolver.
-/

namespace ObjectGraph

/-- Fails unless a name is free of the characters that have a meaning in paths. -/
def checkSimpleName (name : String) : Except Error Unit :=
  if name.toList.any Path.isDelimiter then
    .error (.invalidPath ⟨Utf8.length (name.toList.takeWhile fun c => !Path.isDelimiter c), name, .simpleExpected⟩)
  else .ok ()

namespace SharedSchema
variable {G : ClassGraph}

/-- A new schema. -/
def create (name : String) (ps : List Property) : Op G (Handle .schema) :=
  Op.change fun H => H.alloc .schema (.ofProperties name ps)

/-- Changes a schema, unless the change is refused. -/
def edit (S : Handle .schema) (f : Schema → Except Error Schema) : Op G Unit :=
  Op.tryWrite fun H => (f (H.get S)).map (H.set S)

end SharedSchema

namespace Record
variable {G : ClassGraph} {α : Type}

/-- A new fixed record without values. -/
def newFixed (S : Handle .schema) : Op G (Handle .record) :=
  Op.change fun H => H.alloc .record (.fixed S .empty)

/-- A new growing record without values, with its own copy of a schema. -/
def newGrowing (S : Schema) : Op G (Handle .record) :=
  Op.change fun H =>
    let (j, H) := H.alloc .schema S
    H.alloc .record (.growing j (.own .empty))

/-- A new growing record over a map. -/
def newOver (m : Handle .map) : Op G (Handle .record) :=
  Op.change fun H =>
    let (j, H) := H.alloc .schema (.blank "LazyDynaMap")
    H.alloc .record (.growing j (.shared m))

/-- The declared property that shows a property of an object. -/
def adapted (d : Descriptor) : Property :=
  let ty := d.ty?.getD .any
  ⟨d.name, ty, if ty.isArray then none else d.indexedTy?⟩

/-- A new adapter of an object. -/
def newAdapter (r : Resolver) (o : Handle .object) : Op G (Handle .record) := do
  let c ← Resolver.classOf o
  let ds ← r.descriptors c
  Op.change fun H =>
    let S := (Schema.ofProperties (G.nameOf c) (ds.map adapted)).restrict true
    let (j, H) := H.alloc .schema S
    H.alloc .record (.adapter j o r)

/-- Reads a property. -/
def read (h : Handle .record) (name : String) : Op G Value := do
  match ← Op.read fun H => H.get h with
  | .fixed S values => Op.tryRead fun H => FixedRecord.read (H.get S) values name
  | .growing S store => (GrowingRecord.ofStore h S store).read name
  | .adapter _ o r => do
    Op.tryRead fun _ => checkSimpleName name
    r.readObject o name

/-- Writes a property. -/
def write (h : Handle .record) (name : String) (v : Value) : Op G Unit := do
  match ← Op.read fun H => H.get h with
  | .fixed S values =>
    Op.tryWrite fun H => do
      let values ← FixedRecord.write G H (H.get S) values name v
      return H.set h (.fixed S values)
  | .growing S store => (GrowingRecord.ofStore h S store).write name v
  | .adapter _ o r => do
    Op.tryRead fun _ => checkSimpleName name
    r.writeObject o name v

/-- Reads an element of a property. -/
def readElement (h : Handle .record) (name : String) (i : Nat) : Op G Value := do
  match ← Op.read fun H => H.get h with
  | .fixed S values => Op.tryRead fun H => FixedRecord.readElement H (H.get S) values name i
  | .growing S store => (GrowingRecord.ofStore h S store).readElement name i
  | .adapter _ o r => r.readObjectElement o name i

/-- Writes an element of a property. -/
def writeElement (h : Handle .record) (name : String) (i : Nat) (v : Value) : Op G Unit := do
  match ← Op.read fun H => H.get h with
  | .fixed S values => Op.tryWrite fun H => FixedRecord.writeElement G H (H.get S) values name i v
  | .growing S store => (GrowingRecord.ofStore h S store).writeElement name i v
  | .adapter _ o r => r.writeObjectElement o name i v

/-- Reads an entry of a property. -/
def readEntry (h : Handle .record) (name key : String) : Op G Value := do
  match ← Op.read fun H => H.get h with
  | .fixed S values => Op.tryRead fun H => FixedRecord.readEntry H (H.get S) values name key
  | .growing S store => (GrowingRecord.ofStore h S store).readEntry name key
  | .adapter _ o r => r.readObjectEntry o name key

/-- Writes an entry of a property. -/
def writeEntry (h : Handle .record) (name key : String) (v : Value) : Op G Unit := do
  match ← Op.read fun H => H.get h with
  | .fixed S values => Op.tryWrite fun H => FixedRecord.writeEntry G H (H.get S) values name key v
  | .growing S store => (GrowingRecord.ofStore h S store).writeEntry name key v
  | .adapter _ o r => r.writeObjectEntry o name key v

/-- The error that an adapter cannot do something. -/
def refused (operation : String) (h : Handle .record) : Op G α := do
  throw (.unsupported operation (← Op.read fun H => (H.schemaOf h).name))

/-- Whether a property has an entry. -/
def hasEntry (h : Handle .record) (name key : String) : Op G Bool := do
  match ← Op.read fun H => H.get h with
  | .fixed S values => Op.tryRead fun H => FixedRecord.hasEntry H (H.get S) values name key
  | .growing S store => Op.read ((GrowingRecord.ofStore h S store).hasEntry name key)
  | .adapter .. => refused "contains" h

/-- Removes an entry of a property. -/
def eraseEntry (h : Handle .record) (name key : String) : Op G Unit := do
  match ← Op.read fun H => H.get h with
  | .fixed S values => Op.tryWrite fun H => FixedRecord.eraseEntry H (H.get S) values name key
  | .growing S store => (GrowingRecord.ofStore h S store).eraseEntry name key
  | .adapter .. => refused "remove" h

/-- The number of elements or entries of a property. -/
def size (h : Handle .record) (name : String) : Op G Nat := do
  match ← Op.read fun H => H.get h with
  | .growing S store => Op.read ((GrowingRecord.ofStore h S store).size name)
  | _ => do
    let v ← read h name
    Op.read fun H => (H.length? v).getD 0

/-- The property with a name. -/
def property? (h : Handle .record) (name : String) (H : Heap) : Option Property :=
  match H.get h with
  | .growing S store => (GrowingRecord.ofStore h S store).property? name H
  | _ => (H.schemaOf h).property? name

/-- The names of the properties.  An adapter has those of its object that can be read as a whole. -/
def names (h : Handle .record) : Op G (List String) := do
  match ← Op.read fun H => H.get h with
  | .fixed S _ => Op.read fun H => (H.get S).names
  | .growing S store => Op.read (GrowingRecord.ofStore h S store).names
  | .adapter _ o r => do
    let ds ← r.descriptors (← Resolver.classOf o)
    return (ds.filter fun d => d.read.isSome).map Descriptor.name

/-- A new record of the same kind and with the same properties that holds nothing.  A fixed record
shares its schema, a growing one copies it, and an adapter shows a new object. -/
def instantiate (h : Handle .record) : Op G (Handle .record) := do
  match ← Op.read fun H => H.get h with
  | .fixed S _ => newFixed S
  | .growing S _ => do newGrowing (← Op.read fun H => H.get S)
  | .adapter _ o r => do
    let o ← Op.tryChange (G.instantiate (← Resolver.classOf o))
    newAdapter r o

/-- A copy of a record.  A growing one copies its schema, and its values unless they are in a shared map. -/
def copy (h : Handle .record) : Op G (Handle .record) :=
  Op.change fun H =>
    match H.get h with
    | .growing S store =>
      let (j, H) := H.alloc .schema (H.get S)
      H.alloc .record (.growing j store)
    | other => H.alloc .record other

/-- Declares a property of a growing record; other records are left as they are. -/
def declare (h : Handle .record) (p : Property) : Op G Unit := do
  match ← Op.read fun H => H.get h with
  | .growing S store => (GrowingRecord.ofStore h S store).declare p
  | _ => return

end Record

end ObjectGraph
