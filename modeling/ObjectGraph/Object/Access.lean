import ObjectGraph.Object.Invocation
import ObjectGraph.Operation

/-!
Properties of objects, read and written through the accessors of their classes.  Where a class has no
accessor for a name, the storage of an object that has one is used.  A subscript with an empty name
is one of the object itself.
-/

namespace ObjectGraph

/-- The greatest index that an accessor can take. -/
def maxAccessorIndex : Nat := 2147483647

/-- An index as the argument of an accessor. -/
def indexArgument (property : String) (i : Nat) : Except Error Value :=
  if i ≤ maxAccessorIndex then
    match Signed.ofInt? 32 i with
    | some n => .ok (.int .w32 n)
    | none => .error (.indexOutOfRange property i maxAccessorIndex)
  else .error (.indexOutOfRange property i maxAccessorIndex)

namespace Heap

/-- The entry of a name in the storage of an object that has one. -/
def storedEntry? (H : Heap) (o : Handle .object) (name : String) : Option Value :=
  (H.get o).storage.map fun d => (d.get? name).getD .null

end Heap

namespace Resolver
variable {G : ClassGraph}

/-- The class of an object. -/
def classOf (o : Handle .object) : Op G ClassId := Op.read fun H => (H.get o).cls

/-- Calls a method. -/
def call (m : Method) (o : Handle .object) (args : List Value) : Op G Value := Op.tryChange (m.invoke G o args)

/-- Calls a setter with a value, which is checked against its last parameter. -/
def callWith (m : Method) (o : Handle .object) (property : String) (leading : List Value) (v : Value) : Op G Unit := do
  let w ←
    match m.params.getLast? with
    | some t => Op.tryRead fun H => H.coerce G t property v
    | none => pure v
  let _ ← call m o (leading ++ [w])

/-- The error that a property cannot be read: it has no getter, or there is none of its name. -/
def unreadable (known : Bool) (c : ClassId) (name : String) : Error :=
  if known then .notReadable name (G.nameOf c) else .unknownProperty name (G.nameOf c)

/-- The error that a property cannot be written: it has no setter, or there is none of its name. -/
def unwriteable (known : Bool) (c : ClassId) (name : String) : Error :=
  if known then .notWriteable name (G.nameOf c) else .unknownProperty name (G.nameOf c)

/-- Reads a property of an object. -/
def readObject (r : Resolver) (o : Handle .object) (name : String) : Op G Value := do
  let c ← classOf o
  let d := findDescriptor? (← r.descriptors c) name
  match d.bind Descriptor.read with
  | some m => call m o []
  | none =>
    match ← Op.read fun H => H.storedEntry? o name with
    | some v => return v
    | none => throw (unreadable (G := G) d.isSome c name)

/-- Reads an element of a property of an object. -/
def readObjectElement (r : Resolver) (o : Handle .object) (name : String) (i : Nat) : Op G Value := do
  let c ← classOf o
  if name.isEmpty then throw (.notIndexed (G.nameOf c))
  match findDescriptor? (← r.descriptors c) name with
  | some d =>
    match d.readElement, d.read with
    | some m, _ => call m o [← Op.tryRead fun _ => indexArgument name i]
    | none, some m => do
      let v ← call m o []
      Op.tryRead fun H => H.elementOf name i v
    | none, none => throw (unreadable (G := G) true c name)
  | none => do
    if (← r.keyed c name).isSome then throw (.notIndexed name)
    match ← Op.read fun H => H.storedEntry? o name with
    | some v => Op.tryRead fun H => H.elementOf name i v
    | none => throw (unreadable (G := G) false c name)

/-- Reads an entry of a property of an object. -/
def readObjectEntry (r : Resolver) (o : Handle .object) (name key : String) : Op G Value := do
  let c ← classOf o
  if name.isEmpty then Op.tryRead fun H => H.entry (G.nameOf c) key (.object o)
  else
  let d := findDescriptor? (← r.descriptors c) name
  match d.bind Descriptor.read with
  | some m => do
    let v ← call m o []
    Op.tryRead fun H => H.entryOf name key v
  | none =>
    match ← r.keyed c name with
    | some k =>
      match k.read with
      | some m => call m o [.text key]
      | none => throw (unreadable (G := G) true c name)
    | none =>
      match ← Op.read fun H => H.storedEntry? o name with
      | some v => Op.tryRead fun H => H.entryOf name key v
      | none => throw (unreadable (G := G) d.isSome c name)

/-- Writes a property of an object. -/
def writeObject (r : Resolver) (o : Handle .object) (name : String) (v : Value) : Op G Unit := do
  let c ← classOf o
  let d := findDescriptor? (← r.descriptors c) name
  match d.bind Descriptor.write with
  | some m => callWith m o name [] v
  | none =>
    if (← Op.read fun H => H.storedEntry? o name).isSome then
      Op.tryWrite fun H => H.setEntry name name v (.object o)
    else throw (unwriteable (G := G) d.isSome c name)

/-- Writes an element of a property of an object. -/
def writeObjectElement (r : Resolver) (o : Handle .object) (name : String) (i : Nat) (v : Value) : Op G Unit := do
  let c ← classOf o
  if name.isEmpty then throw (.notIndexed (G.nameOf c))
  match findDescriptor? (← r.descriptors c) name with
  | some d =>
    match d.writeElement, d.read with
    | some m, _ => do
      let j ← Op.tryRead fun _ => indexArgument name i
      callWith m o name [j] v
    | none, some m => do
      let w ← call m o []
      Op.tryWrite fun H => H.setElementOf G name i v (d.elementTy?.getD .any) w
    | none, none => throw (unwriteable (G := G) true c name)
  | none => do
    if (← r.keyed c name).isSome then throw (.notIndexed name)
    match ← Op.read fun H => H.storedEntry? o name with
    | some w => Op.tryWrite fun H => H.setElementOf G name i v .any w
    | none => throw (unwriteable (G := G) false c name)

/-- Writes an entry of a property of an object. -/
def writeObjectEntry (r : Resolver) (o : Handle .object) (name key : String) (v : Value) : Op G Unit := do
  let c ← classOf o
  if name.isEmpty then Op.tryWrite fun H => H.setEntry (G.nameOf c) key v (.object o)
  else
  let d := findDescriptor? (← r.descriptors c) name
  match d.bind Descriptor.read with
  | some m => do
    let w ← call m o []
    Op.tryWrite fun H => H.setEntryOf name key v w
  | none =>
    match ← r.keyed c name with
    | some k =>
      match k.write with
      | some m => callWith m o name [.text key] v
      | none => throw (unwriteable (G := G) true c name)
    | none =>
      match ← Op.read fun H => H.storedEntry? o name with
      | some w => Op.tryWrite fun H => H.setEntryOf name key v w
      | none => throw (unwriteable (G := G) d.isSome c name)

end Resolver

end ObjectGraph
