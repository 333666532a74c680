import ObjectGraph.Record.Operations

/-!
One step of a path: reading and writing a name, an element or an entry of any value.  Records know
their properties themselves, the entries of a map are its properties, and objects have accessors.  A
subscript with an empty name is one of the value itself.
-/

namespace ObjectGraph.Resolver
variable {G : ClassGraph} {α : Type}

/-- The error that a value has no property of a name. -/
def unknown (name : String) (target : Value) : Op G α := do
  throw (.unknownProperty name (← Op.read fun H => H.targetName G target))

/-- The entry of a map; without one it is null. -/
def mapEntry (m : Handle .map) (name : String) (H : Heap) : Value := ((H.get m).get? name).getD .null

/-- Reads a name. -/
def readName (r : Resolver) (target : Value) (name : String) : Op G Value :=
  match target with
  | .null => throw .nullTarget
  | .record h => Record.read h name
  | .map m => Op.read (mapEntry m name)
  | .object o => r.readObject o name
  | _ => unknown name target

/-- Reads an element. -/
def readElement (r : Resolver) (target : Value) (name : String) (i : Nat) : Op G Value :=
  match target with
  | .null => throw .nullTarget
  | .record h => Record.readElement h name i
  | .object o => r.readObjectElement o name i
  | _ =>
    if name.isEmpty then Op.tryRead fun H => H.element (H.targetName G target) i target
    else
      match target with
      | .map m => Op.tryRead fun H => H.elementOf name i (mapEntry m name H)
      | _ => unknown name target

/-- Reads an entry. -/
def readEntry (r : Resolver) (target : Value) (name key : String) : Op G Value :=
  match target with
  | .null => throw .nullTarget
  | .record h => Record.readEntry h name key
  | .object o => r.readObjectEntry o name key
  | _ =>
    if name.isEmpty then Op.tryRead fun H => H.entry (H.targetName G target) key target
    else
      match target with
      | .map m => Op.tryRead fun H => H.entryOf name key (mapEntry m name H)
      | _ => unknown name target

/-- Writes a name. -/
def writeName (r : Resolver) (target : Value) (name : String) (v : Value) : Op G Unit :=
  match target with
  | .null => throw .nullTarget
  | .record h => Record.write h name v
  | .map m => Op.write fun H => H.set m ((H.get m).insert name v)
  | .object o => r.writeObject o name v
  | _ => unknown name target

/-- Writes an element. -/
def writeElement (r : Resolver) (target : Value) (name : String) (i : Nat) (v : Value) : Op G Unit :=
  match target with
  | .null => throw .nullTarget
  | .record h => Record.writeElement h name i v
  | .object o => r.writeObjectElement o name i v
  | _ =>
    if name.isEmpty then Op.tryWrite fun H => H.setElement G (H.targetName G target) i v .any target
    else
      match target with
      | .map m => Op.tryWrite fun H => H.setElementOf G name i v .any (mapEntry m name H)
      | _ => unknown name target

/-- Writes an entry. -/
def writeEntry (r : Resolver) (target : Value) (name key : String) (v : Value) : Op G Unit :=
  match target with
  | .null => throw .nullTarget
  | .record h => Record.writeEntry h name key v
  | .object o => r.writeObjectEntry o name key v
  | _ =>
    if name.isEmpty then Op.tryWrite fun H => H.setEntry (H.targetName G target) key v target
    else
      match target with
      | .map m => Op.tryWrite fun H => H.setEntryOf name key v (mapEntry m name H)
      | _ => unknown name target

/-- Reads a segment. -/
def readSegment (r : Resolver) (target : Value) (s : Segment) : Op G Value :=
  match s.subscript with
  | .none => r.readName target s.name
  | .index i => r.readElement target s.name i
  | .key k => r.readEntry target s.name k

/-- Writes a segment. -/
def writeSegment (r : Resolver) (target : Value) (s : Segment) (v : Value) : Op G Unit :=
  match s.subscript with
  | .none => r.writeName target s.name v
  | .index i => r.writeElement target s.name i v
  | .key k => r.writeEntry target s.name k v

end ObjectGraph.Resolver
