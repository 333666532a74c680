import ObjectGraph.Access.Resolve

/-!
Questions about properties: their types, their accessors, and whether they can be read or written.
-/

namespace ObjectGraph.Resolver
variable {G : ClassGraph}

/-- The keyed property of a class, if there is one and its accessors agree. -/
def keyedIfSound (r : Resolver) (c : ClassId) (name : String) : Op G (Option KeyedDescriptor) := do
  match ← Op.attempt (r.keyed c name) with
  | .ok d => return d
  | .error _ => return none

/-- The type of the value that a segment leads to, if it can be read and is not null. -/
def typeByValue (r : Resolver) (target : Value) (s : Segment) : Op G (Option Ty) := do
  match ← Op.attempt (r.readSegment target s) with
  | .ok v => if v.isNull then return none else Op.read fun H => some (H.typeOf v)
  | .error _ => return none

/-- The declared type of what a segment of an object leads to. -/
def objectTy (r : Resolver) (o : Handle .object) (s : Segment) : Op G (Option Ty) := do
  let c ← classOf o
  match findDescriptor? (← r.descriptors c) s.name with
  | some d =>
    match s.subscript with
    | .none => return d.ty?
    | .index _ => return d.elementTy?
    | .key _ => return some .any
  | none =>
    match ← r.keyed c s.name with
    | some k => return some k.valueTy
    | none => r.typeByValue (.object o) s

/-- The declared type of what a segment of a value leads to. -/
def segmentTy (r : Resolver) (target : Value) (s : Segment) : Op G (Option Ty) := do
  match target with
  | .record h => do
    let p ← Op.read (Record.property? h s.name)
    return p.map fun p => if s.subscript = .none then p.ty else p.elementTy
  | .map _ => r.typeByValue target s
  | .object o => r.objectTy o s
  | _ => return none

/-- The declared type of the property at a path; for a subscript it is the type of the elements. -/
def propertyTy (r : Resolver) (target : Value) (path : String) : Op G (Option Ty) := do
  let (parent, s) ← r.owner target path
  r.segmentTy parent s

/-- Whether a segment of an object can be read. -/
def objectReadable (r : Resolver) (o : Handle .object) (s : Segment) : Op G Bool := do
  if ← Op.read fun H => H.isKeyed (.object o) then return true
  let c ← classOf o
  match findDescriptor? (← r.descriptors c) s.name with
  | some d =>
    match s.subscript with
    | .index _ => return d.isReadable
    | _ => return d.read.isSome
  | none => return (← r.keyedIfSound c s.name).any fun k => k.read.isSome

/-- Whether a segment of an object can be written. -/
def objectWriteable (r : Resolver) (o : Handle .object) (s : Segment) : Op G Bool := do
  if ← Op.read fun H => H.isKeyed (.object o) then return true
  let c ← classOf o
  match findDescriptor? (← r.descriptors c) s.name with
  | some d =>
    match s.subscript with
    | .none => return d.write.isSome
    | .index _ => return d.isWriteable || d.read.isSome
    | .key _ => return d.read.isSome
  | none => return (← r.keyedIfSound c s.name).any fun k => k.write.isSome

/-- Whether a property of a record can be read.  The name is one of a segment, so for an adapter it is a
path of one segment at most; the empty name is no path. -/
def recordReadable (h : Handle .record) (name : String) : Op G Bool := do
  match ← Op.read fun H => H.get h with
  | .fixed S _ => Op.read fun H => (H.get S).declares name
  | .growing .. => return true
  | .adapter _ o r => if name.isEmpty then return false else r.objectReadable o ⟨name, .none⟩

/-- Whether a property of a record can be written.  The name is one of a segment. -/
def recordWriteable (h : Handle .record) (name : String) : Op G Bool := do
  match ← Op.read fun H => H.get h with
  | .fixed S _ => Op.read fun H => (H.get S).declares name
  | .growing S store => Op.read ((GrowingRecord.ofStore h S store).isWriteable name)
  | .adapter _ o r => if name.isEmpty then return false else r.objectWriteable o ⟨name, .none⟩

/-- Whether a segment of a value can be read. -/
def segmentReadable (r : Resolver) (target : Value) (s : Segment) : Op G Bool :=
  match target with
  | .record h => recordReadable h s.name
  | .map _ => return true
  | .object o => r.objectReadable o s
  | _ => return false

/-- Whether a segment of a value can be written. -/
def segmentWriteable (r : Resolver) (target : Value) (s : Segment) : Op G Bool :=
  match target with
  | .record h => recordWriteable h s.name
  | .map _ => return true
  | .object o => r.objectWriteable o s
  | _ => return false

/-- Whether the property at a path can be read.  A path that leads nowhere cannot. -/
def isReadable (r : Resolver) (target : Value) (path : String) : Op G Bool := do
  match ← Op.attempt (r.owner target path) with
  | .ok (parent, s) => r.segmentReadable parent s
  | .error _ => return false

/-- Whether the property at a path can be written.  A path that leads nowhere cannot. -/
def isWriteable (r : Resolver) (target : Value) (path : String) : Op G Bool := do
  match ← Op.attempt (r.owner target path) with
  | .ok (parent, s) => r.segmentWriteable parent s
  | .error _ => return false

/-- The properties of an object. -/
def propertyDescriptors (r : Resolver) (target : Value) : Op G (List Descriptor) := do
  match target with
  | .null => throw .nullTarget
  | .object o => r.descriptors (← classOf o)
  | _ => throw (.unsupported "property_descriptors" (← Op.read fun H => H.targetName G target))

/-- The accessors of the property at a path, if its owner is an object that has it. -/
def propertyDescriptor? (r : Resolver) (target : Value) (path : String) : Op G (Option Descriptor) := do
  let (parent, s) ← r.owner target path
  match parent with
  | .object o => do
    let ds ← r.descriptors (← classOf o)
    return findDescriptor? ds s.name
  | _ => return none

/-- The keyed accessors of a property of an object. -/
def keyedDescriptor? (r : Resolver) (target : Value) (name : String) : Op G (Option KeyedDescriptor) := do
  match target with
  | .null => throw .nullTarget
  | .object o => r.keyed (← classOf o) name
  | _ => return none

end ObjectGraph.Resolver

namespace ObjectGraph.Record
variable {G : ClassGraph}

/-- Whether a property of a record can be read.  For an adapter the name is a path from its object. -/
def isReadable (h : Handle .record) (name : String) : Op G Bool := do
  match ← Op.read fun H => H.get h with
  | .adapter _ o r => r.isReadable (.object o) name
  | _ => Resolver.recordReadable h name

/-- Whether a property of a record can be written.  For an adapter the name is a path from its object. -/
def isWriteable (h : Handle .record) (name : String) : Op G Bool := do
  match ← Op.read fun H => H.get h with
  | .adapter _ o r => r.isWriteable (.object o) name
  | _ => Resolver.recordWriteable h name

end ObjectGraph.Record
