import ObjectGraph.Class.Descriptor
import ObjectGraph.Error

/-!
Keyed properties of a class: a getter `getX` that takes a text, and a setter `setX` that takes a
text and a value.  A keyed property is made of what the searches for the two have found, so that a
search may be plain or remembered.
-/

namespace ObjectGraph

/-- A search for a method by name, number of parameters and types of the first parameters. -/
structure MethodQuery where
  cls : ClassId
  name : String
  arity : Nat
  leading : Option (List Ty)
deriving DecidableEq

/-- The accessors of a keyed property, and the type of its values. -/
structure KeyedDescriptor where
  name : String
  valueTy : Ty
  read : Option Method
  write : Option Method

namespace KeyedDescriptor

/-- The search for the getter of a keyed property. -/
def readQuery (c : ClassId) (property : String) : MethodQuery :=
  ⟨c, "get" ++ capitalize property, 1, some [.text]⟩

/-- The search for the setter of a keyed property. -/
def writeQuery (c : ClassId) (property : String) : MethodQuery :=
  ⟨c, "set" ++ capitalize property, 2, some [.text]⟩

/-- The keyed property that a getter and a setter make.  The getter has to answer something, the setter nothing. -/
def ofMethods (G : ClassGraph) (c : ClassId) (property : String) (read write : Option Method) :
    Except Error (Option KeyedDescriptor) :=
  let read := read.filter fun m => m.returns.isSome
  let write := write.filter fun m => m.returns.isNone
  let readTy := read.bind Method.returns
  let writeTy := write.bind fun m => m.params[1]?
  let name (t : Option Ty) : String := (t.map G.typeName).getD "()"
  match read, write with
  | none, none => .ok none
  | some _, some _ =>
    if readTy = writeTy then .ok (some ⟨property, readTy.getD .any, read, write⟩)
    else .error (.descriptorMismatch (G.nameOf c) property (name readTy) (name writeTy))
  | some _, none => .ok (some ⟨property, readTy.getD .any, read, write⟩)
  | none, some _ => .ok (some ⟨property, writeTy.getD .any, read, write⟩)

end KeyedDescriptor

namespace ClassGraph

/-- The method that a search finds. -/
def answer (G : ClassGraph) (q : MethodQuery) : Option Method := G.method? q.cls q.name q.arity q.leading

/-- The keyed property of a class with a name. -/
def keyed? (G : ClassGraph) (c : ClassId) (property : String) : Except Error (Option KeyedDescriptor) :=
  if property.isEmpty then .ok none
  else
    KeyedDescriptor.ofMethods G c property (G.answer (KeyedDescriptor.readQuery c property))
      (G.answer (KeyedDescriptor.writeQuery c property))

end ClassGraph

end ObjectGraph
