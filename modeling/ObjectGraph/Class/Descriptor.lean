import ObjectGraph.Class.Lookup
import ObjectGraph.Class.Naming

/-!
Properties of a class, found by the names and the signatures of its methods.  The methods are read
from the farthest ancestor down to the class itself, so that later ones override earlier ones.
-/

namespace ObjectGraph

/-- The type of the index of an accessor. -/
def indexTy : Ty := .primitive (.int .w32)

/-- What an accessor does with its property. -/
inductive Role
  | read
  | write
  | readElement
  | writeElement
deriving DecidableEq

/-- The accessors of one property. -/
structure Descriptor where
  name : String
  read : Option Method
  write : Option Method
  readElement : Option Method
  writeElement : Option Method

namespace Descriptor

/-- The type of the whole property. -/
def ty? (d : Descriptor) : Option Ty :=
  match d.read with
  | some m => m.returns
  | none => d.write.bind fun m => m.params[0]?

/-- The type of one element, if there are accessors of elements. -/
def indexedTy? (d : Descriptor) : Option Ty :=
  match d.readElement with
  | some m => m.returns
  | none => d.writeElement.bind fun m => m.params[1]?

/-- The type of what an index leads to. -/
def elementTy? (d : Descriptor) : Option Ty :=
  match d.indexedTy? with
  | some t => some t
  | none =>
    match d.ty? with
    | some (.array c) => some c
    | some .list | some .any => some .any
    | _ => none

def isIndexed (d : Descriptor) : Bool := d.readElement.isSome || d.writeElement.isSome

def isReadable (d : Descriptor) : Bool := d.read.isSome || d.readElement.isSome

def isWriteable (d : Descriptor) : Bool := d.write.isSome || d.writeElement.isSome

end Descriptor

/-- The property that a method is an accessor of, and its role. -/
def Method.accessor? (m : Method) : Option (String × Role) :=
  let found :=
    match afterWord? "get" m.name, afterWord? "is" m.name, afterWord? "set" m.name with
    | some tail, _, _ =>
      match m.params, m.returns with
      | [], some _ => some (tail, Role.read)
      | [t], some _ => if t = indexTy then some (tail, .readElement) else none
      | _, _ => none
    | none, some tail, _ =>
      match m.params, m.returns with
      | [], some (.primitive .bool) => some (tail, .read)
      | _, _ => none
    | none, none, some tail =>
      match m.params, m.returns with
      | [_], none => some (tail, .write)
      | [t, _], none => if t = indexTy then some (tail, .writeElement) else none
      | _, _ => none
    | none, none, none => none
  found.bind fun (tail, role) => if tail.isEmpty then none else some (decapitalize tail, role)

/-- The accessors of one property as they have been read so far. -/
structure Draft where
  name : String
  read : Option Method
  writes : List Method
  readElement : Option Method
  writeElements : List Method

namespace Draft

/-- No accessors. -/
def blank (name : String) : Draft := ⟨name, none, [], none, []⟩

/-- Whether a method is named as a question. -/
def isQuestion (m : Method) : Bool := (afterWord? "is" m.name).isSome

/-- Adds an accessor.  A later one replaces an earlier one, but none replaces a question except a question. -/
def add (d : Draft) (m : Method) : Role → Draft
  | .read => if d.read.any isQuestion && !isQuestion m then d else { d with read := some m }
  | .write => { d with writes := d.writes ++ [m] }
  | .readElement => { d with readElement := some m }
  | .writeElement => { d with writeElements := d.writeElements ++ [m] }

/-- The last writer whose parameter at a place has the type that is read, or the last writer if nothing is read. -/
def pickWrite? (expected : Option Ty) (writes : List Method) (place : Nat) : Option Method :=
  match expected with
  | none => writes.getLast?
  | some t => writes.reverse.find? fun m => m.params[place]? == some t

/-- The accessors of the property. -/
def finish (d : Draft) : Descriptor :=
  { name := d.name
    read := d.read
    write := pickWrite? (d.read.bind Method.returns) d.writes 0
    readElement := d.readElement
    writeElement := pickWrite? (d.readElement.bind Method.returns) d.writeElements 1 }

/-- Adds an accessor to the draft of its property, which is begun if there is none. -/
def record (name : String) (role : Role) (m : Method) : List Draft → List Draft
  | [] => [(blank name).add m role]
  | d :: ds => if d.name = name then d.add m role :: ds else d :: record name role m ds

end Draft

namespace ClassGraph

/-- The accessors that objects of a class have, from the farthest ancestor down to the class. -/
def accessors (G : ClassGraph) (c : ClassId) : List (String × Role × Method) :=
  (G.ancestors c).reverse.flatMap fun d =>
    (G.get d).methods.filterMap fun m =>
      if m.hasBody then
        m.accessor?.bind fun (name, role) => (G.accessible? c d m).map fun m => (name, role, m)
      else none

/-- The properties of a class, in the order in which their first accessors are read. -/
def descriptors (G : ClassGraph) (c : ClassId) : List Descriptor :=
  ((G.accessors c).foldl (fun ds (name, role, m) => Draft.record name role m ds) []).map Draft.finish

end ClassGraph

/-- The property with a name. -/
def findDescriptor? (ds : List Descriptor) (name : String) : Option Descriptor := ds.find? fun d => d.name == name

end ObjectGraph
