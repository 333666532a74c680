import ObjectGraph.Access.Bulk
import ObjectGraph.Convert.Registry

/-!
Binding of values to properties: values are converted to the declared types of the properties that
they are written to, and properties are read as texts.
-/

namespace ObjectGraph

/-- A resolver with a registry of converters. -/
structure Binder where
  resolver : Resolver
  registry : Registry

namespace Binder
variable {G : ClassGraph}

/-- Converts a value to a type. -/
def convert (b : Binder) (v : Value) (t : Ty) : Op G Value := Op.tryChange (b.registry.convert G t v)

/-- Converts a value for a slot of a type.  Null stays as it is where the slot can hold it. -/
def convertFor (b : Binder) (v : Value) (t : Ty) : Op G Value :=
  if v.isNull && !t.isPrimitive then return .null else b.convert v t

/-- The type to convert to when a path is written, if values are not taken as they are. -/
def targetTy (b : Binder) (target parent : Value) (path : String) : Op G (Option Ty) := do
  match parent with
  | .map _ => return none
  | _ => return (← b.resolver.propertyTy target path).filter (· ≠ .any)

/-- Writes a value to the property at a path, converted to its type. -/
def copyProperty (b : Binder) (target : Value) (path : String) (v : Value) : Op G Unit := do
  let (parent, s) ← b.resolver.owner target path
  let w ←
    match ← b.targetTy target parent path with
    | some t => b.convertFor v t
    | none => pure v
  b.resolver.writeSegment parent s w

/-- Copies all properties that can be read to those of the same names that can be written, converted to their types. -/
def copyProperties (b : Binder) (dest orig : Value) : Op G Unit := do
  if dest.isNull || orig.isNull then throw .nullTarget
  let d ← b.resolver.describe orig
  b.resolver.copyEntries dest (b.copyProperty dest) d.entries

/-- Converts what is written to a whole property or to one element.  A text becomes an array of one element
where a whole array is wanted; of many texts the first one counts where no array is. -/
def convertInput (b : Binder) (v : Value) (t : Ty) (isWhole : Bool) : Op G Value := do
  let wantsArray := t.isArray && isWhole
  match v, ← Op.read fun H => H.texts? v with
  | .text s, _ =>
    if wantsArray then Op.tryChange (b.registry.convertTexts G t [s]) else Op.tryChange (b.registry.convertText G t s)
  | _, some items =>
    if wantsArray then
      let list ← Op.change fun H => H.newList items
      b.convert list t
    else b.convert (items.head?.getD .null) t
  | _, none => b.convertFor v t

/-- Writes a value to the property at a path, where texts and arrays of texts are converted. -/
def setProperty (b : Binder) (target : Value) (path : String) (v : Value) : Op G Unit := do
  let (parent, s) ← b.resolver.owner target path
  match ← b.targetTy target parent path with
  | none => b.resolver.writeSegment parent s v
  | some t => do
    let w ← b.convertInput v t (s.subscript = .none)
    b.resolver.writeSegment parent s w

/-- Writes entries to the properties at the paths that they name. -/
def setEntries (b : Binder) (target : Value) : List (String × Value) → Op G Unit
  | [] => return
  | (path, v) :: rest => do
    Resolver.unlessMissing (b.setProperty target path v)
    setEntries b target rest

/-- Writes the entries of a map in the order of their names; absent and read-only properties are skipped. -/
def populate (b : Binder) (target : Value) (values : Dict Value) : Op G Unit := do
  if target.isNull then throw .nullTarget
  b.setEntries target values.entries

/-- The text of a value; without one the answer is none. -/
def textOf (b : Binder) (v : Value) : Op G (Option String) := Op.tryChange (b.registry.toText G v)

/-- The text of a value as a value. -/
def textValue (b : Binder) (v : Value) : Op G Value := do
  match ← b.textOf v with
  | some s => return .text s
  | none => return .null

/-- The texts of values. -/
def textValues (b : Binder) : List Value → Op G (List Value)
  | [] => return []
  | v :: vs => do
    let w ← b.textValue v
    let ws ← textValues b vs
    return w :: ws

/-- An array of the texts of the elements of a list or an array, or of a single value; null stays null. -/
def textArray (b : Binder) (v : Value) : Op G Value := do
  if v.isNull then return .null
  let items ← Op.read fun H => (H.items? v).getD [v]
  let texts ← b.textValues items
  Op.change fun H => H.newArray .text texts

/-- The entries with texts, or arrays of texts, for values. -/
def describeEntries (b : Binder) (d : Dict Value) : List (String × Value) → Op G (Dict Value)
  | [] => return d
  | (name, v) :: rest => do
    let w ← if (← Op.read fun H => H.items? v).isSome then b.textArray v else b.textValue v
    describeEntries b (d.insert name w) rest

/-- All properties that can be read, as texts or arrays of texts. -/
def describe (b : Binder) (target : Value) : Op G (Dict Value) := do
  let d ← b.resolver.describe target
  b.describeEntries .empty d.entries

/-- The text of the property at a path. -/
def getText (b : Binder) (target : Value) (path : String) : Op G (Option String) := do
  b.textOf (← b.resolver.read target path)

/-- The texts of the property at a path. -/
def getTexts (b : Binder) (target : Value) (path : String) : Op G Value := do
  b.textArray (← b.resolver.read target path)

/-- The text of what a name with an index says. -/
def getIndexedText (b : Binder) (target : Value) (text : String) : Op G (Option String) := do
  b.textOf (← b.resolver.readIndexed target text)

/-- The text of what a name with a key says. -/
def getKeyedText (b : Binder) (target : Value) (text : String) : Op G (Option String) := do
  b.textOf (← b.resolver.readKeyed target text)

/-- A new value of the same class or kind, with copies of the properties.  What they hold is shared. -/
def clone (b : Binder) (v : Value) : Op G Value := do
  match v with
  | .null => throw .nullTarget
  | .map m => Op.change fun H => H.newMap (H.get m)
  | .object o => do
    let copy : Value := .object (← Op.tryChange (G.instantiate (← Resolver.classOf o)))
    b.copyProperties copy v
    return copy
  | .record h => do
    let copy : Value := .record (← Record.instantiate h)
    b.copyProperties copy v
    return copy
  | _ => throw (.unsupported "clone_bean" (← Op.read fun H => H.typeName G v))

end Binder

end ObjectGraph
