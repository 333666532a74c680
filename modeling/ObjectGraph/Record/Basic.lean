import ObjectGraph.Data.Dict
import ObjectGraph.Error
import ObjectGraph.Record.PropertyTable
import ObjectGraph.Value.Basic

/-!
Records: containers whose properties are described by a schema that is a value of its own.  A fixed
record takes only declared properties, a growing one declares them as they are written, and an
adapter shows an object as a record.
-/

namespace ObjectGraph

/-- The declared properties of records, in order. -/
structure Schema where
  name : String
  table : PropertyTable
  isRestricted : Bool
  indexed : table.Indexed

namespace Schema

/-- A schema without properties. -/
def blank (name : String) : Schema := ⟨name, .empty, false, PropertyTable.indexed_empty⟩

instance : Inhabited Schema := ⟨blank ""⟩

/-- The declared properties, in order. -/
def properties (S : Schema) : List Property := S.table.properties

/-- The property with a name. -/
def property? (S : Schema) (name : String) : Option Property := S.table.get? name

/-- Whether a name is declared. -/
def declares (S : Schema) (name : String) : Bool := S.table.contains name

/-- The declared names, in order. -/
def names (S : Schema) : List String := S.table.names

/-- The number of declared properties. -/
def size (S : Schema) : Nat := S.properties.length

/-- Whether nothing is declared. -/
def isEmpty (S : Schema) : Bool := S.properties.isEmpty

/-- The property with a name, which has to be declared. -/
def declared (S : Schema) (name : String) : Except Error Property :=
  match S.property? name with
  | some p => .ok p
  | none => .error (.unknownProperty name S.name)

/-- Declares a property, whether or not the schema is restricted; it takes the place of an older one of its name. -/
def put (S : Schema) (p : Property) : Schema :=
  { S with table := S.table.insert p, indexed := S.indexed.insert p }

/-- Takes out the property with a name, if there is one, whether or not the schema is restricted. -/
def drop (S : Schema) (name : String) : Schema :=
  { S with table := S.table.erase name, indexed := S.indexed.erase name }

/-- A schema with some properties. -/
def ofProperties (name : String) (ps : List Property) : Schema := ps.foldl put (blank name)

/-- Changes an unrestricted schema; the name says which property is meant. -/
def change (S : Schema) (name : String) (f : Schema → Schema) : Except Error Schema :=
  if S.isRestricted then .error (.restrictedSchema S.name name) else .ok (f S)

/-- Declares a property. -/
def add (S : Schema) (p : Property) : Except Error Schema := S.change p.name fun S => S.put p

/-- Removes a property, if it is declared. -/
def remove (S : Schema) (name : String) : Except Error Schema := S.change name fun S => S.drop name

/-- Restricts a schema or lifts the restriction. -/
def restrict (S : Schema) (isRestricted : Bool) : Schema := { S with isRestricted := isRestricted }

end Schema

/-- A resolver of properties, by the place of its cache of descriptors. -/
structure Resolver where
  cache : Nat
deriving DecidableEq

/-- Where a growing record keeps its values: in itself, or in a map that others may hold as well. -/
inductive Store
  | own (values : Dict Value)
  | shared (map : Handle .map)

/-- A record. -/
inductive Record
  | fixed (schema : Handle .schema) (values : Dict Value)
  | growing (schema : Handle .schema) (store : Store)
  | adapter (schema : Handle .schema) (object : Handle .object) (resolver : Resolver)

instance : Inhabited Record := ⟨.fixed ⟨0⟩ .empty⟩

namespace Record

/-- The schema of a record. -/
def schema : Record → Handle .schema
  | fixed S _ | growing S _ | adapter S _ _ => S

end Record

end ObjectGraph
