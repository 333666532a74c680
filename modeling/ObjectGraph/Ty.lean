/-!
Types of slots.  A primitive slot never holds null; a boxed one holds the same scalars and null.
-/

namespace ObjectGraph

/-- A class, by its place in the order in which classes are defined. -/
abbrev ClassId := Nat

/-- The sizes of primitive integers. -/
inductive IntSize
  | w8
  | w16
  | w32
  | w64
deriving DecidableEq

namespace IntSize

/-- The number of bits. -/
def bits : IntSize → Nat
  | w8 => 8
  | w16 => 16
  | w32 => 32
  | w64 => 64

end IntSize

/-- The scalars that a slot may hold without null. -/
inductive Primitive
  | bool
  | char
  | int (size : IntSize)
  | single
  | double
deriving DecidableEq

namespace Primitive

/-- All primitives. -/
def all : List Primitive := [bool, char, int .w8, int .w16, int .w32, int .w64, single, double]

/-- The name of a primitive. -/
def name : Primitive → String
  | bool => "bool"
  | char => "char"
  | int .w8 => "i8"
  | int .w16 => "i16"
  | int .w32 => "i32"
  | int .w64 => "i64"
  | single => "f32"
  | double => "f64"

def isInteger : Primitive → Bool
  | int _ => true
  | _ => false

def isFloat : Primitive → Bool
  | single | double => true
  | _ => false

def isNumeric (p : Primitive) : Bool := p.isInteger || p.isFloat

/-- Whether each value of one primitive is exactly a value of another. -/
def widensTo : Primitive → Primitive → Bool
  | int a, int b => a.bits < b.bits
  | int a, single => a.bits ≤ 16
  | int a, double => a.bits ≤ 32
  | single, double => true
  | char, int b => 32 ≤ b.bits
  | _, _ => false

end Primitive

/-- The type of a slot. -/
inductive Ty
  | any
  | primitive (p : Primitive)
  | boxed (p : Primitive)
  | wide
  | text
  | date
  | time
  | dateTime
  | url
  | path
  | list
  | map
  | array (component : Ty)
  | object (cls : ClassId)
  | record
deriving DecidableEq

namespace Ty

def isPrimitive : Ty → Bool
  | primitive _ => true
  | _ => false

def isArray : Ty → Bool
  | array _ => true
  | _ => false

/-- Whether values of the type have elements by index. -/
def isIndexed : Ty → Bool
  | array _ | list => true
  | _ => false

/-- Whether values of the type have elements by key. -/
def isMapped : Ty → Bool
  | map => true
  | _ => false

/-- The type of the elements of an array. -/
def component? : Ty → Option Ty
  | array c => some c
  | _ => none

/-- The primitive of a primitive or boxed type. -/
def primitive? : Ty → Option Primitive
  | primitive p | boxed p => some p
  | _ => none

/-- The name of a type, with names of classes as given. -/
def name (className : ClassId → String) : Ty → String
  | any => "any"
  | primitive p => p.name
  | boxed p => "Option<" ++ p.name ++ ">"
  | wide => "i128"
  | text => "String"
  | date => "NaiveDate"
  | time => "NaiveTime"
  | dateTime => "NaiveDateTime"
  | url => "Url"
  | path => "PathBuf"
  | list => "List"
  | map => "Map"
  | array c => "[" ++ c.name className ++ "]"
  | object c => className c
  | record => "DynaBean"

end Ty

end ObjectGraph
