import ObjectGraph.Calendar.Clock
import ObjectGraph.Data.Signed
import ObjectGraph.Decimal.Whole
import ObjectGraph.FilePath
import ObjectGraph.Ty
import ObjectGraph.Url.Basic

/-!
Values: scalars, and handles of containers.  Copying a handle shares the container.
-/

namespace ObjectGraph

/-- The kinds of cells that a handle may name. -/
inductive CellKind
  | list
  | array
  | map
  | object
  | record
  | schema
deriving DecidableEq

/-- The identity of a cell of a kind. -/
structure Handle (k : CellKind) where
  index : Nat
deriving DecidableEq

/-- The value of a slot. -/
inductive Value
  | null
  | bool (b : Bool)
  | char (c : Char)
  | int (size : IntSize) (n : Signed size.bits)
  | single (x : Float32)
  | double (x : Float)
  | wide (n : Signed 128)
  | text (s : String)
  | date (d : Date)
  | time (t : Clock)
  | dateTime (t : DateTime)
  | url (u : Url)
  | path (p : FilePath)
  | list (h : Handle .list)
  | array (h : Handle .array)
  | map (h : Handle .map)
  | object (h : Handle .object)
  | record (h : Handle .record)

instance : Inhabited Value := ⟨.null⟩

namespace Primitive

/-- The value of a primitive slot that nothing has been written to. -/
def zero : Primitive → Value
  | bool => .bool false
  | char => .char '\x00'
  | int s => .int s (.zero s.bits)
  | single => .single 0
  | double => .double 0

end Primitive

namespace Ty

/-- The value of a slot that nothing has been written to. -/
def zero : Ty → Value
  | primitive p => p.zero
  | _ => .null

end Ty

namespace Value

def isNull : Value → Bool
  | null => true
  | _ => false

/-- The primitive that a value is of. -/
def primitive? : Value → Option Primitive
  | bool _ => some .bool
  | char _ => some .char
  | int s _ => some (.int s)
  | single _ => some .single
  | double _ => some .double
  | _ => none

/-- The integer that a value of any integer type is. -/
def toInt? : Value → Option Int
  | int _ n => some n.toInt
  | wide n => some n.toInt
  | _ => none

/-- The integer that a value is, if it fits in 64 bits. -/
def asInt64? (v : Value) : Option Int := v.toInt?.bind fun n => (Signed.ofInt? 64 n).map Signed.toInt

/-- The number that a value is, rounded to 64 bits. -/
def asDouble? : Value → Option Float
  | single x => some x.toFloat
  | double x => some x
  | int _ n => some (doubleOfInt n.toInt)
  | wide n => some (doubleOfInt n.toInt)
  | _ => none

def asBool? : Value → Option Bool
  | bool b => some b
  | _ => none

def asChar? : Value → Option Char
  | char c => some c
  | _ => none

def asText? : Value → Option String
  | text s => some s
  | _ => none

/-- A value as one of a primitive, if nothing is lost. -/
def widen? (p : Primitive) (v : Value) : Option Value :=
  match p, v with
  | .bool, bool b => some (bool b)
  | .char, char c => some (char c)
  | .int s, char c => if 32 ≤ s.bits then (Signed.ofInt? s.bits c.toNat).map (int s) else none
  | .int s, int t n => if h : t.bits ≤ s.bits then some (int s (n.widen h)) else none
  | .single, int t n => if t.bits ≤ 16 then some (single (singleOfInt n.toInt)) else none
  | .single, single x => some (single x)
  | .double, int t n => if t.bits ≤ 32 then some (double (doubleOfInt n.toInt)) else none
  | .double, single x => some (double x.toFloat)
  | .double, double x => some (double x)
  | _, _ => none

/-- An integer of any size as one of 128 bits. -/
def widenInteger? : Value → Option Value
  | int _ n => (Signed.ofInt? 128 n.toInt).map wide
  | wide n => some (wide n)
  | _ => none

end Value

end ObjectGraph
