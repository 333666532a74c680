import ObjectGraph.Class.Basic
import ObjectGraph.Data.Table
import ObjectGraph.Record.Basic

/-!
The heap of shared containers.  A handle of a kind names a cell of that kind.  The main statements
say that a write to a cell is read back there and changes no other cell.
-/

namespace ObjectGraph

/-- A list of elements of one declared type. -/
structure TypedArray where
  component : Ty
  items : List Value

/-- An object.  A field that was never set is null. -/
structure Object where
  cls : ClassId
  fields : Dict Value
  /-- The map of entries of an object that has one besides its fields. -/
  storage : Option (Dict Value)

instance : Inhabited TypedArray := ⟨⟨.any, []⟩⟩

instance : Inhabited Object := ⟨⟨0, .empty, none⟩⟩

/-- What a cell of a kind holds. -/
@[reducible] def Cell : CellKind → Type
  | .list => List Value
  | .array => TypedArray
  | .map => Dict Value
  | .object => Object
  | .record => Record
  | .schema => Schema

instance : (k : CellKind) → Inhabited (Cell k)
  | .list => ⟨[]⟩
  | .array => ⟨default⟩
  | .map => ⟨.empty⟩
  | .object => ⟨default⟩
  | .record => ⟨default⟩
  | .schema => ⟨default⟩

/-- The cells of all kinds. -/
structure Heap where
  lists : Table (List Value)
  arrays : Table TypedArray
  maps : Table (Dict Value)
  objects : Table Object
  records : Table Record
  schemas : Table Schema

namespace Heap

/-- No cells. -/
def empty : Heap := ⟨.empty, .empty, .empty, .empty, .empty, .empty⟩

/-- The cells of a kind. -/
def table (H : Heap) : (k : CellKind) → Table (Cell k)
  | .list => H.lists
  | .array => H.arrays
  | .map => H.maps
  | .object => H.objects
  | .record => H.records
  | .schema => H.schemas

/-- Replaces the cells of a kind. -/
def setTable (H : Heap) : (k : CellKind) → Table (Cell k) → Heap
  | .list, t => { H with lists := t }
  | .array, t => { H with arrays := t }
  | .map, t => { H with maps := t }
  | .object, t => { H with objects := t }
  | .record, t => { H with records := t }
  | .schema, t => { H with schemas := t }

/-- The content of a cell. -/
def get {k : CellKind} (H : Heap) (h : Handle k) : Cell k := (H.table k).get h.index

/-- Writes a cell. -/
def set {k : CellKind} (H : Heap) (h : Handle k) (a : Cell k) : Heap := H.setTable k ((H.table k).set h.index a)

/-- The handle of the next new cell of a kind. -/
def next (H : Heap) (k : CellKind) : Handle k := ⟨(H.table k).size⟩

/-- Makes a new cell. -/
def alloc (H : Heap) (k : CellKind) (a : Cell k) : Handle k × Heap := (H.next k, H.setTable k ((H.table k).push a))

@[simp] theorem table_setTable_self (H : Heap) (k : CellKind) (t : Table (Cell k)) : (H.setTable k t).table k = t := by
  cases k <;> rfl

theorem table_setTable_of_ne (H : Heap) {k j : CellKind} (t : Table (Cell k)) (h : j ≠ k) :
    (H.setTable k t).table j = H.table j := by
  cases k <;> cases j <;> first | rfl | exact absurd rfl h

@[simp] theorem get_set_self {k : CellKind} (H : Heap) (h : Handle k) (a : Cell k) : (H.set h a).get h = a := by
  simp [get, set, Table.get_set_self]

theorem get_set_of_ne {k : CellKind} (H : Heap) {h j : Handle k} (a : Cell k) (hne : j ≠ h) :
    (H.set h a).get j = H.get j := by
  have : h.index ≠ j.index := fun e => hne (by cases h; cases j; simp_all)
  simp [get, set, Table.get_set_ne _ a this]

theorem get_set_of_kind_ne {k l : CellKind} (H : Heap) {h : Handle k} {j : Handle l} (a : Cell k) (hne : l ≠ k) :
    (H.set h a).get j = H.get j := by
  simp [get, set, table_setTable_of_ne H _ hne]

@[simp] theorem get_alloc_self {k : CellKind} (H : Heap) (a : Cell k) : (H.alloc k a).2.get (H.alloc k a).1 = a := by
  simp [get, alloc, next, Table.get_push_self]

theorem get_alloc_of_ne {k : CellKind} (H : Heap) {j : Handle k} (a : Cell k) (hne : j ≠ H.next k) :
    (H.alloc k a).2.get j = H.get j := by
  have : j.index ≠ (H.table k).size := fun e => hne (by cases j; simp_all [next])
  simp [get, alloc, Table.get_push_of_ne _ a this]

theorem get_alloc_of_kind_ne {k l : CellKind} (H : Heap) {j : Handle l} (a : Cell k) (hne : l ≠ k) :
    (H.alloc k a).2.get j = H.get j := by
  simp [get, alloc, table_setTable_of_ne H _ hne]

/-- The number of cells that may hold values. -/
def size (H : Heap) : Nat := H.lists.size + H.arrays.size + H.maps.size + H.objects.size + H.records.size

/-- A new list. -/
def newList (H : Heap) (items : List Value) : Value × Heap :=
  let (h, H) := H.alloc .list items
  (.list h, H)

/-- A new array. -/
def newArray (H : Heap) (component : Ty) (items : List Value) : Value × Heap :=
  let (h, H) := H.alloc .array ⟨component, items⟩
  (.array h, H)

/-- A new map. -/
def newMap (H : Heap) (entries : Dict Value) : Value × Heap :=
  let (h, H) := H.alloc .map entries
  (.map h, H)

/-- The values that a record stores.  An adapter stores none. -/
def stored? (H : Heap) (r : Handle .record) : Option (Dict Value) :=
  match H.get r with
  | .fixed _ values | .growing _ (.own values) => some values
  | .growing _ (.shared m) => some (H.get m)
  | .adapter .. => none

/-- The schema of a record. -/
def schemaOf (H : Heap) (r : Handle .record) : Schema := H.get (H.get r).schema

end Heap

end ObjectGraph
