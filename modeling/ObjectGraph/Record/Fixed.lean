import ObjectGraph.Value.Access

/-!
Records with a fixed schema.  Only declared names are read and written, and a value that is written
is of the declared type.  The functions take the schema as it is at the time, and the stored values.
-/

namespace ObjectGraph.FixedRecord

/-- Reads a property.  One that holds nothing or null reads as a slot that was never written to. -/
def read (S : Schema) (values : Dict Value) (name : String) : Except Error Value := do
  let p ← S.declared name
  let v := (values.get? name).getD .null
  return if v.isNull then p.ty.zero else v

/-- The values after a property has been written. -/
def write (G : ClassGraph) (H : Heap) (S : Schema) (values : Dict Value) (name : String) (v : Value) :
    Except Error (Dict Value) := do
  let p ← S.declared name
  let w ← H.coerce G p.ty name v
  return values.insert name w

/-- Reads an element of a property. -/
def readElement (H : Heap) (S : Schema) (values : Dict Value) (name : String) (i : Nat) : Except Error Value := do
  let c ← read S values name
  H.elementOf name i c

/-- Writes an element of a property. -/
def writeElement (G : ClassGraph) (H : Heap) (S : Schema) (values : Dict Value) (name : String) (i : Nat) (v : Value) :
    Except Error Heap := do
  let p ← S.declared name
  let c ← read S values name
  H.setElementOf G name i v p.elementTy c

/-- Reads an entry of a property. -/
def readEntry (H : Heap) (S : Schema) (values : Dict Value) (name key : String) : Except Error Value := do
  let c ← read S values name
  H.entryOf name key c

/-- Writes an entry of a property.  The value is checked before there has to be a container. -/
def writeEntry (G : ClassGraph) (H : Heap) (S : Schema) (values : Dict Value) (name key : String) (v : Value) :
    Except Error Heap := do
  let p ← S.declared name
  let w ← H.coerce G p.elementTy name v
  let c ← read S values name
  H.setEntryOf name key w c

/-- Whether a property has an entry. -/
def hasEntry (H : Heap) (S : Schema) (values : Dict Value) (name key : String) : Except Error Bool := do
  let c ← read S values name
  H.hasEntry name key (← c.subscripted name (.key key))

/-- Removes an entry of a property. -/
def eraseEntry (H : Heap) (S : Schema) (values : Dict Value) (name key : String) : Except Error Heap := do
  let c ← read S values name
  H.eraseEntry name key (← c.subscripted name (.key key))

end ObjectGraph.FixedRecord
