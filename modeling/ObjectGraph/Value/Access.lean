import ObjectGraph.Value.Typing

/-!
Elements of lists and arrays by index, and entries of maps by key; an object with storage counts as
a map.  A write answers the new heap, so a failed one leaves the heap as it is.  The property in
each function is the name that messages give to the container.
-/

namespace ObjectGraph

/-- A value that is to be subscripted, which has to be there. -/
def Value.subscripted (property : String) (s : Subscript) (v : Value) : Except Error Value :=
  if v.isNull then .error (.nullIntermediate property (Segment.text ⟨property, s⟩)) else .ok v

namespace Heap

/-- The elements of a list or an array. -/
def items? (H : Heap) : Value → Option (List Value)
  | .list h => some (H.get h)
  | .array h => some (H.get h).items
  | _ => none

/-- An element of a list or an array. -/
def element (H : Heap) (property : String) (i : Nat) (v : Value) : Except Error Value :=
  match H.items? v with
  | none => .error (.notIndexed property)
  | some items =>
    match items[i]? with
    | some w => .ok w
    | none => .error (.indexOutOfRange property i items.length)

/-- An element of a list or an array that may be missing. -/
def elementOf (H : Heap) (property : String) (i : Nat) (v : Value) : Except Error Value := do
  let c ← v.subscripted property (.index i)
  H.element property i c

/-- Elements with one replaced. -/
def replaceAt (property : String) (i : Nat) (w : Value) (items : List Value) : Except Error (List Value) :=
  if i < items.length then .ok (items.set i w) else .error (.indexOutOfRange property i items.length)

/-- Writes an element.  A list takes values of the given type, an array those of its own. -/
def setElement (G : ClassGraph) (H : Heap) (property : String) (i : Nat) (w : Value) (elementTy : Ty) (v : Value) :
    Except Error Heap :=
  match v with
  | .list h => do
    let w ← H.coerce G elementTy property w
    let items ← replaceAt property i w (H.get h)
    return H.set h items
  | .array h => do
    let a := H.get h
    let w ← H.coerce G a.component property w
    let items ← replaceAt property i w a.items
    return H.set h { a with items := items }
  | _ => .error (.notIndexed property)

/-- Writes an element of a list or an array that may be missing. -/
def setElementOf (G : ClassGraph) (H : Heap) (property : String) (i : Nat) (w : Value) (elementTy : Ty) (v : Value) :
    Except Error Heap := do
  let c ← v.subscripted property (.index i)
  H.setElement G property i w elementTy c

/-- The entries of a map or of an object with storage. -/
def entries? (H : Heap) : Value → Option (Dict Value)
  | .map h => some (H.get h)
  | .object h => (H.get h).storage
  | _ => none

/-- Replaces the entries of a map or of an object with storage. -/
def setEntries (H : Heap) (d : Dict Value) : Value → Heap
  | .map h => H.set h d
  | .object h => H.set h { H.get h with storage := some d }
  | _ => H

/-- Whether a value has entries. -/
def isKeyed (H : Heap) (v : Value) : Bool := (H.entries? v).isSome

/-- The entries of a value that has to have some. -/
def entries (H : Heap) (property : String) (v : Value) : Except Error (Dict Value) :=
  match H.entries? v with
  | some d => .ok d
  | none => .error (.notMapped property)

/-- An entry; without one the answer is null. -/
def entry (H : Heap) (property key : String) (v : Value) : Except Error Value := do
  let d ← H.entries property v
  return (d.get? key).getD .null

/-- Writes an entry. -/
def setEntry (H : Heap) (property key : String) (w : Value) (v : Value) : Except Error Heap := do
  let d ← H.entries property v
  return H.setEntries (d.insert key w) v

/-- An entry of a map that may be missing. -/
def entryOf (H : Heap) (property key : String) (v : Value) : Except Error Value := do
  let c ← v.subscripted property (.key key)
  H.entry property key c

/-- Writes an entry of a map that may be missing. -/
def setEntryOf (H : Heap) (property key : String) (w : Value) (v : Value) : Except Error Heap := do
  let c ← v.subscripted property (.key key)
  H.setEntry property key w c

/-- Whether there is an entry. -/
def hasEntry (H : Heap) (property key : String) (v : Value) : Except Error Bool := do
  let d ← H.entries property v
  return d.contains key

/-- Removes an entry, if there is one. -/
def eraseEntry (H : Heap) (property key : String) (v : Value) : Except Error Heap := do
  let d ← H.entries property v
  return H.setEntries (d.erase key) v

/-- The number of elements or entries of a list, an array or a map. -/
def length? (H : Heap) : Value → Option Nat
  | .map h => some (H.get h).size
  | v => (H.items? v).map List.length

/-- The elements of an array of texts, or of a list of texts and nulls. -/
def texts? (H : Heap) : Value → Option (List Value)
  | .array h => if (H.get h).component = .text then some (H.get h).items else none
  | .list h => if (H.get h).all fun v => v.isNull || v.asText?.isSome then some (H.get h) else none
  | _ => none

end Heap

end ObjectGraph
