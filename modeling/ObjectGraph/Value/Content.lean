import ObjectGraph.Heap

/-!
The content of a value: the finite tree that its shared containers unfold to.  Equality, display and
serialization read only this tree.  A container that would hold itself is cut off, as a heap of that
many cells has no longer chain of different containers.
-/

namespace ObjectGraph

/-- A value with what it holds.  Objects keep only their identity and class; records also their stored
entries, if those are asked for and there are any. -/
inductive Content
  | scalar (v : Value)
  | list (h : Handle .list) (items : List Content)
  | array (h : Handle .array) (component : Ty) (items : List Content)
  | map (h : Handle .map) (entries : List (String × Content))
  | object (h : Handle .object) (cls : ClassId)
  | record (h : Handle .record) (name : String) (stored : Option (List (String × Content)))

namespace Heap

/-- The content of a value to a depth, with or without what records store. -/
def unfold (H : Heap) (withStored : Bool) : (depth : Nat) → Value → Content
  | 0, _ => .scalar .null
  | depth + 1, v =>
    match v with
    | .list h => .list h ((H.get h).map (unfold H withStored depth))
    | .array h => .array h (H.get h).component ((H.get h).items.map (unfold H withStored depth))
    | .map h => .map h ((H.get h).entries.map fun e => (e.1, unfold H withStored depth e.2))
    | .object h => .object h (H.get h).cls
    | .record h =>
      let stored := if withStored then H.stored? h else none
      .record h (H.schemaOf h).name (stored.map fun d => d.entries.map fun e => (e.1, unfold H withStored depth e.2))
    | v => .scalar v

/-- The content of a value, in which records stand for themselves. -/
def content (H : Heap) (v : Value) : Content := H.unfold false (H.size + 1) v

/-- The content of a value with what its records store. -/
def fullContent (H : Heap) (v : Value) : Content := H.unfold true (H.size + 1) v

end Heap

end ObjectGraph
