import ObjectGraph.Heap

/-!
New objects, and the values that fill new slots.  The fields of a new object are the defaults of its
farthest ancestor, overridden down to its own class, and are built anew for every object.  Objects
may stand in such defaults; a default that would need objects within objects without end is cut off
at a depth that no other one reaches.
-/

namespace ObjectGraph

/-- A map with more bindings, which replace older ones. -/
def Dict.insertAll {α : Type} (d : Dict α) (entries : List (String × α)) : Dict α :=
  entries.foldl (fun d e => d.insert e.1 e.2) d

mutual

/-- Builds the value of a template, with a way to make the object of a class. -/
def Template.buildWith (blank : ClassId → Heap → Object × Heap) (H : Heap) : Template → Value × Heap
  | .value v => (v, H)
  | .list items =>
    let (vs, H) := Template.buildItems blank H items
    H.newList vs
  | .array component items =>
    let (vs, H) := Template.buildItems blank H items
    H.newArray component vs
  | .map entries =>
    let (es, H) := Template.buildEntries blank H entries
    H.newMap (.ofList es)
  | .object cls fields storage =>
    let (o, H) := blank cls H
    let (fs, H) := Template.buildEntries blank H fields
    let (es, H) := Template.buildEntries blank H storage
    let (h, H) := H.alloc .object
      { o with fields := o.fields.insertAll fs, storage := o.storage.map fun d => d.insertAll es }
    (.object h, H)

/-- Builds the values of templates, in order. -/
def Template.buildItems (blank : ClassId → Heap → Object × Heap) (H : Heap) : List Template → List Value × Heap
  | [] => ([], H)
  | t :: ts =>
    let (v, H) := Template.buildWith blank H t
    let (vs, H) := Template.buildItems blank H ts
    (v :: vs, H)

/-- Builds the values of named templates, in order. -/
def Template.buildEntries (blank : ClassId → Heap → Object × Heap) (H : Heap) :
    List (String × Template) → List (String × Value) × Heap
  | [] => ([], H)
  | (name, t) :: ts =>
    let (v, H) := Template.buildWith blank H t
    let (vs, H) := Template.buildEntries blank H ts
    ((name, v) :: vs, H)

end

namespace ClassGraph

/-- An object with the default fields of a class, in which objects nest to a depth at most. -/
def blankObject (G : ClassGraph) : (depth : Nat) → ClassId → Heap → Object × Heap
  | 0, c, H => (⟨c, .empty, none⟩, H)
  | depth + 1, c, H =>
    let defaults := (G.ancestors c).reverse.flatMap fun a => (G.get a).defaults
    let (fields, H) := Template.buildEntries (blankObject G depth) H defaults
    (⟨c, .ofList fields, if G.hasStorage c then some .empty else none⟩, H)

/-- The default object of a class, before it has a place on the heap. -/
def defaultObject (G : ClassGraph) (c : ClassId) (H : Heap) : Object × Heap := G.blankObject (G.size + 1) c H

/-- Builds the value of a template. -/
def build (G : ClassGraph) (t : Template) (H : Heap) : Value × Heap := t.buildWith G.defaultObject H

/-- A new object of a class with its default fields. -/
def newObject (G : ClassGraph) (c : ClassId) (H : Heap) : Handle .object × Heap :=
  let (o, H) := G.defaultObject c H
  H.alloc .object o

/-- A new object of a class that lets objects be made. -/
def instantiate (G : ClassGraph) (c : ClassId) (H : Heap) : Except Error (Handle .object × Heap) :=
  if (G.get c).isConstructible then .ok (G.newObject c H) else .error (.notConstructible (G.nameOf c))

/-- The value that fills a new slot of a type. -/
def defaultValue (G : ClassGraph) (t : Ty) (H : Heap) : Value × Heap :=
  match t with
  | .primitive p => (p.zero, H)
  | .text => (.text "", H)
  | .list => H.newList []
  | .map => H.newMap .empty
  | .array component => H.newArray component []
  | .object c =>
    match G.instantiate c H with
    | .ok (o, H) => (.object o, H)
    | .error _ => (.null, H)
  | .record =>
    let (S, H) := H.alloc .schema (.blank "LazyDynaBean")
    let (r, H) := H.alloc .record (.growing S (.own .empty))
    (.record r, H)
  | _ => (.null, H)

/-- As many values of the kind that fill new slots. -/
def defaultValues (G : ClassGraph) (t : Ty) : (count : Nat) → Heap → List Value × Heap
  | 0, H => ([], H)
  | count + 1, H =>
    let (v, H) := G.defaultValue t H
    let (vs, H) := defaultValues G t count H
    (v :: vs, H)

end ClassGraph

namespace TypedArray

/-- An array of a length whose elements have never been written. -/
def filled (component : Ty) (length : Nat) : TypedArray := ⟨component, List.replicate length component.zero⟩

/-- A copy of an array that has a length at least, with new slots at its end. -/
def grown (G : ClassGraph) (a : TypedArray) (length : Nat) (H : Heap) : TypedArray × Heap :=
  let (vs, H) := G.defaultValues a.component (length - a.items.length) H
  ({ a with items := a.items ++ vs }, H)

end TypedArray

end ObjectGraph
