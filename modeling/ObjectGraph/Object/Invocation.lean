import ObjectGraph.Object.Creation
import ObjectGraph.Value.Access

/-!
Calls of methods.  An accessor that belongs to a class works only on objects that expose the class.
A call that fails changes nothing.
-/

namespace ObjectGraph

/-- What a call answers, and the heap after it. -/
abbrev CallResult := Except Error (Value × Heap)

namespace Heap

/-- A field of an object; one that was never set is null. -/
def field (H : Heap) (o : Handle .object) (name : String) : Value := ((H.get o).fields.get? name).getD .null

/-- Sets a field of an object. -/
def setField (H : Heap) (o : Handle .object) (name : String) (v : Value) : Heap :=
  H.set o { H.get o with fields := (H.get o).fields.insert name v }

/-- A new list or array with the same elements; other values as they are. -/
def copyItems (H : Heap) (v : Value) : Value × Heap :=
  match v with
  | .list h => H.newList (H.get h)
  | .array h => H.newArray (H.get h).component (H.get h).items
  | v => (v, H)

/-- A new list with some elements, or a new array of the same component as another. -/
def newLike (H : Heap) (v : Value) (items : List Value) : Value × Heap :=
  match v with
  | .array h => H.newArray (H.get h).component items
  | _ => H.newList items

end Heap

namespace Method

/-- Checks that accessors of a class work on an object. -/
def exposing (G : ClassGraph) (H : Heap) (o : Handle .object) (owner : ClassId) : Except Error Unit :=
  let cls := (H.get o).cls
  if G.exposes cls owner then .ok ()
  else
    let name := G.nameOf owner
    .error (.invocation name ("bean of class " ++ Error.quoted (G.nameOf cls) ++ " is not a " ++ Error.quoted name))

/-- The index among the arguments. -/
def indexArgument (name : String) (args : List Value) : Except Error Nat :=
  match args.head? with
  | some (.int .w32 n) =>
    if 0 ≤ n.toInt then .ok n.toInt.toNat
    else .error (.invocation name ("negative index " ++ Numeral.ofInt n.toInt))
  | _ => .error (.invocation name "missing index argument")

/-- The key among the arguments. -/
def keyArgument (name : String) (args : List Value) : Except Error String :=
  match args.head? with
  | some (.text key) => .ok key
  | _ => .error (.invocation name "missing key argument")

/-- Fails if an accessor refuses. -/
def unlessRefused (property : String) (refusal : Option String) : Except Error Unit :=
  match refusal with
  | some reason => .error (.invocation property reason)
  | none => .ok ()

/-- Does what a body says on an object. -/
def run (G : ClassGraph) (name : String) (o : Handle .object) (args : List Value) (H : Heap) : Body → CallResult
  | .getField owner field fresh => do
    exposing G H o owner
    let v := H.field o field
    return if fresh then H.copyItems v else (v, H)
  | .setField owner property field refusal => do
    exposing G H o owner
    unlessRefused property refusal
    return (.null, H.setField o field (args.head?.getD .null))
  | .getElement owner property field => do
    exposing G H o owner
    let i ← indexArgument name args
    let items := (H.items? (H.field o field)).getD []
    match items[i]? with
    | some v => return (v, H)
    | none => throw (.indexOutOfRange property i items.length)
  | .setElement owner property field grows => do
    let i ← indexArgument name args
    exposing G H o owner
    let old := H.field o field
    let items := (H.items? old).getD []
    let items := if grows then items ++ List.replicate (i + 1 - items.length) .null else items
    let items ← Heap.replaceAt property i (args[1]?.getD .null) items
    let (v, H) := H.newLike old items
    return (.null, H.setField o field v)
  | .getEntry owner field => do
    exposing G H o owner
    let key ← keyArgument name args
    match H.field o field with
    | .map h => return (((H.get h).get? key).getD .null, H)
    | _ => return (.null, H)
  | .setEntry owner property field refusal => do
    let key ← keyArgument name args
    exposing G H o owner
    unlessRefused property refusal
    let v := args[1]?.getD .null
    match H.field o field with
    | .map h => return (.null, H.set h ((H.get h).insert key v))
    | _ =>
      let (m, H) := H.newMap (Dict.empty.insert key v)
      return (.null, H.setField o field m)
  | .answerField field => return (H.field o field, H)
  | .storeLast field => return (.null, H.setField o field (args.getLast?.getD .null))
  | .constant t => return G.build t H
  | .label =>
    return (.text (G.nameOf (H.get o).cls ++ ":" ++ ((args.head?.bind Value.asText?).getD "")), H)
  | .arguments => return H.newList args
  | .fail reason => throw (.invocation name reason)
  | .reenter field =>
    match H.field o field with
    | .object p => if p = o then throw (.invocation "inner" "bean is already borrowed") else return (.text "free", H)
    | _ => return (.null, H)

/-- Calls a method on an object. -/
def invoke (G : ClassGraph) (m : Method) (o : Handle .object) (args : List Value) (H : Heap) : CallResult :=
  match m.body with
  | none => .error (.invocation m.name "method has no body")
  | some body =>
    if args.length = m.arity then run G m.name o args H body
    else
      .error (.invocation m.name
        ("expected " ++ Numeral.ofNat m.arity ++ " arguments, got " ++ Numeral.ofNat args.length))

end Method

end ObjectGraph
