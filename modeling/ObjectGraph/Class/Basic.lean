import ObjectGraph.Value.Basic

/-!
Classes of objects: their methods, their ancestors and interfaces, and the fields of a new object.
A class refers only to classes defined before it, so walks up the graph of classes end.
-/

namespace ObjectGraph

/-- Data from which equal but separate values can be built again and again. -/
inductive Template
  | value (v : Value)
  | list (items : List Template)
  | array (component : Ty) (items : List Template)
  | map (entries : List (String × Template))
  | object (cls : ClassId) (fields storage : List (String × Template))

/-- What a method does.  An accessor that belongs to a class works only on objects that expose that class. -/
inductive Body
  /-- Answers a field; a fresh answer is a new container with the same elements. -/
  | getField (owner : ClassId) (field : String) (fresh : Bool)
  /-- Stores its argument in a field, or refuses to. -/
  | setField (owner : ClassId) (property field : String) (refusal : Option String)
  /-- Answers an element of the list or array in a field. -/
  | getElement (owner : ClassId) (property field : String)
  /-- Stores a new list or array with one element replaced; if it grows it is first filled up with null. -/
  | setElement (owner : ClassId) (property field : String) (grows : Bool)
  /-- Answers an entry of the map in a field. -/
  | getEntry (owner : ClassId) (field : String)
  /-- Inserts an entry into the map in a field, or refuses to. -/
  | setEntry (owner : ClassId) (property field : String) (refusal : Option String)
  /-- Answers a field of any object. -/
  | answerField (field : String)
  /-- Stores the last argument in a field of any object. -/
  | storeLast (field : String)
  | constant (t : Template)
  /-- Answers the name of the object's class and the first argument, if that is a text. -/
  | label
  /-- Answers the arguments as a list. -/
  | arguments
  | fail (reason : String)
  /-- Invokes a method on the object in a field, which fails if that object is the one being invoked. -/
  | reenter (field : String)

/-- A method.  Without a body it is only a declaration. -/
structure Method where
  name : String
  params : List Ty
  returns : Option Ty
  isPublic : Bool
  body : Option Body

namespace Method

def arity (m : Method) : Nat := m.params.length

def hasBody (m : Method) : Bool := m.body.isSome

/-- Whether two methods have the same name and the same parameters. -/
def sameSignature (m n : Method) : Bool := m.name == n.name && m.params == n.params

/-- The same method as a public one. -/
def exposed (m : Method) : Method := { m with isPublic := true }

end Method

/-- A class or an interface. -/
structure Class where
  name : String
  isPublic : Bool
  isInterface : Bool
  parent : Option ClassId
  interfaces : List ClassId
  methods : List Method
  /-- Whether objects of the class can be made without giving their fields. -/
  isConstructible : Bool
  /-- Whether objects of the class let accessors of its ancestors work on them. -/
  exposesAncestors : Bool
  /-- The fields that a new object has from this class on. -/
  defaults : List (String × Template)
  /-- Whether objects have a map of entries besides their fields. -/
  hasStorage : Bool

instance : Inhabited Class := ⟨⟨"", false, false, none, [], [], false, false, [], false⟩⟩

namespace Class

/-- The method that a class declares with a name and parameters. -/
def declared? (c : Class) (name : String) (params : List Ty) : Option Method :=
  c.methods.find? fun m => m.name == name && m.params == params

end Class

/-- The class at a place of a list of classes. -/
def Class.atPlace (classes : Array Class) (c : ClassId) : Class := classes[c]?.getD default

/-- The classes of a program, in the order of their definition. -/
structure ClassGraph where
  classes : Array Class
  ordered : ∀ c : ClassId, (∀ p ∈ (Class.atPlace classes c).parent, p < c) ∧
    ∀ i ∈ (Class.atPlace classes c).interfaces, i < c

namespace ClassGraph

/-- No classes. -/
def empty : ClassGraph := ⟨#[], fun _ => by simp [Class.atPlace, default]⟩

/-- The number of classes. -/
def size (G : ClassGraph) : Nat := G.classes.size

/-- The class of an identity. -/
def get (G : ClassGraph) (c : ClassId) : Class := Class.atPlace G.classes c

/-- Defines the next class, if it refers only to classes that are there. -/
def define? (G : ClassGraph) (c : Class) : Option ClassGraph :=
  if h : (∀ p ∈ c.parent, p < G.size) ∧ ∀ i ∈ c.interfaces, i < G.size then
    some ⟨G.classes.push c, by
      intro j
      by_cases hj : j = G.classes.size
      · subst hj
        simpa [Class.atPlace, size] using h
      · simpa [Class.atPlace, Array.getElem?_push, hj] using G.ordered j⟩
  else none

/-- The class that a class extends. -/
def parent? (G : ClassGraph) (c : ClassId) : Option {p : ClassId // p < c} :=
  (G.get c).parent.attach.map fun p => ⟨p.1, (G.ordered c).1 p.1 p.2⟩

/-- The interfaces that a class implements by itself. -/
def interfaces (G : ClassGraph) (c : ClassId) : List {i : ClassId // i < c} :=
  (G.get c).interfaces.attach.map fun i => ⟨i.1, (G.ordered c).2 i.1 i.2⟩

/-- A class and the classes it extends, nearest first. -/
def ancestors (G : ClassGraph) (c : ClassId) : List ClassId :=
  match G.parent? c with
  | some p => c :: ancestors G p.1
  | none => [c]
termination_by c
decreasing_by exact p.2

/-- Whether a class is another one, extends it or implements it. -/
def isSubclass (G : ClassGraph) (c d : ClassId) : Bool :=
  c == d || (G.parent? c).any (fun p => isSubclass G p.1 d) || (G.interfaces c).any fun i => isSubclass G i.1 d
termination_by c
decreasing_by
  · exact p.2
  · exact i.2

/-- The name of a class. -/
def nameOf (G : ClassGraph) (c : ClassId) : String := (G.get c).name

/-- The name of a type. -/
def typeName (G : ClassGraph) (t : Ty) : String := t.name G.nameOf

/-- Whether objects of a class have a map of entries. -/
def hasStorage (G : ClassGraph) (c : ClassId) : Bool := (G.ancestors c).any fun a => (G.get a).hasStorage

/-- Whether accessors of a class work on objects of another one. -/
def exposes (G : ClassGraph) (c owner : ClassId) : Bool :=
  c == owner || ((G.get c).exposesAncestors && (G.ancestors c).contains owner)

/-- Whether a slot of one type can hold all values of another. -/
def assignable (G : ClassGraph) : (target source : Ty) → Bool
  | .any, _ => true
  | .array a, .array b => assignable G a b
  | .object a, .object b => G.isSubclass b a
  | a, b => a == b

end ClassGraph

end ObjectGraph
