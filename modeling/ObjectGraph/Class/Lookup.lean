import ObjectGraph.Class.Basic

/-!
Which methods may be called on an object of a class from outside, and the search for one by name.
A method that is not public, or is declared by a class that is not, may be called if its name and
its parameters are declared publicly by an interface or by another class above the object's.
-/

namespace ObjectGraph.ClassGraph

/-- Whether a class declares a method publicly. -/
def declaresPublicly (G : ClassGraph) (c : ClassId) (m : Method) : Bool :=
  (G.get c).isPublic && ((G.get c).declared? m.name m.params).any Method.isPublic

/-- Whether an interface, or one that it extends, declares a method publicly. -/
def interfaceDeclares (G : ClassGraph) (i : ClassId) (m : Method) : Bool :=
  G.declaresPublicly i m || (G.interfaces i).any fun j => interfaceDeclares G j.1 m
termination_by i
decreasing_by exact j.2

/-- A method as it may be called on objects of a class, if it may be called. -/
def accessible? (G : ClassGraph) (target declaring : ClassId) (m : Method) : Option Method :=
  if m.isPublic && (G.get declaring).isPublic then some m
  else
    let byInterface := (G.ancestors target).any fun c => (G.interfaces c).any fun i => G.interfaceDeclares i.1 m
    let byAncestor := (G.ancestors target).any fun c => c != declaring && G.declaresPublicly c m
    if byInterface || byAncestor then some m.exposed else none

/-- The first public method with a body that an interface, or one that it extends, offers. -/
def findInInterface? (G : ClassGraph) (name : String) (fits : Method → Bool) (i : ClassId) : Option Method :=
  let own :=
    if (G.get i).isPublic then
      (G.get i).methods.find? fun m => m.name == name && m.isPublic && m.hasBody && fits m
    else none
  own <|> (G.interfaces i).findSome? fun j => findInInterface? G name fits j.1
termination_by i
decreasing_by exact j.2

/-- The first method with a body that may be called on objects of a class: of the class and its ancestors, then of
their interfaces. -/
def findMethod? (G : ClassGraph) (c : ClassId) (name : String) (fits : Method → Bool) : Option Method :=
  let inClasses := (G.ancestors c).findSome? fun d =>
    ((G.get d).methods.filter fun m => m.name == name && m.hasBody && fits m).findSome? fun m => G.accessible? c d m
  inClasses <|> (G.ancestors c).findSome? fun d =>
    (G.interfaces d).findSome? fun i => G.findInInterface? name fits i.1

/-- The first method with a name, a number of parameters and, if given, types of the first parameters. -/
def method? (G : ClassGraph) (c : ClassId) (name : String) (arity : Nat) (leading : Option (List Ty)) : Option Method :=
  G.findMethod? c name fun m => m.arity == arity && leading.all fun ts => ts.isPrefixOf m.params

end ObjectGraph.ClassGraph
