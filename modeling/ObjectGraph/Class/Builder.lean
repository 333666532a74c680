import ObjectGraph.Class.Naming
import ObjectGraph.Class.Descriptor

/-!
Accessors named after their properties.  Each belongs to the class that declares it and works on a
field, which may have another name than the property.
-/

namespace ObjectGraph.Method

/-- A getter.  One of a primitive boolean is named as a question. -/
def getter (owner : ClassId) (property : String) (t : Ty) (field : String) (fresh : Bool) : Method :=
  ⟨(if t = .primitive .bool then "is" else "get") ++ capitalize property, [], some t, true,
    some (.getField owner field fresh)⟩

/-- A setter, which may refuse every value. -/
def setter (owner : ClassId) (property : String) (t : Ty) (field : String) (refusal : Option String) : Method :=
  ⟨"set" ++ capitalize property, [t], none, true, some (.setField owner property field refusal)⟩

/-- A getter of elements. -/
def elementGetter (owner : ClassId) (property : String) (t : Ty) (field : String) : Method :=
  ⟨"get" ++ capitalize property, [indexTy], some t, true, some (.getElement owner property field)⟩

/-- A setter of elements. -/
def elementSetter (owner : ClassId) (property : String) (t : Ty) (field : String) (grows : Bool) : Method :=
  ⟨"set" ++ capitalize property, [indexTy, t], none, true, some (.setElement owner property field grows)⟩

/-- A getter of entries. -/
def entryGetter (owner : ClassId) (property : String) (t : Ty) (field : String) : Method :=
  ⟨"get" ++ capitalize property, [.text], some t, true, some (.getEntry owner field)⟩

/-- A setter of entries, which may refuse every value. -/
def entrySetter (owner : ClassId) (property : String) (t : Ty) (field : String) (refusal : Option String) : Method :=
  ⟨"set" ++ capitalize property, [.text, t], none, true, some (.setEntry owner property field refusal)⟩

end ObjectGraph.Method
