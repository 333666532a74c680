import ObjectGraph.Data.Assoc
import ObjectGraph.Ty

/-!
Tables of declared properties.  A table lists its properties in the order of their declaration, and finds one by
its name through an index of places.  The list and the index are changed apart from each other; the main
statements say that each change keeps the index exact.
-/

namespace ObjectGraph

/-- A declared property of a record.  The content is the type of the elements of a list or a map. -/
structure Property where
  name : String
  ty : Ty
  content : Option Ty
deriving DecidableEq

namespace Property

/-- A property that takes any value. -/
def untyped (name : String) : Property := ⟨name, .any, none⟩

def isIndexed (p : Property) : Bool := p.ty.isIndexed

def isMapped (p : Property) : Bool := p.ty.isMapped

/-- The type of the elements.  For an array it is the array's own. -/
def elementTy (p : Property) : Ty := p.ty.component?.getD (p.content.getD .any)

end Property

/-- Properties in order, and the place of each name among them. -/
structure PropertyTable where
  properties : List Property
  index : Assoc String Nat

namespace PropertyTable

/-- No properties. -/
def empty : PropertyTable := ⟨[], .empty⟩

/-- The property at the place of a name. -/
def get? (t : PropertyTable) (name : String) : Option Property :=
  (t.index.get? name).bind fun i => t.properties[i]?

/-- Whether a name has a place. -/
def contains (t : PropertyTable) (name : String) : Bool := t.index.contains name

/-- The names of the properties, in order. -/
def names (t : PropertyTable) : List String := t.properties.map Property.name

/-- Adds a property, which takes the place of an older one of its name. -/
def insert (t : PropertyTable) (p : Property) : PropertyTable :=
  match t.index.get? p.name with
  | some i => { t with properties := t.properties.set i p }
  | none => ⟨t.properties ++ [p], t.index.insert p.name t.properties.length⟩

/-- The place that is left to a property when the one at another place is taken out. -/
def closeUp (gap i : Nat) : Nat := if gap < i then i - 1 else i

/-- Removes the property of a name, if there is one. -/
def erase (t : PropertyTable) (name : String) : PropertyTable :=
  match t.index.get? name with
  | some i => ⟨t.properties.eraseIdx i, (t.index.erase name).mapValues (closeUp i)⟩
  | none => t

/-- Whether the index holds exactly the names of the properties, each with its place. -/
def Indexed (t : PropertyTable) : Prop := ∀ name i, t.index.get? name = some i ↔ t.names[i]? = some name

theorem indexed_empty : empty.Indexed := fun name i => by simp [empty, names]

theorem getElem?_names (t : PropertyTable) (i : Nat) : t.names[i]? = t.properties[i]?.map Property.name :=
  List.getElem?_map

theorem names_eraseIdx (t : PropertyTable) (i : Nat) :
    (t.properties.eraseIdx i).map Property.name = t.names.eraseIdx i := by
  refine List.ext_getElem? fun j => ?_
  rw [List.getElem?_map, List.getElem?_eraseIdx, List.getElem?_eraseIdx, apply_ite (Option.map Property.name),
    t.getElem?_names, t.getElem?_names]

theorem insert_of_some {t : PropertyTable} {p : Property} {i : Nat} (h : t.index.get? p.name = some i) :
    t.insert p = ⟨t.properties.set i p, t.index⟩ := by
  rw [insert, h]

theorem insert_of_none {t : PropertyTable} {p : Property} (h : t.index.get? p.name = none) :
    t.insert p = ⟨t.properties ++ [p], t.index.insert p.name t.properties.length⟩ := by
  rw [insert, h]

theorem erase_of_some {t : PropertyTable} {name : String} {i : Nat} (h : t.index.get? name = some i) :
    t.erase name = ⟨t.properties.eraseIdx i, (t.index.erase name).mapValues (closeUp i)⟩ := by
  rw [erase, h]

theorem erase_of_none {t : PropertyTable} {name : String} (h : t.index.get? name = none) : t.erase name = t := by
  rw [erase, h]

namespace Indexed
variable {t : PropertyTable} {name : String} {p : Property} {i : Nat}

theorem lt_length (h : t.Indexed) (hi : t.index.get? name = some i) : i < t.properties.length := by
  obtain ⟨hlt, -⟩ := List.getElem?_eq_some_iff.mp ((h name i).mp hi)
  rwa [names, List.length_map] at hlt

/-- A property that takes the place of the one of its name leaves the names as they are. -/
theorem names_set (h : t.Indexed) (hi : t.index.get? p.name = some i) :
    (t.properties.set i p).map Property.name = t.names := by
  refine List.ext_getElem? fun j => ?_
  rw [List.getElem?_map, List.getElem?_set]
  split
  · rename_i hj
    subst hj
    rw [if_pos (h.lt_length hi)]
    exact ((h p.name i).mp hi).symm
  · exact (t.getElem?_names j).symm

/-- Of the names after a removal, those before the gap have kept their places, and those behind it have moved up. -/
theorem getElem?_eraseIdx_names (h : t.Indexed) (hi : t.index.get? name = some i) (other : String) (j : Nat) :
    (t.names.eraseIdx i)[j]? = some other ↔
      other ≠ name ∧ ∃ k, t.index.get? other = some k ∧ closeUp i k = j := by
  have hself {k : Nat} (hk : t.index.get? name = some k) : k = i := Option.some.inj (hk.symm.trans hi)
  rw [List.getElem?_eraseIdx]
  constructor
  · intro hother
    split at hother
    · rename_i hlt
      have hk := (h other j).mpr hother
      refine ⟨?_, j, hk, by rw [closeUp, if_neg (Nat.lt_asymm hlt)]⟩
      rintro rfl
      exact absurd hlt (Nat.not_lt.mpr (Nat.le_of_eq (hself hk).symm))
    · rename_i hge
      have hk := (h other (j + 1)).mpr hother
      have hlt : i < j + 1 := Nat.lt_succ_of_le (Nat.not_lt.mp hge)
      refine ⟨?_, j + 1, hk, by rw [closeUp, if_pos hlt, Nat.add_sub_cancel]⟩
      rintro rfl
      exact absurd (hself hk) (Nat.ne_of_gt hlt)
  · rintro ⟨hne, k, hk, rfl⟩
    have hplace := (h other k).mp hk
    have hki : k ≠ i := by
      rintro rfl
      exact hne (Option.some.inj (hplace.symm.trans ((h name k).mp hi)))
    unfold closeUp
    split
    · rename_i hlt
      rw [if_neg (by omega), Nat.sub_add_cancel (by omega)]
      exact hplace
    · rw [if_pos (by omega)]
      exact hplace

theorem insert (h : t.Indexed) (p : Property) : (t.insert p).Indexed := by
  intro name j
  cases hi : t.index.get? p.name with
  | some i =>
    rw [insert_of_some hi, names, h.names_set hi]
    exact h name j
  | none =>
    rw [insert_of_none hi, names, List.map_append, List.map_singleton, ← names, Assoc.get?_insert]
    have hlength : t.names.length = t.properties.length := List.length_map _
    have hfresh : t.names[j]? ≠ some p.name := fun hj => by
      rw [(h p.name j).mpr hj] at hi
      cases hi
    rw [List.getElem?_append, hlength]
    by_cases hname : name = p.name
    · subst hname
      grind
    · grind [h name j]

theorem erase (h : t.Indexed) (name : String) : (t.erase name).Indexed := by
  cases hi : t.index.get? name with
  | none =>
    rw [erase_of_none hi]
    exact h
  | some i =>
    intro other j
    rw [erase_of_some hi, names, t.names_eraseIdx, h.getElem?_eraseIdx_names hi, Assoc.get?_mapValues,
      Assoc.get?_erase, Option.map_eq_some_iff]
    by_cases hother : other = name
    · simp [hother]
    · simp [hother]

end Indexed

end PropertyTable

end ObjectGraph
