import ObjectGraph.Proofs.Access.Atomicity
import ObjectGraph.Proofs.Access.SegmentWrite
import ObjectGraph.Proofs.Object.Creation
import ObjectGraph.Proofs.Value.Acceptance

/-!
Fences around a part of the heap.  A fence keeps some arrays out, and perhaps all objects: whoever starts inside only
ever gets to values inside.  Behind a fence without objects each array holds what its component accepts, and behind
any fence the arrays that were there at the start keep their lengths and components.  All this stays so when a cell
inside is made or written with values from inside.
-/

namespace ObjectGraph

/-- A value that is there is subscripted as it is. -/
theorem Value.eq_of_subscripted {property : String} {s : Subscript} {v w : Value}
    (h : v.subscripted property s = .ok w) : w = v := by
  unfold subscripted at h
  split at h <;> cases h
  rfl

/-! ### Cells that are put into the heap -/

/-- The value that names a cell; a schema is none. -/
def Handle.toValue : {k : CellKind} → Handle k → Value
  | .list, h => .list h
  | .array, h => .array h
  | .map, h => .map h
  | .object, h => .object h
  | .record, h => .record h
  | .schema, _ => .null

/-- Only a slot of any values takes those of a type of any values. -/
theorem ClassGraph.eq_any_of_assignable_any {G : ClassGraph} {t : Ty} (h : G.assignable t .any = true) : t = .any := by
  cases t <;> first | rfl | simp [assignable] at h

namespace Heap
variable {G : ClassGraph} {H H' : Heap} {k : CellKind} {h : Handle k} {c : Cell k} {t : Ty} {v : Value}

/-- Whether a heap is another one with one cell made or written. -/
structure Puts (H : Heap) (h : Handle k) (c : Cell k) (H' : Heap) : Prop where
  self : H'.get h = c
  other : ∀ {j : Handle k}, j ≠ h → H'.get j = H.get j
  kind : ∀ {l : CellKind} {j : Handle l}, l ≠ k → H'.get j = H.get j
  has : ∀ {l : CellKind} {j : Handle l}, H.Has j → H'.Has j

theorem puts_set (H : Heap) (h : Handle k) (c : Cell k) : H.Puts h c (H.set h c) where
  self := H.get_set_self h c
  other := H.get_set_of_ne c
  kind := H.get_set_of_kind_ne c
  has := has_set

theorem puts_alloc (H : Heap) (c : Cell k) : H.Puts (H.next k) c (H.alloc k c).2 where
  self := H.get_alloc_self c
  other := H.get_alloc_of_ne c
  kind := H.get_alloc_of_kind_ne c
  has := (H.onlyAdds_alloc c).has

theorem not_has_next (H : Heap) (k : CellKind) : ¬ H.Has (H.next k) := Nat.lt_irrefl _

namespace Puts
variable (hp : H.Puts h c H')
include hp

theorem get_of_ne {l : CellKind} {j : Handle l} (hne : j.toValue ≠ h.toValue) : H'.get j = H.get j := by
  by_cases hl : l = k
  · subst hl
    refine hp.other ?_
    rintro rfl
    exact hne rfl
  · exact hp.kind hl

/-- What other cells hold is what they held before. -/
theorem held_of_ne (hv : v ≠ h.toValue) : H'.held v = H.held v := by
  cases v with
  | list j => exact hp.get_of_ne (j := j) hv
  | array j => exact congrArg TypedArray.items (hp.get_of_ne (j := j) hv)
  | map j => rw [held, held, hp.get_of_ne (j := j) hv]
  | object j => rw [held, held, hp.get_of_ne (j := j) hv]
  | record j => rw [held, held, hp.get_of_ne (j := j) hv]
  | _ => rfl

/-- Cells of other kinds than arrays and objects make no difference to the types of values. -/
theorem typeOf (harray : k ≠ .array) (hobject : k ≠ .object) (v : Value) : H'.typeOf v = H.typeOf v := by
  cases v with
  | array j => rw [Heap.typeOf, Heap.typeOf, hp.kind (j := j) harray.symm]
  | object j => rw [Heap.typeOf, Heap.typeOf, hp.kind (j := j) hobject.symm]
  | _ => rfl

end Puts

/-- A new array is accepted where the default that was read in its place was, and any other value where it was. -/
theorem accepts_of_puts_array {a : TypedArray} {j : Handle .array} (hp : H.Puts (k := .array) j a H')
    (hcomponent : (H.get j).component = a.component ∨ (H.get j).component = .any) (h : H.accepts G t v = true) :
    H'.accepts G t v = true := by
  by_cases hv : v = .array j
  · subst hv
    rcases hcomponent with hsame | hany
    · have htype : H'.typeOf (.array j) = H.typeOf (.array j) := by
        rw [typeOf, typeOf, hp.self, hsame]
      exact (accepts_congr htype).trans h
    · cases t with
      | any => rfl
      | array c =>
        rw [accepts, hany] at h
        rw [ClassGraph.eq_any_of_assignable_any h]
        rfl
      | _ => cases h
  · refine (accepts_congr ?_).trans h
    cases v with
    | array i => rw [typeOf, typeOf, hp.get_of_ne (j := i) hv]
    | object o => rw [typeOf, typeOf, hp.kind (j := o) (by decide)]
    | _ => rfl

end Heap

/-! ### Values that classes hold -/

/-- Whether a value stands in a template. -/
inductive Template.Mentions : Template → Value → Prop
  | value (v : Value) : Mentions (.value v) v
  | list {items : List Template} {t : Template} {v : Value} (ht : t ∈ items) (h : t.Mentions v) :
      Mentions (.list items) v
  | array {c : Ty} {items : List Template} {t : Template} {v : Value} (ht : t ∈ items) (h : t.Mentions v) :
      Mentions (.array c items) v
  | map {entries : List (String × Template)} {e : String × Template} {v : Value} (he : e ∈ entries)
      (h : e.2.Mentions v) : Mentions (.map entries) v
  | field {c : ClassId} {fields storage : List (String × Template)} {e : String × Template} {v : Value}
      (he : e ∈ fields) (h : e.2.Mentions v) : Mentions (.object c fields storage) v
  | stored {c : ClassId} {fields storage : List (String × Template)} {e : String × Template} {v : Value}
      (he : e ∈ storage) (h : e.2.Mentions v) : Mentions (.object c fields storage) v

/-- Whether a value stands in the default of a field of a class, or in what a method of a class always answers. -/
def ClassGraph.Mentions (G : ClassGraph) (v : Value) : Prop :=
  ∃ c, (∃ e ∈ (G.get c).defaults, e.2.Mentions v) ∨
    ∃ m ∈ (G.get c).methods, ∃ t, m.body = some (.constant t) ∧ t.Mentions v

/-! ### Fences -/

/-- Whether a type is one of objects, or of arrays of these. -/
def Ty.hasObjects : Ty → Bool
  | .object _ => true
  | .array c => c.hasObjects
  | _ => false

/-- Whether two arrays have the same component and the same length. -/
def TypedArray.SameShape (a b : TypedArray) : Prop := b.component = a.component ∧ b.items.length = a.items.length

theorem TypedArray.SameShape.refl (a : TypedArray) : a.SameShape a := ⟨rfl, rfl⟩

/-- What a fence keeps out: perhaps objects, and some of the arrays of a heap at the start. -/
structure Fence where
  start : Heap
  withObjects : Bool
  outside : Handle .array → Prop
  isThere : ∀ {a}, outside a → start.Has a

namespace Fence

/-- Whether a value is inside.  Only arrays and objects may be outside. -/
def Inside (F : Fence) : Value → Prop
  | .array a => ¬ F.outside a
  | .object _ => F.withObjects = true
  | _ => True

/-- Whether all values of a type may be inside. -/
def Admits (F : Fence) (t : Ty) : Prop := F.withObjects = true ∨ t.hasObjects = false

/-- Whether all values of a dictionary are inside. -/
def Holds (F : Fence) (d : Dict Value) : Prop := ∀ name v, d.get? name = some v → F.Inside v

/-- Whether all that an object holds is inside. -/
structure HoldsObject (F : Fence) (o : Object) : Prop where
  fields : F.Holds o.fields
  storage : ∀ {d}, o.storage = some d → F.Holds d

/-- Whether all that a record holds, or the object that it shows, is inside. -/
def HoldsRecord (F : Fence) : Record → Prop
  | .fixed _ d | .growing _ (.own d) => F.Holds d
  | .growing _ (.shared _) => True
  | .adapter _ o _ => F.Inside (.object o)

/-- Whether nothing inside leads outside.  Without objects inside, arrays hold what their components accept.  Arrays
that were there at the start have kept their lengths and components, and those outside their elements as well. -/
structure Encloses (F : Fence) (G : ClassGraph) (H : Heap) : Prop where
  held : ∀ {v}, F.Inside v → ∀ w ∈ H.held v, F.Inside w
  component : ∀ a : Handle .array, F.Admits (H.get a).component
  declared : ∀ {S : Handle .schema} {name p}, (H.get S).property? name = some p → F.Admits p.ty
  conforms : F.withObjects = true ∨ ∀ a : Handle .array, H.Conforms G (H.get a)
  kept : ∀ {a : Handle .array}, F.start.Has a → H.Has a ∧ (F.start.get a).SameShape (H.get a) ∧
    (F.outside a → H.get a = F.start.get a)
  classes : F.withObjects = true → ∀ v, G.Mentions v → F.Inside v

variable {F : Fence} {G : ClassGraph} {H H' : Heap} {d : Dict Value} {name key : String} {v w : Value} {t : Ty}

/-! ### Values inside -/

theorem inside_of_isScalar (h : v.isScalar = true) : F.Inside v := by
  cases v with
  | array a => cases h
  | object o => cases h
  | _ => trivial

theorem inside_of_coerce {property : String} (hv : F.Inside v) (h : H.coerce G t property v = .ok w) : F.Inside w := by
  rcases Heap.eq_or_isScalar_of_coerce h with rfl | hscalar
  · exact hv
  · exact inside_of_isScalar hscalar

theorem holds_empty : F.Holds .empty := fun _ _ h => by cases h

theorem Holds.insert (hd : F.Holds d) (hv : F.Inside v) : F.Holds (d.insert name v) := by
  intro name' v' h
  rw [Dict.get?_insert] at h
  split at h
  · cases h
    exact hv
  · exact hd name' v' h

theorem Holds.erase (hd : F.Holds d) : F.Holds (d.erase name) := by
  intro name' v' h
  rw [Dict.get?_erase] at h
  split at h
  · cases h
  · exact hd name' v' h

theorem Holds.insertAll {entries : List (String × Value)} (hd : F.Holds d) (h : ∀ e ∈ entries, F.Inside e.2) :
    F.Holds (d.insertAll entries) := by
  induction entries generalizing d with
  | nil => exact hd
  | cons e entries ih =>
    obtain ⟨he, hrest⟩ := List.forall_mem_cons.mp h
    exact ih (hd.insert he) hrest

/-- What a dictionary answers is null, or one of its values. -/
theorem Holds.getD (hd : F.Holds d) (name : String) : F.Inside ((d.get? name).getD .null) := by
  cases h : d.get? name with
  | none => trivial
  | some v => exact hd name v h

theorem holds_iff : F.Holds d ↔ ∀ v ∈ d.entries.map Prod.snd, F.Inside v := by
  constructor
  · intro hd v hv
    obtain ⟨e, he, rfl⟩ := List.mem_map.mp hv
    exact hd e.1 e.2 (Dict.get?_of_mem he)
  · intro h name v hv
    exact h v (List.mem_map_of_mem (Dict.mem_of_get? hv))

theorem HoldsObject.inside {o : Object} (ho : F.HoldsObject o)
    (hw : w ∈ o.fields.entries.map Prod.snd ++ (o.storage.getD .empty).entries.map Prod.snd) : F.Inside w := by
  rcases List.mem_append.mp hw with hw | hw
  · exact holds_iff.mp ho.fields w hw
  · cases hd : o.storage with
    | none =>
      rw [hd] at hw
      cases hw
    | some d =>
      rw [hd] at hw
      exact holds_iff.mp (ho.storage hd) w hw

theorem holdsRecord_iff {j : Handle .record} : F.HoldsRecord (H.get j) ↔ ∀ w ∈ H.held (.record j), F.Inside w := by
  rw [Heap.held]
  cases H.get j with
  | fixed S d => exact holds_iff
  | growing S store =>
    cases store with
    | own d => exact holds_iff
    | shared m => exact iff_of_true trivial (List.forall_mem_singleton.mpr trivial)
  | adapter S o r =>
    change F.Inside (.object o) ↔ ∀ w ∈ [Value.object o], F.Inside w
    rw [List.forall_mem_singleton]

namespace Encloses
variable {k : CellKind} {j : Handle k} {c : Cell k}

theorem holds_map (h : F.Encloses G H) (m : Handle .map) : F.Holds (H.get m) :=
  holds_iff.mpr (h.held (v := .map m) trivial)

theorem holdsRecord (h : F.Encloses G H) (j : Handle .record) : F.HoldsRecord (H.get j) :=
  holdsRecord_iff.mpr (h.held trivial)

/-- The values that a record stores are inside, also those in a shared map. -/
theorem holds_stored (h : F.Encloses G H) {r : Handle .record} (hd : H.stored? r = some d) : F.Holds d := by
  have hr := h.holdsRecord r
  rw [Heap.stored?] at hd
  split at hd
  · rename_i hcell
    cases hd
    rwa [hcell] at hr
  · rename_i hcell
    cases hd
    rwa [hcell] at hr
  · cases hd
    exact h.holds_map _
  · cases hd

theorem holdsObject (h : F.Encloses G H) {o : Handle .object} (ho : F.Inside (.object o)) :
    F.HoldsObject (H.get o) where
  fields := holds_iff.mpr fun v hv => h.held ho v (List.mem_append_left _ hv)
  storage {d} hd := by
    refine holds_iff.mpr fun v hv => h.held ho v (List.mem_append_right _ ?_)
    rwa [hd]

/-- The type of a value inside is one of values inside. -/
theorem admits_typeOf (h : F.Encloses G H) (hv : F.Inside v) : F.Admits (H.typeOf v) := by
  cases v with
  | array a => exact h.component a
  | object o => exact Or.inl hv
  | _ => exact Or.inr rfl

/-! ### Making and writing cells -/

theorem held_of_puts (h : F.Encloses G H) (hp : H.Puts j c H') (hc : ∀ w ∈ H'.held j.toValue, F.Inside w)
    (hv : F.Inside v) : ∀ w ∈ H'.held v, F.Inside w := by
  by_cases hsame : v = j.toValue
  · rwa [hsame]
  · rw [hp.held_of_ne hsame]
    exact h.held hv

/-- A list, a map, an object or a record may be put where it holds values inside only. -/
theorem put (h : F.Encloses G H) (hp : H.Puts j c H') (harray : k ≠ .array) (hschema : k ≠ .schema)
    (hobject : k = .object → F.withObjects = true) (hc : ∀ w ∈ H'.held j.toValue, F.Inside w) : F.Encloses G H' where
  held := h.held_of_puts hp hc
  component a := by
    rw [hp.kind (j := a) harray.symm]
    exact h.component a
  declared {S _ _} hproperty := by
    rw [hp.kind (j := S) hschema.symm] at hproperty
    exact h.declared hproperty
  conforms := by
    by_cases hk : k = .object
    · exact Or.inl (hobject hk)
    · refine h.conforms.imp_right fun hall a v hv => ?_
      rw [hp.kind (j := a) harray.symm] at hv ⊢
      exact (Heap.accepts_congr (hp.typeOf harray hk v)).trans (hall a v hv)
  kept {a} ha := by
    obtain ⟨hhas, hkept⟩ := h.kept ha
    rw [hp.kind (j := a) harray.symm]
    exact ⟨hp.has hhas, hkept⟩
  classes := h.classes

theorem put_schema {S : Handle .schema} {T : Schema} (h : F.Encloses G H) (hp : H.Puts (k := .schema) S T H')
    (hT : ∀ {name p}, T.property? name = some p → F.Admits p.ty) : F.Encloses G H' where
  held := h.held_of_puts hp fun w hw => by cases hw
  component a := by
    rw [hp.kind (j := a) nofun]
    exact h.component a
  declared {S' _ _} hproperty := by
    by_cases hS : S' = S
    · rw [hS, hp.self] at hproperty
      exact hT hproperty
    · rw [hp.other hS] at hproperty
      exact h.declared hproperty
  conforms := by
    refine h.conforms.imp_right fun hall a v hv => ?_
    rw [hp.kind (j := a) nofun] at hv ⊢
    exact (Heap.accepts_congr (hp.typeOf nofun nofun v)).trans (hall a v hv)
  kept {a} ha := by
    obtain ⟨hhas, hkept⟩ := h.kept ha
    rw [hp.kind (j := a) nofun]
    exact ⟨hp.has hhas, hkept⟩
  classes := h.classes

/-- A new array may be put anywhere, and an old one inside may be written if it keeps its length and its component. -/
theorem put_array {i : Handle .array} {a : TypedArray} (h : F.Encloses G H) (hp : H.Puts (k := .array) i a H')
    (hitems : ∀ v ∈ a.items, F.Inside v) (hadmits : F.Admits a.component)
    (hcomponent : (H.get i).component = a.component ∨ (H.get i).component = .any)
    (hconforms : F.withObjects = true ∨ H.Conforms G a)
    (hkept : F.start.Has i → F.Inside (.array i) ∧ (H.get i).SameShape a) : F.Encloses G H' where
  held := h.held_of_puts hp fun w hw => by
    rw [Handle.toValue, Heap.held, hp.self] at hw
    exact hitems w hw
  component b := by
    by_cases hb : b = i
    · rw [hb, hp.self]
      exact hadmits
    · rw [hp.other hb]
      exact h.component b
  declared {S _ _} hproperty := by
    rw [hp.kind (j := S) (by decide)] at hproperty
    exact h.declared hproperty
  conforms := by
    rcases h.conforms with hobjects | hall
    · exact Or.inl hobjects
    · refine hconforms.imp_right fun hnew b v hv => ?_
      by_cases hb : b = i
      · rw [hb, hp.self] at hv ⊢
        exact Heap.accepts_of_puts_array hp hcomponent (hnew v hv)
      · rw [hp.other hb] at hv ⊢
        exact Heap.accepts_of_puts_array hp hcomponent (hall b v hv)
  kept {b} hb := by
    obtain ⟨hhas, ⟨hsame, hlength⟩, houtside⟩ := h.kept hb
    refine ⟨hp.has hhas, ?_⟩
    by_cases hbi : b = i
    · subst hbi
      obtain ⟨hinside, hsame', hlength'⟩ := hkept hb
      rw [hp.self]
      exact ⟨⟨hsame'.trans hsame, hlength'.trans hlength⟩, fun hb => absurd hb hinside⟩
    · rw [hp.other hbi]
      exact ⟨⟨hsame, hlength⟩, houtside⟩
  classes := h.classes

/-! ### New cells -/

theorem newList {items : List Value} (h : F.Encloses G H) (hitems : ∀ v ∈ items, F.Inside v) :
    F.Encloses G (H.newList items).2 := by
  have hcell : (H.newList items).2.get (H.next .list) = items := (H.puts_alloc (k := .list) items).self
  refine h.put (H.puts_alloc (k := .list) items) nofun nofun nofun fun w hw => hitems w ?_
  rwa [Handle.toValue, Heap.held, hcell] at hw

theorem newMap (h : F.Encloses G H) (hd : F.Holds d) : F.Encloses G (H.newMap d).2 := by
  have hcell : (H.newMap d).2.get (H.next .map) = d := (H.puts_alloc (k := .map) d).self
  refine h.put (H.puts_alloc (k := .map) d) nofun nofun nofun fun w hw => holds_iff.mp hd w ?_
  rwa [Handle.toValue, Heap.held, hcell] at hw

theorem newArray {c : Ty} {items : List Value} (h : F.Encloses G H) (hitems : ∀ v ∈ items, F.Inside v)
    (hc : F.Admits c) (hconforms : F.withObjects = true ∨ H.Conforms G ⟨c, items⟩) :
    F.Encloses G (H.newArray c items).2 ∧ F.Inside (H.newArray c items).1 := by
  have hnew := H.not_has_next .array
  have hdefault : (H.get (H.next .array)).component = .any := by
    rw [Heap.get_of_not_has hnew]
    rfl
  refine ⟨h.put_array (H.puts_alloc (k := .array) ⟨c, items⟩) hitems hc (Or.inr hdefault) hconforms fun hthere => ?_,
    fun houtside => hnew (h.kept (F.isThere houtside)).1⟩
  exact absurd (h.kept hthere).1 hnew

theorem newSchema {T : Schema} (h : F.Encloses G H) (hT : ∀ {name p}, T.property? name = some p → F.Admits p.ty) :
    F.Encloses G (H.alloc .schema T).2 := h.put_schema (H.puts_alloc (k := .schema) T) hT

theorem newRecord {r : Record} (h : F.Encloses G H) (hr : F.HoldsRecord r) : F.Encloses G (H.alloc .record r).2 := by
  have hp := H.puts_alloc (k := .record) r
  exact h.put hp nofun nofun nofun (holdsRecord_iff.mp (hp.self.symm ▸ hr))

theorem newObject {o : Object} (h : F.Encloses G H) (hobjects : F.withObjects = true) (ho : F.HoldsObject o) :
    F.Encloses G (H.alloc .object o).2 := by
  have hp := H.puts_alloc (k := .object) o
  refine h.put hp nofun nofun (fun _ => hobjects) fun w hw => ho.inside ?_
  rwa [Handle.toValue, Heap.held, hp.self] at hw

/-! ### Written cells -/

theorem setList {l : Handle .list} {items : List Value} (h : F.Encloses G H) (hitems : ∀ v ∈ items, F.Inside v) :
    F.Encloses G (H.set l items) := by
  refine h.put (H.puts_set (k := .list) l items) nofun nofun nofun fun w hw => hitems w ?_
  rwa [Handle.toValue, Heap.held, H.get_set_self (k := .list)] at hw

theorem setMap {m : Handle .map} (h : F.Encloses G H) (hd : F.Holds d) : F.Encloses G (H.set m d) := by
  refine h.put (H.puts_set (k := .map) m d) nofun nofun nofun fun w hw => holds_iff.mp hd w ?_
  rwa [Handle.toValue, Heap.held, H.get_set_self (k := .map)] at hw

theorem setObject {j : Handle .object} {o : Object} (h : F.Encloses G H) (hj : F.Inside (.object j))
    (ho : F.HoldsObject o) : F.Encloses G (H.set j o) := by
  refine h.put (H.puts_set (k := .object) j o) nofun nofun (fun _ => hj) fun w hw => ho.inside ?_
  rwa [Handle.toValue, Heap.held, H.get_set_self (k := .object)] at hw

theorem setRecord {j : Handle .record} {r : Record} (h : F.Encloses G H) (hr : F.HoldsRecord r) :
    F.Encloses G (H.set j r) := by
  have hp := H.puts_set (k := .record) j r
  exact h.put hp nofun nofun nofun (holdsRecord_iff.mp (hp.self.symm ▸ hr))

/-- An element of an array inside may be replaced by a value that the component accepts. -/
theorem setArray {j : Handle .array} {i : Nat} (h : F.Encloses G H) (hj : F.Inside (.array j)) (hv : F.Inside v)
    (haccepts : H.accepts G (H.get j).component v = true) :
    F.Encloses G (H.set j { H.get j with items := (H.get j).items.set i v }) := by
  refine h.put_array (H.puts_set (k := .array) j _) (fun w hw => ?_) (h.component j) (Or.inl rfl) ?_
    fun _ => ⟨hj, rfl, List.length_set⟩
  · rcases List.mem_or_eq_of_mem_set hw with hw | rfl
    · exact h.held hj w hw
    · exact hv
  · refine h.conforms.imp_right fun hall w hw => ?_
    rcases List.mem_or_eq_of_mem_set hw with hw | rfl
    · exact hall j w hw
    · exact haccepts

/-! ### Elements and entries -/

theorem inside_element {i : Nat} (h : F.Encloses G H) (hv : F.Inside v) (hw : H.element name i v = .ok w) :
    F.Inside w := by
  unfold Heap.element at hw
  split at hw
  · cases hw
  · rename_i items hitems
    split at hw
    · rename_i hi
      cases hw
      exact h.held hv _ (Heap.mem_held_of_items? hitems (List.mem_of_getElem? hi))
    · cases hw

theorem inside_elementOf {i : Nat} (h : F.Encloses G H) (hv : F.Inside v) (hw : H.elementOf name i v = .ok w) :
    F.Inside w := by
  obtain ⟨c, hc, helement⟩ := bind_eq_ok.mp hw
  obtain rfl := Value.eq_of_subscripted hc
  exact h.inside_element hv helement

theorem holds_entries (h : F.Encloses G H) (hv : F.Inside v) (hd : H.entries name v = .ok d) : F.Holds d := by
  unfold Heap.entries at hd
  split at hd
  · rename_i hentries
    cases hd
    cases v with
    | map m =>
      cases hentries
      exact h.holds_map m
    | object o => exact (h.holdsObject hv).storage hentries
    | _ => cases hentries
  · cases hd

theorem inside_entry (h : F.Encloses G H) (hv : F.Inside v) (hw : H.entry name key v = .ok w) : F.Inside w := by
  obtain ⟨d, hd, hw⟩ := bind_eq_ok.mp hw
  cases hw
  exact (h.holds_entries hv hd).getD key

theorem inside_entryOf (h : F.Encloses G H) (hv : F.Inside v) (hw : H.entryOf name key v = .ok w) : F.Inside w := by
  obtain ⟨c, hc, hentry⟩ := bind_eq_ok.mp hw
  obtain rfl := Value.eq_of_subscripted hc
  exact h.inside_entry hv hentry

theorem setElement {i : Nat} (h : F.Encloses G H) (hv : F.Inside v) (hw : F.Inside w)
    (hset : H.setElement G name i w t v = .ok H') : F.Encloses G H' := by
  cases v with
  | list l =>
    obtain ⟨u, hu, hset⟩ := bind_eq_ok.mp hset
    obtain ⟨items, hitems, hset⟩ := bind_eq_ok.mp hset
    cases hset
    obtain ⟨-, rfl⟩ := Heap.replaceAt_eq_ok hitems
    refine h.setList fun x hx => ?_
    rcases List.mem_or_eq_of_mem_set hx with hx | rfl
    · exact h.held hv x hx
    · exact inside_of_coerce hw hu
  | array a =>
    obtain ⟨u, hu, hset⟩ := bind_eq_ok.mp hset
    obtain ⟨items, hitems, hset⟩ := bind_eq_ok.mp hset
    cases hset
    obtain ⟨-, rfl⟩ := Heap.replaceAt_eq_ok hitems
    exact h.setArray hv (inside_of_coerce hw hu) (Heap.fits_of_coerce hu).accepted
  | _ => cases hset

theorem setElementOf {i : Nat} (h : F.Encloses G H) (hv : F.Inside v) (hw : F.Inside w)
    (hset : H.setElementOf G name i w t v = .ok H') : F.Encloses G H' := by
  obtain ⟨c, hc, helement⟩ := bind_eq_ok.mp hset
  obtain rfl := Value.eq_of_subscripted hc
  exact h.setElement hv hw helement

theorem setEntries (h : F.Encloses G H) (hv : F.Inside v) (hd : F.Holds d) : F.Encloses G (H.setEntries d v) := by
  cases v with
  | map m => exact h.setMap hd
  | object o =>
    refine h.setObject hv ⟨(h.holdsObject hv).fields, fun {d'} hstorage => ?_⟩
    cases hstorage
    exact hd
  | _ => exact h

theorem setEntry (h : F.Encloses G H) (hv : F.Inside v) (hw : F.Inside w) (hset : H.setEntry name key w v = .ok H') :
    F.Encloses G H' := by
  obtain ⟨d, hd, hset⟩ := bind_eq_ok.mp hset
  cases hset
  exact h.setEntries hv ((h.holds_entries hv hd).insert hw)

theorem setEntryOf (h : F.Encloses G H) (hv : F.Inside v) (hw : F.Inside w)
    (hset : H.setEntryOf name key w v = .ok H') : F.Encloses G H' := by
  obtain ⟨c, hc, hentry⟩ := bind_eq_ok.mp hset
  obtain rfl := Value.eq_of_subscripted hc
  exact h.setEntry hv hw hentry

theorem eraseEntry (h : F.Encloses G H) (hv : F.Inside v) (hset : H.eraseEntry name key v = .ok H') :
    F.Encloses G H' := by
  obtain ⟨d, hd, hset⟩ := bind_eq_ok.mp hset
  cases hset
  exact h.setEntries hv (h.holds_entries hv hd).erase

end Encloses

end Fence

end ObjectGraph
