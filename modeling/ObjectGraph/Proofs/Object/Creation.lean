import ObjectGraph.Object.Creation
import ObjectGraph.Proofs.Heap
import ObjectGraph.Proofs.Value.Fitting

/-!
New objects and the values of new slots.  Making them only adds cells to the heap: the default objects of
classes, and the objects in the defaults of these, leave all older cells as they are.  What fills a new
slot of a type fits the type.
-/

namespace ObjectGraph

namespace Template
variable {blank : ClassId → Heap → Object × Heap}

mutual

theorem onlyAdds_buildWith (hblank : ∀ (c : ClassId) (H : Heap), H.OnlyAdds (blank c H).2) (H : Heap) :
    (t : Template) → H.OnlyAdds (t.buildWith blank H).2
  | .value _ => by
    rw [buildWith]
    exact .refl H
  | .list items => by
    rw [buildWith]
    exact (onlyAdds_buildItems hblank H items).trans (Heap.onlyAdds_alloc (k := .list) _ _)
  | .array _ items => by
    rw [buildWith]
    exact (onlyAdds_buildItems hblank H items).trans (Heap.onlyAdds_alloc (k := .array) _ _)
  | .map entries => by
    rw [buildWith]
    exact (onlyAdds_buildEntries hblank H entries).trans (Heap.onlyAdds_alloc (k := .map) _ _)
  | .object c fields storage => by
    rw [buildWith]
    have hfields := (hblank c H).trans (onlyAdds_buildEntries hblank _ fields)
    exact (hfields.trans (onlyAdds_buildEntries hblank _ storage)).trans (Heap.onlyAdds_alloc (k := .object) _ _)

theorem onlyAdds_buildItems (hblank : ∀ (c : ClassId) (H : Heap), H.OnlyAdds (blank c H).2) (H : Heap) :
    (ts : List Template) → H.OnlyAdds (buildItems blank H ts).2
  | [] => by
    rw [buildItems]
    exact .refl H
  | t :: ts => by
    rw [buildItems]
    exact (onlyAdds_buildWith hblank H t).trans (onlyAdds_buildItems hblank _ ts)

theorem onlyAdds_buildEntries (hblank : ∀ (c : ClassId) (H : Heap), H.OnlyAdds (blank c H).2) (H : Heap) :
    (ts : List (String × Template)) → H.OnlyAdds (buildEntries blank H ts).2
  | [] => by
    rw [buildEntries]
    exact .refl H
  | (_, t) :: ts => by
    rw [buildEntries]
    exact (onlyAdds_buildWith hblank H t).trans (onlyAdds_buildEntries hblank _ ts)

end

end Template

namespace ClassGraph
variable (G : ClassGraph)

/-- Default objects nest to any depth, and none of them changes an older cell. -/
theorem onlyAdds_blankObject (depth : Nat) (c : ClassId) (H : Heap) : H.OnlyAdds (G.blankObject depth c H).2 := by
  induction depth generalizing c H with
  | zero => exact .refl H
  | succ depth ih => exact Template.onlyAdds_buildEntries ih H _

theorem onlyAdds_newObject (c : ClassId) (H : Heap) : H.OnlyAdds (G.newObject c H).2 :=
  (G.onlyAdds_blankObject (G.size + 1) c H).trans (Heap.onlyAdds_alloc (k := .object) _ _)

/-- A new object is of the class that it was made for. -/
theorem cls_newObject (c : ClassId) (H : Heap) : ((G.newObject c H).2.get (G.newObject c H).1).cls = c :=
  congrArg Object.cls (Heap.get_alloc_self (k := .object) (G.defaultObject c H).2 (G.defaultObject c H).1)

theorem has_newObject (c : ClassId) (H : Heap) : (G.newObject c H).2.Has (G.newObject c H).1 :=
  Heap.has_alloc (k := .object) (H := (G.defaultObject c H).2) (G.defaultObject c H).1

/-- A new object has no entries. -/
theorem storage_newObject {c : ClassId} {H : Heap} {d : Dict Value}
    (h : ((G.newObject c H).2.get (G.newObject c H).1).storage = some d) : d = .empty := by
  have hcell : (G.newObject c H).2.get (G.newObject c H).1 = (G.defaultObject c H).1 :=
    Heap.get_alloc_self (k := .object) _ _
  have hstorage : (if G.hasStorage c then some Dict.empty else none) = some d :=
    (congrArg Object.storage hcell).symm.trans h
  split at hstorage <;> cases hstorage
  rfl

theorem defaultValue_object (c : ClassId) (H : Heap) : G.defaultValue (.object c) H =
    if (G.get c).isConstructible then (.object (G.newObject c H).1, (G.newObject c H).2) else (.null, H) := by
  simp only [defaultValue, instantiate]
  cases (G.get c).isConstructible <;> simp

/-- What fills a new slot names a cell if it is a handle, and the older cells are as they were. -/
theorem onlyAdds_defaultValue (t : Ty) (H : Heap) :
    H.OnlyAdds (G.defaultValue t H).2 ∧ (G.defaultValue t H).2.Live (G.defaultValue t H).1 := by
  cases t with
  | primitive p =>
    refine ⟨.refl H, ?_⟩
    cases p <;> trivial
  | list => exact ⟨Heap.onlyAdds_alloc (k := .list) _ _, Heap.has_alloc (k := .list) _⟩
  | map => exact ⟨Heap.onlyAdds_alloc (k := .map) _ _, Heap.has_alloc (k := .map) _⟩
  | array c => exact ⟨Heap.onlyAdds_alloc (k := .array) _ _, Heap.has_alloc (k := .array) _⟩
  | object c =>
    rw [defaultValue_object]
    split
    · exact ⟨G.onlyAdds_newObject c H, G.has_newObject c H⟩
    · exact ⟨.refl H, trivial⟩
  | record =>
    exact ⟨(Heap.onlyAdds_alloc (k := .schema) _ _).trans (Heap.onlyAdds_alloc (k := .record) _ _),
      Heap.has_alloc (k := .record) _⟩
  | _ => exact ⟨.refl H, trivial⟩

theorem fits_defaultObject (c : ClassId) (H : Heap) :
    (G.defaultValue (.object c) H).2.Fits G (.object c) (G.defaultValue (.object c) H).1 := by
  rw [defaultValue_object]
  split
  · refine Heap.fits_of_accepts ?_ rfl nofun
    simp only [Heap.accepts, cls_newObject, isSubclass_self]
  · exact Heap.fits_null rfl

/-- What fills a new slot of a type fits the type. -/
theorem fits_defaultValue (t : Ty) (H : Heap) : (G.defaultValue t H).2.Fits G t (G.defaultValue t H).1 := by
  cases t with
  | primitive p => exact Heap.fits_zero (t := .primitive p)
  | array c => exact Heap.fits_newArray c []
  | object c => exact G.fits_defaultObject c H
  | text => exact Heap.fits_of_accepts rfl rfl nofun
  | list => exact Heap.fits_of_accepts rfl rfl nofun
  | map => exact Heap.fits_of_accepts rfl rfl nofun
  | record => exact Heap.fits_of_accepts rfl rfl nofun
  | _ => exact Heap.fits_null rfl

theorem onlyAdds_defaultValues (t : Ty) (count : Nat) (H : Heap) : H.OnlyAdds (G.defaultValues t count H).2 := by
  induction count generalizing H with
  | zero => exact .refl H
  | succ count ih => exact (G.onlyAdds_defaultValue t H).1.trans (ih _)

end ClassGraph

/-- Lengthening copies an array, with new values for the new slots. -/
theorem TypedArray.onlyAdds_grown (G : ClassGraph) (a : TypedArray) (length : Nat) (H : Heap) :
    H.OnlyAdds (a.grown G length H).2 := G.onlyAdds_defaultValues a.component _ H

end ObjectGraph
