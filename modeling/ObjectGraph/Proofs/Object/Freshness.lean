import ObjectGraph.Proofs.Object.Creation

/-!
New cells have the next handles, and nothing that is made depends on what the older cells hold.  So heaps of the same
sizes make the same values.
-/

namespace ObjectGraph

namespace Heap
variable {H H' H'' : Heap} {k l : CellKind}

/-- Whether two heaps have as many cells of each kind. -/
def SameSizes (H H' : Heap) : Prop := ∀ k, (H'.table k).size = (H.table k).size

namespace SameSizes

theorem refl (H : Heap) : H.SameSizes H := fun _ => rfl

theorem trans (h : H.SameSizes H') (h' : H'.SameSizes H'') : H.SameSizes H'' := fun k => (h' k).trans (h k)

theorem has (h : H.SameSizes H') {j : Handle k} (hj : H.Has j) : H'.Has j := by
  rw [Has, h k]
  exact hj

theorem next_eq (h : H.SameSizes H') (k : CellKind) : H'.next k = H.next k := congrArg Handle.mk (h k)

theorem set {j : Handle k} (c : Cell k) (hj : H.Has j) : H.SameSizes (H.set j c) := by
  intro l
  by_cases hl : l = k
  · subst hl
    have hindex : j.index < (H.table l).size := hj
    rw [Heap.set, table_setTable_self, Table.size_set]
    omega
  · rw [Heap.set, table_setTable_of_ne H _ hl]

theorem alloc (h : H.SameSizes H') (c c' : Cell k) : (H.alloc k c).2.SameSizes (H'.alloc k c').2 := by
  intro l
  by_cases hl : l = k
  · subst hl
    simp only [Heap.alloc, table_setTable_self, Table.size_push, h l]
  · simp only [Heap.alloc, table_setTable_of_ne _ _ hl, h l]

end SameSizes

/-- Whether two computations give the same, on heaps of the same sizes. -/
def GivesSame {α : Type} (x y : α × Heap) : Prop := y.1 = x.1 ∧ x.2.SameSizes y.2

end Heap

namespace Template
open Heap

variable {blank : ClassId → Heap → Object × Heap}

/-- Whether blank objects depend on no cell. -/
def IsSteady (blank : ClassId → Heap → Object × Heap) : Prop :=
  ∀ c {H H' : Heap}, H.SameSizes H' → GivesSame (blank c H) (blank c H')

mutual

theorem givesSame_buildWith (hblank : IsSteady blank) {H H' : Heap} (h : H.SameSizes H') :
    (t : Template) → GivesSame (t.buildWith blank H) (t.buildWith blank H')
  | .value _ => by
    rw [buildWith, buildWith]
    exact ⟨rfl, h⟩
  | .list items => by
    obtain ⟨-, hsizes⟩ := givesSame_buildItems hblank h items
    rw [buildWith, buildWith]
    exact ⟨congrArg Value.list (hsizes.next_eq .list), hsizes.alloc (k := .list) _ _⟩
  | .array _ items => by
    obtain ⟨-, hsizes⟩ := givesSame_buildItems hblank h items
    rw [buildWith, buildWith]
    exact ⟨congrArg Value.array (hsizes.next_eq .array), hsizes.alloc (k := .array) _ _⟩
  | .map entries => by
    obtain ⟨-, hsizes⟩ := givesSame_buildEntries hblank h entries
    rw [buildWith, buildWith]
    exact ⟨congrArg Value.map (hsizes.next_eq .map), hsizes.alloc (k := .map) _ _⟩
  | .object c fields storage => by
    obtain ⟨-, hsizes⟩ := hblank c h
    obtain ⟨-, hsizes⟩ := givesSame_buildEntries hblank hsizes fields
    obtain ⟨-, hsizes⟩ := givesSame_buildEntries hblank hsizes storage
    rw [buildWith, buildWith]
    exact ⟨congrArg Value.object (hsizes.next_eq .object), hsizes.alloc (k := .object) _ _⟩

theorem givesSame_buildItems (hblank : IsSteady blank) {H H' : Heap} (h : H.SameSizes H') :
    (ts : List Template) → GivesSame (buildItems blank H ts) (buildItems blank H' ts)
  | [] => by
    rw [buildItems, buildItems]
    exact ⟨rfl, h⟩
  | t :: ts => by
    obtain ⟨hfirst, hsizes⟩ := givesSame_buildWith hblank h t
    obtain ⟨hrest, hsizes⟩ := givesSame_buildItems hblank hsizes ts
    rw [buildItems, buildItems]
    exact ⟨List.cons_eq_cons.mpr ⟨hfirst, hrest⟩, hsizes⟩

theorem givesSame_buildEntries (hblank : IsSteady blank) {H H' : Heap} (h : H.SameSizes H') :
    (ts : List (String × Template)) → GivesSame (buildEntries blank H ts) (buildEntries blank H' ts)
  | [] => by
    rw [buildEntries, buildEntries]
    exact ⟨rfl, h⟩
  | (name, t) :: ts => by
    obtain ⟨hfirst, hsizes⟩ := givesSame_buildWith hblank h t
    obtain ⟨hrest, hsizes⟩ := givesSame_buildEntries hblank hsizes ts
    rw [buildEntries, buildEntries]
    exact ⟨List.cons_eq_cons.mpr ⟨congrArg (name, ·) hfirst, hrest⟩, hsizes⟩

end

end Template

namespace ClassGraph
variable {G : ClassGraph} {H H' : Heap}

open Heap

theorem givesSame_blankObject (depth : Nat) (c : ClassId) (h : H.SameSizes H') :
    GivesSame (G.blankObject depth c H) (G.blankObject depth c H') := by
  induction depth generalizing c H H' with
  | zero => exact ⟨rfl, h⟩
  | succ depth ih =>
    obtain ⟨hfields, hsizes⟩ := Template.givesSame_buildEntries (fun c {_ _} => ih c) h
      ((G.ancestors c).reverse.flatMap fun a => (G.get a).defaults)
    exact ⟨congrArg (fun fields => Object.mk c (.ofList fields) (if G.hasStorage c then some .empty else none)) hfields,
      hsizes⟩

/-- What fills a new slot depends on no cell. -/
theorem givesSame_defaultValue (t : Ty) (h : H.SameSizes H') : GivesSame (G.defaultValue t H) (G.defaultValue t H') := by
  cases t with
  | list => exact ⟨congrArg Value.list (h.next_eq .list), h.alloc (k := .list) _ _⟩
  | map => exact ⟨congrArg Value.map (h.next_eq .map), h.alloc (k := .map) _ _⟩
  | array c => exact ⟨congrArg Value.array (h.next_eq .array), h.alloc (k := .array) _ _⟩
  | object c =>
    rw [defaultValue_object, defaultValue_object]
    split
    · obtain ⟨-, hsizes⟩ := G.givesSame_blankObject (G.size + 1) c h
      exact ⟨congrArg Value.object (hsizes.next_eq .object), hsizes.alloc (k := .object) _ _⟩
    · exact ⟨rfl, h⟩
  | record =>
    have hschema := h.alloc (k := .schema) (.blank "LazyDynaBean") (.blank "LazyDynaBean")
    exact ⟨congrArg Value.record (hschema.next_eq .record), hschema.alloc (k := .record) _ _⟩
  | _ => exact ⟨rfl, h⟩

end ClassGraph

end ObjectGraph
