import Mathlib.Data.List.Perm.Subperm
import Mathlib.Logic.Relation
import ObjectGraph.Proofs.Heap
import ObjectGraph.Value.Access
import ObjectGraph.Value.Content

/-!
What a value is made of: the elements of lists and arrays, the entries of maps, and what records store.  From a value
that holds no container inside itself every way down ends, and no way is longer than there are cells: each container
on it that holds anything is a cell of the heap, and no cell comes twice.  So its content is never cut off.
-/

namespace ObjectGraph.Heap
open Relation
variable {H : Heap} {u v w : Value} {n : Nat}

/-- The bindings of a map, or those that a record stores. -/
def bindings? (H : Heap) : Value → Option (Dict Value)
  | .map m => some (H.get m)
  | .record r => H.stored? r
  | _ => none

/-- Whether a value is an element or an entry of another one, or is stored by it. -/
inductive Part (H : Heap) : Value → Value → Prop
  | element {v : Value} {items : List Value} {u : Value} (h : H.items? v = some items) (hu : u ∈ items) : Part H v u
  | entry {v : Value} {d : Dict Value} {k : String} {u : Value} (h : H.bindings? v = some d)
      (hu : d.get? k = some u) : Part H v u

/-- Whether a value is another one or a part of it at any depth. -/
def Contains (H : Heap) : Value → Value → Prop := ReflTransGen H.Part

/-- Whether nothing in a value contains itself. -/
def Acyclic (H : Heap) (v : Value) : Prop := ∀ u, H.Contains v u → ¬ TransGen H.Part u u

/-- Whether each way down from a value ends after some steps at most. -/
def Settles (H : Heap) : Nat → Value → Prop
  | 0, v => ∀ u, ¬ H.Part v u
  | n + 1, v => ∀ u, H.Part v u → H.Settles n u

theorem Settles.part (h : H.Settles n v) (hu : H.Part v u) : ∃ m, n = m + 1 ∧ H.Settles m u := by
  cases n with
  | zero => exact absurd hu (h u)
  | succ m => exact ⟨m, rfl, h u hu⟩

/-! ### Ways down -/

/-- The handles of the cells that may hold values. -/
def cells (H : Heap) : List Value :=
  (List.range H.lists.size).map (fun i => .list ⟨i⟩) ++ (List.range H.arrays.size).map (fun i => .array ⟨i⟩) ++
    (List.range H.maps.size).map (fun i => .map ⟨i⟩) ++ (List.range H.objects.size).map (fun i => .object ⟨i⟩) ++
    (List.range H.records.size).map fun i => .record ⟨i⟩

theorem length_cells (H : Heap) : H.cells.length = H.size := by
  simp only [cells, size, List.length_append, List.length_map, List.length_range]

/-- A container that holds anything is a cell. -/
theorem mem_cells_of_part (h : H.Part v u) : v ∈ H.cells := by
  simp only [cells, List.mem_append, List.mem_map, List.mem_range]
  cases h with
  | element hitems hu =>
    cases v with
    | list l =>
      refine .inl (.inl (.inl (.inl ⟨l.index, Decidable.byContradiction fun hnot => ?_, rfl⟩)))
      rw [items?, get_of_not_has hnot] at hitems
      cases hitems
      cases hu
    | array a =>
      refine .inl (.inl (.inl (.inr ⟨a.index, Decidable.byContradiction fun hnot => ?_, rfl⟩)))
      rw [items?, get_of_not_has hnot] at hitems
      cases hitems
      cases hu
    | _ => cases hitems
  | entry hbindings hu =>
    cases v with
    | map m =>
      refine .inl (.inl (.inr ⟨m.index, Decidable.byContradiction fun hnot => ?_, rfl⟩))
      rw [bindings?, get_of_not_has hnot] at hbindings
      cases hbindings
      cases hu
    | record r =>
      refine .inr ⟨r.index, Decidable.byContradiction fun hnot => ?_, rfl⟩
      rw [bindings?, stored?, get_of_not_has hnot] at hbindings
      cases hbindings
      cases hu
    | _ => cases hbindings

/-- A way down without repetitions that is as long as there are cells cannot go on. -/
theorem settles_of_way {way : List Value} (hnodup : way.Nodup) (hcells : way ⊆ H.cells)
    (habove : ∀ c ∈ way, TransGen H.Part c v) (hv : H.Acyclic v) (hlength : way.length + n = H.size) :
    H.Settles n v := by
  -- The induction is on the cells that are left; each step puts the container that it leaves on the way.
  induction n generalizing way v with
  | zero =>
    intro u hu
    have hself : v ∉ way := fun hmem => hv v .refl (habove v hmem)
    have hmore := (List.nodup_cons.mpr ⟨hself, hnodup⟩).subperm (List.cons_subset.mpr ⟨mem_cells_of_part hu, hcells⟩)
    have hlonger := hmore.length_le
    rw [List.length_cons, length_cells] at hlonger
    omega
  | succ n ih =>
    intro u hu
    have hself : v ∉ way := fun hmem => hv v .refl (habove v hmem)
    refine ih (List.nodup_cons.mpr ⟨hself, hnodup⟩)
      (List.cons_subset.mpr ⟨mem_cells_of_part hu, hcells⟩) ?_ (fun w hw => hv w (.head hu hw)) ?_
    · intro c hc
      rcases List.mem_cons.mp hc with rfl | hc
      · exact .single hu
      · exact (habove c hc).tail hu
    · rw [List.length_cons]
      omega

theorem Acyclic.settles (h : H.Acyclic v) : H.Settles H.size v :=
  settles_of_way List.nodup_nil (List.nil_subset _) (by simp) h (by simp)

/-- Where each way down ends nothing contains itself: a way around could be gone again and again. -/
theorem Settles.acyclic (h : H.Settles n v) : H.Acyclic v := by
  have hless {m : Nat} {u w : Value} (hm : H.Settles m u) (hw : TransGen H.Part u w) : ∃ l < m, H.Settles l w := by
    induction hw with
    | single hpart =>
      obtain ⟨l, rfl, hl⟩ := hm.part hpart
      exact ⟨l, Nat.lt_succ_self l, hl⟩
    | tail _ hpart ih =>
      obtain ⟨l, hlt, hl⟩ := ih
      obtain ⟨k, rfl, hk⟩ := hl.part hpart
      exact ⟨k, by omega, hk⟩
  have hnever (m : Nat) : ∀ u, H.Settles m u → ¬ TransGen H.Part u u := by
    induction m using Nat.strongRecOn with
    | _ m ih =>
      intro u hm hround
      obtain ⟨l, hlt, hl⟩ := hless hm hround
      exact ih l hlt u hl hround
  intro u hu
  rcases reflTransGen_iff_eq_or_transGen.mp hu with rfl | hbelow
  · exact hnever n _ h
  · obtain ⟨l, -, hl⟩ := hless h hbelow
    exact hnever l u hl

end ObjectGraph.Heap
