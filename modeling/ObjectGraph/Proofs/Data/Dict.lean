import Mathlib.Data.List.Induction
import Mathlib.Data.List.Sort
import ObjectGraph.Proofs.Access.Tree

/-!
A map is known by its bindings, whatever the order in which they were made.
-/

namespace ObjectGraph.Dict
variable {α : Type} {d e : Dict α} {es es' : List (String × α)} {k : String} {a : α}

/-- Maps with the same bindings are one. -/
theorem ext_get? (h : ∀ k, d.get? k = e.get? k) : d = e := by
  have : Std.Irrefl fun a b : String × α => a.1 < b.1 := ⟨fun a => String.lt_irrefl a.1⟩
  have : Std.Antisymm fun a b : String × α => a.1 < b.1 := ⟨fun a b hab hba => absurd hba (String.lt_asymm hab)⟩
  have hmem {d : Dict α} (x : String × α) : x ∈ d.entries ↔ d.get? x.1 = some x.2 := ⟨get?_of_mem, mem_of_get?⟩
  have hentries : d.entries = e.entries :=
    List.Pairwise.eq_of_mem_iff d.ascending e.ascending fun x => by rw [hmem, hmem, h]
  cases d
  cases e
  congr

/-- A map that was filled with distinct keys binds what it was filled with. -/
theorem get?_ofList (h : (es.map Prod.fst).Nodup) : (ofList es).get? k = some a ↔ (k, a) ∈ es := by
  induction es using List.reverseRecOn with
  | nil => simp [ofList]
  | append_singleton es e ih =>
    rw [List.map_append, List.nodup_append] at h
    obtain ⟨hes, -, hnew⟩ := h
    have hlast : (ofList (es ++ [e])).get? k = if k = e.1 then some e.2 else (ofList es).get? k := by
      rw [ofList, List.foldl_append, List.foldl_cons, List.foldl_nil, get?_insert]
      rfl
    rw [hlast, List.mem_append, List.mem_singleton]
    split
    · rename_i hk
      subst hk
      have hnone : (e.1, a) ∉ es := fun hmem =>
        hnew e.1 (List.mem_map.mpr ⟨_, hmem, rfl⟩) e.1 (List.mem_singleton_self _) rfl
      rw [Option.some_inj, or_iff_right hnone, Prod.ext_iff]
      exact ⟨fun ha => ⟨rfl, ha.symm⟩, fun ha => ha.2.symm⟩
    · rename_i hk
      rw [ih hes]
      exact (or_iff_left fun heq => hk (congrArg Prod.fst heq)).symm

theorem ofList_perm (hperm : es.Perm es') (h : (es.map Prod.fst).Nodup) : ofList es = ofList es' := by
  refine ext_get? fun k => Option.ext fun a => ?_
  rw [get?_ofList h, get?_ofList ((hperm.map Prod.fst).nodup_iff.mp h), hperm.mem_iff]

end ObjectGraph.Dict
