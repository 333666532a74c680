import ObjectGraph.Proofs.Access.Tree
import ObjectGraph.Proofs.Object.Creation
import ObjectGraph.Proofs.Operation
import ObjectGraph.Proofs.Record.Schema
import ObjectGraph.Record.Operations

/-!
Reading of growing records.  A property that is declared and holds nothing is filled when it is read, if new slots of
its type are filled with something.  Reading changes nothing else that the record shows: what it holds stays, what is
declared stays so, and what has been read is read again as it was, whatever is read in between.
-/

namespace ObjectGraph

/-- Whether there is something that fills new slots of a type does not depend on what else there is. -/
theorem ClassGraph.defaultValue_eq_null_iff (G : ClassGraph) (t : Ty) (H H' : Heap) :
    (G.defaultValue t H).1 = .null ↔ (G.defaultValue t H').1 = .null := by
  cases t with
  | object c =>
    rw [defaultValue_object, defaultValue_object]
    split <;> simp
  | list | map | array | record => exact ⟨nofun, nofun⟩
  | _ => exact Iff.rfl

namespace GrowingRecord
variable {G : ClassGraph} {g : GrowingRecord} {H H' H'' : Heap} {s : State G} {name other : String} {p : Property}
  {v w : Value} {d : Dict Value}

/-- Whether a growing record stands in a heap, with its schema and its shared map if it is over one. -/
structure IsIn (g : GrowingRecord) (H : Heap) : Prop where
  cell : ∃ store, H.get g.cell = .growing g.schema store ∧ ofStore g.cell g.schema store = g
  hasCell : H.Has g.cell
  hasSchema : H.Has g.schema
  hasShared : ∀ m ∈ g.shared, H.Has m

/-- Whether a growing record stands in its cell, with its schema and its store. -/
def InCell (g : GrowingRecord) (H : Heap) : Prop :=
  ∃ store, H.get g.cell = .growing g.schema store ∧ ofStore g.cell g.schema store = g

/-- Whether new slots of the type of a property are filled with something. -/
def IsFilled (G : ClassGraph) (g : GrowingRecord) (name : String) (H : Heap) : Prop :=
  ∃ p, g.property? name H = some p ∧ (G.defaultValue p.ty H).1 ≠ .null

/-- Whether a heap is one in which properties of a record may have been filled, and nothing else that it shows has
changed. -/
structure Fills (G : ClassGraph) (g : GrowingRecord) (H H' : Heap) : Prop where
  isIn : g.IsIn H → g.IsIn H'
  property : ∀ name, g.property? name H' = g.property? name H
  held : ∀ name, g.stored name H ≠ .null → g.stored name H' = g.stored name H
  blank : ∀ name, g.stored name H = .null → ¬ g.IsFilled G name H → g.stored name H' = .null

/-- Whether a property has been read: it holds what was read, and is not to be filled. -/
structure Settled (G : ClassGraph) (g : GrowingRecord) (name : String) (v : Value) (H : Heap) : Prop where
  stored : g.stored name H = v
  blank : v = .null → ¬ g.IsFilled G name H

/-! ### Filling -/

theorem isFilled_congr (h : g.property? name H' = g.property? name H) : g.IsFilled G name H' ↔ g.IsFilled G name H := by
  rw [IsFilled, h]
  exact exists_congr fun p => and_congr_right fun _ => (G.defaultValue_eq_null_iff p.ty H' H).not

namespace Fills

theorem refl (G : ClassGraph) (g : GrowingRecord) (H : Heap) : Fills G g H H :=
  ⟨id, fun _ => rfl, fun _ _ => rfl, fun _ h _ => h⟩

theorem trans (h : Fills G g H H') (h' : Fills G g H' H'') : Fills G g H H'' where
  isIn hin := h'.isIn (h.isIn hin)
  property name := (h'.property name).trans (h.property name)
  held name hv := by
    have hsame := h.held name hv
    rw [h'.held name (hsame ▸ hv), hsame]
  blank name hv hnot := h'.blank name (h.blank name hv hnot) (mt (isFilled_congr (h.property name)).mp hnot)

/-- What is not a property is never filled. -/
theorem stored_eq_null_iff (h : Fills G g H H') (hp : g.property? name H = none) :
    g.stored name H' = .null ↔ g.stored name H = .null := by
  refine ⟨fun hnull => by_contra fun hne => hne ((h.held name hne).symm.trans hnull), fun hnull => ?_⟩
  refine h.blank name hnull ?_
  rintro ⟨p, hp', -⟩
  cases hp.symm.trans hp'

theorem settled (h : Fills G g H H') (hv : g.Settled G name v H) : g.Settled G name v H' := by
  obtain ⟨rfl, hblank⟩ := hv
  by_cases hnull : g.stored name H = .null
  · refine ⟨(h.blank name hnull (hblank hnull)).trans hnull.symm, fun _ => ?_⟩
    exact mt (isFilled_congr (h.property name)).mp (hblank hnull)
  · exact ⟨h.held name hnull, fun h => absurd h hnull⟩

end Fills

/-! ### What is stored -/

theorem values_setValues (d : Dict Value) (H : Heap) : g.values (g.setValues d H) = d := by
  unfold values setValues
  cases g.shared with
  | none => simp only [Heap.stored?, H.get_set_self (k := .record), Option.getD_some]
  | some m => exact H.get_set_self (k := .map) m d

theorem get_setValues_schema (d : Dict Value) (H : Heap) (S : Handle .schema) : (g.setValues d H).get S = H.get S := by
  unfold setValues
  cases g.shared with
  | none => exact H.get_set_of_kind_ne (k := .record) _ nofun
  | some m => exact H.get_set_of_kind_ne (k := .map) d nofun

theorem has_setValues {k : CellKind} {h : Handle k} (hh : H.Has h) : (g.setValues d H).Has h := by
  unfold setValues
  split <;> exact Heap.has_set hh

theorem InCell.setValues (hin : g.InCell H) (d : Dict Value) : g.InCell (g.setValues d H) := by
  obtain ⟨store, hcell, hstore⟩ := hin
  obtain ⟨cell, schema, _ | m⟩ := g
  · exact ⟨.own d, H.get_set_self (k := .record) _ _, rfl⟩
  · exact ⟨store, (H.get_set_of_kind_ne (k := .map) (j := cell) d nofun).trans hcell, hstore⟩

theorem stored_store : g.stored other (g.store name v H) = if other = name then v else g.stored other H := by
  rw [stored, store, values_setValues, Dict.get?_insert, stored]
  split <;> rfl

/-- Binding a property anew declares nothing and makes no other property. -/
theorem property?_store (hp : g.property? name H = some p) (other : String) (v : Value) :
    g.property? other (g.store name v H) = g.property? other H := by
  rw [property?, property?, store, get_setValues_schema, values_setValues]
  cases hdeclared : (H.get g.schema).property? other with
  | some q => rfl
  | none =>
    -- The name that is bound, if it is not declared, is one of the map already.
    have hcontains : (g.shared.isSome && ((g.values H).insert name v).contains other) =
        (g.shared.isSome && (g.values H).contains other) := by
      rw [Dict.contains, Dict.get?_insert, Dict.contains]
      split
      · rename_i hother
        subst hother
        rw [property?, hdeclared] at hp
        have hmap := (Option.ite_none_right_eq_some.mp hp).1
        rw [Dict.contains, Bool.and_eq_true] at hmap
        rw [hmap.1, hmap.2, Option.isSome_some]
      · rfl
    simp only [hcontains]

theorem isIn_ofStore {h : Handle .record} {S : Handle .schema} {store : Store} (hcell : H.get h = .growing S store)
    (hh : H.Has h) (hS : H.Has S) (hshared : ∀ m, store = .shared m → H.Has m) :
    (ofStore h S store).IsIn H ∧ (ofStore h S store).cell = h := by
  cases store with
  | own d => exact ⟨⟨⟨.own d, hcell, rfl⟩, hh, hS, nofun⟩, rfl⟩
  | shared m =>
    refine ⟨⟨⟨.shared m, hcell, rfl⟩, hh, hS, ?_⟩, rfl⟩
    rintro _ ⟨⟩
    exact hshared m rfl

namespace IsIn
variable (h : g.IsIn H)
include h

theorem values_of_onlyAdds (hadds : H.OnlyAdds H') : g.values H' = g.values H := by
  unfold values
  cases hm : g.shared with
  | none =>
    obtain ⟨store, hcell, hstore⟩ := h.cell
    cases store with
    | own d => rw [Heap.stored?, Heap.stored?, hadds.same h.hasCell, hcell]
    | shared m =>
      rw [← hstore] at hm
      cases hm
  | some m => exact hadds.same (h.hasShared m hm)

theorem stored_of_onlyAdds (hadds : H.OnlyAdds H') (name : String) : g.stored name H' = g.stored name H := by
  rw [stored, h.values_of_onlyAdds hadds, stored]

theorem of_onlyAdds (hadds : H.OnlyAdds H') : g.IsIn H' where
  cell := by
    obtain ⟨store, hcell, hstore⟩ := h.cell
    exact ⟨store, (hadds.same h.hasCell).trans hcell, hstore⟩
  hasCell := hadds.has h.hasCell
  hasSchema := hadds.has h.hasSchema
  hasShared m hm := hadds.has (h.hasShared m hm)

theorem setValues (d : Dict Value) : g.IsIn (g.setValues d H) where
  cell := InCell.setValues h.cell d
  hasCell := has_setValues h.hasCell
  hasSchema := has_setValues h.hasSchema
  hasShared m hm := has_setValues (h.hasShared m hm)

/-- New cells change nothing that a record shows. -/
theorem fills_of_onlyAdds (hadds : H.OnlyAdds H') : Fills G g H H' := by
  have hstored := h.stored_of_onlyAdds hadds
  refine ⟨fun _ => h.of_onlyAdds hadds, fun name => ?_, fun name _ => hstored name, fun name hv _ =>
    (hstored name).trans hv⟩
  rw [property?, h.values_of_onlyAdds hadds, hadds.same h.hasSchema, property?]

/-- A property may be filled. -/
theorem fills_store (hfilled : g.IsFilled G name H) (hnull : g.stored name H = .null) (v : Value) :
    Fills G g H (g.store name v H) where
  isIn _ := h.setValues _
  property other := by
    obtain ⟨p, hp, -⟩ := hfilled
    exact property?_store hp other v
  held other hv := by
    rw [stored_store, if_neg]
    rintro rfl
    exact hv hnull
  blank other hv hnot := by
    rw [stored_store, if_neg, hv]
    rintro rfl
    exact hnot hfilled

end IsIn

/-- Reading fills a property if it has to, and settles it. -/
theorem run_read (h : g.IsIn s.heap) (name : String) : ∃ v s', ExceptT.run (g.read name : Op G Value) s = (.ok v, s') ∧
    Fills G g s.heap s'.heap ∧ g.Settled G name v s'.heap := by
  cases hv : (g.stored name s.heap).isNull with
  | false =>
    refine ⟨_, s, by simp [GrowingRecord.read, hv], .refl G g s.heap, rfl, fun hnull => ?_⟩
    exact absurd hnull (Value.isNull_eq_false_iff.mp hv)
  | true =>
    have hnull := Value.isNull_iff.mp hv
    cases hp : g.property? name s.heap with
    | none =>
      refine ⟨.null, s, by simp [GrowingRecord.read, hv, hp], .refl G g s.heap, hnull, ?_⟩
      rintro - ⟨p, hp', -⟩
      rw [hp] at hp'
      cases hp'
    | some p =>
      have hadds := (G.onlyAdds_defaultValue p.ty s.heap).1
      have hfills := h.fills_of_onlyAdds (G := G) hadds
      cases hw : (G.defaultValue p.ty s.heap).1.isNull with
      | true =>
        have hblank : ¬ g.IsFilled G name s.heap := by
          rintro ⟨q, hq, hfilled⟩
          cases hp.symm.trans hq
          exact hfilled (Value.isNull_iff.mp hw)
        refine ⟨(G.defaultValue p.ty s.heap).1, { s with heap := (G.defaultValue p.ty s.heap).2 },
          by simp [GrowingRecord.read, hv, hp, hw], hfills, ?_⟩
        rw [Value.isNull_iff.mp hw]
        exact ⟨hfills.blank name hnull hblank, fun _ => mt (isFilled_congr (hfills.property name)).mp hblank⟩
      | false =>
        have hne := Value.isNull_eq_false_iff.mp hw
        have hfilled := (isFilled_congr (hfills.property name)).mpr ⟨p, hp, hne⟩
        have hstore := (h.of_onlyAdds hadds).fills_store hfilled ((h.stored_of_onlyAdds hadds name).trans hnull)
          (G.defaultValue p.ty s.heap).1
        refine ⟨(G.defaultValue p.ty s.heap).1,
          { s with heap := g.store name (G.defaultValue p.ty s.heap).1 (G.defaultValue p.ty s.heap).2 },
          by simp [GrowingRecord.read, hv, hp, hw], hfills.trans hstore, ?_, fun hnull => absurd hnull hne⟩
        rw [stored_store, if_pos rfl]

/-- What is settled is one value. -/
theorem Settled.unique (hv : g.Settled G name v H) (hw : g.Settled G name w H) : v = w := hv.stored.symm.trans hw.stored

/-- The listed names are those of properties. -/
theorem mem_names_iff : name ∈ g.names H ↔ (g.property? name H).isSome = true := by
  rw [names, List.mem_append, property?]
  cases hp : (H.get g.schema).property? name with
  | some p => simp [Schema.mem_names_iff, hp]
  | none =>
    have hdeclares := Schema.declares_eq_false_iff.mpr hp
    have hnames : name ∉ (H.get g.schema).names := by simp [Schema.mem_names_iff, hp]
    cases hshared : g.shared.isSome with
    | false => simp [hnames]
    | true =>
      have hkeys : name ∈ (g.values H).keys ↔ (g.values H).contains name = true := by
        rw [Dict.mem_keys_iff, Dict.contains, Option.isSome_iff_exists]
      simp [hnames, hdeclares, hkeys]

end GrowingRecord

end ObjectGraph
