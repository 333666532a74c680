import ObjectGraph.Proofs.Access.Asking
import ObjectGraph.Proofs.Fence.Heap
import ObjectGraph.Proofs.Record.Filling

/-!
How growing records come by containers.  A property that is to be subscripted is declared if it is not, filled if it
holds nothing, and given an empty list or map if nothing fills it; a list is then lengthened where it is, and an array
replaced by a longer copy.  Each case has an equation that says what it does to the heap, and whatever comes of it, all
cells but those that the record is kept in are left as they are, and of what it stores only the one property is bound
anew.
-/

namespace ObjectGraph

open Op

/-- What a new slot is filled with is made anew. -/
theorem ClassGraph.not_has_defaultValue (G : ClassGraph) (t : Ty) (H : Heap) :
    (∀ l, (G.defaultValue t H).1 = .list l → ¬ H.Has l) ∧ ∀ a, (G.defaultValue t H).1 = .array a → ¬ H.Has a := by
  cases t with
  | list =>
    refine ⟨fun l hl => ?_, nofun⟩
    cases hl
    exact H.not_has_next .list
  | array c =>
    refine ⟨nofun, fun a ha => ?_⟩
    cases ha
    exact H.not_has_next .array
  | primitive p => cases p <;> exact ⟨nofun, nofun⟩
  | object c =>
    rw [defaultValue_object]
    split <;> exact ⟨nofun, nofun⟩
  | _ => exact ⟨nofun, nofun⟩

namespace GrowingRecord
variable {G : ClassGraph} {g : GrowingRecord} {H H' H'' : Heap} {s : State G} {name other : String} {p : Property}
  {v w : Value} {blank : Heap → Value × Heap} {k : CellKind} {h : Handle k}

/-- Whether a cell is one that a growing record is kept in: its own, that of its schema or its shared map. -/
def Owns (g : GrowingRecord) : (k : CellKind) → Handle k → Prop
  | .record, h => h = g.cell
  | .schema, h => h = g.schema
  | .map, h => g.shared = some h
  | _, _ => False

/-- Whether a heap is one in which a property of a growing record may have been declared or bound to something else,
with all other cells as they were and perhaps more. -/
structure Installs (g : GrowingRecord) (name : String) (H H' : Heap) : Prop where
  isIn : g.IsIn H'
  has : ∀ {k : CellKind} {h : Handle k}, H.Has h → H'.Has h
  same : ∀ {k : CellKind} {h : Handle k}, H.Has h → ¬ g.Owns k h → H'.get h = H.get h
  schema : H'.get g.schema = H.get g.schema ∨
    g.property? name H = none ∧ ∃ t, (H.get g.schema).add ⟨name, t, none⟩ = .ok (H'.get g.schema)
  others : ∀ {other}, other ≠ name → (g.values H').get? other = (g.values H).get? other

/-! ### Stores -/

theorem holds_store (hp : g.property? name H = some p) (hv : v ≠ .null) : g.Holds (g.store name v H) name p v :=
  ⟨(property?_store hp name v).trans hp, by rw [stored_store, if_pos rfl], hv⟩

theorem get_setValues_of_not_owns (d : Dict Value) (H : Heap) (hh : ¬ g.Owns k h) :
    (g.setValues d H).get h = H.get h := by
  unfold setValues
  cases hm : g.shared with
  | none =>
    by_cases hk : k = .record
    · subst hk
      exact H.get_set_of_ne (k := .record) _ hh
    · exact H.get_set_of_kind_ne (k := .record) _ hk
  | some m =>
    by_cases hk : k = .map
    · subst hk
      refine H.get_set_of_ne (k := .map) _ ?_
      rintro rfl
      exact hh hm
    · exact H.get_set_of_kind_ne (k := .map) _ hk

theorem get_store_of_not_owns (hh : ¬ g.Owns k h) : (g.store name v H).get h = H.get h :=
  get_setValues_of_not_owns _ _ hh

theorem values_setSchema (S : Handle .schema) (T : Schema) (H : Heap) : g.values (H.set S T) = g.values H := by
  unfold values
  cases g.shared with
  | none =>
    have hcell := H.get_set_of_kind_ne (k := .schema) (h := S) (j := g.cell) T nofun
    have hmap (m : Handle .map) : (H.set S T).get m = H.get m := H.get_set_of_kind_ne (k := .schema) T nofun
    simp only [Heap.stored?, hcell, hmap]
  | some m => exact H.get_set_of_kind_ne (k := .schema) T nofun

theorem InCell.setSchema (hin : g.InCell H) (T : Schema) : g.InCell (H.set g.schema T) := by
  obtain ⟨store, hcell, hstore⟩ := hin
  exact ⟨store, (H.get_set_of_kind_ne (k := .schema) (j := g.cell) T nofun).trans hcell, hstore⟩

theorem IsIn.setSchema (hin : g.IsIn H) (T : Schema) : g.IsIn (H.set g.schema T) where
  cell := InCell.setSchema hin.cell T
  hasCell := Heap.has_set hin.hasCell
  hasSchema := Heap.has_set hin.hasSchema
  hasShared m hm := Heap.has_set (hin.hasShared m hm)

section
variable {c : Cell k} (hput : H.Puts h c H') (hrecord : k ≠ .record) (hmap : k ≠ .map) (hschema : k ≠ .schema)
include hput hrecord

theorem IsIn.of_puts (hin : g.IsIn H) : g.IsIn H' where
  cell := by
    obtain ⟨store, hcell, hstore⟩ := hin.cell
    exact ⟨store, (hput.kind (j := g.cell) hrecord.symm).trans hcell, hstore⟩
  hasCell := hput.has hin.hasCell
  hasSchema := hput.has hin.hasSchema
  hasShared m hm := hput.has (hin.hasShared m hm)

include hmap

/-- A cell of another kind makes no difference to what a record stores. -/
theorem values_of_puts : g.values H' = g.values H := by
  unfold values
  cases g.shared with
  | none =>
    have hcell := hput.kind (j := g.cell) hrecord.symm
    have hmaps (m : Handle .map) : H'.get m = H.get m := hput.kind hmap.symm
    simp only [Heap.stored?, hcell, hmaps]
  | some m => exact hput.kind hmap.symm

include hschema

theorem Holds.of_puts (hholds : g.Holds H name p v) : g.Holds H' name p v where
  property := by
    rw [property?, values_of_puts hput hrecord hmap, hput.kind (j := g.schema) hschema.symm]
    exact hholds.property
  stored := by
    rw [GrowingRecord.stored, values_of_puts hput hrecord hmap]
    exact hholds.stored
  ne_null := hholds.ne_null

end

namespace Installs

theorem refl (hin : g.IsIn H) : g.Installs name H H := ⟨hin, id, fun _ _ => rfl, .inl rfl, fun _ => rfl⟩

theorem store (hi : g.Installs name H H') (v : Value) : g.Installs name H (g.store name v H') where
  isIn := hi.isIn.setValues _
  has hh := has_setValues (hi.has hh)
  same hh hown := (get_store_of_not_owns hown).trans (hi.same hh hown)
  schema := by
    rw [GrowingRecord.store, get_setValues_schema]
    exact hi.schema
  others hne := by rw [GrowingRecord.store, values_setValues, Dict.get?_insert, if_neg hne, hi.others hne]

theorem keepsTypes (hi : g.Installs name H H') : H.KeepsTypes H' where
  has := hi.has
  component hh := congrArg TypedArray.component (hi.same hh id)
  cls hh := congrArg Object.cls (hi.same hh id)

theorem onlyAdds (hi : g.Installs name H H') (hadds : H'.OnlyAdds H'') : g.Installs name H H'' where
  isIn := hi.isIn.of_onlyAdds hadds
  has hh := hadds.has (hi.has hh)
  same hh hown := (hadds.same (hi.has hh)).trans (hi.same hh hown)
  schema := by
    rw [hadds.same hi.isIn.hasSchema]
    exact hi.schema
  others hne := by rw [hi.isIn.values_of_onlyAdds hadds, hi.others hne]

theorem add (hi : g.Installs name H H') (hnone : g.property? name H = none)
    {t : Ty} {S : Schema} (hadd : (H.get g.schema).add ⟨name, t, none⟩ = .ok S) :
    g.Installs name H (H'.set g.schema S) where
  isIn := hi.isIn.setSchema S
  has hh := Heap.has_set (hi.has hh)
  same {k h} hh hown := by
    refine Eq.trans ?_ (hi.same hh hown)
    by_cases hk : k = .schema
    · subst hk
      exact H'.get_set_of_ne (k := .schema) S hown
    · exact H'.get_set_of_kind_ne (k := .schema) S hk
  schema := .inr ⟨hnone, t, by rw [H'.get_set_self (k := .schema), hadd]⟩
  others hne := by rw [values_setSchema, hi.others hne]

end Installs

/-! ### Containers that are made -/

theorem Makes.ne_null (hb : Makes blank) (H : Heap) : (blank H).1 ≠ .null := by
  intro hnull
  have := hb.container H
  rw [hnull] at this
  cases this

/-- A property that is filled is read as what fills it. -/
theorem run_read_of_filled (hp : g.property? name s.heap = some p) (hnull : g.stored name s.heap = .null)
    (hw : (G.defaultValue p.ty s.heap).1 ≠ .null) : ExceptT.run (g.read name : Op G Value) s =
      (.ok (G.defaultValue p.ty s.heap).1,
        { s with heap := g.store name (G.defaultValue p.ty s.heap).1 (G.defaultValue p.ty s.heap).2 }) := by
  have hw := Value.isNull_eq_false_iff.mpr hw
  simp only [GrowingRecord.read, run_change, hnull, Value.isNull_iff.mpr rfl, if_true, hp, hw, Bool.false_eq_true, if_false]

theorem run_read_of_null (hp : g.property? name s.heap = some p) (hnull : g.stored name s.heap = .null)
    (hw : (G.defaultValue p.ty s.heap).1 = .null) :
    ExceptT.run (g.read name : Op G Value) s = (.ok .null, s) := by
  simp [GrowingRecord.read, hp, hnull, Value.isNull, hw, ClassGraph.heap_defaultValue hw]

section
variable (hp : g.property? name s.heap = some p) (hnull : g.stored name s.heap = .null)
include hp hnull

theorem run_container_of_filled (blank : Heap → Value × Heap) (hin : g.IsIn s.heap) (hw : (G.defaultValue p.ty s.heap).1 ≠ .null) :
    ExceptT.run (g.container name blank : Op G (Property × Value)) s =
      (.ok (p, (G.defaultValue p.ty s.heap).1),
        { s with heap := g.store name (G.defaultValue p.ty s.heap).1 (G.defaultValue p.ty s.heap).2 }) := by
  have hadds := (G.onlyAdds_defaultValue p.ty s.heap).1
  have hp' := ((hin.fills_of_onlyAdds (G := G) hadds).property name).trans hp
  rw [container, run_bind_of_ok (Op.run_read s _), hp]
  simp only [Option.isNone_some, Bool.false_eq_true, if_false]
  rw [run_bind_of_ok (run_read_of_filled hp hnull hw)]
  simp only [Value.isNull_eq_false_iff.mpr hw, Bool.false_eq_true, if_false]
  rw [run_bind_of_ok (Op.run_read _ _), property?_store hp', hp']
  rfl

/-- A property that is not filled gets a new container, if it takes one. -/
theorem run_container_of_blank (hin : g.IsIn s.heap) (hw : (G.defaultValue p.ty s.heap).1 = .null)
    (hb : Makes blank) (hcoerce : (blank s.heap).2.coerce G p.ty name (blank s.heap).1 = .ok (blank s.heap).1) :
    ExceptT.run (g.container name blank : Op G (Property × Value)) s =
      (.ok (p, (blank s.heap).1), { s with heap := g.store name (blank s.heap).1 (blank s.heap).2 }) := by
  let s₁ : State G := { s with heap := (blank s.heap).2 }
  have hp₁ : g.property? name s₁.heap = some p := ((hin.fills_of_onlyAdds (G := G) (hb.adds s.heap)).property name).trans hp
  rw [container, run_bind_of_ok (Op.run_read s _), hp]
  simp only [Option.isNone_some, Bool.false_eq_true, if_false]
  rw [run_bind_of_ok (run_read_of_null hp hnull hw)]
  simp only [Value.isNull, if_true]
  rw [run_bind_of_ok (run_change s blank)]
  have hwrite := run_write_of_property (s := s₁) (G := G) hp₁ (blank s.heap).1
  rw [hcoerce] at hwrite
  rw [run_bind_of_ok hwrite, run_bind_of_ok (Op.run_read _ _), property?_store hp₁, hp₁]
  rfl

theorem run_container_of_refused (hin : g.IsIn s.heap) (hw : (G.defaultValue p.ty s.heap).1 = .null)
    (hb : Makes blank) {e : Error} (hcoerce : (blank s.heap).2.coerce G p.ty name (blank s.heap).1 = .error e) :
    ExceptT.run (g.container name blank : Op G (Property × Value)) s = (.error e, { s with heap := (blank s.heap).2 }) := by
  let s₁ : State G := { s with heap := (blank s.heap).2 }
  have hp₁ : g.property? name s₁.heap = some p := ((hin.fills_of_onlyAdds (G := G) (hb.adds s.heap)).property name).trans hp
  rw [container, run_bind_of_ok (Op.run_read s _), hp]
  simp only [Option.isNone_some, Bool.false_eq_true, if_false]
  rw [run_bind_of_ok (run_read_of_null hp hnull hw)]
  simp only [Value.isNull, if_true]
  rw [run_bind_of_ok (run_change s blank)]
  have hwrite := run_write_of_property (s := s₁) (G := G) hp₁ (blank s.heap).1
  rw [hcoerce] at hwrite
  rw [run_bind_of_error hwrite]

end

/-- A name that is not declared is declared with the type of the value, and then written as any declared one. -/
theorem run_write_of_free (hp : g.property? name s.heap = none) (hfree : (s.heap.get g.schema).isRestricted = false)
    {t : State G}
    (ht : t = { s with heap := s.heap.set g.schema ((s.heap.get g.schema).put ⟨name, s.heap.typeOf v, none⟩) }) :
    g.property? name t.heap = some ⟨name, s.heap.typeOf v, none⟩ ∧
      ExceptT.run (g.write name v : Op G Unit) s = ExceptT.run (g.write name v : Op G Unit) t := by
  have hdeclare : ExceptT.run (g.declare ⟨name, s.heap.typeOf v, none⟩ : Op G Unit) s = (.ok (), t) := by
    rw [declare, run_tryWrite, Schema.add_of_free hfree, ht]
    rfl
  have hp' : g.property? name t.heap = some ⟨name, s.heap.typeOf v, none⟩ := by
    rw [property?, ht, s.heap.get_set_self (k := .schema), Schema.property?_put, if_pos rfl]
  refine ⟨hp', ?_⟩
  rw [GrowingRecord.write, run_bind_of_ok (Op.run_read s _), run_bind_of_ok (Op.run_read t _), hp, hp']
  dsimp only
  rw [run_bind_of_ok (Op.run_read s _), run_bind_of_ok hdeclare]

/-- A name that is not declared is declared when it gets a container, with the type of the container. -/
theorem run_container_of_undeclared (hin : g.IsIn s.heap) (hb : Makes blank) (hp : g.property? name s.heap = none)
    (hfree : (s.heap.get g.schema).isRestricted = false) {t : Ty} (ht : (blank s.heap).2.typeOf (blank s.heap).1 = t)
    (hcoerce : ∀ H : Heap, H.coerce G t name (blank s.heap).1 = .ok (blank s.heap).1)
    (hH : H = (blank s.heap).2.set g.schema ((s.heap.get g.schema).put ⟨name, t, none⟩)) :
    ExceptT.run (g.container name blank : Op G (Property × Value)) s =
      (.ok (⟨name, t, none⟩, (blank s.heap).1), { s with heap := g.store name (blank s.heap).1 H }) := by
  have hadds := hb.adds s.heap
  let s₁ : State G := { s with heap := (blank s.heap).2 }
  have hp₁ : g.property? name s₁.heap = none := ((hin.fills_of_onlyAdds (G := G) hadds).property name).trans hp
  have hschema : s₁.heap.get g.schema = s.heap.get g.schema := hadds.same hin.hasSchema
  obtain ⟨hp₂, hwrite⟩ := run_write_of_free (t := { s with heap := H }) hp₁ (hschema.symm ▸ hfree)
    (v := (blank s.heap).1) (by rw [hH, hschema, ht])
  rw [ht] at hp₂
  rw [run_write_of_property hp₂, hcoerce] at hwrite
  have hholds := holds_store hp₂ (hb.ne_null s.heap)
  rw [container, run_bind_of_ok (Op.run_read s _), hp]
  simp only [Option.isNone_none, if_true]
  rw [run_bind_of_ok (run_change s blank), run_bind_of_ok hwrite,
    run_bind_of_ok (hholds.run_read (s := { s with heap := g.store name (blank s.heap).1 H }))]
  simp only [Value.isNull_eq_false_iff.mpr hholds.ne_null, Bool.false_eq_true, if_false]
  rw [run_bind_of_ok (Op.run_read _ _), hholds.property]
  rfl

/-! ### Containers that are opened -/

/-- Whether what is made is always a new container of a type, which slots of that type take. -/
structure MakesOf (t : Ty) (blank : Heap → Value × Heap) : Prop extends Makes blank where
  ty : ∀ H : Heap, (blank H).2.typeOf (blank H).1 = t
  taken : ∀ (G : ClassGraph) (H H' : Heap) (name : String), H'.coerce G t name (blank H).1 = .ok (blank H).1
  list : ∀ (H : Heap) (l : Handle .list), (blank H).1 = .list l → ¬ H.Has l
  array : ∀ (H : Heap) (a : Handle .array), (blank H).1 = .array a → ¬ H.Has a
  same : ∀ (H : Heap) {k : CellKind} (h : Handle k), (blank H).2.get h = H.get h

theorem makesOf_list : MakesOf .list fun H => H.newList [] where
  toMakes := makes_list
  ty _ := rfl
  taken _ _ _ _ := rfl
  list H l hl := by
    cases hl
    exact H.not_has_next .list
  array _ _ := nofun
  same H := H.get_alloc_default .list

theorem makesOf_map : MakesOf .map fun H => H.newMap .empty where
  toMakes := makes_map
  ty _ := rfl
  taken _ _ _ _ := rfl
  list _ _ := nofun
  array _ _ := nofun
  same H := H.get_alloc_default .map

/-- Whether a container was there before, or is a new one. -/
inductive Opens (g : GrowingRecord) (name : String) (H H' : Heap) (p : Property) (c : Value) : Prop
  | held (h : g.Holds H name p c) (hsame : H' = H)
  | made (h : ∀ q u, ¬ g.Holds H name q u) (hlist : ∀ l, c = .list l → ¬ H.Has l) (harray : ∀ a, c = .array a → ¬ H.Has a)

/-- What there was before is opened as it is. -/
theorem Opens.eq_of_holds {c : Value} {q : Property} (hopens : Opens g name H H' p c) (hq : g.Holds H name q v) :
    v = c ∧ H' = H := by
  cases hopens with
  | held h hsame => exact ⟨hq.stored.symm.trans h.stored, hsame⟩
  | made hnone _ _ => exact absurd hq (hnone q v)

theorem not_holds_of_null (hnull : g.stored name H = .null) (q : Property) (u : Value) : ¬ g.Holds H name q u :=
  fun h => h.ne_null (h.stored.symm.trans hnull)

theorem not_holds_of_undeclared (hp : g.property? name H = none) (q : Property) (u : Value) : ¬ g.Holds H name q u :=
  fun h => by cases h.property.symm.trans hp

/-- Whatever comes of it, a container is only installed, and the one that is answered is what the property holds. -/
theorem run_container {t : Ty} (hin : g.IsIn s.heap) (hb : MakesOf t blank) (name : String) : ∃ res s',
    ExceptT.run (g.container name blank : Op G (Property × Value)) s = (res, s') ∧ g.Installs name s.heap s'.heap ∧
      ∀ p c, res = .ok (p, c) → g.Holds s'.heap name p c ∧ Opens g name s.heap s'.heap p c := by
  have hadds := hb.adds s.heap
  cases hp : g.property? name s.heap with
  | none =>
    have hnone := not_holds_of_undeclared hp
    cases hr : (s.heap.get g.schema).isRestricted with
    | true =>
      obtain ⟨e, s', hrun, hadds'⟩ := run_container_of_closed (G := G) blank hadds (hb.same s.heap) hp hr
      refine ⟨.error e, s', hrun, (Installs.refl hin).onlyAdds hadds', ?_⟩
      rintro _ _ ⟨⟩
    | false =>
      have hinstalled := ((Installs.refl hin).onlyAdds hadds).add hp (t := t) (Schema.add_of_free hr _)
      refine ⟨_, _, run_container_of_undeclared hin hb.toMakes hp hr (hb.ty _) (fun H => hb.taken G _ H name) rfl,
        hinstalled.store _, ?_⟩
      rintro _ _ ⟨⟩
      refine ⟨holds_store ?_ (hb.ne_null _), .made hnone (hb.list _) (hb.array _)⟩
      rw [property?, Heap.get_set_self, Schema.property?_put, if_pos rfl]
  | some p =>
    by_cases hnull : g.stored name s.heap = .null
    · have hnone := not_holds_of_null hnull
      by_cases hw : (G.defaultValue p.ty s.heap).1 = .null
      · have hp' := ((hin.fills_of_onlyAdds (G := G) hadds).property name).trans hp
        cases hcoerce : (blank s.heap).2.coerce G p.ty name (blank s.heap).1 with
        | error e =>
          refine ⟨_, _, run_container_of_refused hp hnull hin hw hb.toMakes hcoerce, (Installs.refl hin).onlyAdds hadds, ?_⟩
          rintro _ _ ⟨⟩
        | ok u =>
          have hu := Heap.eq_of_coerce_of_not_isScalar hcoerce (hb.container _)
          rw [hu] at hcoerce
          refine ⟨_, _, run_container_of_blank hp hnull hin hw hb.toMakes hcoerce,
            ((Installs.refl hin).onlyAdds hadds).store _, ?_⟩
          rintro _ _ ⟨⟩
          exact ⟨holds_store hp' (hb.ne_null _), .made hnone (hb.list _) (hb.array _)⟩
      · have hadds := (G.onlyAdds_defaultValue p.ty s.heap).1
        have hp' := ((hin.fills_of_onlyAdds (G := G) hadds).property name).trans hp
        obtain ⟨hlist, harray⟩ := G.not_has_defaultValue p.ty s.heap
        refine ⟨_, _, run_container_of_filled hp hnull blank hin hw, ((Installs.refl hin).onlyAdds hadds).store _, ?_⟩
        rintro _ _ ⟨⟩
        exact ⟨holds_store hp' hw, .made hnone hlist harray⟩
    · have hholds : g.Holds s.heap name p (g.stored name s.heap) := ⟨hp, rfl, hnull⟩
      refine ⟨_, _, hholds.run_container blank, .refl hin, ?_⟩
      rintro _ _ ⟨⟩
      exact ⟨hholds, .held hholds rfl⟩

/-! ### Collections that are lengthened -/

namespace Holds
variable {l : Handle .list} {a : Handle .array} {A : TypedArray} {i : Nat}

theorem run_lengthened_of_container {c : Value} {s₁ : State G}
    (hrun : ExceptT.run (g.container name fun H => H.newList [] : Op G (Property × Value)) s = (.ok (p, c), s₁))
    (hopened : g.Holds s₁.heap name p c) (i : Nat) :
    ExceptT.run (g.lengthened name i : Op G (Property × Value)) s = ExceptT.run (g.lengthened name i) s₁ := by
  rw [lengthened, run_bind_of_ok hrun, run_bind_of_ok (hopened.run_container _)]

theorem run_keyed_of_container {c : Value} {s₁ : State G}
    (hrun : ExceptT.run (g.container name fun H => H.newMap .empty : Op G (Property × Value)) s = (.ok (p, c), s₁))
    (hopened : g.Holds s₁.heap name p c) :
    ExceptT.run (g.keyed name : Op G (Property × Value)) s = ExceptT.run (g.keyed name) s₁ := by
  rw [keyed, run_bind_of_ok hrun, run_bind_of_ok (hopened.run_container _)]

/-- A list is lengthened where it is. -/
theorem run_lengthened_list (h : g.Holds s.heap name p (.list l)) (i : Nat) : ∃ H,
    ExceptT.run (g.lengthened name i : Op G (Property × Value)) s = (.ok (p, .list l), { s with heap := H }) ∧
      s.heap.Puts (k := .list) l (s.heap.get l ++ List.replicate (i + 1 - (s.heap.get l).length) .null) H := by
  obtain ⟨H, hH⟩ : ∃ H, H = if (s.heap.get l).length ≤ i then
      s.heap.set l (s.heap.get l ++ List.replicate (i + 1 - (s.heap.get l).length) .null) else s.heap := ⟨_, rfl⟩
  refine ⟨H, ?_, ?_⟩
  · rw [lengthened, run_bind_of_ok (h.run_container _), hH]
    rfl
  · subst hH
    split
    · exact Heap.puts_set _ _ _
    · have hlong : i + 1 - (s.heap.get l).length = 0 := by omega
      rw [hlong, List.replicate_zero, List.append_nil]
      exact ⟨rfl, fun _ => rfl, fun _ => rfl, id⟩

/-- An array that is too short is replaced by a longer copy. -/
theorem run_lengthened_array (h : g.Holds s.heap name p (.array a)) (hi : (s.heap.get a).items.length ≤ i)
    (hA : (s.heap.get a).grown G (i + 1) s.heap = (A, H)) :
    ExceptT.run (g.lengthened name i : Op G (Property × Value)) s =
      (.ok (p, .array (H.next .array)),
        { s with heap := g.store name (.array (H.next .array)) (H.alloc .array A).2 }) := by
  rw [lengthened, run_bind_of_ok (h.run_container _)]
  dsimp only
  rw [run_bind_of_ok (Op.run_read s _), if_neg (Nat.not_lt.mpr hi), run_bind_of_ok (run_change s _)]
  simp only [hA]
  rfl

end Holds

end GrowingRecord

end ObjectGraph
