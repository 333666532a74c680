import ObjectGraph.Proofs.Record.Readying

/-!
What reading makes in a growing record.  A read that answers more than null has either found what it answers, and then
has changed nothing, or it has made it: a property that held nothing has been filled, or an array has been replaced by
a longer one with new slots.  What has been made is vacant, and it is found from then on.
-/

namespace ObjectGraph

open Op

/-- Whether nothing is in a value: it is a scalar or null, a list, an array or a map without elements, an object
without entries, or a growing record without properties. -/
def Heap.Vacant (H : Heap) : Value → Prop
  | .list l => H.get l = []
  | .array a => (H.get a).items = []
  | .map m => H.get m = .empty
  | .object o => ∀ d, (H.get o).storage = some d → d = .empty
  | .record h => H.Has h ∧ ∃ S name, H.get h = .growing S (.own .empty) ∧ H.Has S ∧ H.get S = .blank name
  | _ => True

/-- Whether a container yields a value for a subscript, as it is; without a subscript it yields itself. -/
inductive Heap.Yields (H : Heap) (c : Value) : Subscript → Value → Prop
  | itself : Yields H c .none c
  | element {i : Nat} {items : List Value} {u : Value} (hc : H.items? c = some items) (hi : items[i]? = some u) :
      Yields H c (.index i) u
  | entry {key : String} {d : Dict Value} {u : Value} (hc : H.entries? c = some d) (hk : d.get? key = some u) :
      Yields H c (.key key) u

namespace Heap.Yields
variable {H : Heap} {c u : Value} {name key : String} {i : Nat}

theorem of_element (h : H.element name i c = .ok u) : H.Yields c (.index i) u := by
  unfold Heap.element at h
  split at h
  · cases h
  · rename_i items hitems
    split at h
    · rename_i hi
      cases h
      exact .element hitems hi
    · cases h

theorem of_entry (h : H.entry name key c = .ok u) (hu : u ≠ .null) : H.Yields c (.key key) u := by
  obtain ⟨d, hd, hentry⟩ := bind_eq_ok.mp h
  unfold Heap.entries at hd
  split at hd
  · rename_i hentries
    cases hd
    cases hk : d.get? key with
    | some w =>
      rw [hk] at hentry
      cases hentry
      exact .entry hentries hk
    | none =>
      rw [hk] at hentry
      cases hentry
      exact absurd rfl hu
  · cases hd

/-- A vacant value yields nothing for an index or a key. -/
theorem of_vacant {sub : Subscript} (h : H.Vacant c) (hu : H.Yields c sub u) : sub = .none := by
  cases hu with
  | itself => rfl
  | element hc hi =>
    cases c with
    | list l =>
      cases hc
      rw [show H.get l = [] from h] at hi
      cases hi
    | array a =>
      cases hc
      rw [show (H.get a).items = [] from h] at hi
      cases hi
    | _ => cases hc
  | entry hc hk =>
    cases c with
    | map m =>
      cases hc
      rw [show H.get m = .empty from h] at hk
      cases hk
    | object o =>
      rw [h _ hc] at hk
      cases hk
    | _ => cases hc

end Heap.Yields

namespace GrowingRecord
variable {G : ClassGraph} {g : GrowingRecord} {H H' : Heap} {s s₀ s₁ : State G} {name key : String} {i : Nat}
  {sub : Subscript} {p : Property} {t : Ty} {c u : Value} {blank : Heap → Value × Heap}

/-! ### What is made -/

/-- What fills a slot of arrays is an array without elements, of the component that the type names. -/
theorem MadeFor.array {t : Ty} (h : MadeFor G H H' (.array t) u) : ∃ a, u = .array a ∧ H'.get a = ⟨t, []⟩ := by
  obtain ⟨K, -, rfl, hkept⟩ := h
  exact ⟨_, rfl, (hkept (K.not_has_next .array) (Heap.has_alloc (k := .array) ⟨t, []⟩)).2.trans
    (K.get_alloc_self (k := .array) ⟨t, []⟩)⟩

theorem MadeFor.vacant_object {cls : ClassId} (h : MadeFor G H H' (.object cls) u) : H'.Vacant u := by
  obtain ⟨K, -, rfl, hkept⟩ := h
  rw [ClassGraph.defaultValue_object] at hkept ⊢
  split
  · rename_i hmake
    rw [if_pos hmake] at hkept
    have hnew : ¬ K.Has (G.newObject cls K).1 := fun hx =>
      (G.defaultObject cls K).2.not_has_next .object ((G.onlyAdds_blankObject (G.size + 1) cls K).has hx)
    obtain ⟨-, hcell⟩ := hkept hnew (G.has_newObject cls K)
    intro d hd
    rw [hcell] at hd
    exact G.storage_newObject hd
  · trivial

/-- What fills a slot of any type is vacant. -/
theorem MadeFor.vacant (h : MadeFor G H H' t u) : H'.Vacant u := by
  have hmade := h
  obtain ⟨K, -, rfl, hkept⟩ := h
  cases t with
  | primitive p => cases p <;> trivial
  | list =>
    exact (hkept (K.not_has_next .list) (Heap.has_alloc (k := .list) [])).2.trans (K.get_alloc_self (k := .list) [])
  | map =>
    exact (hkept (K.not_has_next .map) (Heap.has_alloc (k := .map) .empty)).2.trans
      (K.get_alloc_self (k := .map) .empty)
  | array t =>
    obtain ⟨a, ha, hcell⟩ := hmade.array
    rw [ha]
    exact congrArg TypedArray.items hcell
  | object c => exact hmade.vacant_object
  | record =>
    have hadds := K.onlyAdds_alloc (k := .schema) (.blank "LazyDynaBean")
    have hlater := (K.alloc .schema (.blank "LazyDynaBean")).2.onlyAdds_alloc (k := .record)
      (.growing (K.next .schema) (.own .empty))
    have hnew : ¬ K.Has ((K.alloc .schema (.blank "LazyDynaBean")).2.next .record) := fun hx =>
      (K.alloc .schema (.blank "LazyDynaBean")).2.not_has_next .record (hadds.has hx)
    obtain ⟨hrecord, hcell⟩ := hkept hnew (Heap.has_alloc (k := .record) _)
    have hthere : (K.alloc .schema (.blank "LazyDynaBean")).2.Has (K.next .schema) := Heap.has_alloc (k := .schema) _
    obtain ⟨hschema, hblank⟩ := hkept (K.not_has_next .schema) (hlater.has hthere)
    exact ⟨hrecord, _, _, hcell.trans (Heap.get_alloc_self (k := .record) _ _), hschema,
      hblank.trans ((hlater.same hthere).trans (K.get_alloc_self (k := .schema) _))⟩
  | _ => trivial

/-- Only what fills a slot of arrays is an array, and one of the component that the type names. -/
theorem MadeFor.component {a : Handle .array} (h : MadeFor G H H' t u) (hu : u = .array a) :
    t = .array (H'.get a).component := by
  subst hu
  cases t with
  | array t =>
    obtain ⟨b, hb, hcell⟩ := h.array
    cases hb
    exact congrArg Ty.array (congrArg TypedArray.component hcell).symm
  | primitive p =>
    obtain ⟨K, -, hu, -⟩ := h
    cases p <;> cases hu
  | object c =>
    obtain ⟨K, -, hu, -⟩ := h
    rw [ClassGraph.defaultValue_object] at hu
    split at hu <;> cases hu
  | _ =>
    obtain ⟨K, -, hu, -⟩ := h
    cases hu

/-- What is made for a property is there as it was made. -/
theorem madeFor_store {K : Heap} (hin : g.IsIn H) (hK : ∀ {k : CellKind} {x : Handle k}, ¬ H.Has x →
    (G.defaultValue t H).2.Has x → K.Has x ∧ K.get x = (G.defaultValue t H).2.get x) :
    MadeFor G H (g.store name c K) t (G.defaultValue t H).1 := by
  refine ⟨H, id, rfl, fun hx hnew => ?_⟩
  obtain ⟨hhas, hsame⟩ := hK hx hnew
  exact ⟨has_setValues hhas, (get_store_of_not_owns fun hown => hx (hin.has_of_owns hown)).trans hsame⟩

/-- Whether a container was there, or is a vacant one that has been made for a property. -/
inductive Opened (g : GrowingRecord) (name : String) (p : Property) (c : Value) (s : State G) : State G → Prop
  | held (h : g.Holds s.heap name p c) : Opened g name p c s s
  | made {s₁ : State G} (hvacant : s₁.heap.Vacant c) (harray : ∀ a, c = .array a →
      g.property? name s.heap = some p ∧ p.ty = .array (s₁.heap.get a).component) : Opened g name p c s s₁

section
variable (hin : g.IsIn s.heap) (hb : MakesOf t blank) (hblank : ∀ H, blank H = G.defaultValue t H)
include hin hblank

/-- A container that is made for a property is vacant. -/
theorem IsIn.vacant_store {K : Heap} (hK : ∀ {k : CellKind} {x : Handle k}, ¬ s.heap.Has x → (blank s.heap).2.Has x →
    K.Has x ∧ K.get x = (blank s.heap).2.get x) :
    (g.store name (blank s.heap).1 K).Vacant (blank s.heap).1 := by
  rw [hblank] at hK ⊢
  exact (madeFor_store hin hK).vacant

variable (harray : ∀ a, (blank s.heap).1 ≠ .array a)
  (hrun : ExceptT.run (g.container name blank : Op G (Property × Value)) s = (.ok (p, c), s₁))
include hb harray hrun

theorem IsIn.opened_of_undeclared (hp : g.property? name s.heap = none) : g.Opened name p c s s₁ := by
  cases hr : (s.heap.get g.schema).isRestricted with
  | true =>
    obtain ⟨e, s', hfailed, -⟩ :=
      run_container_of_closed (G := G) blank (hb.adds s.heap) (hb.same s.heap) hp hr
    cases hfailed.symm.trans hrun
  | false =>
    cases hrun.symm.trans
      (run_container_of_undeclared hin hb.toMakes hp hr (hb.ty _) (fun H => hb.taken G _ H name) rfl)
    refine .made (hin.vacant_store hblank fun {k x} hx hnew => ⟨Heap.has_set hnew, ?_⟩) fun a ha =>
      absurd ha (harray a)
    by_cases hk : k = .schema
    · subst hk
      refine Heap.get_set_of_ne (k := .schema) _ _ ?_
      rintro rfl
      exact hx hin.hasSchema
    · exact Heap.get_set_of_kind_ne (k := .schema) _ _ hk

theorem IsIn.opened_of_declared {q : Property} (hp : g.property? name s.heap = some q) :
    g.Opened name p c s s₁ ∧ q = p := by
  by_cases hnull : g.stored name s.heap = .null
  · by_cases hw : (G.defaultValue q.ty s.heap).1 = .null
    · cases hcoerce : (blank s.heap).2.coerce G q.ty name (blank s.heap).1 with
      | error e => cases hrun.symm.trans (run_container_of_refused hp hnull hin hw hb.toMakes hcoerce)
      | ok w =>
        rw [Heap.eq_of_coerce_of_not_isScalar hcoerce (hb.container _)] at hcoerce
        cases hrun.symm.trans (run_container_of_blank hp hnull hin hw hb.toMakes hcoerce)
        exact ⟨.made (hin.vacant_store hblank fun _ hnew => ⟨hnew, rfl⟩) fun a ha => absurd ha (harray a), rfl⟩
    · cases hrun.symm.trans (run_container_of_filled hp hnull blank hin hw)
      have hfills : MadeFor G s.heap (g.store name (G.defaultValue p.ty s.heap).1 (G.defaultValue p.ty s.heap).2) p.ty
          (G.defaultValue p.ty s.heap).1 := madeFor_store hin fun _ hnew => ⟨hnew, rfl⟩
      exact ⟨.made hfills.vacant fun a ha => ⟨hp, hfills.component ha⟩, rfl⟩
  · have hholds : g.Holds s.heap name q (g.stored name s.heap) := ⟨hp, rfl, hnull⟩
    cases hrun.symm.trans (hholds.run_container blank)
    exact ⟨.held hholds, rfl⟩

end

/-- What is done with the container in a property is done with one that has been opened. -/
theorem IsIn.opened_of_bind {α : Type} {k : Property × Value → Op G α} {a : α} (hin : g.IsIn s.heap)
    (hb : MakesOf t blank) (hblank : ∀ H, blank H = G.defaultValue t H) (harray : ∀ a, (blank s.heap).1 ≠ .array a)
    (hrun : ExceptT.run (g.container name blank >>= k) s = (.ok a, s₁)) :
    ∃ p c s₀, g.IsIn s₀.heap ∧ g.Holds s₀.heap name p c ∧ g.Opened name p c s s₀ ∧
      (∀ q, g.property? name s.heap = some q → q = p) ∧
      ExceptT.run (g.container name blank >>= k) s₀ = (.ok a, s₁) := by
  obtain ⟨⟨p, c⟩, s₀, hcontainer, hrest⟩ := run_bind_eq_ok.mp hrun
  obtain ⟨_, _, hrun', hi, hopens⟩ := run_container (G := G) hin hb name
  cases hcontainer.symm.trans hrun'
  obtain ⟨hholds, -⟩ := hopens p c rfl
  have hagain : ExceptT.run (g.container name blank >>= k) s₀ = (.ok a, s₁) := by
    rw [run_bind_of_ok (hholds.run_container blank), hrest]
  cases hp : g.property? name s.heap with
  | none => exact ⟨p, c, s₀, hi.isIn, hholds, hin.opened_of_undeclared hb hblank harray hcontainer hp, nofun, hagain⟩
  | some q =>
    obtain ⟨hopened, rfl⟩ := hin.opened_of_declared hb hblank harray hcontainer hp
    exact ⟨q, c, s₀, hi.isIn, hholds, hopened, fun _ hq => (Option.some.inj hq).symm, hagain⟩

theorem IsIn.opened_of_lengthened {a : Property × Value} (hin : g.IsIn s.heap)
    (hrun : ExceptT.run (g.lengthened name i : Op G (Property × Value)) s = (.ok a, s₁)) :
    ∃ p c s₀, g.IsIn s₀.heap ∧ g.Holds s₀.heap name p c ∧ g.Opened name p c s s₀ ∧
      (∀ q, g.property? name s.heap = some q → q = p) ∧
      ExceptT.run (g.lengthened name i : Op G (Property × Value)) s₀ = (.ok a, s₁) :=
  hin.opened_of_bind makesOf_list (fun _ => rfl) nofun hrun

theorem IsIn.opened_of_keyed {a : Property × Value} (hin : g.IsIn s.heap)
    (hrun : ExceptT.run (g.keyed name : Op G (Property × Value)) s = (.ok a, s₁)) :
    ∃ p c s₀, g.IsIn s₀.heap ∧ g.Holds s₀.heap name p c ∧ g.Opened name p c s s₀ ∧
      (∀ q, g.property? name s.heap = some q → q = p) ∧
      ExceptT.run (g.keyed name : Op G (Property × Value)) s₀ = (.ok a, s₁) :=
  hin.opened_of_bind makesOf_map (fun _ => rfl) nofun hrun

/-! ### What is read -/

theorem get?_of_stored (h : g.stored name H ≠ .null) : (g.values H).get? name = some (g.stored name H) := by
  rw [stored] at h ⊢
  cases hget : (g.values H).get? name with
  | none =>
    rw [hget] at h
    exact absurd rfl h
  | some c => rfl

/-- Reads a segment of a growing record. -/
def readSegment (g : GrowingRecord) (seg : Segment) : Op G Value :=
  match seg.subscript with
  | .none => g.read seg.name
  | .index i => g.readElement seg.name i
  | .key key => g.readEntry seg.name key

/-- Whether a segment of a growing record leads to a value without anything being made. -/
structure Finds (g : GrowingRecord) (H : Heap) (seg : Segment) (u : Value) : Prop where
  ne_null : g.stored seg.name H ≠ .null
  declared : seg.subscript ≠ .none → ∃ p, g.property? seg.name H = some p
  yields : H.Yields (g.stored seg.name H) seg.subscript u

/-- Whether reading a segment of a growing record has made what it answers. -/
structure Furnishes (g : GrowingRecord) (seg : Segment) (u : Value) (H H' : Heap) : Prop where
  readies : g.Readies seg.name H H'
  declared : ∃ p, g.property? seg.name H = some p
  finds : g.Finds H' seg u
  vacant : H'.Vacant u

theorem Holds.finds (h : g.Holds H name p c) (hu : H.Yields c sub u) : g.Finds H ⟨name, sub⟩ u where
  ne_null := h.stored.symm ▸ h.ne_null
  declared _ := ⟨p, h.property⟩
  yields := h.stored.symm ▸ hu

namespace Finds

theorem holds (h : g.Finds H ⟨name, sub⟩ u) (hsub : sub ≠ .none) : ∃ p, g.Holds H name p (g.stored name H) := by
  obtain ⟨p, hp⟩ := h.declared hsub
  exact ⟨p, hp, rfl, h.ne_null⟩

theorem run_read (h : g.Finds s.heap ⟨name, .none⟩ u) : ExceptT.run (g.read name : Op G Value) s = (.ok u, s) := by
  cases h.yields
  exact run_read_of_held h.ne_null

theorem run_readElement (h : g.Finds s.heap ⟨name, .index i⟩ u) :
    ExceptT.run (g.readElement name i : Op G Value) s = (.ok u, s) := by
  obtain ⟨p, hp⟩ := h.holds nofun
  cases h.yields with
  | element hc hi =>
    have hrange : ∀ items, s.heap.items? (g.stored name s.heap) = some items → i < items.length := by
      rw [hc]
      rintro _ ⟨⟩
      exact (List.getElem?_eq_some_iff.mp hi).1
    rw [hp.run_readElement hrange, Heap.element_of_items hc hi]

theorem run_readEntry (h : g.Finds s.heap ⟨name, .key key⟩ u) :
    ExceptT.run (g.readEntry name key : Op G Value) s = (.ok u, s) := by
  obtain ⟨p, hp⟩ := h.holds nofun
  cases h.yields with
  | entry hc hk =>
    rw [hp.run_readEntry, Heap.entry, Heap.entries, hc]
    exact congrArg (fun v => (Except.ok (Option.getD v .null), s)) hk

theorem run_readSegment {seg : Segment} (h : g.Finds s.heap seg u) :
    ExceptT.run (g.readSegment seg : Op G Value) s = (.ok u, s) := by
  obtain ⟨name, sub⟩ := seg
  cases sub with
  | none => exact h.run_read
  | index i => exact h.run_readElement
  | key key => exact h.run_readEntry

end Finds

theorem IsIn.read_cases (hin : g.IsIn s.heap)
    (hrun : ExceptT.run (g.read name : Op G Value) s = (.ok u, s₁)) (hu : u ≠ .null) :
    (g.Finds s.heap ⟨name, .none⟩ u ∧ s₁ = s) ∨ g.Furnishes ⟨name, .none⟩ u s.heap s₁.heap := by
  by_cases hnull : g.stored name s.heap = .null
  · cases hp : g.property? name s.heap with
    | none =>
      have hread : ExceptT.run (g.read name : Op G Value) s = (.ok .null, s) := by
        simp [GrowingRecord.read, hp, hnull, Value.isNull]
      cases hrun.symm.trans hread
      exact absurd rfl hu
    | some p =>
      by_cases hw : (G.defaultValue p.ty s.heap).1 = .null
      · cases hrun.symm.trans (run_read_of_null hp hnull hw)
        exact absurd rfl hu
      · cases hrun.symm.trans (run_read_of_filled hp hnull hw)
        have hadds := (G.onlyAdds_defaultValue p.ty s.heap).1
        have hinstalls : g.Installs name s.heap (g.store name _ _) :=
          ((Installs.refl hin).onlyAdds hadds).store (G.defaultValue p.ty s.heap).1
        have hheld := holds_store (((hin.fills_of_onlyAdds (G := G) hadds).property name).trans hp) hw
        have hmade : MadeFor G s.heap (g.store name (G.defaultValue p.ty s.heap).1 (G.defaultValue p.ty s.heap).2) p.ty
            (G.defaultValue p.ty s.heap).1 := madeFor_store hin fun _ hnew => ⟨hnew, rfl⟩
        exact .inr ⟨hinstalls.readies fun hq => absurd hq (not_holds_of_null hnull _ _), ⟨p, hp⟩, hheld.finds .itself,
          hmade.vacant⟩
  · cases hrun.symm.trans (run_read_of_held hnull)
    exact .inl ⟨⟨hnull, fun h => absurd rfl h, .itself⟩, rfl⟩

theorem run_readElement_of_lengthened
    (hrun : ExceptT.run (g.lengthened name i : Op G (Property × Value)) s = (.ok (p, c), s₁)) :
    ExceptT.run (g.readElement name i : Op G Value) s = (s₁.heap.element name i c, s₁) := by
  rw [readElement, run_bind_of_ok hrun, run_tryRead]

/-- A list is lengthened by nothing but nulls. -/
theorem Holds.null_of_run_readElement_list {l : Handle .list} (h : g.Holds s.heap name p (.list l))
    (hi : (s.heap.get l).length ≤ i) (hrun : ExceptT.run (g.readElement name i : Op G Value) s = (.ok u, s₁)) :
    u = .null := by
  obtain ⟨H, hlengthened, hput⟩ := h.run_lengthened_list (G := G) i
  obtain ⟨hanswer, -⟩ := Prod.mk.inj (hrun.symm.trans (run_readElement_of_lengthened hlengthened))
  cases Heap.Yields.of_element hanswer.symm with
  | element hc hu =>
    cases hc
    rw [hput.self, List.getElem?_append_right hi, List.getElem?_replicate, if_pos (by omega)] at hu
    exact (Option.some.inj hu).symm

/-- The new slots of the longer copy of an array are filled. -/
theorem Holds.readElement_array {a : Handle .array} (hin : g.IsIn s.heap) (h : g.Holds s.heap name p (.array a))
    (hi : (s.heap.get a).items.length ≤ i)
    (hrun : ExceptT.run (g.readElement name i : Op G Value) s = (.ok u, s₁)) :
    ∃ b, g.Holds s₁.heap name p (.array b) ∧ s₁.heap.Yields (.array b) (.index i) u ∧
      MadeFor G s.heap s₁.heap (s.heap.get a).component u := by
  obtain ⟨vs, K, hvs⟩ : ∃ vs K,
      G.defaultValues (s.heap.get a).component (i + 1 - (s.heap.get a).items.length) s.heap = (vs, K) := ⟨_, _, rfl⟩
  have hadds := G.onlyAdds_defaultValues (s.heap.get a).component (i + 1 - (s.heap.get a).items.length) s.heap
  rw [hvs] at hadds
  have halloc := K.onlyAdds_alloc (k := .array) ⟨(s.heap.get a).component, (s.heap.get a).items ++ vs⟩
  have hread := run_readElement_of_lengthened (h.run_lengthened_array hi (TypedArray.grown_of_defaultValues hvs))
  obtain ⟨hanswer, rfl⟩ := Prod.mk.inj (hrun.symm.trans hread)
  have hyields := Heap.Yields.of_element hanswer.symm
  have hp := ((hin.fills_of_onlyAdds (G := G) (hadds.trans halloc)).property name).trans h.property
  refine ⟨_, holds_store hp nofun, hyields, ?_⟩
  cases hyields with
  | element hc hu =>
    cases hc
    have hcell : (g.store name (.array (K.next .array)) (K.alloc .array
        ⟨(s.heap.get a).component, (s.heap.get a).items ++ vs⟩).2).get (K.next .array) =
        ⟨(s.heap.get a).component, (s.heap.get a).items ++ vs⟩ :=
      (get_store_of_not_owns id).trans (K.get_alloc_self (k := .array) _)
    rw [hcell, List.getElem?_append_right hi] at hu
    obtain ⟨L, haddsL, hL, hlater⟩ := ClassGraph.exists_defaultValue_of_getElem? hvs hu
    -- The record is kept in cells that were there at `L`, so none of them is what fills the slot.
    refine ⟨L, haddsL.has, hL, fun hx hnew => ⟨has_setValues (halloc.has (hlater.has hnew)), ?_⟩⟩
    rw [get_store_of_not_owns fun hown => hx (haddsL.has (hin.has_of_owns hown)), halloc.same (hlater.has hnew),
      hlater.same hnew]

theorem Holds.readElement_cases (hin : g.IsIn s.heap) (h : g.Holds s.heap name p c)
    (hrun : ExceptT.run (g.readElement name i : Op G Value) s = (.ok u, s₁)) (hu : u ≠ .null) :
    (s.heap.Yields c (.index i) u ∧ s₁ = s) ∨ ∃ a b, c = .array a ∧ g.Holds s₁.heap name p (.array b) ∧
      s₁.heap.Yields (.array b) (.index i) u ∧ MadeFor G s.heap s₁.heap (s.heap.get a).component u := by
  by_cases hrange : ∀ items, s.heap.items? c = some items → i < items.length
  · obtain ⟨hanswer, rfl⟩ := Prod.mk.inj (hrun.symm.trans (h.run_readElement hrange))
    exact .inl ⟨.of_element hanswer.symm, rfl⟩
  · push Not at hrange
    obtain ⟨items, hitems, hi⟩ := hrange
    cases c with
    | list l =>
      cases hitems
      exact absurd (h.null_of_run_readElement_list hi hrun) hu
    | array a =>
      cases hitems
      obtain ⟨b, hb⟩ := h.readElement_array hin hi hrun
      exact .inr ⟨a, b, rfl, hb⟩
    | _ => cases hitems

theorem Opened.readElement_cases (hopened : g.Opened name p c s s₀)
    (hin₀ : g.IsIn s₀.heap) (hholds : g.Holds s₀.heap name p c)
    (hrun : ExceptT.run (g.readElement name i : Op G Value) s₀ = (.ok u, s₁)) (hu : u ≠ .null) :
    (g.Holds s.heap name p c ∧ s.heap.Yields c (.index i) u ∧ s₁ = s) ∨
      (g.property? name s.heap = some p ∧ s₁.heap.Vacant u ∧
        ∃ b, g.Holds s₁.heap name p (.array b) ∧ s₁.heap.Yields (.array b) (.index i) u) := by
  rcases hholds.readElement_cases hin₀ hrun hu with ⟨hyields, hsame⟩ | ⟨a, b, rfl, hheld, hyields, hmade⟩
  · cases hopened with
    | held h => exact .inl ⟨h, hyields, hsame⟩
    | made hvacant harray =>
      cases Heap.Yields.of_vacant hvacant hyields
  · refine .inr ?_
    cases hopened with
    | held h => exact ⟨h.property, hmade.vacant, b, hheld, hyields⟩
    | made hvacant harray =>
      exact ⟨(harray a rfl).1, hmade.vacant, b, hheld, hyields⟩

theorem IsIn.readElement_cases (hin : g.IsIn s.heap)
    (hrun : ExceptT.run (g.readElement name i : Op G Value) s = (.ok u, s₁)) (hu : u ≠ .null) :
    (g.Finds s.heap ⟨name, .index i⟩ u ∧ s₁ = s) ∨ g.Furnishes ⟨name, .index i⟩ u s.heap s₁.heap := by
  obtain ⟨⟨q, b⟩, s₂, hlengthened, hanswer⟩ := run_bind_eq_ok.mp hrun
  obtain ⟨_, _, hrun', hreadies⟩ := readies_lengthened (G := G) hin name i
  cases hlengthened.symm.trans hrun'
  obtain ⟨p, c, s₀, hin₀, hholds, hopened, -, hagain⟩ := hin.opened_of_lengthened hlengthened
  have hrun₀ : ExceptT.run (g.readElement name i : Op G Value) s₀ = (.ok u, s₁) :=
    run_bind_eq_ok.mpr ⟨_, _, hagain, hanswer⟩
  obtain rfl : s₂ = s₁ := (Prod.mk.inj hanswer).2
  rcases hopened.readElement_cases hin₀ hholds hrun₀ hu with ⟨h, hyields, hsame⟩ | ⟨hp, hvacant, b, hheld, hyields⟩
  · exact .inl ⟨h.finds hyields, hsame⟩
  · exact .inr ⟨hreadies, ⟨p, hp⟩, hheld.finds hyields, hvacant⟩

theorem IsIn.readEntry_cases (hin : g.IsIn s.heap)
    (hrun : ExceptT.run (g.readEntry name key : Op G Value) s = (.ok u, s₁)) (hu : u ≠ .null) :
    g.Finds s.heap ⟨name, .key key⟩ u ∧ s₁ = s := by
  obtain ⟨⟨q, b⟩, s₂, hkeyed, hanswer⟩ := run_bind_eq_ok.mp hrun
  obtain ⟨p, c, s₀, -, hholds, hopened, -, hagain⟩ := hin.opened_of_keyed hkeyed
  have hrun₀ : ExceptT.run (g.readEntry name key : Op G Value) s₀ = (.ok u, s₁) :=
    run_bind_eq_ok.mpr ⟨_, _, hagain, hanswer⟩
  obtain ⟨hfound, rfl⟩ := Prod.mk.inj (hrun₀.symm.trans hholds.run_readEntry)
  have hyields := Heap.Yields.of_entry hfound.symm hu
  cases hopened with
  | held h => exact ⟨h.finds hyields, rfl⟩
  | made hvacant _ => cases Heap.Yields.of_vacant hvacant hyields

/-- An answer that is not null has been found or made. -/
theorem IsIn.finds_or_furnishes {seg : Segment} (hin : g.IsIn s.heap)
    (hrun : ExceptT.run (g.readSegment seg : Op G Value) s = (.ok u, s₁)) (hu : u ≠ .null) :
    (g.Finds s.heap seg u ∧ s₁ = s) ∨ g.Furnishes seg u s.heap s₁.heap := by
  obtain ⟨name, sub⟩ := seg
  cases sub with
  | none => exact hin.read_cases hrun hu
  | index i => exact hin.readElement_cases hrun hu
  | key key => exact .inl (hin.readEntry_cases hrun hu)

end GrowingRecord

end ObjectGraph
