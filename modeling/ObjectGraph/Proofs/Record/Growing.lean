import ObjectGraph.Proofs.Object.Creation
import ObjectGraph.Proofs.Record.Schema
import ObjectGraph.Record.Growing

/-!
Growing records with values of their own.  Whatever is read or written, and also where that fails halfway,
every stored name is declared and every stored value fits its declared type, and a declared property stays
as it is.  Each operation is a sequence of declarations, stores and changes of other cells, and each of
these keeps the record well typed.
-/

namespace ObjectGraph

namespace Heap
variable {G : ClassGraph} {H H' : Heap} {name key : String} {i : Nat} {v w : Value} {t : Ty}

/-! ### Writing into containers -/

theorem sparesRecords_setElement (h : H.setElement G name i w t v = .ok H') : H.SparesRecords H' := by
  cases v with
  | list l =>
    obtain ⟨_, -, hset⟩ := bind_eq_ok.mp h
    obtain ⟨_, -, hset⟩ := bind_eq_ok.mp hset
    cases hset
    exact (keepsTypes_set (k := .list) nofun nofun).sparesRecords nofun nofun
  | array a =>
    obtain ⟨_, -, hset⟩ := bind_eq_ok.mp h
    obtain ⟨items, -, hset⟩ := bind_eq_ok.mp hset
    cases hset
    have htypes := keepsTypes_setArray (H := H) (h := a) (a := ⟨(H.get a).component, items⟩) rfl
    exact htypes.sparesRecords nofun nofun
  | _ => cases h

theorem sparesRecords_setEntries (d : Dict Value) (v : Value) : H.SparesRecords (H.setEntries d v) := by
  cases v with
  | map m => exact (keepsTypes_set (k := .map) nofun nofun).sparesRecords nofun nofun
  | object o =>
    have htypes := keepsTypes_setObject (H := H) (h := o) (o := { H.get o with storage := some d }) rfl
    exact htypes.sparesRecords nofun nofun
  | _ => exact .refl H

theorem sparesRecords_setEntry (h : H.setEntry name key w v = .ok H') : H.SparesRecords H' := by
  obtain ⟨_, -, hset⟩ := bind_eq_ok.mp h
  cases hset
  exact sparesRecords_setEntries _ v

theorem sparesRecords_eraseEntry (h : H.eraseEntry name key v = .ok H') : H.SparesRecords H' := by
  obtain ⟨_, -, hset⟩ := bind_eq_ok.mp h
  cases hset
  exact sparesRecords_setEntries _ v

end Heap

namespace GrowingRecord
variable {G : ClassGraph} {g : GrowingRecord} {H H' H'' : Heap} {name : String} {p : Property} {v : Value}

/-- Whether a record has its own values and they are well typed: each stored name is declared, and its value
fits the declared type. -/
structure Typed (G : ClassGraph) (g : GrowingRecord) (H : Heap) : Prop where
  isOwn : g.shared = none
  cell : H.get g.cell = .growing g.schema (.own (g.values H))
  hasCell : H.Has g.cell
  hasSchema : H.Has g.schema
  declared : ∀ {name v}, (g.values H).get? name = some v →
    ∃ p, (H.get g.schema).property? name = some p ∧ H.Fits G p.ty v ∧ H.Live v

/-- Whether a heap is a later one in which a record still has all its properties, and no others if its schema
was restricted. -/
structure Keeps (g : GrowingRecord) (H H' : Heap) : Prop where
  types : H.KeepsTypes H'
  property : ∀ {name p}, (H.get g.schema).property? name = some p → (H'.get g.schema).property? name = some p
  restricted : (H.get g.schema).isRestricted = true → H'.get g.schema = H.get g.schema

theorem Keeps.trans (h : g.Keeps H H') (h' : g.Keeps H' H'') : g.Keeps H H'' where
  types := h.types.trans h'.types
  property hp := h'.property (h.property hp)
  restricted hr := by
    have hsame := h.restricted hr
    rw [h'.restricted (hsame ▸ hr), hsame]

/-! ### What keeps a record well typed -/

theorem values_of_cell {d : Dict Value} (ho : g.shared = none) (hc : H.get g.cell = .growing g.schema (.own d)) :
    g.values H = d := by
  simp only [values, ho, Heap.stored?, hc, Option.getD_some]

theorem values_of_shared {m : Handle .map} (h : g.shared = some m) (H : Heap) : g.values H = H.get m := by
  rw [values, h]

namespace Typed

theorem property?_eq (h : g.Typed G H) (name : String) : g.property? name H = (H.get g.schema).property? name := by
  unfold property?
  rw [h.isOwn]
  cases (H.get g.schema).property? name <;> rfl

theorem stored?_eq (h : g.Typed G H) : H.stored? g.cell = some (g.values H) := by
  rw [Heap.stored?, h.cell]

theorem schemaOf_eq (h : g.Typed G H) : H.schemaOf g.cell = H.get g.schema := by
  rw [Heap.schemaOf, h.cell]
  rfl

/-- On a later heap a record is well typed if it has kept its properties and what it stores fitted before. -/
theorem later {d : Dict Value} (h : g.Typed G H) (htypes : H.KeepsTypes H')
    (hcell : H'.get g.cell = .growing g.schema (.own d))
    (hkept : ∀ {name p}, (H.get g.schema).property? name = some p → (H'.get g.schema).property? name = some p)
    (hd : ∀ {name v}, d.get? name = some v →
      ∃ p, (H.get g.schema).property? name = some p ∧ H.Fits G p.ty v ∧ H.Live v) : g.Typed G H' := by
  have hvalues := values_of_cell h.isOwn hcell
  refine ⟨h.isOwn, hvalues.symm ▸ hcell, htypes.has h.hasCell, htypes.has h.hasSchema, fun hv => ?_⟩
  obtain ⟨p, hp, hfits, hlive⟩ := hd (hvalues ▸ hv)
  exact ⟨p, hkept hp, htypes.fits hlive hfits, htypes.live hlive⟩

/-- Whatever happens to other cells, and also to the restriction of the schema, the record stays well typed. -/
theorem of_cell (h : g.Typed G H) (htypes : H.KeepsTypes H') (hcell : H'.get g.cell = H.get g.cell)
    (hschema : (H'.get g.schema).properties = (H.get g.schema).properties) : g.Typed G H' := by
  refine h.later htypes (hcell.trans h.cell) (fun hp => ?_) h.declared
  rwa [Schema.property?_congr hschema]

theorem spared (h : g.Typed G H) (hs : H.SparesRecords H') : g.Typed G H' ∧ g.Keeps H H' := by
  have hschema := hs.schema h.hasSchema
  exact ⟨h.of_cell hs.types (hs.record h.hasCell) (congrArg Schema.properties hschema),
    hs.types, fun hp => hschema.symm ▸ hp, fun _ => hschema⟩

/-- A value that fits the declared type may be stored. -/
theorem store (h : g.Typed G H) (hp : (H.get g.schema).property? name = some p) (hfits : H.Fits G p.ty v)
    (hlive : H.Live v) : g.Typed G (g.store name v H) ∧ g.Keeps H (g.store name v H) := by
  have hstore : g.store name v H = H.set g.cell (.growing g.schema (.own ((g.values H).insert name v))) := by
    simp only [GrowingRecord.store, setValues, h.isOwn]
  have htypes : H.KeepsTypes (g.store name v H) := hstore ▸ Heap.keepsTypes_set (k := .record) nofun nofun
  have hcell := H.get_set_self (k := .record) g.cell (.growing g.schema (.own ((g.values H).insert name v)))
  have hschema : (g.store name v H).get g.schema = H.get g.schema := by
    rw [hstore]
    exact H.get_set_of_kind_ne (k := .record) _ nofun
  refine ⟨h.later htypes (hstore ▸ hcell) (fun hp => hschema.symm ▸ hp) fun {name' v'} hv' => ?_,
    htypes, fun hp => hschema.symm ▸ hp, fun _ => hschema⟩
  rw [Dict.get?_insert] at hv'
  split at hv'
  · rename_i hname
    cases hv'
    exact ⟨p, hname.symm ▸ hp, hfits, hlive⟩
  · exact h.declared hv'

/-- A property may be declared under a new name. -/
theorem add {S : Schema} (h : g.Typed G H) (hnew : (H.get g.schema).property? p.name = none)
    (hadd : (H.get g.schema).add p = .ok S) : g.Typed G (H.set g.schema S) ∧ g.Keeps H (H.set g.schema S) := by
  obtain ⟨hfree, rfl⟩ := Schema.add_eq_ok hadd
  have htypes : H.KeepsTypes (H.set g.schema ((H.get g.schema).put p)) :=
    Heap.keepsTypes_set (k := .schema) nofun nofun
  have hcell := H.get_set_of_kind_ne (k := .schema) (h := g.schema) (j := g.cell) ((H.get g.schema).put p) nofun
  have hschema := H.get_set_self (k := .schema) g.schema ((H.get g.schema).put p)
  have hkept {name q} (hq : (H.get g.schema).property? name = some q) :
      ((H.set g.schema ((H.get g.schema).put p)).get g.schema).property? name = some q := by
    rw [hschema, Schema.property?_put, if_neg, hq]
    rintro rfl
    rw [hnew] at hq
    cases hq
  refine ⟨h.later htypes (hcell.trans h.cell) hkept h.declared, htypes, hkept, fun hr => ?_⟩
  rw [hfree] at hr
  cases hr

theorem change (h : g.Typed G H) (hadds : H.OnlyAdds H') : g.Typed G H' ∧ g.Keeps H H' := h.spared hadds.sparesRecords

end Typed

/-! ### Operations that keep a record well typed -/

variable {α β : Type} {s : State G} {x : Op G α} {Q : α → Heap → Prop} {R : β → Heap → Prop}

/-- Whether a record is well typed after an operation, also a failed one, and keeps its properties; and what is
known of the answer, if there is one. -/
structure Safe (g : GrowingRecord) (s : State G) (x : Op G α) (Q : α → Heap → Prop) : Prop where
  typed : g.Typed G (ExceptT.run x s).2.heap
  keeps : g.Keeps s.heap (ExceptT.run x s).2.heap
  answer : ∀ {a}, (ExceptT.run x s).1 = .ok a → Q a (ExceptT.run x s).2.heap

theorem Keeps.refl (g : GrowingRecord) (H : Heap) : g.Keeps H H := ⟨.refl H, id, fun _ => rfl⟩

theorem Safe.bind {k : α → Op G β} (hx : g.Safe s x Q)
    (hk : ∀ {a t}, g.Typed G t.heap → g.Keeps s.heap t.heap → Q a t.heap → g.Safe t (k a) R) :
    g.Safe s (x >>= k) R := by
  obtain ⟨htyped, hkeeps, hanswer⟩ := hx
  rcases hrun : ExceptT.run x s with ⟨_ | a, t⟩
  · rw [hrun] at htyped hkeeps
    have hbind : ExceptT.run (x >>= k) s = _ := Op.run_bind_of_error hrun
    refine ⟨?_, ?_, ?_⟩
    · rwa [hbind]
    · rwa [hbind]
    · rw [hbind]
      nofun
  · rw [hrun] at htyped hkeeps hanswer
    have hbind : ExceptT.run (x >>= k) s = _ := Op.run_bind_of_ok hrun
    obtain ⟨htyped', hkeeps', hanswer'⟩ := hk htyped hkeeps (hanswer rfl)
    rw [← hbind] at htyped' hkeeps' hanswer'
    exact ⟨htyped', hkeeps.trans hkeeps', hanswer'⟩

theorem Safe.mono {Q' : α → Heap → Prop} (hx : g.Safe s x Q) (hq : ∀ {a H}, Q a H → Q' a H) : g.Safe s x Q' :=
  ⟨hx.typed, hx.keeps, fun ha => hq (hx.answer ha)⟩

theorem Safe.of_run {y : Op G α} (hx : g.Safe s x Q) (hrun : ExceptT.run y s = ExceptT.run x s) : g.Safe s y Q where
  typed := hrun ▸ hx.typed
  keeps := hrun ▸ hx.keeps
  answer ha := hrun ▸ hx.answer (hrun ▸ ha)

theorem Safe.read {f : Heap → α} {k : α → Op G β} (h : g.Safe s (k (f s.heap)) R) : g.Safe s (Op.read f >>= k) R :=
  h.of_run (Op.run_bind_of_ok (Op.run_read s f))

namespace Typed

theorem safe_pure {a : α} (h : g.Typed G s.heap) (hq : Q a s.heap) : g.Safe s (Pure.pure a) Q :=
  ⟨h, .refl g _, fun ha => by cases ha; exact hq⟩

theorem safe_throw {e : Error} (h : g.Typed G s.heap) : g.Safe s (throwThe Error e : Op G α) Q :=
  ⟨h, .refl g _, nofun⟩

theorem safe_ask {f : Heap → α} (h : g.Typed G s.heap) : g.Safe s (Op.read f) fun _ _ => True :=
  ⟨h, .refl g _, fun _ => trivial⟩

theorem safe_tryRead {f : Heap → Except Error α} (h : g.Typed G s.heap) :
    g.Safe s (Op.tryRead f) fun a H => f H = .ok a := ⟨h, .refl g _, id⟩

theorem safe_tryWrite {f : Heap → Except Error Heap} {Q : Unit → Heap → Prop} (h : g.Typed G s.heap)
    (hf : ∀ {H}, f s.heap = .ok H → (g.Typed G H ∧ g.Keeps s.heap H) ∧ Q () H) :
    g.Safe s (Op.tryWrite f : Op G Unit) Q := by
  have hrun := Op.run_tryWrite (s := s) f
  cases hheap : f s.heap with
  | ok H =>
    rw [hheap] at hrun
    obtain ⟨⟨htyped, hkeeps⟩, hq⟩ := hf hheap
    exact ⟨hrun ▸ htyped, hrun ▸ hkeeps, fun _ => hrun ▸ hq⟩
  | error e =>
    rw [hheap] at hrun
    exact ⟨hrun ▸ h, hrun ▸ .refl g _, fun ha => by rw [hrun] at ha; cases ha⟩

end Typed

theorem safe_change {f : Heap → α × Heap} {a : α} {H : Heap} (hf : f s.heap = (a, H))
    (h : g.Typed G H ∧ g.Keeps s.heap H) (hq : Q a H) : g.Safe s (Op.change f) Q := by
  have hrun := Op.run_change s f
  rw [hf] at hrun
  exact ⟨hrun ▸ h.1, hrun ▸ h.2, fun ha => by rw [hrun] at ha ⊢; cases ha; exact hq⟩

/-- Whether what is made is always a new container. -/
structure Makes (blank : Heap → Value × Heap) : Prop where
  adds : ∀ H : Heap, H.OnlyAdds (blank H).2
  live : ∀ H : Heap, (blank H).2.Live (blank H).1
  container : ∀ H : Heap, (blank H).1.isScalar = false

theorem makes_list : Makes fun H => H.newList [] where
  adds H := H.onlyAdds_alloc (k := .list) []
  live _ := Heap.has_alloc (k := .list) []
  container _ := rfl

theorem makes_map : Makes fun H => H.newMap .empty where
  adds H := H.onlyAdds_alloc (k := .map) .empty
  live _ := Heap.has_alloc (k := .map) .empty
  container _ := rfl

namespace Typed

theorem safe_declare (h : g.Typed G s.heap) (hnew : (s.heap.get g.schema).property? p.name = none) :
    g.Safe s (g.declare p : Op G Unit) fun _ H => (H.get g.schema).property? p.name = some p := by
  refine h.safe_tryWrite fun {H} hadd => ?_
  cases hS : (s.heap.get g.schema).add p with
  | error e =>
    rw [hS] at hadd
    cases hadd
  | ok S =>
    rw [hS] at hadd
    cases hadd
    obtain ⟨-, rfl⟩ := Schema.add_eq_ok hS
    refine ⟨h.add hnew hS, ?_⟩
    rw [Heap.get_set_self, Schema.property?_put, if_pos rfl]

/-- A declared property reads as what fits its type. -/
theorem safe_read (h : g.Typed G s.heap) (name : String) : g.Safe s (g.read name : Op G Value) fun v H =>
    ∀ {p}, (H.get g.schema).property? name = some p → H.Fits G p.ty v := by
  unfold GrowingRecord.read
  cases hv : (g.stored name s.heap).isNull with
  | false =>
    refine safe_change (a := g.stored name s.heap) (H := s.heap) (by simp [hv]) ⟨h, .refl g _⟩ fun {p} hp => ?_
    cases hstored : (g.values s.heap).get? name with
    | none =>
      rw [stored, hstored] at hv
      cases hv
    | some v =>
      obtain ⟨q, hq, hfits, -⟩ := h.declared hstored
      obtain rfl := Option.some.inj (hp.symm.trans hq)
      rwa [stored, hstored]
  | true =>
    cases hp : (s.heap.get g.schema).property? name with
    | none =>
      refine safe_change (a := .null) (H := s.heap) (by simp [hv, h.property?_eq, hp]) ⟨h, .refl g _⟩ fun {p} hp' => ?_
      rw [hp] at hp'
      cases hp'
    | some p =>
      obtain ⟨hadds, hlive⟩ := G.onlyAdds_defaultValue p.ty s.heap
      have hfits := G.fits_defaultValue p.ty s.heap
      obtain ⟨htyped, hkeeps⟩ := h.change hadds
      cases hw : (G.defaultValue p.ty s.heap).1.isNull with
      | true =>
        refine safe_change (a := (G.defaultValue p.ty s.heap).1) (H := (G.defaultValue p.ty s.heap).2)
          (by simp [hv, h.property?_eq, hp, hw]) ⟨htyped, hkeeps⟩ fun {q} hq => ?_
        obtain rfl := Option.some.inj ((hkeeps.property hp).symm.trans hq)
        exact hfits
      | false =>
        have hstored := htyped.store (hkeeps.property hp) hfits hlive
        refine safe_change (a := (G.defaultValue p.ty s.heap).1) (by simp [hv, h.property?_eq, hp, hw])
          ⟨hstored.1, hkeeps.trans hstored.2⟩ fun {q} hq => ?_
        obtain rfl := Option.some.inj ((hstored.2.property (hkeeps.property hp)).symm.trans hq)
        exact hstored.2.types.fits hlive hfits

/-- A write leaves its property declared, and a container that was written is there as it is. -/
theorem safe_write (h : g.Typed G s.heap) (name : String) (hv : s.heap.Live v) :
    g.Safe s (g.write name v) fun _ H =>
      ∃ p, (H.get g.schema).property? name = some p ∧ (v.isScalar = false → H.Fits G p.ty v) := by
  have hstore {p : Property} {t : State G} (ht : g.Typed G t.heap) (hlive : t.heap.Live v)
      (hp : (t.heap.get g.schema).property? name = some p) :
      g.Safe t (Op.tryRead (fun H => H.coerce G p.ty name v) >>= fun w => Op.write (g.store name w)) fun _ H =>
        ∃ p, (H.get g.schema).property? name = some p ∧ (v.isScalar = false → H.Fits G p.ty v) := by
    refine ht.safe_tryRead.bind fun {w u} hu hkept hw => ?_
    have hfits := Heap.fits_of_coerce hw
    have hadded := hu.store (hkept.property hp) hfits (Heap.live_of_coerce hw (hkept.types.live hlive))
    refine safe_change rfl hadded ⟨p, hadded.2.property (hkept.property hp), fun hv => ?_⟩
    obtain rfl := Heap.eq_of_coerce_of_not_isScalar hw hv
    exact hadded.2.types.fits (hkept.types.live hlive) hfits
  unfold GrowingRecord.write
  refine Safe.read ?_
  rw [h.property?_eq]
  cases hp : (s.heap.get g.schema).property? name with
  | some p => exact hstore h hv hp
  | none =>
    refine Safe.read ?_
    refine (h.safe_declare hp).bind fun {_ t} ht hkept hdeclared => ?_
    exact hstore ht (hkept.types.live hv) hdeclared

theorem safe_made {blank : Heap → Value × Heap} (h : g.Typed G s.heap) (hb : Makes blank) :
    g.Safe s (Op.change blank : Op G Value) fun v H => H.Live v ∧ v.isScalar = false :=
  safe_change rfl (h.change (hb.adds _)) ⟨hb.live _, hb.container _⟩

theorem safe_answer (h : g.Typed G s.heap) (hp : (s.heap.get g.schema).property? name = some p)
    (hfits : s.heap.Fits G p.ty v) :
    g.Safe s (do
      match ← Op.read (g.property? name) with
      | some p => return (p, v)
      | none => throw (.unknownProperty name (← Op.read fun H => (H.get g.schema).name)))
      fun a H => (H.get g.schema).property? name = some a.1 ∧ H.Fits G a.1.ty a.2 := by
  refine Safe.read ?_
  rw [h.property?_eq, hp]
  exact h.safe_pure ⟨hp, hfits⟩

/-- A declared property that holds nothing gets a container. -/
theorem safe_filled {blank : Heap → Value × Heap} (h : g.Typed G s.heap)
    (hp : (s.heap.get g.schema).property? name = some p) (hb : Makes blank) :
    g.Safe s (do
      let mut v ← g.read name
      if v.isNull then
        v ← Op.change blank
        g.write name v
      match ← Op.read (g.property? name) with
      | some p => return (p, v)
      | none => throw (.unknownProperty name (← Op.read fun H => (H.get g.schema).name)))
      fun a H => (H.get g.schema).property? name = some a.1 ∧ H.Fits G a.1.ty a.2 := by
  refine (h.safe_read name).bind fun {v u} hu hkept hfits => ?_
  split
  · refine (hu.safe_made hb).bind fun {w u'} hu' hkept' ⟨hlive, hcontainer⟩ => ?_
    refine (hu'.safe_write name hlive).bind fun {_ u''} hu'' hkept'' ⟨q, hq, hfits⟩ => ?_
    exact hu''.safe_answer hq (hfits hcontainer)
  · exact hu.safe_answer (hkept.property hp) (hfits (hkept.property hp))

/-- What a subscript is applied to is the value of a declared property. -/
theorem safe_container {blank : Heap → Value × Heap} (h : g.Typed G s.heap) (name : String) (hb : Makes blank) :
    g.Safe s (g.container name blank) fun a H =>
      (H.get g.schema).property? name = some a.1 ∧ H.Fits G a.1.ty a.2 := by
  unfold GrowingRecord.container
  refine Safe.read ?_
  rw [h.property?_eq]
  cases hp : (s.heap.get g.schema).property? name with
  | some p => exact h.safe_filled hp hb
  | none =>
    refine (h.safe_made hb).bind fun {v t} ht hkept ⟨hlive, _⟩ => ?_
    refine (ht.safe_write name hlive).bind fun {_ u} hu hkept' ⟨p, hp, _⟩ => ?_
    exact hu.safe_filled hp hb

/-- A list is lengthened where it is; a longer array takes the place of the old one, of the same component. -/
theorem safe_lengthened (h : g.Typed G s.heap) (name : String) (i : Nat) :
    g.Safe s (g.lengthened name i) fun _ _ => True := by
  unfold GrowingRecord.lengthened
  refine (h.safe_container name makes_list).bind fun {a t} ht hkept ⟨hp, hfits⟩ => ?_
  obtain ⟨p, v⟩ := a
  cases v with
  | list l =>
    have hspared : t.heap.SparesRecords (if (t.heap.get l).length ≤ i
        then t.heap.set l (t.heap.get l ++ List.replicate (i + 1 - (t.heap.get l).length) .null) else t.heap) := by
      split
      · exact (Heap.keepsTypes_set (k := .list) nofun nofun).sparesRecords nofun nofun
      · exact .refl _
    exact Safe.bind (Q := fun _ _ => True) (safe_change rfl (ht.spared hspared) trivial)
      fun hu _ _ => hu.safe_pure trivial
  | array l =>
    refine Safe.read ?_
    split
    · exact ht.safe_pure trivial
    · have hadds := (TypedArray.onlyAdds_grown G (t.heap.get l) (i + 1) t.heap).trans
        (Heap.onlyAdds_alloc (k := .array) _ ((t.heap.get l).grown G (i + 1) t.heap).1)
      obtain ⟨htyped, hkept'⟩ := ht.change hadds
      have hcomponent := congrArg TypedArray.component (Heap.get_alloc_self (k := .array)
        ((t.heap.get l).grown G (i + 1) t.heap).2 ((t.heap.get l).grown G (i + 1) t.heap).1)
      have hstored := htyped.store (hkept'.property hp) (hfits.of_component hcomponent) (Heap.has_alloc (k := .array) _)
      refine Safe.bind (Q := fun _ _ => True) (safe_change rfl ⟨hstored.1, hkept'.trans hstored.2⟩ trivial) ?_
      exact fun hu _ _ => hu.safe_pure trivial
  | _ => exact ht.safe_throw

theorem safe_keyed (h : g.Typed G s.heap) (name : String) : g.Safe s (g.keyed name) fun _ _ => True := by
  unfold keyed
  refine (h.safe_container name makes_map).bind fun {a t} ht hkept ⟨hp, hfits⟩ => ?_
  refine Safe.read ?_
  split
  · exact ht.safe_pure trivial
  · exact ht.safe_throw

theorem safe_readElement (h : g.Typed G s.heap) (name : String) (i : Nat) :
    g.Safe s (g.readElement name i) fun _ _ => True :=
  (h.safe_lengthened name i).bind fun ht _ _ => ht.safe_tryRead.mono fun _ => trivial

theorem safe_writeElement (h : g.Typed G s.heap) (name : String) (i : Nat) (v : Value) :
    g.Safe s (g.writeElement name i v) fun _ _ => True :=
  (h.safe_lengthened name i).bind fun ht _ _ =>
    ht.safe_tryWrite fun hset => ⟨ht.spared (Heap.sparesRecords_setElement hset), trivial⟩

theorem safe_readEntry (h : g.Typed G s.heap) (name key : String) :
    g.Safe s (g.readEntry name key) fun _ _ => True :=
  (h.safe_keyed name).bind fun ht _ _ => ht.safe_tryRead.mono fun _ => trivial

theorem safe_writeEntry (h : g.Typed G s.heap) (name key : String) (v : Value) :
    g.Safe s (g.writeEntry name key v) fun _ _ => True :=
  (h.safe_keyed name).bind fun ht _ _ => ht.safe_tryRead.bind fun hu _ _ =>
    hu.safe_tryWrite fun hset => ⟨hu.spared (Heap.sparesRecords_setEntry hset), trivial⟩

theorem safe_eraseEntry (h : g.Typed G s.heap) (name key : String) :
    g.Safe s (g.eraseEntry name key) fun _ _ => True := by
  refine h.safe_tryWrite fun {H} herase => ⟨?_, trivial⟩
  simp only at herase
  split at herase
  · cases herase
    exact ⟨h, .refl g _⟩
  · exact h.spared (Heap.sparesRecords_eraseEntry herase)

end Typed

end GrowingRecord

end ObjectGraph
