import ObjectGraph.Proofs.Object.Freshness
import ObjectGraph.Proofs.Record.Fixed
import ObjectGraph.Proofs.Record.Writing

/-!
Records that keep their values in themselves, fixed or growing.  A write of a name that they take is refused by the type
of the property, and changes nothing, or binds the name to the value that the type makes of the given one.  A growing
record declares the name first if it has to.  From what one write does follows what a sequence of writes does.
-/

namespace ObjectGraph

open Op

namespace Schema
variable {T : Schema} {name other : String} {t : Ty} {p : Property}

/-- The property that a value of a type is written to: the declared one, or else a new one of the type. -/
def slot (T : Schema) (name : String) (t : Ty) : Property := (T.property? name).getD ⟨name, t, none⟩

/-- The schema after a name has been written, which declares the name if it has to. -/
def opened (T : Schema) (name : String) (t : Ty) : Schema := if T.declares name then T else T.put ⟨name, t, none⟩

theorem slot_of_property? (hp : T.property? name = some p) : T.slot name t = p := by rw [slot, hp, Option.getD_some]

theorem slot_of_none (hp : T.property? name = none) : T.slot name t = ⟨name, t, none⟩ := by
  rw [slot, hp, Option.getD_none]

theorem opened_of_declares (h : T.declares name = true) : T.opened name t = T := if_pos h

theorem foldl_opened_of_declares {es : List (String × Value)} (f : Value → Ty)
    (hes : ∀ e ∈ es, T.declares e.1 = true) : es.foldl (fun T e => T.opened e.1 (f e.2)) T = T := by
  induction es with
  | nil => rfl
  | cons e es ih =>
    rw [List.forall_mem_cons] at hes
    rw [List.foldl_cons, opened_of_declares hes.1, ih hes.2]

theorem opened_of_none (hp : T.property? name = none) : T.opened name t = T.put ⟨name, t, none⟩ := by
  rw [opened, declares_eq_false_iff.mpr hp, if_neg Bool.false_ne_true]

theorem property?_opened_of_ne (hne : other ≠ name) : (T.opened name t).property? other = T.property? other := by
  unfold opened
  split
  · rfl
  · rw [property?_put, if_neg (Ne.symm hne)]

theorem isRestricted_opened : (T.opened name t).isRestricted = T.isRestricted := by
  unfold opened
  split <;> rfl

end Schema

namespace Heap

/-- Whether a heap has the cells of another one as they are, except perhaps a record and its schema, and no more. -/
structure SparesBut (h : Handle .record) (S : Handle .schema) (H H' : Heap) : Prop where
  sizes : H.SameSizes H'
  record : ∀ {j : Handle .record}, j ≠ h → H'.get j = H.get j
  schema : ∀ {j : Handle .schema}, j ≠ S → H'.get j = H.get j
  other : ∀ {k : CellKind} {j : Handle k}, k ≠ .record → k ≠ .schema → H'.get j = H.get j

namespace SparesBut
variable {h : Handle .record} {S : Handle .schema} {H H' H'' : Heap}

theorem refl (h : Handle .record) (S : Handle .schema) (H : Heap) : H.SparesBut h S H :=
  ⟨.refl H, fun _ => rfl, fun _ => rfl, fun _ _ => rfl⟩

theorem trans (hs : H.SparesBut h S H') (hs' : H'.SparesBut h S H'') : H.SparesBut h S H'' where
  sizes := hs.sizes.trans hs'.sizes
  record hne := (hs'.record hne).trans (hs.record hne)
  schema hne := (hs'.schema hne).trans (hs.schema hne)
  other hr hc := (hs'.other hr hc).trans (hs.other hr hc)

theorem typeOf (hs : H.SparesBut h S H') : H'.typeOf = H.typeOf := by
  funext v
  cases v with
  | array a => exact congrArg (fun a : TypedArray => Ty.array a.component) (hs.other (k := .array) nofun nofun)
  | object o => exact congrArg (fun o : Object => Ty.object o.cls) (hs.other (k := .object) nofun nofun)
  | _ => rfl

theorem set_record (S : Handle .schema) (c : Record) (hh : H.Has h) : H.SparesBut h S (H.set h c) where
  sizes := .set (k := .record) c hh
  record hne := H.get_set_of_ne (k := .record) c hne
  schema {j} _ := H.get_set_of_kind_ne (k := .record) (j := j) c nofun
  other hr _ := H.get_set_of_kind_ne (k := .record) c hr

theorem set_schema (h : Handle .record) (T : Schema) (hS : H.Has S) : H.SparesBut h S (H.set S T) where
  sizes := .set (k := .schema) T hS
  record {j} _ := H.get_set_of_kind_ne (k := .schema) (j := j) T nofun
  schema hne := H.get_set_of_ne (k := .schema) T hne
  other _ hc := H.get_set_of_kind_ne (k := .schema) T hc

end SparesBut

end Heap

/-! ### What reading leaves as it is -/

namespace GrowingRecord
variable {G : ClassGraph} {g : GrowingRecord} {H H' H'' : Heap}

/-- Whether a cell is the one that a growing record stores its values in. -/
def Stores (g : GrowingRecord) : (k : CellKind) → Handle k → Prop
  | .record, h => h = g.cell
  | .map, m => g.shared = some m
  | _, _ => False

/-- Whether a heap has all cells of another one as they are, except perhaps the one that a growing record stores its
values in, and perhaps more. -/
structure Restores (g : GrowingRecord) (H H' : Heap) : Prop where
  has : ∀ {k : CellKind} {j : Handle k}, H.Has j → H'.Has j
  same : ∀ {k : CellKind} {j : Handle k}, H.Has j → ¬ g.Stores k j → H'.get j = H.get j

namespace Restores

theorem refl (g : GrowingRecord) (H : Heap) : g.Restores H H := ⟨id, fun _ _ => rfl⟩

theorem trans (h : g.Restores H H') (h' : g.Restores H' H'') : g.Restores H H'' where
  has hj := h'.has (h.has hj)
  same hj hnot := (h'.same (h.has hj) hnot).trans (h.same hj hnot)

theorem of_onlyAdds (hadds : H.OnlyAdds H') : g.Restores H H' := ⟨hadds.has, fun hj _ => hadds.same hj⟩

theorem store (name : String) (v : Value) : g.Restores H (g.store name v H) where
  has := has_setValues
  same {k j} _ hnot := by
    unfold GrowingRecord.store setValues
    cases hm : g.shared with
    | none =>
      by_cases hk : k = .record
      · subst hk
        exact H.get_set_of_ne (k := .record) _ hnot
      · exact H.get_set_of_kind_ne (k := .record) _ hk
    | some m =>
      by_cases hk : k = .map
      · subst hk
        refine H.get_set_of_ne (k := .map) _ ?_
        rintro rfl
        exact hnot hm
      · exact H.get_set_of_kind_ne (k := .map) _ hk

end Restores

/-- Reading fills a property, or changes nothing. -/
theorem heap_read_cases (g : GrowingRecord) (name : String) (s : State G) :
    (ExceptT.run (g.read name : Op G Value) s).2.heap = s.heap ∨ ∃ p, g.property? name s.heap = some p ∧
      (ExceptT.run (g.read name : Op G Value) s).2.heap =
        g.store name (G.defaultValue p.ty s.heap).1 (G.defaultValue p.ty s.heap).2 := by
  by_cases hheld : g.stored name s.heap = .null
  · cases hp : g.property? name s.heap with
    | none =>
      have hunfilled : ∀ p, g.property? name s.heap = some p → (G.defaultValue p.ty s.heap).1 = .null := fun p hp' => by
        cases hp.symm.trans hp'
      obtain ⟨v, hrun⟩ := run_read_of_unfilled hunfilled
      exact .inl (by rw [hrun])
    | some p =>
      by_cases hw : (G.defaultValue p.ty s.heap).1 = .null
      · exact .inl (by rw [run_read_of_null hp hheld hw])
      · exact .inr ⟨p, rfl, by rw [run_read_of_filled hp hheld hw]⟩
  · exact .inl (by rw [run_read_of_held hheld])

theorem restores_read (g : GrowingRecord) (name : String) (s : State G) :
    g.Restores s.heap (ExceptT.run (g.read name : Op G Value) s).2.heap := by
  rcases g.heap_read_cases name s with hsame | ⟨p, -, hfilled⟩
  · rw [hsame]
    exact .refl g s.heap
  · rw [hfilled]
    exact (Restores.of_onlyAdds (G.onlyAdds_defaultValue p.ty s.heap).1).trans (.store name _)

end GrowingRecord

/-- A value that the slot does not take is refused. -/
theorem FixedRecord.run_write_of_error {G : ClassGraph} {s : State G} {h : Handle .record} {S : Handle .schema}
    {d : Dict Value} {name : String} {p : Property} {v : Value} {e : Error} (hcell : s.heap.get h = .fixed S d)
    (hp : (s.heap.get S).property? name = some p) (hv : s.heap.coerce G p.ty name v = .error e) :
    ExceptT.run (Record.write h name v : Op G Unit) s = (.error e, s) := by
  have hwrite : write G s.heap (s.heap.get S) d name v = .error e := by
    rw [write, Schema.declared, hp]
    change (s.heap.coerce G p.ty name v >>= _) = _
    rw [hv]
    rfl
  rw [Record.write, run_bind_of_ok (Op.run_read s _), hcell]
  dsimp only
  rw [run_tryWrite, hwrite]
  rfl

/-- The kinds of records that keep their values in themselves. -/
inductive OwnKind
  | fixed
  | growing

namespace OwnKind
variable {G : ClassGraph} {k : OwnKind} {h : Handle .record} {S : Handle .schema} {d d' d'' : Dict Value}
  {H H' H'' : Heap} {s : State G} {name : String} {v w : Value} {e : String × Value} {es : List (String × Value)}
  {err : Error}

/-- A record of a kind. -/
def record : OwnKind → Handle .schema → Dict Value → Record
  | fixed, S, d => .fixed S d
  | growing, S, d => .growing S (.own d)

/-- Whether a name is declared, or is declared when it is written. -/
def takes : OwnKind → Schema → String → Bool
  | fixed, T, name => T.declares name
  | growing, T, name => T.declares name || !T.isRestricted

/-- Whether a record of a kind stands in a heap, with its schema and its values. -/
structure Stands (k : OwnKind) (h : Handle .record) (S : Handle .schema) (d : Dict Value) (H : Heap) : Prop where
  cell : H.get h = k.record S d
  hasCell : H.Has h
  hasSchema : H.Has S

/-- What becomes of a value that is written under a name, or why it is refused. -/
def fitted (G : ClassGraph) (S : Handle .schema) (H : Heap) (e : String × Value) : Except Error Value :=
  H.coerce G ((H.get S).slot e.1 (H.typeOf e.2)).ty e.1 e.2

/-- Whether a heap is one in which entries have been written to a record, and nothing else has changed: the record has
the values, names that were not declared have been so in the order of the entries, and the record holds under all
other names what it held. -/
structure Filled (G : ClassGraph) (k : OwnKind) (h : Handle .record) (S : Handle .schema) (es : List (String × Value))
    (d : Dict Value) (H : Heap) (d' : Dict Value) (H' : Heap) : Prop where
  stands : k.Stands h S d' H'
  schema : H'.get S = es.foldl (fun T e => T.opened e.1 (H.typeOf e.2)) (H.get S)
  written : ∀ e ∈ es, ∃ w, fitted G S H e = .ok w ∧ d'.get? e.1 = some w
  kept : ∀ name, (∀ e ∈ es, e.1 ≠ name) → d'.get? name = d.get? name
  spares : H.SparesBut h S H'

/-- Whether a heap is a later one in which a record has been written, but not yet under some name. -/
structure Awaits (k : OwnKind) (h : Handle .record) (S : Handle .schema) (name : String) (H H' : Heap) : Prop where
  stands : ∃ d, k.Stands h S d H'
  property : (H'.get S).property? name = (H.get S).property? name
  restricted : (H'.get S).isRestricted = (H.get S).isRestricted
  spares : H.SparesBut h S H'

/-! ### Sequences of writes -/

theorem takes_of_declares {T : Schema} (h : T.declares name = true) : k.takes T name = true := by
  cases k with
  | fixed => exact h
  | growing => rw [takes, h, Bool.true_or]

namespace Awaits

theorem refl (hd : k.Stands h S d H) : k.Awaits h S name H H := ⟨⟨d, hd⟩, rfl, rfl, .refl h S H⟩

theorem trans (ha : k.Awaits h S name H H') (ha' : k.Awaits h S name H' H'') : k.Awaits h S name H H'' :=
  ⟨ha'.stands, ha'.property.trans ha.property, ha'.restricted.trans ha.restricted, ha.spares.trans ha'.spares⟩

theorem takes_eq (ha : k.Awaits h S name H H') : k.takes (H'.get S) name = k.takes (H.get S) name := by
  have hdeclares : (H'.get S).declares name = (H.get S).declares name := by
    rw [Schema.declares_eq, ha.property, Schema.declares_eq]
  cases k with
  | fixed => exact hdeclares
  | growing => rw [takes, hdeclares, ha.restricted, takes]

theorem fitted_eq (ha : k.Awaits h S e.1 H H') : fitted G S H' e = fitted G S H e := by
  have htype : H'.typeOf e.2 = H.typeOf e.2 := congrFun ha.spares.typeOf e.2
  rw [fitted, Schema.slot, ha.property, htype, Heap.coerce_congr htype, fitted, Schema.slot]

end Awaits

namespace Filled

theorem nil (hd : k.Stands h S d H) : k.Filled G h S [] d H d H where
  stands := hd
  schema := rfl
  written := List.forall_mem_nil _
  kept _ _ := rfl
  spares := .refl h S H

theorem awaits (hone : k.Filled G h S [e] d H d' H') (hne : name ≠ e.1) : k.Awaits h S name H H' where
  stands := ⟨d', hone.stands⟩
  property := by
    rw [hone.schema]
    exact Schema.property?_opened_of_ne hne
  restricted := by
    rw [hone.schema]
    exact Schema.isRestricted_opened
  spares := hone.spares

theorem cons (hone : k.Filled G h S [e] d H d' H') (hrest : k.Filled G h S es d' H' d'' H'')
    (hnew : ∀ e' ∈ es, e'.1 ≠ e.1) : k.Filled G h S (e :: es) d H d'' H'' where
  stands := hrest.stands
  schema := by rw [hrest.schema, hone.schema, hone.spares.typeOf, List.foldl_cons, List.foldl_nil, List.foldl_cons]
  written := by
    rw [List.forall_mem_cons]
    constructor
    · obtain ⟨w, hw, hd⟩ := hone.written e List.mem_cons_self
      exact ⟨w, hw, (hrest.kept e.1 hnew).trans hd⟩
    · intro e' he'
      obtain ⟨w, hw, hd⟩ := hrest.written e' he'
      exact ⟨w, (hone.awaits (hnew e' he')).fitted_eq.symm.trans hw, hd⟩
  kept name hname := by
    rw [List.forall_mem_cons] at hname
    exact (hrest.kept name hname.2).trans (hone.kept name (List.forall_mem_singleton.mpr hname.1))
  spares := hone.spares.trans hrest.spares

end Filled

/-! ### One write -/

theorem exists_stands_of_isIn (hg : GrowingRecord.IsIn ⟨h, S, none⟩ H) : ∃ d, growing.Stands h S d H := by
  obtain ⟨store, hcell, hstore⟩ := hg.cell
  cases store with
  | own d => exact ⟨d, hcell, hg.hasCell, hg.hasSchema⟩
  | shared m => cases hstore

namespace Stands

theorem stored?_eq (hd : k.Stands h S d H) : H.stored? h = some d := by
  rw [Heap.stored?, hd.cell]
  cases k <;> rfl

theorem schemaOf_eq (hd : k.Stands h S d H) : H.schemaOf h = H.get S := by
  rw [Heap.schemaOf, hd.cell]
  cases k <;> rfl

/-- A record stands in a heap in which its cell is as it was. -/
theorem of_same (hd : k.Stands h S d H) (hcell : H'.get h = H.get h) (hhas : H'.Has h) (hschema : H'.Has S) :
    k.Stands h S d H' := ⟨hcell.trans hd.cell, hhas, hschema⟩

theorem property?_eq (hd : k.Stands h S d H) (name : String) :
    Record.property? h name H = (H.get S).property? name := by
  rw [Record.property?, hd.schemaOf_eq, hd.cell]
  cases k with
  | fixed => rfl
  | growing =>
    change GrowingRecord.property? ⟨h, S, none⟩ name H = _
    rw [GrowingRecord.property?]
    cases (H.get S).property? name <;> rfl

/-- The record may be bound to other values on a heap on which its schema has been opened for the entry. -/
theorem filled_set (hd : k.Stands h S d H) (hw : fitted G S H e = .ok w)
    (hspares : H.SparesBut h S H') (hschema : H'.get S = (H.get S).opened e.1 (H.typeOf e.2)) :
    k.Filled G h S [e] d H (d.insert e.1 w) (H'.set h (k.record S (d.insert e.1 w))) where
  stands := ⟨H'.get_set_self (k := .record) h _, Heap.has_set (hspares.sizes.has hd.hasCell),
    Heap.has_set (hspares.sizes.has hd.hasSchema)⟩
  schema := (H'.get_set_of_kind_ne (k := .record) (j := S) _ nofun).trans hschema
  written := List.forall_mem_singleton.mpr ⟨w, hw, by rw [Dict.get?_insert, if_pos rfl]⟩
  kept name hname := by rw [Dict.get?_insert, if_neg (Ne.symm (hname e List.mem_cons_self))]
  spares := hspares.trans (.set_record S _ (hspares.sizes.has hd.hasCell))

theorem filled_set_self (hd : k.Stands h S d H) (hw : fitted G S H e = .ok w) (hdeclared : (H.get S).declares e.1 = true) :
    k.Filled G h S [e] d H (d.insert e.1 w) (H.set h (k.record S (d.insert e.1 w))) :=
  hd.filled_set hw (.refl h S H) (Schema.opened_of_declares hdeclared).symm

theorem isIn (hd : growing.Stands h S d H) : GrowingRecord.IsIn ⟨h, S, none⟩ H :=
  ⟨⟨.own d, hd.cell, rfl⟩, hd.hasCell, hd.hasSchema, nofun⟩

theorem property?_growing (hd : growing.Stands h S d H) (name : String) :
    GrowingRecord.property? ⟨h, S, none⟩ name H = (H.get S).property? name :=
  (GrowingRecord.InCell.property?_eq hd.isIn.cell name).symm.trans (hd.property?_eq name)

theorem run_write_growing (hd : growing.Stands h S d s.heap) (name : String) (v : Value) :
    ExceptT.run (Record.write h name v : Op G Unit) s =
      ExceptT.run (GrowingRecord.write ⟨h, S, none⟩ name v : Op G Unit) s :=
  GrowingRecord.InCell.run_write hd.isIn.cell name v

theorem store_growing (hd : growing.Stands h S d H) (name : String) (w : Value) :
    GrowingRecord.store ⟨h, S, none⟩ name w H = H.set h (growing.record S (d.insert name w)) := by
  have hvalues : GrowingRecord.values ⟨h, S, none⟩ H = d := GrowingRecord.values_of_cell rfl hd.cell
  rw [GrowingRecord.store, hvalues]
  rfl

/-- A value that the type of the property takes is written. -/
theorem run_write_of_ok (hd : k.Stands h S d s.heap) (htakes : k.takes (s.heap.get S) e.1 = true)
    (hw : fitted G S s.heap e = .ok w) : ∃ H', ExceptT.run (Record.write h e.1 e.2 : Op G Unit) s =
      (.ok (), { s with heap := H' }) ∧ k.Filled G h S [e] d s.heap (d.insert e.1 w) H' := by
  cases hp : (s.heap.get S).property? e.1 with
  | some p =>
    have hdeclared := Schema.declares_iff_exists.mpr ⟨p, hp⟩
    refine ⟨_, ?_, hd.filled_set_self hw hdeclared⟩
    rw [fitted, Schema.slot_of_property? hp] at hw
    cases k with
    | fixed => exact FixedRecord.run_write hd.cell hp hw
    | growing =>
      rw [hd.run_write_growing, GrowingRecord.run_write_of_property ((hd.property?_growing e.1).trans hp), hw]
      dsimp only
      rw [hd.store_growing]
  | none =>
    have hnot := Schema.declares_eq_false_iff.mpr hp
    cases k with
    | fixed => exact absurd (hnot.symm.trans htakes) Bool.false_ne_true
    | growing =>
      have hfree : (s.heap.get S).isRestricted = false := by
        rw [takes, hnot, Bool.false_or] at htakes
        exact Bool.not_eq_true' _ ▸ htakes
      let K := s.heap.set S ((s.heap.get S).put ⟨e.1, s.heap.typeOf e.2, none⟩)
      have hspares : s.heap.SparesBut h S K := .set_schema h _ hd.hasSchema
      have hschema : K.get S = (s.heap.get S).opened e.1 (s.heap.typeOf e.2) := by
        rw [Schema.opened_of_none hp]
        exact s.heap.get_set_self (k := .schema) S _
      have hK : growing.Stands h S d K :=
        ⟨(s.heap.get_set_of_kind_ne (k := .schema) (j := h) _ nofun).trans hd.cell, hspares.sizes.has hd.hasCell,
          hspares.sizes.has hd.hasSchema⟩
      obtain ⟨hdeclared, hrun⟩ := GrowingRecord.run_write_of_free (g := ⟨h, S, none⟩) (t := { s with heap := K })
        (v := e.2) ((hd.property?_growing e.1).trans hp) hfree rfl
      refine ⟨_, ?_, hd.filled_set hw hspares hschema⟩
      rw [fitted, Schema.slot_of_none hp] at hw
      -- The value is converted after the declaration, which changes the type of no value.
      rw [hd.run_write_growing, hrun, GrowingRecord.run_write_of_property hdeclared,
        Heap.coerce_congr (congrFun hspares.typeOf e.2), hw]
      dsimp only
      rw [hK.store_growing]

/-- A value that the type does not take is refused, and nothing changes. -/
theorem run_write_of_error (hd : k.Stands h S d s.heap) (htakes : k.takes (s.heap.get S) e.1 = true)
    (hw : fitted G S s.heap e = .error err) : ExceptT.run (Record.write h e.1 e.2 : Op G Unit) s = (.error err, s) := by
  cases hp : (s.heap.get S).property? e.1 with
  | some p =>
    rw [fitted, Schema.slot_of_property? hp] at hw
    cases k with
    | fixed => exact FixedRecord.run_write_of_error hd.cell hp hw
    | growing =>
      rw [hd.run_write_growing, GrowingRecord.run_write_of_property ((hd.property?_growing e.1).trans hp), hw]
  | none =>
    -- A new property is of the type of the value.
    rw [fitted, Schema.slot_of_none hp, (s.heap.fits_typeOf e.2).coerce] at hw
    cases hw

/-- A name that the record does not take cannot be written. -/
theorem state_write_of_not_takes (hd : k.Stands h S d s.heap) (htakes : k.takes (s.heap.get S) name = false) (v : Value) :
    (ExceptT.run (Record.write h name v : Op G Unit) s).2 = s := by
  cases k with
  | fixed =>
    refine (FixedRecord.run_write_cases hd.cell name v).resolve_right ?_
    rintro ⟨p, w, hp, -⟩
    exact Bool.false_ne_true (htakes.symm.trans (Schema.declares_iff_exists.mpr ⟨p, hp⟩))
  | growing =>
    rw [takes, Bool.or_eq_false_iff, Schema.declares_eq_false_iff, Bool.not_eq_false'] at htakes
    rw [hd.run_write_growing, GrowingRecord.run_write_of_closed v ((hd.property?_growing name).trans htakes.1) htakes.2]

/-- Whatever comes of a write, the record stands, no cells but its own and that of its schema have changed, and the
schema of a fixed record has not either. -/
theorem after_write (hd : k.Stands h S d s.heap) (name : String) (v : Value) :
    (∃ d', k.Stands h S d' (ExceptT.run (Record.write h name v : Op G Unit) s).2.heap) ∧
      s.heap.SparesBut h S (ExceptT.run (Record.write h name v : Op G Unit) s).2.heap ∧
      (k = .fixed → (ExceptT.run (Record.write h name v : Op G Unit) s).2.heap.get S = s.heap.get S) := by
  cases htakes : k.takes (s.heap.get S) name with
  | false =>
    rw [hd.state_write_of_not_takes htakes]
    exact ⟨⟨d, hd⟩, .refl h S s.heap, fun _ => rfl⟩
  | true =>
    cases hw : fitted G S s.heap (name, v) with
    | error err =>
      rw [hd.run_write_of_error htakes hw]
      exact ⟨⟨d, hd⟩, .refl h S s.heap, fun _ => rfl⟩
    | ok w =>
      obtain ⟨H', hrun, hfilled⟩ := hd.run_write_of_ok htakes hw
      rw [hrun]
      refine ⟨⟨_, hfilled.stands⟩, hfilled.spares, ?_⟩
      rintro rfl
      exact hfilled.schema.trans (Schema.opened_of_declares htakes)

end Stands

/-! ### Reading -/

/-- Whether a property of a type that holds null is read as null. -/
def LeavesNull (G : ClassGraph) (t : Ty) : OwnKind → Prop
  | fixed => t.zero = .null
  | growing => ∀ H, (G.defaultValue t H).1 = .null

namespace Stands
variable {p : Property} {t u : State G}

theorem run_read_growing (hd : growing.Stands h S d s.heap) (name : String) :
    ExceptT.run (Record.read h name : Op G Value) s =
      ExceptT.run (GrowingRecord.read ⟨h, S, none⟩ name : Op G Value) s := by
  rw [Record.read, run_bind_of_ok (Op.run_read s _), hd.cell]
  rfl

theorem stored_growing (hd : growing.Stands h S d H) (name : String) :
    GrowingRecord.stored ⟨h, S, none⟩ name H = (d.get? name).getD .null := by
  rw [GrowingRecord.stored, GrowingRecord.values_of_cell rfl hd.cell]

/-- What a property holds is read, and nothing changes by that, unless it is filled. -/
theorem run_read_of_leavesNull (hd : k.Stands h S d s.heap) (hp : (s.heap.get S).property? name = some p)
    (hv : (d.get? name).getD .null = v) (hnull : v = .null → k.LeavesNull G p.ty) :
    ExceptT.run (Record.read h name : Op G Value) s = (.ok v, s) := by
  cases k with
  | fixed =>
    obtain rfl := Schema.name_of_property? hp
    rw [FixedRecord.run_read hd.cell hp, FixedRecord.shown, hv]
    split
    · rename_i hisNull
      obtain rfl := Value.isNull_iff.mp hisNull
      rw [show p.ty.zero = .null from hnull rfl]
    · rfl
  | growing =>
    have hstored := (hd.stored_growing name).trans hv
    rw [hd.run_read_growing]
    by_cases hv : v = .null
    · rw [hv] at hstored
      rw [hv]
      exact GrowingRecord.run_read_of_null ((hd.property?_growing name).trans hp) hstored (hnull hv s.heap)
    · rw [GrowingRecord.run_read_of_held (hstored.symm ▸ hv), hstored]

theorem run_read_fixed (hd : fixed.Stands h S d s.heap) (name : String) :
    ExceptT.run (Record.read h name : Op G Value) s = (FixedRecord.read (s.heap.get S) d name, s) := by
  rw [Record.read, run_bind_of_ok (Op.run_read s _), hd.cell]
  exact run_tryRead s _

/-- What is read of a record depends on its own cell and that of its schema, and else only on the number of cells. -/
theorem answer_read_congr (hd : k.Stands h S d t.heap) (hcell : u.heap.get h = t.heap.get h)
    (hschema : u.heap.get S = t.heap.get S) (hsizes : t.heap.SameSizes u.heap) (name : String) :
    (ExceptT.run (Record.read h name : Op G Value) u).1 = (ExceptT.run (Record.read h name : Op G Value) t).1 := by
  have hu : k.Stands h S d u.heap := ⟨hcell.trans hd.cell, hsizes.has hd.hasCell, hsizes.has hd.hasSchema⟩
  cases k with
  | fixed => rw [hd.run_read_fixed, hu.run_read_fixed, hschema]
  | growing =>
    have hproperty : GrowingRecord.property? ⟨h, S, none⟩ name u.heap =
        GrowingRecord.property? ⟨h, S, none⟩ name t.heap := by
      rw [hu.property?_growing, hd.property?_growing, hschema]
    rw [hd.run_read_growing, hu.run_read_growing, GrowingRecord.read, run_change, run_change]
    dsimp only
    rw [hu.stored_growing, hd.stored_growing, hproperty]
    split
    · split
      · rfl
      · rename_i p _
        exact congrArg Except.ok (G.givesSame_defaultValue p.ty hsizes).1
    · rfl

end Stands

end OwnKind

end ObjectGraph
