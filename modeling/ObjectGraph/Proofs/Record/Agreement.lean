import ObjectGraph.Proofs.Record.Growing
import ObjectGraph.Record.Operations

/-!
One property of a record that is declared and holds something.  A fixed and a growing record answer each call on it
alike, or both refuse it, and leave the same store and the same containers.  Both do with it what the common `effect`
of the call says, although they look for the property, make room and check the written value in another order.
-/

namespace ObjectGraph

namespace Heap

/-! ### Changes elsewhere -/

/-- Whether a change of heaps changes no cell that a look into a value would read, and no types. -/
structure Aside (f : Heap → Heap) (v : Value) : Prop where
  list : ∀ (H : Heap) (l : Handle .list), (f H).get l = H.get l
  array : ∀ (H : Heap) (a : Handle .array), (f H).get a = H.get a
  object : ∀ (H : Heap) (o : Handle .object), (f H).get o = H.get o
  map : ∀ (H : Heap) (m : Handle .map), v = .map m → (f H).get m = H.get m
  setList : ∀ (H : Heap) (l : Handle .list) (c : List Value), f (H.set l c) = (f H).set l c
  setArray : ∀ (H : Heap) (a : Handle .array) (c : TypedArray), f (H.set a c) = (f H).set a c
  setObject : ∀ (H : Heap) (o : Handle .object) (c : Object), f (H.set o c) = (f H).set o c
  setMap : ∀ (H : Heap) (m : Handle .map) (c : Dict Value), v = .map m → f (H.set m c) = (f H).set m c

theorem aside_setRecord (h : Handle .record) (a : Record) (v : Value) : Aside (fun H => H.set h a) v where
  list H _ := H.get_set_of_kind_ne (k := .record) a nofun
  array H _ := H.get_set_of_kind_ne (k := .record) a nofun
  object H _ := H.get_set_of_kind_ne (k := .record) a nofun
  map H _ _ := H.get_set_of_kind_ne (k := .record) a nofun
  setList H _ _ := H.set_comm_of_kind_ne (k := .list) (l := .record) _ a nofun
  setArray H _ _ := H.set_comm_of_kind_ne (k := .array) (l := .record) _ a nofun
  setObject H _ _ := H.set_comm_of_kind_ne (k := .object) (l := .record) _ a nofun
  setMap H _ _ _ := H.set_comm_of_kind_ne (k := .map) (l := .record) _ a nofun

theorem aside_setMap {m : Handle .map} {v : Value} (d : Dict Value) (hv : v ≠ .map m) :
    Aside (fun H => H.set m d) v where
  list H _ := H.get_set_of_kind_ne (k := .map) d nofun
  array H _ := H.get_set_of_kind_ne (k := .map) d nofun
  object H _ := H.get_set_of_kind_ne (k := .map) d nofun
  map H _ h := H.get_set_of_ne (k := .map) d fun hm => hv (hm ▸ h)
  setList H _ _ := H.set_comm_of_kind_ne (k := .list) (l := .map) _ d nofun
  setArray H _ _ := H.set_comm_of_kind_ne (k := .array) (l := .map) _ d nofun
  setObject H _ _ := H.set_comm_of_kind_ne (k := .object) (l := .map) _ d nofun
  setMap H _ _ h := H.set_comm_of_ne (k := .map) _ d fun hm => hv (hm ▸ h)

namespace Aside
variable {G : ClassGraph} {f g : Heap → Heap} {v w : Value} {t : Ty} {name key : String} {i : Nat} {H : Heap}

theorem comp (hg : Aside g v) (hf : Aside f v) : Aside (fun H => g (f H)) v where
  list H l := (hg.list _ l).trans (hf.list H l)
  array H a := (hg.array _ a).trans (hf.array H a)
  object H o := (hg.object _ o).trans (hf.object H o)
  map H m h := (hg.map _ m h).trans (hf.map H m h)
  setList H l c := (congrArg g (hf.setList H l c)).trans (hg.setList _ l c)
  setArray H a c := (congrArg g (hf.setArray H a c)).trans (hg.setArray _ a c)
  setObject H o c := (congrArg g (hf.setObject H o c)).trans (hg.setObject _ o c)
  setMap H m c h := (congrArg g (hf.setMap H m c h)).trans (hg.setMap _ m c h)

theorem coerce (hf : Aside f v) (H : Heap) (t : Ty) (name : String) (w : Value) :
    (f H).coerce G t name w = H.coerce G t name w := by
  refine coerce_congr ?_
  cases w with
  | array a => exact congrArg (fun c : TypedArray => Ty.array c.component) (hf.array H a)
  | object o => exact congrArg (fun c : Object => Ty.object c.cls) (hf.object H o)
  | _ => rfl

theorem items? (hf : Aside f v) : (f H).items? v = H.items? v := by
  cases v with
  | list l => exact congrArg some (hf.list H l)
  | array a => exact congrArg (fun c : TypedArray => some c.items) (hf.array H a)
  | _ => rfl

theorem element (hf : Aside f v) : (f H).element name i v = H.element name i v := by
  rw [Heap.element, hf.items?, Heap.element]

theorem entries? (hf : Aside f v) : (f H).entries? v = H.entries? v := by
  cases v with
  | map m => exact congrArg some (hf.map H m rfl)
  | object o => exact congrArg Object.storage (hf.object H o)
  | _ => rfl

theorem entries (hf : Aside f v) : (f H).entries name v = H.entries name v := by
  rw [Heap.entries, hf.entries?, Heap.entries]

theorem entry (hf : Aside f v) : (f H).entry name key v = H.entry name key v := by
  rw [Heap.entry, hf.entries, Heap.entry]

theorem setEntries (hf : Aside f v) (d : Dict Value) : (f H).setEntries d v = f (H.setEntries d v) := by
  cases v with
  | map m => exact (hf.setMap H m d rfl).symm
  | object o =>
    change (f H).set o _ = f (H.set o _)
    rw [hf.object, ← hf.setObject]
  | _ => rfl

theorem setEntry (hf : Aside f v) : (f H).setEntry name key w v = (H.setEntry name key w v).map f := by
  rw [Heap.setEntry, hf.entries, Heap.setEntry]
  cases H.entries name v with
  | error e => rfl
  | ok d => exact congrArg Except.ok (hf.setEntries _)

theorem eraseEntry (hf : Aside f v) : (f H).eraseEntry name key v = (H.eraseEntry name key v).map f := by
  rw [Heap.eraseEntry, hf.entries, Heap.eraseEntry]
  cases H.entries name v with
  | error e => rfl
  | ok d => exact congrArg Except.ok (hf.setEntries _)

theorem setElement (hf : Aside f v) :
    (f H).setElement G name i w t v = (H.setElement G name i w t v).map f := by
  cases v with
  | list l =>
    simp only [Heap.setElement, hf.coerce, hf.list]
    cases H.coerce G t name w with
    | error e => rfl
    | ok w =>
      change replaceAt name i w (H.get l) >>= _ = (replaceAt name i w (H.get l) >>= _).map f
      cases replaceAt name i w (H.get l) with
      | error e => rfl
      | ok items => exact congrArg Except.ok (hf.setList H l items).symm
  | array a =>
    simp only [Heap.setElement, hf.coerce, hf.array]
    cases H.coerce G (H.get a).component name w with
    | error e => rfl
    | ok w =>
      change replaceAt name i w (H.get a).items >>= _ = (replaceAt name i w (H.get a).items >>= _).map f
      cases replaceAt name i w (H.get a).items with
      | error e => rfl
      | ok items => exact congrArg Except.ok (hf.setArray H a _).symm
  | _ => rfl

end Aside

end Heap

namespace Record
variable {G : ClassGraph} {H : Heap} {h : Handle .record} {name : String} {p : Property} {v : Value} {d : Dict Value}
  {place : Dict Value → Heap → Heap} {caches : Table (SoundCache G)}

/-! ### Calls on a property -/

/-- A call on one property of a record. -/
inductive SlotCall
  | read
  | write (v : Value)
  | readElement (i : Nat)
  | writeElement (i : Nat) (v : Value)
  | readEntry (key : String)
  | writeEntry (key : String) (v : Value)
  | eraseEntry (key : String)

namespace SlotCall

/-- Makes a call on a property of a record.  One that answers nothing answers null here. -/
def run (h : Handle .record) (name : String) : SlotCall → Op G Value
  | .read => Record.read h name
  | .write v => do
    Record.write h name v
    return .null
  | .readElement i => Record.readElement h name i
  | .writeElement i v => do
    Record.writeElement h name i v
    return .null
  | .readEntry key => Record.readEntry h name key
  | .writeEntry key v => do
    Record.writeEntry h name key v
    return .null
  | .eraseEntry key => do
    Record.eraseEntry h name key
    return .null

/-- Whether the index of a call, if it has one, is that of an element; it may be any if there are no elements. -/
def InRange (H : Heap) (held : Value) : SlotCall → Prop
  | .readElement i | .writeElement i _ => ∀ items, H.items? held = some items → i < items.length
  | _ => True

/-- What a call does with a property that holds a value: the answer, the containers, and what the record stores. -/
def effect (G : ClassGraph) (H : Heap) (d : Dict Value) (p : Property) (name : String) (held : Value) :
    SlotCall → Except Error (Value × Heap × Dict Value)
  | .read => .ok (held, H, d)
  | .write v => (H.coerce G p.ty name v).map fun w => (.null, H, d.insert name w)
  | .readElement i => (H.element name i held).map fun w => (w, H, d)
  | .writeElement i v => (H.setElement G name i v p.elementTy held).map fun H' => (.null, H', d)
  | .readEntry key => (H.entry name key held).map fun w => (w, H, d)
  | .writeEntry key v =>
    (H.coerce G p.elementTy name v >>= fun w => H.setEntry name key w held).map fun H' => (.null, H', d)
  | .eraseEntry key => (H.eraseEntry name key held).map fun H' => (.null, H', d)

end SlotCall

/-- Whether an operation on a record that stores values in some place does what an effect says, and fails without
a change where there is none. -/
def Performs (place : Dict Value → Heap → Heap) (d : Dict Value) (H : Heap) (caches : Table (SoundCache G))
    (x : Op G Value) : Except Error (Value × Heap × Dict Value) → Prop
  | .ok (a, H', d') => ExceptT.run x ⟨place d H, caches⟩ = (.ok a, ⟨place d' H', caches⟩)
  | .error _ => ∃ e, ExceptT.run x ⟨place d H, caches⟩ = (.error e, ⟨place d H, caches⟩)

namespace Performs
variable {x : Op G Value} {y : Op G Unit}

theorem of_read {r : Except Error Value} (hrun : ExceptT.run x ⟨place d H, caches⟩ = (r, ⟨place d H, caches⟩)) :
    Performs place d H caches x (r.map fun a => (a, H, d)) := by
  cases r with
  | error e => exact ⟨e, hrun⟩
  | ok a => exact hrun

/-- What changes containers with the same result as without the record has that result with it. -/
theorem of_tryWrite {F : Heap → Except Error Heap} {r : Except Error Heap}
    (hrun : ExceptT.run y ⟨place d H, caches⟩ = ExceptT.run (Op.tryWrite F) ⟨place d H, caches⟩)
    (hF : F (place d H) = r.map (place d)) :
    Performs place d H caches (do y; return .null) (r.map fun H' => (.null, H', d)) := by
  rw [Op.run_tryWrite, hF] at hrun
  cases r with
  | error e => exact ⟨e, Op.run_bind_of_error hrun⟩
  | ok H' => exact Op.run_bind_of_ok hrun

theorem of_write {r : Except Error Value}
    (hrun : ExceptT.run y ⟨place d H, caches⟩ =
      match r with
      | .ok w => (.ok (), ⟨place (d.insert name w) H, caches⟩)
      | .error e => (.error e, ⟨place d H, caches⟩)) :
    Performs place d H caches (do y; return .null) (r.map fun w => (.null, H, d.insert name w)) := by
  cases r with
  | error e => exact ⟨e, Op.run_bind_of_error hrun⟩
  | ok w => exact Op.run_bind_of_ok hrun

/-- Two records that do what the same effect says agree. -/
theorem agree {place' : Dict Value → Heap → Heap} {x' : Op G Value} {r : Except Error (Value × Heap × Dict Value)}
    (hx : Performs place d H caches x r) (hx' : Performs place' d H caches x' r) : ∃ H' d',
      (ExceptT.run x ⟨place d H, caches⟩).1.toOption = (ExceptT.run x' ⟨place' d H, caches⟩).1.toOption ∧
      (ExceptT.run x ⟨place d H, caches⟩).2 = ⟨place d' H', caches⟩ ∧
      (ExceptT.run x' ⟨place' d H, caches⟩).2 = ⟨place' d' H', caches⟩ := by
  match r with
  | .ok (a, H', d') =>
    have hrun : ExceptT.run x ⟨place d H, caches⟩ = _ := hx
    have hrun' : ExceptT.run x' ⟨place' d H, caches⟩ = _ := hx'
    exact ⟨H', d', by rw [hrun, hrun'], by rw [hrun], by rw [hrun']⟩
  | .error _ =>
    obtain ⟨e, hrun⟩ := hx
    obtain ⟨e', hrun'⟩ := hx'
    exact ⟨H, d, by rw [hrun, hrun']; rfl, by rw [hrun], by rw [hrun']⟩

end Performs

end Record

namespace FixedRecord
variable {G : ClassGraph} {H : Heap} {h : Handle .record} {S : Handle .schema} {name : String} {p : Property} {v : Value}
  {d : Dict Value} {caches : Table (SoundCache G)}

open Record SlotCall

/-- A property that holds something is read as that. -/
theorem read_of_get? {T : Schema} (hp : T.property? name = some p) (hheld : d.get? name = some v) (hv : v ≠ .null) :
    read T d name = .ok v := by
  rw [read, Schema.declared, hp, hheld]
  change Except.ok (if v.isNull then p.ty.zero else v) = _
  rw [Value.isNull_eq_false_iff.mpr hv]
  rfl

theorem performs (hp : (H.get S).property? name = some p) (hheld : d.get? name = some v) (hv : v ≠ .null)
    (c : SlotCall) :
    Performs (fun d H => H.set h (.fixed S d)) d H caches (c.run h name) (c.effect G H d p name v) := by
  have hcell {α : Type} (k : Record → Op G α) :
      ExceptT.run (Op.read (fun H => H.get h) >>= k) ⟨H.set h (.fixed S d), caches⟩ =
        ExceptT.run (k (.fixed S d)) ⟨H.set h (.fixed S d), caches⟩ := by
    rw [Op.run_bind_of_ok (Op.run_read _ _), H.get_set_self (k := .record)]
  have hschema : (H.set h (.fixed S d)).get S = H.get S := H.get_set_of_kind_ne (k := .record) _ nofun
  have hread := read_of_get? hp hheld hv
  have hdeclared : (H.get S).declared name = .ok p := by rw [Schema.declared, hp]
  have hthere (s : Subscript) : v.subscripted name s = .ok v := if_neg (by rw [Value.isNull_eq_false_iff.mpr hv]; nofun)
  have haside := Heap.aside_setRecord h (.fixed S d) v
  cases c with
  | read =>
    change ExceptT.run (Record.read h name) _ = _
    rw [Record.read, hcell]
    dsimp only
    rw [Op.run_tryRead, hschema, hread]
  | write w =>
    refine .of_write ?_
    rw [Record.write, hcell]
    dsimp only
    have hwrite : write G (H.set h (.fixed S d)) (H.get S) d name w = (H.coerce G p.ty name w).map (d.insert name) := by
      rw [write, hdeclared]
      change (H.set h _).coerce G p.ty name w >>= _ = _
      rw [haside.coerce]
      rfl
    rw [Op.run_tryWrite, hschema, hwrite]
    cases H.coerce G p.ty name w with
    | error e => rfl
    | ok u => exact congrArg (fun H' => (Except.ok (), State.mk H' caches)) (H.set_set (k := .record) h _ _)
  | readElement i =>
    refine .of_read ?_
    change ExceptT.run (Record.readElement h name i) _ = _
    rw [Record.readElement, hcell]
    dsimp only
    rw [Op.run_tryRead, hschema, readElement, hread]
    change (v.subscripted name _ >>= _, _) = _
    rw [hthere]
    exact congrArg (·, _) haside.element
  | writeElement i w =>
    refine .of_tryWrite (F := fun H => writeElement G H (H.get S) d name i w) ?_ ?_
    · rw [Record.writeElement, hcell]
    · rw [hschema, writeElement, hdeclared, hread]
      change (v.subscripted name _ >>= _) = _
      rw [hthere]
      exact haside.setElement
  | readEntry key =>
    refine .of_read ?_
    change ExceptT.run (Record.readEntry h name key) _ = _
    rw [Record.readEntry, hcell]
    dsimp only
    rw [Op.run_tryRead, hschema, readEntry, hread]
    change (v.subscripted name _ >>= _, _) = _
    rw [hthere]
    exact congrArg (·, _) haside.entry
  | writeEntry key w =>
    refine .of_tryWrite (F := fun H => writeEntry G H (H.get S) d name key w) ?_ ?_
    · rw [Record.writeEntry, hcell]
    · rw [hschema, writeEntry, hdeclared, hread]
      change ((H.set h _).coerce G p.elementTy name w >>= _) = (H.coerce G p.elementTy name w >>= _).map _
      rw [haside.coerce]
      cases H.coerce G p.elementTy name w with
      | error e => rfl
      | ok u =>
        change (v.subscripted name _ >>= _) = _
        rw [hthere]
        exact haside.setEntry
  | eraseEntry key =>
    refine .of_tryWrite (F := fun H => eraseEntry H (H.get S) d name key) ?_ ?_
    · rw [Record.eraseEntry, hcell]
    · rw [hschema, eraseEntry, hread]
      change (v.subscripted name _ >>= _) = _
      rw [hthere]
      exact haside.eraseEntry

end FixedRecord

namespace GrowingRecord
variable {G : ClassGraph} {H : Heap} {g : GrowingRecord} {name key : String} {p : Property} {v : Value} {d : Dict Value}
  {caches : Table (SoundCache G)} {s : State G} {i : Nat}

open Record SlotCall

/-- Puts a growing record with some values into a heap, and over a shared map these values into the map. -/
def put (g : GrowingRecord) (d : Dict Value) (H : Heap) : Heap :=
  match g.shared with
  | none => H.set g.cell (.growing g.schema (.own d))
  | some m => (H.set m d).set g.cell (.growing g.schema (.shared m))

/-- The store of a record in its cell. -/
def storeOf (g : GrowingRecord) (d : Dict Value) : Store :=
  match g.shared with
  | none => .own d
  | some m => .shared m

theorem get_put (d : Dict Value) (H : Heap) : (g.put d H).get g.cell = .growing g.schema (g.storeOf d) := by
  unfold put storeOf
  cases g.shared <;> exact Heap.get_set_self (k := .record) _ _ _

theorem ofStore_storeOf (d : Dict Value) : ofStore g.cell g.schema (g.storeOf d) = g := by
  obtain ⟨cell, schema, shared⟩ := g
  cases shared <;> rfl

theorem get_put_schema (d : Dict Value) (H : Heap) (S : Handle .schema) : (g.put d H).get S = H.get S := by
  unfold put
  cases g.shared with
  | none => exact H.get_set_of_kind_ne (k := .record) _ nofun
  | some m =>
    have hmap : (H.set m d).get S = H.get S := H.get_set_of_kind_ne (k := .map) d nofun
    exact ((H.set m d).get_set_of_kind_ne (k := .record) (j := S) _ nofun).trans hmap

theorem values_put (d : Dict Value) (H : Heap) : g.values (g.put d H) = d := by
  unfold values put
  cases g.shared with
  | none => simp only [Heap.stored?, H.get_set_self (k := .record), Option.getD_some]
  | some m =>
    have hmap : (H.set m d).get m = d := H.get_set_self (k := .map) m d
    exact ((H.set m d).get_set_of_kind_ne (k := .record) (j := m) _ (by decide)).trans hmap

theorem setValues_put (d d' : Dict Value) (H : Heap) : g.setValues d' (g.put d H) = g.put d' H := by
  unfold setValues put
  cases g.shared with
  | none => exact H.set_set (k := .record) g.cell _ _
  | some m =>
    have hcomm := (H.set m d).set_comm_of_kind_ne (k := .record) (l := .map) (h := g.cell) (j := m)
      (.growing g.schema (.shared m)) d' nofun
    refine hcomm.trans ?_
    rw [H.set_set (k := .map)]

theorem aside_put (d : Dict Value) (hv : ∀ m, g.shared = some m → v ≠ .map m) : Heap.Aside (g.put d) v := by
  unfold put
  cases hm : g.shared with
  | none => exact Heap.aside_setRecord _ _ v
  | some m => exact (Heap.aside_setRecord _ _ v).comp (Heap.aside_setMap d (hv m hm))

/-! ### A property that is declared and holds something -/

theorem run_write_of_property (hp : g.property? name s.heap = some p) (w : Value) :
    ExceptT.run (g.write name w : Op G Unit) s =
      match s.heap.coerce G p.ty name w with
      | .ok u => (.ok (), { s with heap := g.store name u s.heap })
      | .error e => (.error e, s) := by
  rw [GrowingRecord.write, Op.run_bind_of_ok (Op.run_read s _), hp]
  dsimp only
  rw [Op.run_bind_of_ok (Op.run_pure s p)]
  cases hw : s.heap.coerce G p.ty name w with
  | error e => rw [Op.run_bind_of_error (by rw [Op.run_tryRead, hw])]
  | ok u =>
    rw [Op.run_bind_of_ok (by rw [Op.run_tryRead, hw])]
    rfl

/-- Whether a property is declared and holds a value that is not null. -/
structure Holds (g : GrowingRecord) (H : Heap) (name : String) (p : Property) (v : Value) : Prop where
  property : g.property? name H = some p
  stored : g.stored name H = v
  ne_null : v ≠ .null

theorem holds_put (hp : (H.get g.schema).property? name = some p) (hheld : d.get? name = some v) (hv : v ≠ .null) :
    g.Holds (g.put d H) name p v where
  property := by rw [property?, get_put_schema, hp]
  stored := by rw [GrowingRecord.stored, values_put, hheld, Option.getD_some]
  ne_null := hv

namespace Holds

theorem run_read (h : g.Holds s.heap name p v) : ExceptT.run (g.read name : Op G Value) s = (.ok v, s) := by
  have hv := Value.isNull_eq_false_iff.mpr h.ne_null
  simp only [GrowingRecord.read, Op.run_change, h.stored, hv, Bool.false_eq_true, if_false]

/-- There is a container already, whatever the property holds. -/
theorem run_container (h : g.Holds s.heap name p v) (blank : Heap → Value × Heap) :
    ExceptT.run (g.container name blank : Op G (Property × Value)) s = (.ok (p, v), s) := by
  have hv := Value.isNull_eq_false_iff.mpr h.ne_null
  rw [container, Op.run_bind_of_ok (Op.run_read s _), h.property]
  simp only [Option.isNone_some, Bool.false_eq_true, if_false]
  rw [Op.run_bind_of_ok h.run_read]
  simp only [hv, Bool.false_eq_true, if_false]
  rw [Op.run_bind_of_ok (Op.run_read s _), h.property]
  rfl

/-- Elements up to an index are there already. -/
theorem run_lengthened (h : g.Holds s.heap name p v)
    (hrange : ∀ items, s.heap.items? v = some items → i < items.length) :
    ExceptT.run (g.lengthened name i : Op G (Property × Value)) s =
      (if (s.heap.items? v).isSome then .ok (p, v) else .error (.notIndexed name), s) := by
  rw [lengthened, Op.run_bind_of_ok (h.run_container _)]
  cases v with
  | list l =>
    have hi : i < (s.heap.get l).length := hrange _ rfl
    have hsame : ¬ (s.heap.get l).length ≤ i := by omega
    dsimp only
    rw [Op.write, Op.run_bind_of_ok (Op.run_change s _), if_neg hsame]
    rfl
  | array a =>
    have hi : i < (s.heap.get a).items.length := hrange _ rfl
    dsimp only
    rw [Op.run_bind_of_ok (Op.run_read s _), if_pos hi]
    rfl
  | _ => rfl

theorem run_keyed (h : g.Holds s.heap name p v) : ExceptT.run (g.keyed name : Op G (Property × Value)) s =
    (if s.heap.isKeyed v then .ok (p, v) else .error (.notMapped name), s) := by
  rw [keyed, Op.run_bind_of_ok (h.run_container _)]
  dsimp only
  rw [Op.run_bind_of_ok (Op.run_read s _)]
  cases s.heap.isKeyed v <;> rfl

theorem run_write (h : g.Holds s.heap name p v) {w : Value} : ExceptT.run (g.write name w : Op G Unit) s =
    match s.heap.coerce G p.ty name w with
    | .ok u => (.ok (), { s with heap := g.store name u s.heap })
    | .error e => (.error e, s) := run_write_of_property h.property w

theorem run_readElement (h : g.Holds s.heap name p v)
    (hrange : ∀ items, s.heap.items? v = some items → i < items.length) :
    ExceptT.run (g.readElement name i : Op G Value) s = (s.heap.element name i v, s) := by
  have hlengthened := h.run_lengthened (G := G) hrange
  rw [GrowingRecord.readElement]
  cases hitems : s.heap.items? v with
  | none =>
    rw [hitems] at hlengthened
    rw [Op.run_bind_of_error hlengthened, Heap.element, hitems]
  | some items =>
    rw [hitems] at hlengthened
    rw [Op.run_bind_of_ok hlengthened]
    rfl

theorem run_writeElement (h : g.Holds s.heap name p v) {w : Value}
    (hrange : ∀ items, s.heap.items? v = some items → i < items.length) :
    ExceptT.run (g.writeElement name i w : Op G Unit) s =
      ExceptT.run (Op.tryWrite fun H => H.setElement G name i w p.elementTy v) s := by
  have hlengthened := h.run_lengthened (G := G) hrange
  rw [GrowingRecord.writeElement]
  cases hitems : s.heap.items? v with
  | none =>
    have hrefused : s.heap.setElement G name i w p.elementTy v = .error (.notIndexed name) := by
      cases v <;> first | rfl | cases hitems
    rw [hitems] at hlengthened
    rw [Op.run_bind_of_error hlengthened, Op.run_tryWrite, hrefused]
  | some items =>
    rw [hitems] at hlengthened
    rw [Op.run_bind_of_ok hlengthened]

theorem run_readEntry (h : g.Holds s.heap name p v) :
    ExceptT.run (g.readEntry name key : Op G Value) s = (s.heap.entry name key v, s) := by
  have hkeyed := h.run_keyed (G := G)
  rw [GrowingRecord.readEntry]
  rw [Heap.isKeyed] at hkeyed
  cases hentries : s.heap.entries? v with
  | none =>
    rw [hentries] at hkeyed
    rw [Op.run_bind_of_error hkeyed, Heap.entry, Heap.entries, hentries]
    rfl
  | some d =>
    rw [hentries] at hkeyed
    rw [Op.run_bind_of_ok hkeyed]
    rfl

/-- The container is looked at before the written value is. -/
theorem run_writeEntry (h : g.Holds s.heap name p v) {w : Value} :
    ExceptT.run (g.writeEntry name key w : Op G Unit) s =
      if s.heap.isKeyed v then
        ExceptT.run (Op.tryWrite fun H => H.coerce G p.elementTy name w >>= fun w => H.setEntry name key w v) s
      else (.error (.notMapped name), s) := by
  have hkeyed := h.run_keyed (G := G)
  rw [GrowingRecord.writeEntry]
  cases hv : s.heap.isKeyed v with
  | false =>
    rw [hv] at hkeyed
    rw [Op.run_bind_of_error hkeyed]
    rfl
  | true =>
    rw [hv] at hkeyed
    rw [Op.run_bind_of_ok hkeyed, if_pos rfl, Op.run_tryWrite]
    dsimp only
    cases hw : s.heap.coerce G p.elementTy name w with
    | error e =>
      rw [Op.run_bind_of_error (by rw [Op.run_tryRead, hw])]
      rfl
    | ok u =>
      rw [Op.run_bind_of_ok (by rw [Op.run_tryRead, hw]), Op.run_tryWrite]
      rfl

theorem run_eraseEntry (h : g.Holds s.heap name p v) : ExceptT.run (g.eraseEntry name key : Op G Unit) s =
    ExceptT.run (Op.tryWrite fun H => H.eraseEntry name key v) s := by
  have hv := Value.isNull_eq_false_iff.mpr h.ne_null
  simp only [GrowingRecord.eraseEntry, Op.run_tryWrite, h.stored, hv, Bool.false_eq_true, if_false]

end Holds

theorem performs (hp : (H.get g.schema).property? name = some p) (hheld : d.get? name = some v) (hv : v ≠ .null)
    (hshared : ∀ m, g.shared = some m → v ≠ .map m) (c : SlotCall) (hrange : c.InRange H v) :
    Performs g.put d H caches (c.run g.cell name) (c.effect G H d p name v) := by
  have hholds : g.Holds (g.put d H) name p v := holds_put hp hheld hv
  have haside : Heap.Aside (g.put d) v := aside_put d hshared
  have hcell {α : Type} (k : Record → Op G α) :
      ExceptT.run (Op.read (fun H => H.get g.cell) >>= k) ⟨g.put d H, caches⟩ =
      ExceptT.run (k (.growing g.schema (g.storeOf d))) ⟨g.put d H, caches⟩ := by
    rw [Op.run_bind_of_ok (Op.run_read _ _), get_put]
  cases c with
  | read =>
    change ExceptT.run (Record.read g.cell name) _ = _
    rw [Record.read, hcell]
    dsimp only
    rw [ofStore_storeOf]
    exact hholds.run_read
  | write w =>
    refine .of_write ?_
    rw [Record.write, hcell]
    dsimp only
    rw [ofStore_storeOf, hholds.run_write, haside.coerce]
    cases H.coerce G p.ty name w with
    | error e => rfl
    | ok u =>
      dsimp only
      rw [store, values_put, setValues_put]
  | readElement i =>
    refine .of_read ?_
    change ExceptT.run (Record.readElement g.cell name i) _ = _
    rw [Record.readElement, hcell]
    dsimp only
    rw [ofStore_storeOf, hholds.run_readElement (haside.items?.symm ▸ hrange)]
    exact congrArg (·, _) haside.element
  | writeElement i w =>
    refine .of_tryWrite (F := fun H => H.setElement G name i w p.elementTy v) ?_ haside.setElement
    rw [Record.writeElement, hcell]
    dsimp only
    rw [ofStore_storeOf, hholds.run_writeElement (haside.items?.symm ▸ hrange)]
  | readEntry key =>
    refine .of_read ?_
    change ExceptT.run (Record.readEntry g.cell name key) _ = _
    rw [Record.readEntry, hcell]
    dsimp only
    rw [ofStore_storeOf, hholds.run_readEntry]
    exact congrArg (·, _) haside.entry
  | writeEntry key w =>
    have hrun : ExceptT.run (Record.writeEntry g.cell name key w) ⟨g.put d H, caches⟩ =
        ExceptT.run (g.writeEntry name key w) ⟨g.put d H, caches⟩ := by
      rw [Record.writeEntry, hcell]
      dsimp only
      rw [ofStore_storeOf]
    rw [hholds.run_writeEntry] at hrun
    cases hkeyed : (g.put d H).isKeyed v with
    | false =>
      rw [hkeyed] at hrun
      have hrefused (u : Value) : H.setEntry name key u v = .error (.notMapped name) := by
        rw [Heap.isKeyed, haside.entries?] at hkeyed
        rw [Heap.setEntry, Heap.entries, Option.isSome_eq_false_iff.mp hkeyed |> Option.isNone_iff_eq_none.mp]
        rfl
      simp only [effect, hrefused]
      cases H.coerce G p.elementTy name w <;> exact ⟨_, Op.run_bind_of_error hrun⟩
    | true =>
      rw [hkeyed] at hrun
      refine .of_tryWrite hrun ?_
      rw [haside.coerce]
      cases H.coerce G p.elementTy name w with
      | error e => rfl
      | ok u => exact haside.setEntry
  | eraseEntry key =>
    refine .of_tryWrite (F := fun H => H.eraseEntry name key v) ?_ haside.eraseEntry
    rw [Record.eraseEntry, hcell]
    dsimp only
    rw [ofStore_storeOf, hholds.run_eraseEntry]

end GrowingRecord

namespace Record

/-- A fixed record and a growing one with the same declared properties and the same store, put into the same cell of
the same heap, answer each call on a property that is declared and holds something alike or both refuse it, and leave
the same store and the same other containers.  An index has to be that of an element, if there are elements.  The
growing record may keep its values in a map, as long as that map is not what the property holds. -/
theorem fixed_agrees_with_growing {G : ClassGraph} (g : GrowingRecord) (S : Handle .schema) (H : Heap) (d : Dict Value)
    (caches : Table (SoundCache G)) (name : String) (v : Value) (c : SlotCall)
    (hschema : (H.get g.schema).properties = (H.get S).properties) (hdeclared : (H.get S).declares name = true)
    (hheld : d.get? name = some v) (hv : v ≠ .null) (hshared : ∀ m, g.shared = some m → v ≠ .map m)
    (hrange : c.InRange H v) :
    ∃ H' d',
      (ExceptT.run (c.run g.cell name) ⟨H.set g.cell (.fixed S d), caches⟩).1.toOption =
        (ExceptT.run (c.run g.cell name) ⟨g.put d H, caches⟩).1.toOption ∧
      (ExceptT.run (c.run g.cell name) ⟨H.set g.cell (.fixed S d), caches⟩).2 =
        ⟨H'.set g.cell (.fixed S d'), caches⟩ ∧
      (ExceptT.run (c.run g.cell name) ⟨g.put d H, caches⟩).2 = ⟨g.put d' H', caches⟩ := by
  rw [Schema.declares_eq] at hdeclared
  obtain ⟨p, hp⟩ := Option.isSome_iff_exists.mp hdeclared
  have hp' : (H.get g.schema).property? name = some p := by rw [Schema.property?_congr hschema, hp]
  exact (FixedRecord.performs hp hheld hv c).agree (GrowingRecord.performs hp' hheld hv hshared c hrange)

/-- A list of two texts, and the schema of a record that holds it. -/
def listed : Heap :=
  (Heap.empty.set (⟨0⟩ : Handle .list) [.text "a", .text "b"]).set (⟨0⟩ : Handle .schema)
    (.ofProperties "Row" [⟨"xs", .list, none⟩])

/-- The store of the record that holds the list. -/
def listing : Dict Value := Dict.empty.insert "xs" (.list ⟨0⟩)

/-- Both replace the last text of the list. -/
theorem fixed_agrees_with_growing_listed : ∃ H' d',
    (ExceptT.run ((SlotCall.writeElement 1 (.text "c")).run ⟨0⟩ "xs" : Op .empty Value)
        ⟨listed.set (⟨0⟩ : Handle .record) (.fixed ⟨0⟩ listing), .empty⟩).2 =
      ⟨H'.set (⟨0⟩ : Handle .record) (.fixed ⟨0⟩ d'), .empty⟩ ∧
    (ExceptT.run ((SlotCall.writeElement 1 (.text "c")).run ⟨0⟩ "xs" : Op .empty Value)
        ⟨GrowingRecord.put ⟨⟨0⟩, ⟨0⟩, none⟩ listing listed, .empty⟩).2 =
      ⟨GrowingRecord.put ⟨⟨0⟩, ⟨0⟩, none⟩ d' H', .empty⟩ := by
  obtain ⟨H', d', -, hfixed, hgrowing⟩ := fixed_agrees_with_growing ⟨⟨0⟩, ⟨0⟩, none⟩ ⟨0⟩ listed listing .empty "xs"
    (.list ⟨0⟩) (.writeElement 1 (.text "c")) rfl (by decide +kernel) (Dict.get?_insert ..) nofun nofun
    fun items hitems => by
      cases hitems
      decide +kernel
  exact ⟨H', d', hfixed, hgrowing⟩

end Record

end ObjectGraph
