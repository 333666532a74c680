import ObjectGraph.Proofs.Fence.Object
import ObjectGraph.Proofs.Record.Schema

/-!
Records behind a fence.  What a record stores is inside, and so is what it makes where it stores nothing: a value for
a new slot, a container to subscript, or a longer array.  So whatever is asked of a record, nothing leads outside.
-/

namespace ObjectGraph
open Fence

/-! ### Fixed records -/

namespace FixedRecord
variable {F : Fence} {G : ClassGraph} {H H' : Heap} {S : Schema} {d d' : Dict Value} {name key : String} {i : Nat}
  {v w : Value}

theorem inside_read (hd : F.Holds d) (hv : read S d name = .ok v) : F.Inside v := by
  obtain ⟨p, -, hv⟩ := bind_eq_ok.mp hv
  cases hv
  split
  · exact inside_of_isScalar (Ty.isScalar_zero p.ty)
  · exact hd.getD name

theorem holds_write (hd : F.Holds d) (hv : F.Inside v) (hwrite : write G H S d name v = .ok d') : F.Holds d' := by
  obtain ⟨p, -, hwrite⟩ := bind_eq_ok.mp hwrite
  obtain ⟨w, hw, hwrite⟩ := bind_eq_ok.mp hwrite
  cases hwrite
  exact hd.insert (inside_of_coerce hv hw)

theorem inside_readElement (h : F.Encloses G H) (hd : F.Holds d) (hv : readElement H S d name i = .ok v) :
    F.Inside v := by
  obtain ⟨c, hc, hv⟩ := bind_eq_ok.mp hv
  exact h.inside_elementOf (inside_read hd hc) hv

theorem encloses_writeElement (h : F.Encloses G H) (hd : F.Holds d) (hv : F.Inside v)
    (hwrite : writeElement G H S d name i v = .ok H') : F.Encloses G H' := by
  obtain ⟨p, -, hwrite⟩ := bind_eq_ok.mp hwrite
  obtain ⟨c, hc, hwrite⟩ := bind_eq_ok.mp hwrite
  exact h.setElementOf (inside_read hd hc) hv hwrite

theorem inside_readEntry (h : F.Encloses G H) (hd : F.Holds d) (hv : readEntry H S d name key = .ok v) :
    F.Inside v := by
  obtain ⟨c, hc, hv⟩ := bind_eq_ok.mp hv
  exact h.inside_entryOf (inside_read hd hc) hv

theorem encloses_writeEntry (h : F.Encloses G H) (hd : F.Holds d) (hv : F.Inside v)
    (hwrite : writeEntry G H S d name key v = .ok H') : F.Encloses G H' := by
  obtain ⟨p, -, hwrite⟩ := bind_eq_ok.mp hwrite
  obtain ⟨w, hw, hwrite⟩ := bind_eq_ok.mp hwrite
  obtain ⟨c, hc, hwrite⟩ := bind_eq_ok.mp hwrite
  exact h.setEntryOf (inside_read hd hc) (inside_of_coerce hv hw) hwrite

theorem encloses_eraseEntry (h : F.Encloses G H) (hd : F.Holds d) (herase : eraseEntry H S d name key = .ok H') :
    F.Encloses G H' := by
  obtain ⟨c, hc, hentry⟩ := bind_eq_ok.mp herase
  obtain ⟨c', hc', hentry'⟩ := bind_eq_ok.mp hentry
  obtain rfl := Value.eq_of_subscripted hc'
  exact h.eraseEntry (inside_read hd hc) hentry'

end FixedRecord

/-! ### Growing records -/

namespace GrowingRecord
variable {F : Fence} {G : ClassGraph} {H : Heap} {s : State G} {p : Property} {v : Value} {blank : Heap → Value × Heap}

theorem holds_values (g : GrowingRecord) (h : F.Encloses G H) : F.Holds (g.values H) := by
  unfold values
  split
  · exact h.holds_map _
  · cases hd : H.stored? g.cell with
    | none => exact holds_empty
    | some d => exact h.holds_stored hd

theorem encloses_store (g : GrowingRecord) (h : F.Encloses G H) (name : String) (hv : F.Inside v) :
    F.Encloses G (g.store name v H) := by
  have hd : F.Holds ((g.values H).insert name v) := (g.holds_values h).insert hv
  unfold store setValues
  split
  · exact h.setMap hd
  · exact h.setRecord hd

theorem admits_property? (g : GrowingRecord) (h : F.Encloses G H) {name : String} (hp : g.property? name H = some p) :
    F.Admits p.ty := by
  unfold property? at hp
  split at hp
  · rename_i hdeclared
    cases hp
    exact h.declared hdeclared
  · split at hp <;> cases hp
    exact Or.inr rfl

variable (g : GrowingRecord) (h : F.Encloses G s.heap)
include h

theorem keeps_declare (hp : F.Admits p.ty) : F.Keeps s (g.declare p) fun _ => True := by
  refine h.keeps_tryWrite fun {H} hadd => ?_
  cases hS : (s.heap.get g.schema).add p with
  | error e =>
    rw [hS] at hadd
    cases hadd
  | ok S =>
    rw [hS] at hadd
    cases hadd
    obtain ⟨-, rfl⟩ := Schema.add_eq_ok hS
    refine h.put_schema (s.heap.puts_set (k := .schema) g.schema _) fun {name q} hq => ?_
    rw [Schema.property?_put] at hq
    split at hq
    · cases hq
      exact hp
    · exact h.declared hq

/-- Where nothing is stored, the answer is what fills a new slot of the declared type. -/
theorem keeps_read (name : String) : F.Keeps s (g.read name) F.Inside := by
  unfold read
  cases hv : (g.stored name s.heap).isNull with
  | false =>
    refine keeps_change ?_ ?_
    · simp only [hv, Bool.false_eq_true, if_false]
      exact h
    · simp only [hv, Bool.false_eq_true, if_false]
      exact (g.holds_values h).getD name
  | true =>
    cases hp : g.property? name s.heap with
    | none =>
      refine keeps_change ?_ ?_
      · simp only [hv, if_true, hp]
        exact h
      · simp only [hv, if_true, hp]
        trivial
    | some p =>
      obtain ⟨hmade, hw⟩ := h.defaultValue (g.admits_property? h hp)
      refine keeps_change ?_ ?_
      · simp only [hv, if_true, hp]
        split
        · exact hmade
        · exact g.encloses_store hmade name hw
      · simp only [hv, if_true, hp]
        exact hw

theorem keeps_write (name : String) (hv : F.Inside v) : F.Keeps s (g.write name v) fun _ => True := by
  have hstore {p : Property} {t : State G} (ht : F.Encloses G t.heap) :
      F.Keeps t (Op.tryRead (fun H => H.coerce G p.ty name v) >>= fun w => Op.write (g.store name w)) fun _ => True :=
    (ht.keeps_tryRead (Q := F.Inside) (inside_of_coerce hv)).bind fun hu hw =>
      Fence.keeps_write (g.encloses_store hu name hw)
  unfold write
  refine .read ?_
  split
  · exact hstore h
  · exact .read ((g.keeps_declare h (h.admits_typeOf hv)).bind fun ht _ => hstore ht)

theorem keeps_made (hblank : ∀ {H}, F.Encloses G H → F.Encloses G (blank H).2 ∧ F.Inside (blank H).1) :
    F.Keeps s (Op.change blank : Op G Value) F.Inside := keeps_change (hblank h).1 (hblank h).2

theorem keeps_answer (name : String) (hv : F.Inside v) : F.Keeps s (do
    match ← Op.read (g.property? name) with
    | some p => return (p, v)
    | none => throw (.unknownProperty name (← Op.read fun H => (H.get g.schema).name))) fun a => F.Inside a.2 := by
  refine .read ?_
  split
  · exact h.keeps_pure hv
  · exact .read h.keeps_throw

/-- A property that holds nothing gets a container. -/
theorem keeps_filled (name : String)
    (hblank : ∀ {H}, F.Encloses G H → F.Encloses G (blank H).2 ∧ F.Inside (blank H).1) : F.Keeps s (do
    let mut v ← g.read name
    if v.isNull then
      v ← Op.change blank
      g.write name v
    match ← Op.read (g.property? name) with
    | some p => return (p, v)
    | none => throw (.unknownProperty name (← Op.read fun H => (H.get g.schema).name))) fun a => F.Inside a.2 := by
  refine (g.keeps_read h name).bind fun hu hv => .ite ?_ (g.keeps_answer hu name hv)
  exact (keeps_made hu hblank).bind fun hu hw => (g.keeps_write hu name hw).bind fun hu _ => g.keeps_answer hu name hw

/-- What is to be subscripted is inside, whether it was there or has to be made. -/
theorem keeps_container (name : String)
    (hblank : ∀ {H}, F.Encloses G H → F.Encloses G (blank H).2 ∧ F.Inside (blank H).1) :
    F.Keeps s (g.container name blank) fun a => F.Inside a.2 := by
  unfold container
  refine .read (.ite ?_ (g.keeps_filled h name hblank))
  exact (keeps_made h hblank).bind fun ht hv =>
    (g.keeps_write ht name hv).bind fun ht _ => g.keeps_filled ht name hblank

theorem keeps_lengthened (name : String) (i : Nat) : F.Keeps s (g.lengthened name i) fun a => F.Inside a.2 := by
  unfold lengthened
  refine (g.keeps_container h name fun hH => ⟨hH.newList (List.forall_mem_nil _), trivial⟩).bind fun {a t} ht ha => ?_
  obtain ⟨p, v⟩ := a
  cases v with
  | list l =>
    refine (Fence.keeps_write ?_).bind fun hu _ => hu.keeps_pure trivial
    dsimp only
    split
    · refine ht.setList fun w hw => ?_
      rcases List.mem_append.mp hw with hw | hw
      · exact ht.held (v := .list l) trivial w hw
      · obtain rfl := List.eq_of_mem_replicate hw
        trivial
    · exact ht
  | array a =>
    refine .read (.ite (ht.keeps_pure ha) ?_)
    obtain ⟨hgrown, hnew⟩ := ht.grown ha (i + 1)
    exact Keeps.bind (Q := F.Inside) (keeps_change (g.encloses_store hgrown name hnew) hnew)
      fun hu hw => hu.keeps_pure hw
  | _ => exact ht.keeps_throw

theorem keeps_readElement (name : String) (i : Nat) : F.Keeps s (g.readElement name i) F.Inside := by
  unfold readElement
  exact (g.keeps_lengthened h name i).bind fun ht hc => ht.keeps_tryRead (ht.inside_element hc)

theorem keeps_writeElement (name : String) (i : Nat) (hv : F.Inside v) :
    F.Keeps s (g.writeElement name i v) fun _ => True := by
  unfold writeElement
  exact (g.keeps_lengthened h name i).bind fun ht hc => ht.keeps_tryWrite (ht.setElement hc hv)

theorem keeps_keyed (name : String) : F.Keeps s (g.keyed name) fun a => F.Inside a.2 := by
  unfold keyed
  refine (g.keeps_container h name fun hH => ⟨hH.newMap holds_empty, trivial⟩).bind fun {a t} ht ha => ?_
  exact .read (.ite (ht.keeps_pure ha) ht.keeps_throw)

theorem keeps_readEntry (name key : String) : F.Keeps s (g.readEntry name key) F.Inside := by
  unfold readEntry
  exact (g.keeps_keyed h name).bind fun ht hc => ht.keeps_tryRead (ht.inside_entry hc)

theorem keeps_writeEntry (name key : String) (hv : F.Inside v) :
    F.Keeps s (g.writeEntry name key v) fun _ => True := by
  unfold writeEntry
  refine (g.keeps_keyed h name).bind fun ht hc => ?_
  exact (ht.keeps_tryRead (Q := F.Inside) (inside_of_coerce hv)).bind fun hu hw => hu.keeps_tryWrite (hu.setEntry hc hw)

theorem keeps_eraseEntry (name key : String) : F.Keeps s (g.eraseEntry name key) fun _ => True := by
  refine h.keeps_tryWrite fun {H} herase => ?_
  dsimp only at herase
  split at herase
  · cases herase
    exact h
  · exact h.eraseEntry ((g.holds_values h).getD name) herase

end GrowingRecord

/-! ### Records -/

namespace Record
variable {F : Fence} {G : ClassGraph} {s : State G} {v : Value} (h : F.Encloses G s.heap) (j : Handle .record)
include h

/-- The schema, the values and the object of a record are looked up together with its kind. -/
theorem keeps_cell {α : Type} {k : Record → Op G α} {Q : α → Prop}
    (hfixed : ∀ {S d}, F.Holds d → F.Keeps s (k (.fixed S d)) Q)
    (hgrowing : ∀ {S store}, F.Keeps s (k (.growing S store)) Q)
    (hadapter : ∀ {S o r}, F.Inside (.object o) → F.Keeps s (k (.adapter S o r)) Q) :
    F.Keeps s (Op.read (fun H => H.get j) >>= k) Q := by
  have hcell := h.holdsRecord j
  refine .read ?_
  cases hkind : s.heap.get j with
  | fixed S d =>
    rw [hkind] at hcell
    exact hfixed hcell
  | growing S store => exact hgrowing
  | adapter S o r =>
    rw [hkind] at hcell
    exact hadapter hcell

theorem keeps_read (name : String) : F.Keeps s (read j name) F.Inside :=
  keeps_cell h j (fun hd => h.keeps_tryRead (FixedRecord.inside_read hd)) (GrowingRecord.keeps_read _ h name) fun ho =>
    (h.keeps_tryRead (Q := fun _ => True) fun _ => trivial).bind fun ht _ => Resolver.keeps_readObject ht ho name

theorem keeps_write (name : String) (hv : F.Inside v) : F.Keeps s (write j name v) fun _ => True := by
  refine keeps_cell h j (fun hd => h.keeps_tryWrite fun {H} hwrite => ?_) (GrowingRecord.keeps_write _ h name hv)
    fun ho => (h.keeps_tryRead (Q := fun _ => True) fun _ => trivial).bind fun ht _ =>
      Resolver.keeps_writeObject ht ho name hv
  obtain ⟨d', hd', hwrite⟩ := bind_eq_ok.mp hwrite
  cases hwrite
  exact h.setRecord (FixedRecord.holds_write hd hv hd')

theorem keeps_readElement (name : String) (i : Nat) : F.Keeps s (readElement j name i) F.Inside :=
  keeps_cell h j (fun hd => h.keeps_tryRead (FixedRecord.inside_readElement h hd))
    (GrowingRecord.keeps_readElement _ h name i) fun ho => Resolver.keeps_readObjectElement h ho name i

theorem keeps_writeElement (name : String) (i : Nat) (hv : F.Inside v) :
    F.Keeps s (writeElement j name i v) fun _ => True :=
  keeps_cell h j (fun hd => h.keeps_tryWrite (FixedRecord.encloses_writeElement h hd hv))
    (GrowingRecord.keeps_writeElement _ h name i hv) fun ho => Resolver.keeps_writeObjectElement h ho name i hv

theorem keeps_readEntry (name key : String) : F.Keeps s (readEntry j name key) F.Inside :=
  keeps_cell h j (fun hd => h.keeps_tryRead (FixedRecord.inside_readEntry h hd))
    (GrowingRecord.keeps_readEntry _ h name key) fun ho => Resolver.keeps_readObjectEntry h ho name key

theorem keeps_writeEntry (name key : String) (hv : F.Inside v) :
    F.Keeps s (writeEntry j name key v) fun _ => True :=
  keeps_cell h j (fun hd => h.keeps_tryWrite (FixedRecord.encloses_writeEntry h hd hv))
    (GrowingRecord.keeps_writeEntry _ h name key hv) fun ho => Resolver.keeps_writeObjectEntry h ho name key hv

/-- What an adapter cannot do fails without a change. -/
theorem keeps_refused {α : Type} {Q : α → Prop} (operation : String) : F.Keeps s (refused operation j) Q :=
  .read h.keeps_throw

theorem keeps_hasEntry (name key : String) : F.Keeps s (hasEntry j name key) fun _ => True :=
  keeps_cell h j (fun _ => h.keeps_tryRead fun _ => trivial) (h.keeps_read trivial) fun _ => keeps_refused h j _

theorem keeps_eraseEntry (name key : String) : F.Keeps s (eraseEntry j name key) fun _ => True :=
  keeps_cell h j (fun hd => h.keeps_tryWrite (FixedRecord.encloses_eraseEntry h hd))
    (GrowingRecord.keeps_eraseEntry _ h name key) fun _ => keeps_refused h j _

theorem keeps_size (name : String) : F.Keeps s (size j name) fun _ => True := by
  have hcount : F.Keeps s (read j name >>= fun v => Op.read fun H => (H.length? v).getD 0) fun _ => True :=
    (keeps_read h j name).bind fun ht _ => ht.keeps_read trivial
  exact keeps_cell h j (fun _ => hcount) (h.keeps_read trivial) fun _ => hcount

theorem keeps_declare {p : Property} (hp : F.Admits p.ty) : F.Keeps s (declare j p) fun _ => True :=
  keeps_cell h j (fun _ => h.keeps_pure trivial) (GrowingRecord.keeps_declare _ h hp) fun _ => h.keeps_pure trivial

end Record

end ObjectGraph
