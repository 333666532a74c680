import Mathlib.Logic.Relation
import ObjectGraph.Proofs.Record.Growing
import ObjectGraph.Record.Operations

/-!
Programs that hold a new growing record with values of its own.  They call it in any order and with any
arguments, go on after failed calls, make and change other containers in between, and restrict the schema or
lift the restriction.  All the while the record stays well typed.
-/

namespace ObjectGraph.Record
variable {G : ClassGraph} {h : Handle .record} {j : Handle .schema} {s s' s₁ : State G}

/-- A call on a record. -/
inductive Call
  | read (name : String)
  | write (name : String) (v : Value)
  | readElement (name : String) (i : Nat)
  | writeElement (name : String) (i : Nat) (v : Value)
  | readEntry (name key : String)
  | writeEntry (name key : String) (v : Value)
  | hasEntry (name key : String)
  | eraseEntry (name key : String)
  | size (name : String)
  | declare (p : Property)

namespace Call

/-- The state after a call, whether or not the call has failed. -/
def after (h : Handle .record) (s : State G) : Call → State G
  | .read name => (ExceptT.run (Record.read h name) s).2
  | .write name v => (ExceptT.run (Record.write h name v) s).2
  | .readElement name i => (ExceptT.run (Record.readElement h name i) s).2
  | .writeElement name i v => (ExceptT.run (Record.writeElement h name i v) s).2
  | .readEntry name key => (ExceptT.run (Record.readEntry h name key) s).2
  | .writeEntry name key v => (ExceptT.run (Record.writeEntry h name key v) s).2
  | .hasEntry name key => (ExceptT.run (Record.hasEntry h name key) s).2
  | .eraseEntry name key => (ExceptT.run (Record.eraseEntry h name key) s).2
  | .size name => (ExceptT.run (Record.size h name) s).2
  | .declare p => (ExceptT.run (Record.declare h p) s).2

/-- Whether a call may be made: with a value that exists, and a declaration only of a new name. -/
def Allowed (h : Handle .record) (H : Heap) : Call → Prop
  | .write _ v | .writeElement _ _ v | .writeEntry _ _ v => H.Live v
  | .declare p => (H.schemaOf h).declares p.name = false
  | _ => True

end Call

/-- Whether a heap is a later one in which a record and its properties are untouched. -/
structure Spares (h : Handle .record) (H H' : Heap) : Prop where
  types : H.KeepsTypes H'
  cell : H'.get h = H.get h
  properties : (H'.schemaOf h).properties = (H.schemaOf h).properties

/-- What a program that holds a record may do next. -/
inductive Step (h : Handle .record) : State G → State G → Prop
  | call {s : State G} (c : Call) (hc : c.Allowed h s.heap) : Step h s (c.after h s)
  | other {s s' : State G} (hs : Spares h s.heap s'.heap) : Step h s s'

/-! ### Calls -/

open GrowingRecord

theorem safe_of_cell {α : Type} {g : GrowingRecord} {k : Record → Op G α} {Q : α → Heap → Prop} (hg : g.Typed G s.heap)
    (hk : g.Safe s (k (.growing g.schema (.own (g.values s.heap)))) Q) :
    g.Safe s (Op.read (fun H => H.get g.cell) >>= k) Q := Safe.read (hg.cell.symm ▸ hk)

/-- Each call keeps the record well typed and its properties, whether or not the call fails. -/
theorem Call.typed_after (hg : Typed G ⟨h, j, none⟩ s.heap) {c : Call} (hc : c.Allowed h s.heap) :
    Typed G ⟨h, j, none⟩ (c.after h s).heap ∧ Keeps ⟨h, j, none⟩ s.heap (c.after h s).heap := by
  have hboth {α : Type} {x : Op G α} {Q : α → Heap → Prop} (hx : GrowingRecord.Safe ⟨h, j, none⟩ s x Q) :
      Typed G ⟨h, j, none⟩ (ExceptT.run x s).2.heap ∧ Keeps ⟨h, j, none⟩ s.heap (ExceptT.run x s).2.heap :=
    ⟨hx.typed, hx.keeps⟩
  cases c with
  | read name => exact hboth (safe_of_cell hg (hg.safe_read name))
  | write name v => exact hboth (safe_of_cell hg (hg.safe_write name hc))
  | readElement name i => exact hboth (safe_of_cell hg (hg.safe_readElement name i))
  | writeElement name i v => exact hboth (safe_of_cell hg (hg.safe_writeElement name i v))
  | readEntry name key => exact hboth (safe_of_cell hg (hg.safe_readEntry name key))
  | writeEntry name key v => exact hboth (safe_of_cell hg (hg.safe_writeEntry name key v))
  | hasEntry name key => exact hboth (safe_of_cell hg hg.safe_ask)
  | eraseEntry name key => exact hboth (safe_of_cell hg (hg.safe_eraseEntry name key))
  | size name => exact hboth (safe_of_cell hg hg.safe_ask)
  | declare p =>
    have hnew : (s.heap.schemaOf h).declares p.name = false := hc
    rw [hg.schemaOf_eq, Schema.declares_eq_false_iff] at hnew
    exact hboth (safe_of_cell hg (hg.safe_declare hnew))

/-! ### Runs -/

theorem Spares.typed {H H' : Heap} (hs : Spares h H H') (hg : Typed G ⟨h, j, none⟩ H) : Typed G ⟨h, j, none⟩ H' := by
  refine hg.of_cell hs.types hs.cell ?_
  have hproperties := hs.properties
  rw [Heap.schemaOf, Heap.schemaOf, hs.cell, hg.cell] at hproperties
  exact hproperties

/-- Each step keeps the record well typed, and keeps each property. -/
theorem Step.typed (hstep : Step h s s') (hg : Typed G ⟨h, j, none⟩ s.heap) : Typed G ⟨h, j, none⟩ s'.heap ∧
    ∀ {name p}, (s.heap.get j).property? name = some p → (s'.heap.get j).property? name = some p := by
  cases hstep with
  | call c hc =>
    obtain ⟨htyped, hkeeps⟩ := c.typed_after hg hc
    exact ⟨htyped, hkeeps.property⟩
  | other hs =>
    have htyped := hs.typed hg
    refine ⟨htyped, fun hp => ?_⟩
    have hproperties := hs.properties
    rw [htyped.schemaOf_eq, hg.schemaOf_eq] at hproperties
    rwa [Schema.property?_congr hproperties]

theorem typed_of_run (hrun : Relation.ReflTransGen (Step h) s s') (hg : Typed G ⟨h, j, none⟩ s.heap) :
    Typed G ⟨h, j, none⟩ s'.heap ∧
      ∀ {name p}, (s.heap.get j).property? name = some p → (s'.heap.get j).property? name = some p := by
  induction hrun with
  | refl => exact ⟨hg, id⟩
  | tail _ hstep ih =>
    obtain ⟨htyped, hkept⟩ := ih
    obtain ⟨htyped', hkept'⟩ := hstep.typed htyped
    exact ⟨htyped', fun hp => hkept' (hkept hp)⟩

/-- A new record holds nothing, and has the properties of the given schema. -/
theorem run_newGrowing (T : Schema) (s : State G) : ∃ h j s₁,
    ExceptT.run (newGrowing T : Op G (Handle .record)) s = (.ok h, s₁) ∧ Typed G ⟨h, j, none⟩ s₁.heap ∧
      s₁.heap.get j = T := by
  have hadds := (s.heap.alloc .schema T).2.onlyAdds_alloc (k := .record)
    (.growing (s.heap.alloc .schema T).1 (.own .empty))
  have hnew := Heap.has_alloc (k := .schema) (H := s.heap) T
  have hcell := (s.heap.alloc .schema T).2.get_alloc_self (k := .record)
    (.growing (s.heap.alloc .schema T).1 (.own .empty))
  have hvalues := values_of_cell (g := ⟨_, _, none⟩) rfl hcell
  refine ⟨_, (s.heap.alloc .schema T).1, _, rfl, ⟨rfl, ?_, Heap.has_alloc (k := .record) _, hadds.has hnew, ?_⟩,
    (hadds.same hnew).trans (s.heap.get_alloc_self (k := .schema) T)⟩
  · exact hvalues.symm ▸ hcell
  · intro name v hv
    have hnone : (Dict.empty : Dict Value).get? name = some v := hvalues ▸ hv
    cases hnone

/-- Reading a property never fails. -/
theorem run_read (hg : Typed G ⟨h, j, none⟩ s.heap) (name : String) :
    ∃ v s', ExceptT.run (read h name : Op G Value) s = (.ok v, s') ∧
      ∀ {p}, (s.heap.get j).property? name = some p → s'.heap.Fits G p.ty v := by
  have hsafe : GrowingRecord.Safe ⟨h, j, none⟩ s (read h name : Op G Value) _ := safe_of_cell hg (hg.safe_read name)
  have hrun : ∃ v s', ExceptT.run (read h name : Op G Value) s = (.ok v, s') := by
    rw [read, Op.run_bind_of_ok (Op.run_read s _), hg.cell]
    exact ⟨_, _, rfl⟩
  obtain ⟨v, s', hrun⟩ := hrun
  obtain ⟨-, hkeeps, hanswer⟩ := hsafe
  rw [hrun] at hkeeps hanswer
  exact ⟨v, s', hrun, fun hp => hanswer rfl (hkeeps.property hp)⟩

end ObjectGraph.Record
