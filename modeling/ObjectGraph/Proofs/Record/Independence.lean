import ObjectGraph.Proofs.Record.OwnValues

/-!
Two records that keep their values in themselves.  As long as they do not grow one schema, writes to one of them change
nothing that is read of the other.
-/

namespace ObjectGraph

open Op

namespace OwnKind
variable {G : ClassGraph} {k : OwnKind} {h c : Handle .record} {S S' : Handle .schema} {H : Heap} {s t : State G}

/-- Whether two records stand in a heap, and have different schemas if they grow. -/
structure Apart (k : OwnKind) (h : Handle .record) (S : Handle .schema) (c : Handle .record) (S' : Handle .schema)
    (H : Heap) : Prop where
  first : ∃ d, k.Stands h S d H
  second : ∃ d, k.Stands c S' d H
  cells : h ≠ c
  schemas : k = .growing → S ≠ S'

/-- Whether a program writes a record. -/
def Writes (x : Handle .record) (s s' : State G) : Prop := ∃ name v, s' = (ExceptT.run (Record.write x name v) s).2

/-- What a program that holds two records does: it reads or writes one of them. -/
inductive Uses (h c : Handle .record) : State G → State G → Prop
  | read {s : State G} {x : Handle .record} (hx : x = h ∨ x = c) (name : String) :
      Uses h c s (ExceptT.run (Record.read x name) s).2
  | write {s : State G} {x : Handle .record} (hx : x = h ∨ x = c) (name : String) (v : Value) :
      Uses h c s (ExceptT.run (Record.write x name v) s).2

/-- Whether, however two records are used, no run of writes to one of them changes what is read of the other. -/
def Independent (h c : Handle .record) (s : State G) : Prop :=
  ∀ t, Relation.ReflTransGen (Uses h c) s t → ∀ u,
    (Relation.ReflTransGen (Writes h) t u → ∀ name,
      (ExceptT.run (Record.read c name : Op G Value) u).1 = (ExceptT.run (Record.read c name : Op G Value) t).1) ∧
    (Relation.ReflTransGen (Writes c) t u → ∀ name,
      (ExceptT.run (Record.read h name : Op G Value) u).1 = (ExceptT.run (Record.read h name : Op G Value) t).1)

namespace Apart

theorem symm (ha : k.Apart h S c S' H) : k.Apart c S' h S H :=
  ⟨ha.second, ha.first, ha.cells.symm, fun hk => (ha.schemas hk).symm⟩

/-- Writing the first record leaves the second one and its schema as they are. -/
theorem after_write (ha : k.Apart h S c S' s.heap) (name : String) (v : Value) :
    k.Apart h S c S' (ExceptT.run (Record.write h name v : Op G Unit) s).2.heap ∧
      (ExceptT.run (Record.write h name v : Op G Unit) s).2.heap.get c = s.heap.get c ∧
      (ExceptT.run (Record.write h name v : Op G Unit) s).2.heap.get S' = s.heap.get S' ∧
      s.heap.SameSizes (ExceptT.run (Record.write h name v : Op G Unit) s).2.heap := by
  obtain ⟨d, hd⟩ := ha.first
  obtain ⟨d', hd'⟩ := ha.second
  obtain ⟨hfirst, hspares, hfixed⟩ := hd.after_write name v
  generalize (ExceptT.run (Record.write h name v : Op G Unit) s).2 = t at hfirst hspares hfixed ⊢
  have hcell := hspares.record ha.cells.symm
  have hschema : t.heap.get S' = s.heap.get S' := by
    by_cases hS : S' = S
    · subst hS
      cases k with
      | fixed => exact hfixed rfl
      | growing => exact absurd rfl (ha.schemas rfl)
    · exact hspares.schema hS
  exact ⟨⟨hfirst, ⟨d', hd'.of_same hcell (hspares.sizes.has hd'.hasCell) (hspares.sizes.has hd'.hasSchema)⟩, ha.cells,
    ha.schemas⟩, hcell, hschema, hspares.sizes⟩

theorem after_read (ha : k.Apart h S c S' s.heap) (name : String) :
    k.Apart h S c S' (ExceptT.run (Record.read h name : Op G Value) s).2.heap := by
  obtain ⟨d, hd⟩ := ha.first
  obtain ⟨d', hd'⟩ := ha.second
  cases k with
  | fixed =>
    rw [hd.run_read_fixed]
    exact ha
  | growing =>
    have hrestores := GrowingRecord.restores_read ⟨h, S, none⟩ name s
    obtain ⟨v, s', hrun, hfills, -⟩ := GrowingRecord.run_read (G := G) hd.isIn name
    rw [hrun] at hrestores
    rw [hd.run_read_growing, hrun]
    have hcell := hrestores.same hd'.hasCell ha.cells.symm
    exact ⟨exists_stands_of_isIn (hfills.isIn hd.isIn), ⟨d', hd'.of_same hcell (hrestores.has hd'.hasCell)
      (hrestores.has hd'.hasSchema)⟩, ha.cells, ha.schemas⟩

theorem after_use (ha : k.Apart h S c S' s.heap) (huse : Uses h c s t) : k.Apart h S c S' t.heap := by
  cases huse with
  | read hx name =>
    rcases hx with rfl | rfl
    · exact ha.after_read name
    · exact (ha.symm.after_read name).symm
  | write hx name v =>
    rcases hx with rfl | rfl
    · exact (ha.after_write name v).1
    · exact (ha.symm.after_write name v).1.symm

theorem after_uses (ha : k.Apart h S c S' s.heap) (huses : Relation.ReflTransGen (Uses h c) s t) :
    k.Apart h S c S' t.heap := by
  induction huses with
  | refl => exact ha
  | tail _ huse ih => exact ih.after_use huse

/-- A run of writes to the first record leaves the second one and its schema as they are. -/
theorem after_writes (ha : k.Apart h S c S' s.heap) (hwrites : Relation.ReflTransGen (Writes h) s t) :
    k.Apart h S c S' t.heap ∧ t.heap.get c = s.heap.get c ∧ t.heap.get S' = s.heap.get S' ∧
      s.heap.SameSizes t.heap := by
  induction hwrites with
  | refl => exact ⟨ha, rfl, rfl, .refl s.heap⟩
  | tail _ hwrite ih =>
    obtain ⟨name, v, rfl⟩ := hwrite
    obtain ⟨ha', hcell, hschema, hsizes⟩ := ih
    obtain ⟨ha'', hcell', hschema', hsizes'⟩ := ha'.after_write name v
    exact ⟨ha'', hcell'.trans hcell, hschema'.trans hschema, hsizes.trans hsizes'⟩

theorem answer_after_writes (ha : k.Apart h S c S' s.heap) (hwrites : Relation.ReflTransGen (Writes h) s t)
    (name : String) :
    (ExceptT.run (Record.read c name : Op G Value) t).1 = (ExceptT.run (Record.read c name : Op G Value) s).1 := by
  obtain ⟨-, hcell, hschema, hsizes⟩ := ha.after_writes hwrites
  obtain ⟨d', hd'⟩ := ha.second
  exact hd'.answer_read_congr hcell hschema hsizes name

theorem independent (ha : k.Apart h S c S' s.heap) : Independent h c s := fun _ huses _ =>
  ⟨(ha.after_uses huses).answer_after_writes, (ha.after_uses huses).symm.answer_after_writes⟩

end Apart

end OwnKind

end ObjectGraph
