import ObjectGraph.Proofs.Record.Installing

/-!
Plain writes of growing records are all or nothing.  A name that is not known is declared before its value is
converted, and no failure can follow that, as a value of any kind is stored as it is under its own type.
-/

namespace ObjectGraph

open Op

namespace Record

/-- What a name of a growing record is after a write: what it was, or else a property of the type of the value. -/
def writtenAs (h : Handle .record) (name : String) (v : Value) (H : Heap) : Property :=
  (property? h name H).getD ⟨name, H.typeOf v, none⟩

/-- Whether a heap is one in which a property of a record has been written, and nothing else that the record shows
has changed. -/
structure Written (G : ClassGraph) (h : Handle .record) (name : String) (v : Value) (H H' : Heap) : Prop where
  property : property? h name H' = some (writtenAs h name v H)
  stored : ∃ d d' w, H.stored? h = some d ∧ H'.stored? h = some d' ∧
    H.coerce G (writtenAs h name v H).ty name v = .ok w ∧ d'.get? name = some w ∧
    ∀ other, other ≠ name → d'.get? other = d.get? other
  others : ∀ other, other ≠ name → property? h other H' = property? h other H

end Record

namespace GrowingRecord
variable {G : ClassGraph} {g : GrowingRecord} {H K : Heap} {name : String} {v w : Value} {h : Handle .record}
  {S : Handle .schema} {store : Store} {s : State G} {p : Property}

open Record (writtenAs Written)

/-! ### Growing records by their cells -/

theorem inCell_ofStore (hcell : H.get h = .growing S store) :
    (ofStore h S store).InCell H ∧ (ofStore h S store).cell = h ∧ (ofStore h S store).schema = S := by
  cases store with
  | own d => exact ⟨⟨.own d, hcell, rfl⟩, rfl, rfl⟩
  | shared m => exact ⟨⟨.shared m, hcell, rfl⟩, rfl, rfl⟩

namespace InCell

theorem stored?_eq (hin : g.InCell H) : H.stored? g.cell = some (g.values H) := by
  obtain ⟨store, hcell, hstore⟩ := hin
  obtain ⟨cell, schema, shared⟩ := g
  cases store <;> cases hstore <;> simp only [values, Heap.stored?, hcell, Option.getD_some]

theorem property?_eq (hin : g.InCell H) (name : String) : Record.property? g.cell name H = g.property? name H := by
  obtain ⟨store, hcell, hstore⟩ := hin
  rw [Record.property?, hcell]
  dsimp only
  rw [hstore]

theorem run_write (hin : g.InCell s.heap) (name : String) (v : Value) :
    ExceptT.run (Record.write g.cell name v : Op G Unit) s = ExceptT.run (g.write name v : Op G Unit) s := by
  obtain ⟨store, hcell, hstore⟩ := hin
  rw [Record.write, run_bind_of_ok (Op.run_read s _), hcell]
  dsimp only
  rw [hstore]

/-! ### Storing -/

/-- The value may be stored on a heap on which the name has been declared, if the rest of the record is there as it
was. -/
theorem written_store (hin : g.InCell H) (hK : g.InCell K) (hvalues : g.values K = g.values H)
    (hp : g.property? name K = some (writtenAs g.cell name v H))
    (hothers : ∀ other, other ≠ name → g.property? other K = g.property? other H)
    (hw : H.coerce G (writtenAs g.cell name v H).ty name v = .ok w) :
    Written G g.cell name v H (g.store name w K) := by
  have hafter : g.InCell (g.store name w K) := hK.setValues _
  have hproperty (other : String) : Record.property? g.cell other (g.store name w K) = g.property? other K :=
    (hafter.property?_eq other).trans (property?_store hp other w)
  refine ⟨(hproperty name).trans hp, ?_, fun other hne => ?_⟩
  · refine ⟨g.values H, (g.values H).insert name w, w, hin.stored?_eq, ?_, hw, ?_, fun other hne => ?_⟩
    · rw [hafter.stored?_eq, GrowingRecord.store, values_setValues, hvalues]
    · rw [Dict.get?_insert, if_pos rfl]
    · rw [Dict.get?_insert, if_neg hne]
  · rw [hproperty, hothers other hne, hin.property?_eq]

theorem written_of_property (hin : g.InCell H) (hp : g.property? name H = some p)
    (hw : H.coerce G p.ty name v = .ok w) : Written G g.cell name v H (g.store name w H) := by
  have has : writtenAs g.cell name v H = p := by rw [writtenAs, hin.property?_eq, hp, Option.getD_some]
  exact hin.written_store hin rfl (has.symm ▸ hp) (fun _ _ => rfl) (has.symm ▸ hw)

/-- A name that is not known may be declared with the type of the value, as that type takes the value. -/
theorem written_of_unknown (hin : g.InCell s.heap) (hp : g.property? name s.heap = none)
    (hfree : (s.heap.get g.schema).isRestricted = false) :
    ∃ H', ExceptT.run (g.write name v : Op G Unit) s = (.ok (), { s with heap := H' }) ∧
      Written G g.cell name v s.heap H' := by
  have has : writtenAs g.cell name v s.heap = ⟨name, s.heap.typeOf v, none⟩ := by
    rw [writtenAs, hin.property?_eq, hp, Option.getD_none]
  let K := s.heap.set g.schema ((s.heap.get g.schema).put ⟨name, s.heap.typeOf v, none⟩)
  have hput : s.heap.Puts g.schema _ K := s.heap.puts_set (k := .schema) g.schema _
  obtain ⟨hdeclared, hrun⟩ := run_write_of_free (t := { s with heap := K }) hp hfree rfl
  have hown : s.heap.coerce G (s.heap.typeOf v) name v = .ok v := (s.heap.fits_typeOf v).coerce
  -- The value is converted after the declaration, which changes the type of no value.
  have htype : K.typeOf v = s.heap.typeOf v := hput.typeOf nofun nofun v
  rw [run_write_of_property hdeclared, Heap.coerce_congr htype, hown] at hrun
  refine ⟨_, hrun, hin.written_store (hin.setSchema _) (values_setSchema ..) (has.symm ▸ hdeclared)
    (fun other hne => ?_) (has.symm ▸ hown)⟩
  rw [property?, values_setSchema, hput.self, Schema.property?_put, if_neg (Ne.symm hne), property?]

end InCell

end GrowingRecord

namespace Record
variable {G : ClassGraph} {h : Handle .record} {S : Handle .schema} {store : Store} {s : State G}

/-- A write of a growing record fails and changes nothing, or stores the value in the property and leaves all others
as they were.  The name of a property cannot be written if its type does not take the value, a name that is not known
cannot be written if the schema is restricted, and there are no other failures. -/
theorem write_all_or_nothing (hcell : s.heap.get h = .growing S store) (name : String) (v : Value) :
    ((∃ e, ExceptT.run (write h name v : Op G Unit) s = (.error e, s)) ∨
      ∃ H', ExceptT.run (write h name v : Op G Unit) s = (.ok (), { s with heap := H' }) ∧
        Written G h name v s.heap H') ∧
    (∀ p, property? h name s.heap = some p → ∀ e s',
      ExceptT.run (write h name v : Op G Unit) s = (.error e, s') ↔
        s.heap.coerce G p.ty name v = .error e ∧ s' = s) ∧
    (property? h name s.heap = none → ∀ e s',
      ExceptT.run (write h name v : Op G Unit) s = (.error e, s') ↔
        (s.heap.get S).isRestricted = true ∧ e = .restrictedSchema (s.heap.get S).name name ∧ s' = s) := by
  obtain ⟨hin, hh, hS⟩ := GrowingRecord.inCell_ofStore hcell
  generalize GrowingRecord.ofStore h S store = g at hin hh hS
  subst hh hS
  rw [hin.run_write, hin.property?_eq]
  cases hp : g.property? name s.heap with
  | some p =>
    rw [GrowingRecord.run_write_of_property hp]
    cases hw : s.heap.coerce G p.ty name v with
    | error e =>
      refine ⟨.inl ⟨e, rfl⟩, ?_, nofun⟩
      rintro _ ⟨⟩ e' s'
      rw [hw]
      constructor
      · rintro ⟨⟩
        exact ⟨rfl, rfl⟩
      · rintro ⟨⟨⟩, rfl⟩
        rfl
    | ok w =>
      refine ⟨.inr ⟨_, rfl, hin.written_of_property hp hw⟩, ?_, nofun⟩
      rintro _ ⟨⟩ e s'
      rw [hw]
      exact ⟨nofun, nofun⟩
  | none =>
    cases hr : (s.heap.get g.schema).isRestricted with
    | true =>
      rw [GrowingRecord.run_write_of_closed v hp hr]
      refine ⟨.inl ⟨_, rfl⟩, nofun, fun _ e s' => ?_⟩
      constructor
      · rintro ⟨⟩
        exact ⟨rfl, rfl, rfl⟩
      · rintro ⟨-, rfl, rfl⟩
        rfl
    | false =>
      obtain ⟨H', hrun, hwritten⟩ := hin.written_of_unknown (v := v) hp hr
      rw [hrun]
      exact ⟨.inr ⟨H', rfl, hwritten⟩, nofun, fun _ e s' => ⟨nofun, nofun⟩⟩

/-- The state with one growing record over a map of one entry. -/
def adopting : State .empty :=
  (ExceptT.run (do
    newOver (← Op.change fun H => H.alloc .map (Dict.empty.insert "k" (.text "x")))) (State.empty .empty)).2

/-- A new name is declared beside the key of the map, which stays a property of any type. -/
theorem write_all_or_nothing_over_map : adopting.heap.get (⟨0⟩ : Handle .record) = .growing ⟨0⟩ (.shared ⟨0⟩) ∧
    ∃ H', ExceptT.run (write ⟨0⟩ "b" (.bool true)) adopting = (.ok (), { adopting with heap := H' }) ∧
      property? ⟨0⟩ "b" H' = some ⟨"b", .boxed .bool, none⟩ ∧ property? ⟨0⟩ "k" H' = some (.untyped "k") := by
  have hcell : adopting.heap.get (⟨0⟩ : Handle .record) = .growing ⟨0⟩ (.shared ⟨0⟩) := rfl
  obtain ⟨houtcome, -, hunknown⟩ := write_all_or_nothing hcell "b" (.bool true)
  refine ⟨hcell, ?_⟩
  rcases houtcome with ⟨e, hrun⟩ | ⟨H', hrun, hwritten⟩
  · cases ((hunknown rfl e adopting).mp hrun).1
  · exact ⟨H', hrun, hwritten.property, hwritten.others "k" (by decide)⟩

end Record

end ObjectGraph
