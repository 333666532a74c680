import ObjectGraph.Proofs.Record.Runs

/-!
Fixed records.  A write that is taken changes the record and nothing else, one that is refused changes nothing,
and what is read is what was written last or the zero of the type.  So whatever a program writes to a new
record, each value that it holds fits its declared type.
-/

namespace ObjectGraph

namespace FixedRecord
variable {G : ClassGraph} {h : Handle .record} {S : Handle .schema} {T : Schema} {d : Dict Value} {H H' : Heap}
  {s s' : State G} {name : String} {p : Property} {v w : Value}

/-- What a property shows: what it holds, or if that is nothing or null the zero of its type. -/
def shown (d : Dict Value) (p : Property) : Value :=
  if ((d.get? p.name).getD .null).isNull then p.ty.zero else (d.get? p.name).getD .null

theorem shown_insert_self : shown (d.insert p.name v) p = if v.isNull then p.ty.zero else v := by
  rw [shown, Dict.get?_insert, if_pos rfl, Option.getD_some]

theorem shown_of_get? (h : d.get? p.name = some v) (hv : v = .null → p.ty.isPrimitive = false) : shown d p = v := by
  rw [shown, h, Option.getD_some]
  by_cases hnull : v = .null
  · have hzero : p.ty.zero = .null := by
      have := hv hnull
      cases hty : p.ty <;> first | rfl | (rw [hty] at this; cases this)
    rw [hnull, hzero]
    rfl
  · rw [Value.isNull_eq_false_iff.mpr hnull]
    rfl

theorem shown_insert_of_ne (hne : p.name ≠ name) : shown (d.insert name v) p = shown d p := by
  rw [shown, Dict.get?_insert, if_neg hne, shown]

theorem read_eq (hp : T.property? name = some p) : read T d name = .ok (shown d p) := by
  rw [read, Schema.declared, hp]
  obtain rfl := Schema.name_of_property? hp
  rfl

theorem run_read (hcell : s.heap.get h = .fixed S d) (hp : (s.heap.get S).property? name = some p) :
    ExceptT.run (Record.read h name : Op G Value) s = (.ok (shown d p), s) := by
  rw [Record.read, Op.run_bind_of_ok (Op.run_read s _), hcell]
  dsimp only
  rw [Op.run_tryRead, read_eq hp]

/-- A value that the slot takes is written. -/
theorem run_write (hcell : s.heap.get h = .fixed S d) (hp : (s.heap.get S).property? name = some p)
    (hw : s.heap.coerce G p.ty name v = .ok w) : ExceptT.run (Record.write h name v : Op G Unit) s =
      (.ok (), { s with heap := s.heap.set h (.fixed S (d.insert name w)) }) := by
  have hwrite : write G s.heap (s.heap.get S) d name v = .ok (d.insert name w) := by
    rw [write, Schema.declared, hp]
    change (s.heap.coerce G p.ty name v >>= _) = _
    rw [hw]
    rfl
  rw [Record.write, Op.run_bind_of_ok (Op.run_read s _), hcell]
  dsimp only
  rw [Op.run_tryWrite, hwrite]
  rfl

/-- Any other write is refused. -/
theorem run_write_cases (hcell : s.heap.get h = .fixed S d) (name : String) (v : Value) :
    (ExceptT.run (Record.write h name v : Op G Unit) s).2 = s ∨
      ∃ p w, (s.heap.get S).property? name = some p ∧ s.heap.coerce G p.ty name v = .ok w ∧
        (ExceptT.run (Record.write h name v : Op G Unit) s).2 =
          { s with heap := s.heap.set h (.fixed S (d.insert name w)) } := by
  cases hwrite : write G s.heap (s.heap.get S) d name v with
  | error e =>
    refine Or.inl ?_
    rw [Record.write, Op.run_bind_of_ok (Op.run_read s _), hcell]
    dsimp only
    rw [Op.run_tryWrite, hwrite]
    rfl
  | ok d' =>
    obtain ⟨p, hp, hcoerce⟩ := bind_eq_ok.mp hwrite
    obtain ⟨w, hw, -⟩ := bind_eq_ok.mp hcoerce
    have hproperty : (s.heap.get S).property? name = some p := by
      unfold Schema.declared at hp
      split at hp <;> cases hp
      assumption
    exact Or.inr ⟨p, w, hproperty, hw, congrArg Prod.snd (run_write hcell hproperty hw)⟩

/-! ### What a record holds -/

/-- Whether a record is a fixed one, and each value that it holds fits the declared type. -/
structure Typed (G : ClassGraph) (h : Handle .record) (S : Handle .schema) (d : Dict Value) (H : Heap) : Prop where
  cell : H.get h = .fixed S d
  hasCell : H.Has h
  hasSchema : H.Has S
  declared : ∀ {name v}, d.get? name = some v →
    ∃ p, (H.get S).property? name = some p ∧ H.Fits G p.ty v ∧ H.Live v

theorem Typed.shown (hd : Typed G h S d H) (hp : (H.get S).property? name = some p) :
    H.Fits G p.ty (shown d p) ∧ H.Live (FixedRecord.shown d p) := by
  unfold FixedRecord.shown
  split
  · refine ⟨Heap.fits_zero, ?_⟩
    cases p.ty with
    | primitive q => cases q <;> trivial
    | _ => trivial
  · obtain rfl := Schema.name_of_property? hp
    cases hv : d.get? p.name with
    | none =>
      rename_i hnull
      rw [hv] at hnull
      exact absurd rfl hnull
    | some v =>
      obtain ⟨q, hq, hfits⟩ := hd.declared hv
      cases hp.symm.trans hq
      exact hfits

theorem Typed.insert (hd : Typed G h S d H) (hp : (H.get S).property? name = some p)
    (hfits : H.Fits G p.ty v) (hlive : H.Live v) :
    Typed G h S (d.insert name v) (H.set h (.fixed S (d.insert name v))) := by
  have hchanges := H.changesOnly_set h (.fixed S (d.insert name v))
  have hschema := hchanges.schema hd.hasSchema
  refine ⟨H.get_set_self (k := .record) h _, hchanges.has hd.hasCell, hchanges.has hd.hasSchema,
    fun {name' v'} hv => ?_⟩
  suffices hold : ∃ p, (H.get S).property? name' = some p ∧ H.Fits G p.ty v' ∧ H.Live v' by
    obtain ⟨p, hp, hfits, hlive⟩ := hold
    exact ⟨p, hschema.symm ▸ hp, hchanges.keepsTypes.fits hlive hfits, hchanges.keepsTypes.live hlive⟩
  rw [Dict.get?_insert] at hv
  split at hv
  · rename_i hname
    cases hv
    exact ⟨p, hname.symm ▸ hp, hfits, hlive⟩
  · exact hd.declared hv

theorem Typed.spared_properties (hd : Typed G h S d H) (hs : Record.Spares h H H') :
    (H'.get S).properties = (H.get S).properties := by
  have := hs.properties
  rwa [Heap.schemaOf, Heap.schemaOf, hs.cell, hd.cell] at this

theorem Typed.spared (hd : Typed G h S d H) (hs : Record.Spares h H H') : Typed G h S d H' := by
  have hcell := hs.cell.trans hd.cell
  have hproperties := hd.spared_properties hs
  refine ⟨hcell, hs.types.has hd.hasCell, hs.types.has hd.hasSchema, fun hv => ?_⟩
  obtain ⟨p, hp, hfits, hlive⟩ := hd.declared hv
  refine ⟨p, ?_, hs.types.fits hlive hfits, hs.types.live hlive⟩
  rwa [Schema.property?_congr hproperties]

/-! ### Runs -/

/-- What a program that fills a record may do next. -/
inductive Step (h : Handle .record) : State G → State G → Prop
  | write {s : State G} (name : String) (v : Value) (hv : s.heap.Live v) :
      Step h s (ExceptT.run (Record.write h name v) s).2
  | other {s s' : State G} (hs : Record.Spares h s.heap s'.heap) : Step h s s'

theorem Step.of_run_write {r : Except Error Unit} (hrun : ExceptT.run (Record.write h name v) s = (r, s'))
    (hv : s.heap.Live v) : Step h s s' := by
  have hstep := Step.write (h := h) name v hv
  rwa [hrun] at hstep

/-- A step keeps what is stored well typed, and the properties as they are. -/
theorem Step.typed (hstep : Step h s s') (hd : Typed G h S d s.heap) :
    (∃ d', Typed G h S d' s'.heap) ∧ (s'.heap.get S).properties = (s.heap.get S).properties := by
  cases hstep with
  | write name v hv =>
    rcases run_write_cases hd.cell name v with hsame | ⟨p, w, hp, hw, hafter⟩
    · rw [hsame]
      exact ⟨⟨d, hd⟩, rfl⟩
    · rw [hafter]
      have hschema := (s.heap.changesOnly_set h (.fixed S (d.insert name w))).schema hd.hasSchema
      exact ⟨⟨_, hd.insert hp (Heap.fits_of_coerce hw) (Heap.live_of_coerce hw hv)⟩, congrArg Schema.properties hschema⟩
  | other hs => exact ⟨⟨d, hd.spared hs⟩, hd.spared_properties hs⟩

theorem typed_of_run (hrun : Relation.ReflTransGen (Step h) s s') (hd : Typed G h S d s.heap) :
    (∃ d', Typed G h S d' s'.heap) ∧ (s'.heap.get S).properties = (s.heap.get S).properties := by
  induction hrun with
  | refl => exact ⟨⟨d, hd⟩, rfl⟩
  | tail _ hstep ih =>
    obtain ⟨⟨d', hd'⟩, hsame⟩ := ih
    obtain ⟨htyped, hsame'⟩ := hstep.typed hd'
    exact ⟨htyped, hsame'.trans hsame⟩

theorem run_newFixed (hS : s.heap.Has S) : ∃ h s',
    ExceptT.run (Record.newFixed S : Op G (Handle .record)) s = (.ok h, s') ∧
    s.heap.OnlyAdds s'.heap ∧ Typed G h S .empty s'.heap := by
  have hadds := s.heap.onlyAdds_alloc (k := .record) (.fixed S .empty)
  refine ⟨_, _, Op.run_change s _, hadds, s.heap.get_alloc_self (k := .record) _, Heap.has_alloc (k := .record) _,
    hadds.has hS, fun hv => ?_⟩
  cases hv

end FixedRecord

end ObjectGraph
