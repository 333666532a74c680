import ObjectGraph.Proofs.Record.Fixed

/-!
Records that share a schema which changes.  A value is checked when it is written, against the type that its
name has then; a later declaration or removal of the name leaves the value as it is.  So a record shows a value
of the declared type unless its name was declared anew since the value was written, and it holds a name that is
not declared only if that was removed since.
-/

namespace ObjectGraph

/-- What a property shows is the zero of its type, or a value that is held. -/
theorem FixedRecord.shown_cases (d : Dict Value) (p : Property) :
    shown d p = p.ty.zero ∨ (d.get? p.name = some (shown d p) ∧ shown d p ≠ .null) := by
  cases hv : d.get? p.name with
  | none =>
    refine .inl ?_
    rw [shown, hv]
    rfl
  | some v =>
    rw [shown, hv, Option.getD_some]
    cases hnull : v.isNull with
    | true => exact .inl (if_pos rfl)
    | false => exact .inr ⟨rfl, Value.isNull_eq_false_iff.mp hnull⟩

namespace SharedSchema
variable {G : ClassGraph} {S : Handle .schema} {h : Handle .record} {d : Dict Value} {H H' : Heap}
  {s s' s₀ : State G} {name : String} {v : Value} {p q : Property}

/-- Whether a heap is a later one with the same schema and no other values in the records of it. -/
structure Spares (S : Handle .schema) (H H' : Heap) : Prop where
  types : H.KeepsTypes H'
  schema : H'.get S = H.get S
  records : ∀ {h : Handle .record} {d}, H'.get h = .fixed S d → H.get h = .fixed S d

/-- What the holders of a schema and of its records do.  A change of the schema is refused if it is restricted. -/
inductive Event
  | create
  | read (h : Handle .record) (name : String)
  | write (h : Handle .record) (name : String) (v : Value)
  | declare (p : Property)
  | remove (name : String)
  | restrict (isRestricted : Bool)
  | refused
  | other

/-- Whether an event may change what a name is declared as. -/
def Event.Redeclares (name : String) : Event → Prop
  | .declare p => p.name = name
  | .remove n => n = name
  | _ => False

/-- What an event does.  A write may fail. -/
inductive Step (S : Handle .schema) : Event → State G → State G → Prop
  | create {s : State G} : Step S .create s (ExceptT.run (Record.newFixed S) s).2
  | read {s : State G} {h : Handle .record} {d : Dict Value} (hcell : s.heap.get h = .fixed S d) (name : String) :
      Step S (.read h name) s (ExceptT.run (Record.read h name) s).2
  | write {s : State G} {h : Handle .record} {d : Dict Value} (hcell : s.heap.get h = .fixed S d) (name : String)
      {v : Value} (hv : s.heap.Live v) : Step S (.write h name v) s (ExceptT.run (Record.write h name v) s).2
  | declare {s s' : State G} {p : Property} (hedit : ExceptT.run (edit S fun T => T.add p) s = (.ok (), s')) :
      Step S (.declare p) s s'
  | remove {s s' : State G} {name : String} (hedit : ExceptT.run (edit S fun T => T.remove name) s = (.ok (), s')) :
      Step S (.remove name) s s'
  | restrict {s s' : State G} {b : Bool} (hedit : ExceptT.run (edit S fun T => .ok (T.restrict b)) s = (.ok (), s')) :
      Step S (.restrict b) s s'
  | refused {s s' : State G} {f : Schema → Except Error Schema} {e : Error}
      (hedit : ExceptT.run (edit S f) s = (.error e, s')) : Step S .refused s s'
  | other {s s' : State G} (hs : Spares S s.heap s'.heap) : Step S .other s s'

/-- The states that events lead to; the latest event comes first. -/
inductive Run (S : Handle .schema) (s₀ : State G) : List Event → State G → Prop
  | start : Run S s₀ [] s₀
  | step {es : List Event} {e : Event} {s s' : State G} (hrun : Run S s₀ es s) (hstep : Step S e s s') :
      Run S s₀ (e :: es) s'

/-- Whether a write stored a value under a name that was declared as some property, and what came later. -/
def Written (S : Handle .schema) (s₀ : State G) (es : List Event) (h : Handle .record) (v : Value) (q : Property)
    (later : List Event) : Prop :=
  ∃ earlier s u, es = later ++ .write h q.name u :: earlier ∧ Run S s₀ earlier s ∧
    (s.heap.get S).property? q.name = some q ∧ s.heap.coerce G q.ty q.name u = .ok v

/-! ### What one event does -/

/-- What an event leaves as it is, and which values the records hold after it. -/
structure Keeps (G : ClassGraph) (S : Handle .schema) (e : Event) (H H' : Heap) : Prop where
  types : H.KeepsTypes H'
  property : ∀ {name}, ¬ e.Redeclares name → (H'.get S).property? name = (H.get S).property? name
  declared : ∀ {name}, e ≠ .remove name → (H.get S).declares name = true → (H'.get S).declares name = true
  held : ∀ {h : Handle .record} {d' name v}, H'.get h = .fixed S d' → d'.get? name = some v →
    (∃ d, H.get h = .fixed S d ∧ d.get? name = some v) ∨
    ∃ u p, e = .write h name u ∧ H.Live u ∧ (H.get S).property? name = some p ∧ H.coerce G p.ty name u = .ok v

theorem Spares.refl (S : Handle .schema) (H : Heap) : Spares S H H := ⟨.refl H, rfl, id⟩

/-- An event that leaves the schema as it is keeps what is declared. -/
theorem Keeps.of_schema {e : Event} (htypes : H.KeepsTypes H') (hschema : H'.get S = H.get S)
    (hheld : ∀ {h : Handle .record} {d' name v}, H'.get h = .fixed S d' → d'.get? name = some v →
      (∃ d, H.get h = .fixed S d ∧ d.get? name = some v) ∨
      ∃ u p, e = .write h name u ∧ H.Live u ∧ (H.get S).property? name = some p ∧
        H.coerce G p.ty name u = .ok v) : Keeps G S e H H' where
  types := htypes
  property _ := by rw [hschema]
  declared _ hdeclared := by rwa [hschema]
  held := hheld

theorem Spares.keeps {e : Event} (hs : Spares S H H') : Keeps G S e H H' :=
  .of_schema hs.types hs.schema fun hcell hv => .inl ⟨_, hs.records hcell, hv⟩

theorem keeps_edit {e : Event} {f : Schema → Except Error Schema}
    (hedit : ExceptT.run (edit S f) s = (.ok (), s'))
    (hproperty : ∀ {T T' name}, f T = .ok T' → ¬ e.Redeclares name → T'.property? name = T.property? name)
    (hdeclared : ∀ {T T' name}, f T = .ok T' → e ≠ .remove name → T.declares name = true → T'.declares name = true) :
    Keeps G S e s.heap s'.heap := by
  obtain ⟨_, hfailed, -⟩ | ⟨T', -, hf, rfl⟩ := run_edit hedit
  · cases hfailed
  · have hself : (s.heap.set S T').get S = T' := s.heap.get_set_self (k := .schema) S T'
    refine ⟨Heap.keepsTypes_set (k := .schema) nofun nofun, fun he => ?_, fun he hold => ?_,
      fun {h d' _ _} hcell hv => ?_⟩
    · exact hself.symm ▸ hproperty hf he
    · exact hself.symm ▸ hdeclared hf he hold
    · exact .inl ⟨d', (s.heap.get_set_of_kind_ne (k := .schema) (j := h) T' nofun).symm.trans hcell, hv⟩

theorem keeps_create (s : State G) :
    Keeps G S .create s.heap (ExceptT.run (Record.newFixed S : Op G (Handle .record)) s).2.heap := by
  have hadds := s.heap.onlyAdds_alloc (k := .record) (.fixed S .empty)
  have hschema := s.heap.get_alloc_of_kind_ne (k := .record) (j := S) (.fixed S .empty) nofun
  refine .of_schema hadds.keepsTypes hschema fun {h d' _ _} hcell hv => .inl ?_
  by_cases hnew : h = s.heap.next .record
  · subst hnew
    have hempty := (s.heap.get_alloc_self (k := .record) (.fixed S .empty)).symm.trans hcell
    cases hempty
    cases hv
  · exact ⟨d', (s.heap.get_alloc_of_ne (k := .record) _ hnew).symm.trans hcell, hv⟩

theorem keeps_write (hcell : s.heap.get h = .fixed S d) (name : String) (hv : s.heap.Live v) :
    Keeps G S (.write h name v) s.heap (ExceptT.run (Record.write h name v : Op G Unit) s).2.heap := by
  rcases FixedRecord.run_write_cases hcell name v with hsame | ⟨p, w, hp, hw, hafter⟩
  · rw [hsame]
    exact (Spares.refl S s.heap).keeps
  · rw [hafter]
    have hschema := s.heap.get_set_of_kind_ne (k := .record) (h := h) (j := S) (.fixed S (d.insert name w)) nofun
    refine .of_schema (Heap.keepsTypes_set (k := .record) nofun nofun) hschema fun {j d' name' v'} hcell' hv' => ?_
    by_cases hj : j = h
    · subst hj
      have hinserted := (s.heap.get_set_self (k := .record) j (.fixed S (d.insert name w))).symm.trans hcell'
      cases hinserted
      rw [Dict.get?_insert] at hv'
      split at hv'
      · rename_i hname
        cases hv'
        exact .inr ⟨v, p, by rw [hname], hv, hname.symm ▸ hp, hname.symm ▸ hw⟩
      · exact .inl ⟨d, hcell, hv'⟩
    · exact .inl ⟨d', (s.heap.get_set_of_ne (k := .record) _ hj).symm.trans hcell', hv'⟩

theorem Step.keeps {e : Event} (hstep : Step S e s s') : Keeps G S e s.heap s'.heap := by
  cases hstep with
  | create => exact keeps_create s
  | @read _ h _ hcell name =>
    have hsame : (ExceptT.run (Record.read h name : Op G Value) s).2 = s := by
      rw [Record.read, Op.run_bind_of_ok (Op.run_read s _), hcell]
      rfl
    rw [hsame]
    exact (Spares.refl S s.heap).keeps
  | write hcell name hv => exact keeps_write hcell name hv
  | declare hedit =>
    refine keeps_edit hedit (fun hT he => ?_) (fun {T T' name} hT _ hold => ?_)
    · obtain ⟨-, rfl⟩ := Schema.add_eq_ok hT
      exact (Schema.property?_put ..).trans (if_neg he)
    · obtain ⟨-, rfl⟩ := Schema.add_eq_ok hT
      rw [Schema.declares_eq, Schema.property?_put]
      split
      · rfl
      · rwa [← Schema.declares_eq]
  | @remove _ _ n hedit =>
    refine keeps_edit hedit (fun hT he => ?_) (fun {T T' name} hT he hold => ?_)
    · obtain ⟨-, rfl⟩ := Schema.remove_eq_ok hT
      exact (Schema.property?_drop ..).trans (if_neg he)
    · obtain ⟨-, rfl⟩ := Schema.remove_eq_ok hT
      have hne : n ≠ name := fun h => he (congrArg Event.remove h)
      rwa [Schema.declares_eq, Schema.property?_drop, if_neg hne, ← Schema.declares_eq]
  | restrict hedit =>
    refine keeps_edit hedit (fun hT _ => ?_) (fun hT _ hold => ?_) <;> cases hT
    · rfl
    · exact hold
  | refused hedit =>
    obtain ⟨_, -, rfl⟩ | ⟨_, htaken, -⟩ := run_edit hedit
    · exact (Spares.refl S s'.heap).keeps
    · cases htaken
  | other hs => exact hs.keeps

/-! ### Runs -/

/-- What is known of a value that a record holds: the write that stored it, and what became of the name since. -/
structure Provenance (S : Handle .schema) (s₀ : State G) (es : List Event) (s : State G) (h : Handle .record)
    (v : Value) (q : Property) (later : List Event) : Prop where
  written : Written S s₀ es h v q later
  live : s.heap.Live v
  fits : s.heap.Fits G q.ty v
  same : (∀ e ∈ later, ¬ e.Redeclares q.name) → (s.heap.get S).property? q.name = some q
  declared : .remove q.name ∉ later → (s.heap.get S).declares q.name = true

theorem Provenance.step {es later : List Event} {e : Event} (hv : Provenance S s₀ es s h v q later)
    (hstep : Step S e s s') : Provenance S s₀ (e :: es) s' h v q (e :: later) := by
  have hkeeps := hstep.keeps
  obtain ⟨earlier, sw, u, rfl, hwritten⟩ := hv.written
  refine ⟨⟨earlier, sw, u, rfl, hwritten⟩, hkeeps.types.live hv.live, hkeeps.types.fits hv.live hv.fits, fun he => ?_,
    fun he => ?_⟩
  · obtain ⟨hnow, hlater⟩ := List.forall_mem_cons.mp he
    exact (hkeeps.property hnow).trans (hv.same hlater)
  · rw [List.mem_cons, not_or] at he
    exact hkeeps.declared (Ne.symm he.1) (hv.declared he.2)

theorem Provenance.of_write {es : List Event} {u : Value} (hrun : Run S s₀ es s)
    (hstep : Step S (.write h q.name u) s s') (hu : s.heap.Live u)
    (hq : (s.heap.get S).property? q.name = some q) (hcoerce : s.heap.coerce G q.ty q.name u = .ok v) :
    Provenance S s₀ (.write h q.name u :: es) s' h v q [] := by
  have hkeeps := hstep.keeps
  have hlive := Heap.live_of_coerce hcoerce hu
  have hsame : (s'.heap.get S).property? q.name = some q := (hkeeps.property id).trans hq
  exact ⟨⟨es, s, u, rfl, hrun, hq, hcoerce⟩, hkeeps.types.live hlive,
    hkeeps.types.fits hlive (Heap.fits_of_coerce hcoerce), fun _ => hsame, fun _ => by rw [Schema.declares_eq, hsame]; rfl⟩

theorem provenance_of_run {es : List Event} (hnew : ∀ (h : Handle .record) d, s₀.heap.get h = .fixed S d → d = .empty)
    (hrun : Run S s₀ es s) (hcell : s.heap.get h = .fixed S d) (hv : d.get? name = some v) :
    ∃ q later, q.name = name ∧ Provenance S s₀ es s h v q later := by
  induction hrun generalizing d with
  | start =>
    obtain rfl := hnew h d hcell
    cases hv
  | step hrun hstep ih =>
    rcases hstep.keeps.held hcell hv with ⟨d₀, hcell₀, hv₀⟩ | ⟨u, q, rfl, hu, hq, hcoerce⟩
    · obtain ⟨q, later, hname, hq⟩ := ih hcell₀ hv₀
      exact ⟨q, _, hname, hq.step hstep⟩
    · obtain rfl := Schema.name_of_property? hq
      exact ⟨q, [], rfl, .of_write hrun hstep hu hq hcoerce⟩

theorem stored?_of_cell (hcell : H.get h = .fixed S d) : H.stored? h = some d := by
  rw [Heap.stored?, hcell]

/-- However a schema is declared, changed and restricted while records of it are read and written, a record reads
exactly the names that are declared.  A primitive property never reads as null.  What is read is accepted by the
declared type, unless the name was declared anew or removed since the value was written, and then the type that
it had at that time accepts it.  Each name that a record holds is declared or was removed since it was written. -/
theorem shown_is_accepted_or_redeclared {es : List Event}
    (hnew : ∀ (h : Handle .record) d, s₀.heap.get h = .fixed S d → d = .empty) (hrun : Run S s₀ es s)
    (hcell : s.heap.get h = .fixed S d) :
    (∀ name, (s.heap.get S).declares name = false → ExceptT.run (Record.read h name : Op G Value) s =
      (.error (.unknownProperty name (s.heap.get S).name), s)) ∧
    (∀ name p, (s.heap.get S).property? name = some p → ∃ v,
      ExceptT.run (Record.read h name : Op G Value) s = (.ok v, s) ∧ (p.ty.isPrimitive = true → v ≠ .null) ∧
      (s.heap.accepts G p.ty v = true ∨ ∃ q later, q.name = name ∧ Written S s₀ es h v q later ∧
        s.heap.accepts G q.ty v = true ∧ ∃ e ∈ later, e.Redeclares name)) ∧
    (s.heap.stored? h = some d ∧ ∀ name v, d.get? name = some v → (s.heap.get S).declares name = true ∨
      ∃ q later, q.name = name ∧ Written S s₀ es h v q later ∧ .remove name ∈ later) := by
  refine ⟨fun name hnone => ?_, fun name p hp => ⟨_, FixedRecord.run_read hcell hp, fun hprimitive => ?_, ?_⟩, ?_,
    fun name v hv => ?_⟩
  · have hread : FixedRecord.read (s.heap.get S) d name = .error (.unknownProperty name (s.heap.get S).name) := by
      rw [FixedRecord.read, Schema.declared, Schema.declares_eq_false_iff.mp hnone]
      rfl
    rw [Record.read, Op.run_bind_of_ok (Op.run_read s _), hcell]
    exact congrArg (·, s) hread
  · rcases FixedRecord.shown_cases d p with hzero | ⟨-, hne⟩
    · rw [hzero]
      exact Heap.fits_zero.ne_null (G := G) (H := s.heap) hprimitive
    · exact hne
  · rcases FixedRecord.shown_cases d p with hzero | ⟨hv, -⟩
    · rw [hzero]
      exact .inl Heap.fits_zero.accepted
    · obtain rfl := Schema.name_of_property? hp
      obtain ⟨q, later, hname, hq⟩ := provenance_of_run hnew hrun hcell hv
      by_cases hchanged : ∃ e ∈ later, e.Redeclares q.name
      · exact .inr ⟨q, later, hname, hq.written, hq.fits.accepted, hname ▸ hchanged⟩
      · have hsame := hq.same fun e he hredeclares => hchanged ⟨e, he, hredeclares⟩
        rw [hname, hp] at hsame
        cases hsame
        exact .inl hq.fits.accepted
  · exact stored?_of_cell hcell
  · obtain ⟨q, later, rfl, hq⟩ := provenance_of_run hnew hrun hcell hv
    by_cases hremoved : .remove q.name ∈ later
    · exact .inr ⟨q, later, rfl, hq.written, hremoved⟩
    · exact .inl (hq.declared hremoved)

/-! ### A declaration that comes too late -/

/-- A schema with one property of texts, and no records. -/
def texts : State .empty := ⟨(Heap.empty.alloc .schema (.ofProperties "Row" [⟨"n", .text, none⟩])).2, .empty⟩

/-- A number where there is a text. -/
def number : Property := ⟨"n", .primitive (.int .w32), none⟩

/-- A new record, with a text in it before the name is declared as a number. -/
def late : List Event := [.declare number, .write ⟨0⟩ "n" (.text "x"), .create]

theorem texts_unused (h : Handle .record) (d : Dict Value) (hcell : texts.heap.get h = .fixed ⟨0⟩ d) : d = .empty := by
  have hdefault : texts.heap.get h = .fixed ⟨0⟩ .empty := by
    simp [texts, Heap.get, Heap.table, Heap.alloc, Heap.setTable, Heap.empty, Table.get, Table.empty]
    rfl
  rw [hdefault] at hcell
  cases hcell
  rfl

theorem run_late : ∃ s, Run ⟨0⟩ texts late s ∧
    s.heap.get (⟨0⟩ : Handle .record) = .fixed ⟨0⟩ (Dict.empty.insert "n" (.text "x")) ∧
    (s.heap.get (⟨0⟩ : Handle .schema)) = .ofProperties "Row" [number] := by
  have hcreate := Run.step .start (Step.create (S := ⟨0⟩) (s := texts))
  have hwrite := hcreate.step (.write (h := ⟨0⟩) (d := .empty) rfl "n" (v := .text "x") trivial)
  exact ⟨_, hwrite.step (.declare (p := number) rfl), rfl, rfl⟩

/-- The text is still shown where there should be a number, and is still held when the name is no longer declared. -/
theorem late_text_is_shown : ∃ s s' d, Run ⟨0⟩ texts late s ∧
    (s.heap.get (⟨0⟩ : Handle .schema)).property? "n" = some number ∧
    ExceptT.run (Record.read ⟨0⟩ "n" : Op .empty Value) s = (.ok (.text "x"), s) ∧
    s.heap.accepts .empty number.ty (.text "x") = false ∧
    Run ⟨0⟩ texts (.remove "n" :: late) s' ∧ (s'.heap.get (⟨0⟩ : Handle .schema)).declares "n" = false ∧
    s'.heap.stored? ⟨0⟩ = some d ∧ d.get? "n" = some (.text "x") := by
  obtain ⟨s, hrun, hcell, hschema⟩ := run_late
  have hp : (s.heap.get (⟨0⟩ : Handle .schema)).property? "n" = some number := by
    rw [hschema]
    rfl
  have hread := FixedRecord.run_read hcell hp
  have hremove : Schema.remove (s.heap.get (⟨0⟩ : Handle .schema)) "n" = .ok (.blank "Row") := by
    rw [hschema]
    rfl
  have hedit : ExceptT.run (edit ⟨0⟩ fun T => T.remove "n" : Op .empty Unit) s =
      (.ok (), { s with heap := s.heap.set (⟨0⟩ : Handle .schema) (.blank "Row") }) := by
    rw [edit, Op.run_tryWrite, hremove]
    rfl
  refine ⟨s, _, Dict.empty.insert "n" (.text "x"), hrun, hp, hread, rfl, hrun.step (.remove hedit), ?_, ?_, ?_⟩
  · rw [s.heap.get_set_self (k := .schema)]
    rfl
  · exact stored?_of_cell ((s.heap.get_set_of_kind_ne (k := .schema) (l := .record) _ (by decide)).trans hcell)
  · rfl

theorem shown_is_accepted_or_redeclared_when_late : ∃ s v, Run ⟨0⟩ texts late s ∧
    ExceptT.run (Record.read ⟨0⟩ "n" : Op .empty Value) s = (.ok v, s) ∧ v ≠ .null := by
  obtain ⟨s, hrun, hcell, hschema⟩ := run_late
  have hp : (s.heap.get (⟨0⟩ : Handle .schema)).property? "n" = some number := by
    rw [hschema]
    rfl
  obtain ⟨v, hread, hne, -⟩ := (shown_is_accepted_or_redeclared texts_unused hrun hcell).2.1 "n" number hp
  exact ⟨s, v, hrun, hread, hne rfl⟩

end SharedSchema

end ObjectGraph
