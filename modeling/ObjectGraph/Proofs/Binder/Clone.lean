import ObjectGraph.Proofs.Access.BulkCopy
import ObjectGraph.Proofs.Binder.Storage
import ObjectGraph.Proofs.Record.Independence
import ObjectGraph.Proofs.Record.Redeclaration

/-!
Clones of records that keep their values in themselves.  A clone is made from the description of the record, each value
of which is converted to the type of its name.  So it shows the same values as long as what the record holds is what the
types store, and from then on neither record shows what is written to the other.
-/

namespace ObjectGraph

open Op

/-- Whether each value that is held under a declared name, but for nulls, is there and is stored as it is by the type of
the name. -/
def Heap.Suits (G : ClassGraph) (S : Handle .schema) (d : Dict Value) (H : Heap) : Prop :=
  ∀ name p v, (H.get S).property? name = some p → d.get? name = some v → v ≠ .null → H.Fits G p.ty v ∧ H.Live v

namespace Heap.Suits
variable {G : ClassGraph} {S : Handle .schema} {d : Dict Value} {H H' : Heap} {name : String} {v : Value}

theorem later (hc : H.Suits G S d) (htypes : H.KeepsTypes H') (hschema : H'.get S = H.get S) :
    H'.Suits G S d := by
  intro name p v hp hv hne
  rw [hschema] at hp
  obtain ⟨hfits, hlive⟩ := hc name p v hp hv hne
  exact ⟨htypes.fits hlive hfits, htypes.live hlive⟩

theorem insert {p : Property} (hc : H.Suits G S d) (hp : (H.get S).property? name = some p) (hfits : H.Fits G p.ty v)
    (hlive : H.Live v) : H.Suits G S (d.insert name v) := by
  intro name' q w hq hw hne
  rw [Dict.get?_insert] at hw
  split at hw
  · rename_i hname
    subst hname
    cases hp.symm.trans hq
    cases hw
    exact ⟨hfits, hlive⟩
  · exact hc name' q w hq hw hne

end Heap.Suits

namespace OwnKind
variable {G : ClassGraph} {k : OwnKind} {h : Handle .record} {S : Handle .schema} {d : Dict Value} {H : Heap}
  {s t : State G} {name : String} {p : Property} {v : Value}

/-- Whether a property of a record shows a value, which its type stores as it is, and goes on to show it as long as the
record and its schema are as they are. -/
structure Shows (G : ClassGraph) (k : OwnKind) (h : Handle .record) (S : Handle .schema) (d : Dict Value) (H : Heap)
    (name : String) (p : Property) (v : Value) : Prop where
  fits : H.Fits G p.ty v
  leavesNull : v = .null → k.LeavesNull G p.ty
  read : ∀ t : State G, k.Stands h S d t.heap → t.heap.get S = H.get S →
    ExceptT.run (Record.read h name : Op G Value) t = (.ok v, t)

/-! ### Descriptions -/

theorem Stands.suits_read (hd : growing.Stands h S d s.heap) (hc : s.heap.Suits G S d) (name : String) : ∃ d',
    growing.Stands h S d' (ExceptT.run (Record.read h name : Op G Value) s).2.heap ∧
      (ExceptT.run (Record.read h name : Op G Value) s).2.heap.get S = s.heap.get S ∧
      (ExceptT.run (Record.read h name : Op G Value) s).2.heap.Suits G S d' := by
  rw [hd.run_read_growing]
  rcases GrowingRecord.heap_read_cases (G := G) ⟨h, S, none⟩ name s with hsame | ⟨p, hp, hfilled⟩
  · rw [hsame]
    exact ⟨d, hd, rfl, hc⟩
  · obtain ⟨hadds, hlive⟩ := G.onlyAdds_defaultValue p.ty s.heap
    have hfits := G.fits_defaultValue p.ty s.heap
    generalize G.defaultValue p.ty s.heap = made at hadds hlive hfits hfilled
    obtain ⟨w, K⟩ := made
    have hK : growing.Stands h S d K := hd.of_same (hadds.same hd.hasCell) (hadds.has hd.hasCell) (hadds.has hd.hasSchema)
    have hschema : K.get S = s.heap.get S := hadds.same hd.hasSchema
    rw [hd.property?_growing, ← hschema] at hp
    rw [hfilled, hK.store_growing]
    have hset : (K.set h (growing.record S (d.insert name w))).get S = K.get S :=
      K.get_set_of_kind_ne (k := .record) (j := S) _ nofun
    have htypes : K.KeepsTypes (K.set h (growing.record S (d.insert name w))) :=
      Heap.keepsTypes_set (k := .record) nofun nofun
    refine ⟨d.insert name w, ⟨K.get_set_self (k := .record) h _, htypes.has hK.hasCell, htypes.has hK.hasSchema⟩,
      hset.trans hschema, ?_⟩
    exact ((hc.later hadds.keepsTypes hschema).insert hp hfits hlive).later htypes hset

/-- The description of a record lists its declared names, with what they show from then on. -/
structure Described (G : ClassGraph) (k : OwnKind) (h : Handle .record) (S : Handle .schema) (D : Dict Value)
    (d : Dict Value) (H : Heap) : Prop where
  stands : k.Stands h S d H
  declared : ∀ name, (H.get S).property? name = none → D.get? name = none
  shows : ∀ name p, (H.get S).property? name = some p → ∃ v, D.get? name = some v ∧ Shows G k h S d H name p v

theorem run_describe_fixed (r : Resolver) (hd : fixed.Stands h S d s.heap) (hc : s.heap.Suits G S d) : ∃ D,
    ExceptT.run (r.describe (.record h) : Op G (Dict Value)) s = (.ok D, s) ∧ Described G fixed h S D d s.heap := by
  obtain ⟨D, hrun, hD⟩ := Resolver.run_describe_fixed r hd.cell
  refine ⟨D, hrun, hd, fun name hp => ?_, fun name p hp => ?_⟩
  · rw [hD, hp, Option.map_none]
  · refine ⟨FixedRecord.shown d p, by rw [hD, hp, Option.map_some], ?_, fun hnull => ?_, fun t ht hschema => ?_⟩
    · obtain rfl := Schema.name_of_property? hp
      rcases FixedRecord.shown_cases d p with hzero | ⟨hheld, hne⟩
      · rw [hzero]
        exact Heap.fits_zero
      · exact (hc p.name p _ hp hheld hne).1
    · rcases FixedRecord.shown_cases d p with hzero | ⟨-, hne⟩
      · exact hzero.symm.trans hnull
      · exact absurd hnull hne
    · exact FixedRecord.run_read ht.cell (by rw [hschema, hp])

theorem suits_describe (r : Resolver) (hd : growing.Stands h S d s.heap) (hc : s.heap.Suits G S d) : ∃ d',
    growing.Stands h S d' (ExceptT.run (r.describe (.record h) : Op G (Dict Value)) s).2.heap ∧
      (ExceptT.run (r.describe (.record h) : Op G (Dict Value)) s).2.heap.get S = s.heap.get S ∧
      (ExceptT.run (r.describe (.record h) : Op G (Dict Value)) s).2.heap.Suits G S d' := by
  refine Resolver.later_describe (g := ⟨h, S, none⟩) (fun s s' : State G => ∀ d, growing.Stands h S d s.heap →
    s.heap.Suits G S d → ∃ d', growing.Stands h S d' s'.heap ∧ s'.heap.get S = s.heap.get S ∧ s'.heap.Suits G S d')
    (fun s d hd hc => ⟨d, hd, rfl, hc⟩) (fun hfirst hsecond d hd hc => ?_) (fun name s d hd hc => hd.suits_read hc name) r
    hd.isIn d hd hc
  obtain ⟨d', hd', hschema, hc'⟩ := hfirst d hd hc
  obtain ⟨d'', hd'', hschema', hc''⟩ := hsecond d' hd' hc'
  exact ⟨d'', hd'', hschema'.trans hschema, hc''⟩

/-- What a growing record has settled is what it shows. -/
theorem Stands.shows_of_settled (hd : growing.Stands h S d H) (hc : H.Suits G S d) (hp : (H.get S).property? name = some p)
    (hv : GrowingRecord.Settled G ⟨h, S, none⟩ name v H) : Shows G growing h S d H name p v := by
  have hstored := (hd.stored_growing name).symm.trans hv.stored
  have hnull (hv' : v = .null) (H' : Heap) : (G.defaultValue p.ty H').1 = .null := by
    rw [G.defaultValue_eq_null_iff p.ty H' H]
    by_contra hne
    exact hv.blank hv' ⟨p, (hd.property?_growing name).trans hp, hne⟩
  refine ⟨?_, hnull, fun t ht hschema => ht.run_read_of_leavesNull (by rw [hschema, hp]) hstored hnull⟩
  by_cases hv' : v = .null
  · have hty : p.ty.isPrimitive = false := by
      refine Bool.eq_false_iff.mpr fun hty => ?_
      exact (G.fits_defaultValue p.ty H).ne_null hty (hnull hv' H)
    rw [hv']
    exact Heap.fits_null hty
  · cases hheld : d.get? name with
    | none =>
      rw [hheld] at hstored
      exact absurd hstored.symm hv'
    | some w =>
      rw [hheld, Option.getD_some] at hstored
      obtain rfl := hstored
      exact (hc name p w hp hheld hv').1

theorem run_describe_growing (r : Resolver) (hd : growing.Stands h S d s.heap) (hc : s.heap.Suits G S d) :
    ∃ D d' s', ExceptT.run (r.describe (.record h) : Op G (Dict Value)) s = (.ok D, s') ∧
      s'.heap.get S = s.heap.get S ∧ Described G growing h S D d' s'.heap := by
  obtain ⟨D, s', hrun, hfills, hD⟩ := Resolver.run_describe_growing r hd.isIn
  obtain ⟨d', hd', hschema, hc'⟩ := suits_describe r hd hc
  rw [hrun] at hd' hschema hc'
  have hproperty (name : String) : GrowingRecord.property? ⟨h, S, none⟩ name s.heap = (s'.heap.get S).property? name := by
    rw [hschema]
    exact hd.property?_growing name
  refine ⟨D, d', s', hrun, hschema, hd', fun name hp => ?_, fun name p hp => ?_⟩
  · rcases hD name with ⟨hnone, -⟩ | ⟨-, -, hne, -⟩
    · exact hnone
    · exact absurd ((hproperty name).trans hp) hne
  · rcases hD name with ⟨-, hnone⟩ | ⟨v, hv, -, hsettled⟩
    · cases hnone.symm.trans ((hproperty name).trans hp)
    · exact ⟨v, hv, hd'.shows_of_settled hc' hp hsettled⟩

theorem run_describe (r : Resolver) (hd : k.Stands h S d s.heap) (hc : s.heap.Suits G S d) :
    ∃ D d' s', ExceptT.run (r.describe (.record h) : Op G (Dict Value)) s = (.ok D, s') ∧
      s'.heap.get S = s.heap.get S ∧ Described G k h S D d' s'.heap := by
  cases k with
  | fixed =>
    obtain ⟨D, hrun, hdescribed⟩ := run_describe_fixed r hd hc
    exact ⟨D, d, s, hrun, rfl, hdescribed⟩
  | growing => exact run_describe_growing r hd hc

theorem Stands.isStore (hd : k.Stands h S d H) : H.IsStore (.record h) := by
  rw [Heap.IsStore, hd.cell]
  cases k <;> trivial

theorem Stands.whole (hd : k.Stands h S d H) : H.Whole (.record h) := by
  rw [Heap.Whole, hd.cell]
  cases k with
  | fixed => trivial
  | growing =>
    refine ⟨hd.hasCell, hd.hasSchema, fun m hshared => ?_⟩
    cases hshared

/-! ### New records of the same kind -/

/-- Whether a record is a new one that holds nothing and has the properties of another one. -/
structure Blank (k : OwnKind) (S : Handle .schema) (c : Handle .record) (S' : Handle .schema) (H H' : Heap) : Prop where
  stands : k.Stands c S' .empty H'
  adds : H.OnlyAdds H'
  fresh : ¬ H.Has c
  schema : H'.get S' = H.get S
  separate : k = .growing → ¬ H.Has S'

theorem run_instantiate (hd : k.Stands h S d s.heap) : ∃ c S' s',
    ExceptT.run (Record.instantiate h : Op G (Handle .record)) s = (.ok c, s') ∧ Blank k S c S' s.heap s'.heap := by
  rw [Record.instantiate, run_bind_of_ok (Op.run_read s _), hd.cell]
  cases k with
  | fixed =>
    have hadds := s.heap.onlyAdds_alloc (k := .record) (.fixed S .empty)
    refine ⟨_, S, _, rfl, ⟨s.heap.get_alloc_self (k := .record) _, Heap.has_alloc (k := .record) _,
      hadds.has hd.hasSchema⟩, hadds, s.heap.not_has_next .record, hadds.same hd.hasSchema, nofun⟩
  | growing =>
    let K := (s.heap.alloc .schema (s.heap.get S)).2
    have haddsK := s.heap.onlyAdds_alloc (k := .schema) (s.heap.get S)
    have hadds := K.onlyAdds_alloc (k := .record) (.growing (s.heap.next .schema) (.own .empty))
    have hnew : K.Has (s.heap.next .schema) := Heap.has_alloc (k := .schema) _
    have hsame : K.get (s.heap.next .schema) = s.heap.get S := s.heap.get_alloc_self (k := .schema) _
    refine ⟨K.next .record, s.heap.next .schema, _, rfl, ⟨K.get_alloc_self (k := .record) _,
      Heap.has_alloc (k := .record) _, hadds.has hnew⟩, haddsK.trans hadds, fun hc => ?_, (hadds.same hnew).trans hsame,
      fun _ => s.heap.not_has_next .schema⟩
    exact K.not_has_next .record (haddsK.has hc)

end OwnKind

namespace Binder
variable {G : ClassGraph} {b : Binder} {k : OwnKind} {h c : Handle .record} {S S' : Handle .schema} {d d' D : Dict Value}
  {H : Heap} {s t : State G} {name : String} {p : Property} {v : Value}

open OwnKind

/-- A value that the type of a property stores as it is, is not converted. -/
theorem run_copyProperty_of_fits (hname : Path.IsSimple name) (hd : k.Stands c S' d s.heap)
    (hp : (s.heap.get S').property? name = some p) (hfits : s.heap.Fits G p.ty v) :
    ExceptT.run (b.copyProperty (.record c) name v : Op G Unit) s = ExceptT.run (Record.write c name v) s := by
  have hty := run_targetTy_of_property (G := G) (b := b) hname ((hd.property?_eq name).trans hp)
  rw [copyProperty, run_bind_of_ok (run_owner_simple hname)]
  dsimp only
  rw [run_bind_of_ok hty]
  by_cases hany : p.ty = .any
  · rw [if_pos hany]
    rfl
  · rw [if_neg hany]
    exact run_bind_of_ok (run_convertFor_of_fits hfits)

/-- A description is copied to a record that has the properties. -/
theorem run_copyEntries_of_described (hd : k.Stands c S' .empty s.heap) (hschema : s.heap.get S' = s.heap.get S)
    (hdescribed : Described G k h S D d s.heap)
    (hnames : ∀ name, (s.heap.get S).declares name = true → Path.IsSimple name) : ∃ d' s',
    ExceptT.run (b.resolver.copyEntries (.record c) (b.copyProperty (.record c)) D.entries : Op G Unit) s =
      (.ok (), s') ∧ s.heap.SparesBut c S' s'.heap ∧ k.Stands c S' d' s'.heap ∧ s'.heap.get S' = s.heap.get S' ∧
      ∀ name v, D.get? name = some v → d'.get? name = some v := by
  have hdeclared : ∀ e ∈ D.entries, ∃ p, (s.heap.get S).property? e.1 = some p ∧ s.heap.Fits G p.ty e.2 := by
    intro e he
    have hget := Dict.get?_of_mem he
    cases hp : (s.heap.get S).property? e.1 with
    | none => cases (hdescribed.declared e.1 hp).symm.trans hget
    | some p =>
      obtain ⟨v, hv, hshows⟩ := hdescribed.shows e.1 p hp
      cases hv.symm.trans hget
      exact ⟨p, rfl, hshows.fits⟩
  have hdeclares : ∀ e ∈ D.entries, (s.heap.get S').declares e.1 = true := by
    intro e he
    obtain ⟨p, hp, -⟩ := hdeclared e he
    rw [hschema]
    exact Schema.declares_iff_exists.mpr ⟨p, hp⟩
  have hes : Resolver.Listed D.entries :=
    Resolver.listed_entries fun e he => hnames e.1 (hschema ▸ hdeclares e he)
  have hkept : Resolver.kept k (s.heap.get S') D.entries = D.entries :=
    List.filter_eq_self.mpr fun e he => takes_of_declares (hdeclares e he)
  have hplain : Resolver.WritesPlainly (G := G) (b.copyProperty (.record c)) k c S' D.entries s.heap := by
    intro e he t hawaits
    obtain ⟨p, hp, hfits⟩ := hdeclared e he
    obtain ⟨d', hd'⟩ := hawaits.stands
    refine run_copyProperty_of_fits (hes.simple e he) hd' ?_ (hfits.congr (congrFun hawaits.spares.typeOf e.2))
    rw [hawaits.property, hschema, hp]
  have hfitted : ∀ e ∈ D.entries, OwnKind.fitted G S' s.heap e = .ok e.2 := by
    intro e he
    obtain ⟨p, hp, hfits⟩ := hdeclared e he
    rw [← hschema] at hp
    rw [OwnKind.fitted, Schema.slot_of_property? hp]
    exact hfits.coerce
  obtain ⟨d', s', hrun, hfilled⟩ := Resolver.run_copyEntries_of_all (r := b.resolver) hd hes hplain fun e he =>
    ⟨e.2, hfitted e (List.mem_of_mem_filter he)⟩
  rw [hkept] at hfilled
  refine ⟨d', s', hrun, hfilled.spares, hfilled.stands, ?_, fun name v hv => ?_⟩
  · rw [hfilled.schema, Schema.foldl_opened_of_declares s.heap.typeOf hdeclares]
  · have he : (name, v) ∈ D.entries := Dict.mem_of_get? hv
    obtain ⟨w, hw, hstored⟩ := hfilled.written (name, v) he
    cases (hfitted (name, v) he).symm.trans hw
    exact hstored

/-- Whether a record has been cloned: there is a new record of its kind, with its properties, from which each of them is
read as it is from the record itself, and from then on the two are independent. -/
structure Clones (G : ClassGraph) (b : Binder) (k : OwnKind) (h : Handle .record) (S : Handle .schema) (s : State G)
    (c : Handle .record) (S' : Handle .schema) (s' : State G) : Prop where
  run : ExceptT.run (b.clone (.record h) : Op G Value) s = (.ok (.record c), s')
  fresh : ¬ s.heap.Has c
  record : ∃ d, k.Stands h S d s'.heap
  clone : ∃ d, k.Stands c S' d s'.heap
  schema : s'.heap.get S = s.heap.get S
  properties : s'.heap.get S' = s.heap.get S
  same : ∀ name, (s.heap.get S).declares name = true → ∃ v,
    ExceptT.run (Record.read h name : Op G Value) s' = (.ok v, s') ∧
      ExceptT.run (Record.read c name : Op G Value) s' = (.ok v, s')
  independent : Independent h c s'

/-- A record is cloned if what it holds is what the types of its properties store. -/
theorem exists_clones (b : Binder) (hd : k.Stands h S d s.heap) (hc : s.heap.Suits G S d)
    (hnames : ∀ name, (s.heap.get S).declares name = true → Path.IsSimple name) :
    ∃ c S' s', Clones G b k h S s c S' s' := by
  obtain ⟨c, S', s₁, hinstantiate, hblank⟩ := run_instantiate (G := G) hd
  have hadds := hblank.adds
  have hschema₁ : s₁.heap.get S = s.heap.get S := hadds.same hd.hasSchema
  have hne : h ≠ c := by
    rintro rfl
    exact hblank.fresh hd.hasCell
  have hseparate : k = .growing → S ≠ S' := by
    rintro hk rfl
    exact hblank.separate hk hd.hasSchema
  have hd₁ : k.Stands h S d s₁.heap := hd.of_same (hadds.same hd.hasCell) (hadds.has hd.hasCell) (hadds.has hd.hasSchema)
  obtain ⟨D, d₂, s₂, hdescribe, hschema₂, hdescribed⟩ :=
    OwnKind.run_describe b.resolver hd₁ (hc.later hadds.keepsTypes hschema₁)
  -- The same description once more, now for what it leaves as it is.
  obtain ⟨D', s₂', hdescribe', hblank₂, hproperties₂⟩ := Resolver.run_describe_of_isStore b.resolver hd₁.isStore
    hd₁.whole (fun heq => hne (Value.record.inj heq)) hblank.stands
  cases hdescribe.symm.trans hdescribe'
  have hschema₂ := hschema₂.trans hschema₁
  have hproperties₂ := (hproperties₂.trans hblank.schema).trans hschema₂.symm
  obtain ⟨d₃, s₃, hcopy, hspares, hclone, hproperties₃, hvalues⟩ := run_copyEntries_of_described (b := b) hblank₂
    hproperties₂ hdescribed fun name hname => hnames name (hschema₂ ▸ hname)
  have hd₃ : k.Stands h S d₂ s₃.heap := hdescribed.stands.of_same (hspares.record hne)
    (hspares.sizes.has hdescribed.stands.hasCell) (hspares.sizes.has hdescribed.stands.hasSchema)
  -- A fixed record shares its schema with the clone, a growing one does not.
  have hschema₃ : s₃.heap.get S = s₂.heap.get S := by
    by_cases hS : S = S'
    · rw [hS]
      exact hproperties₃
    · exact hspares.schema hS
  refine ⟨c, S', s₃, ?_, hblank.fresh, ⟨d₂, hd₃⟩, ⟨d₃, hclone⟩, hschema₃.trans hschema₂,
    (hproperties₃.trans hproperties₂).trans hschema₂, fun name hname => ?_,
    Apart.independent ⟨⟨d₂, hd₃⟩, ⟨d₃, hclone⟩, hne, hseparate⟩⟩
  · have hcopies : ExceptT.run (b.copyProperties (.record c) (.record h) : Op G Unit) s₁ = (.ok (), s₃) :=
      (run_bind_of_ok hdescribe).trans hcopy
    rw [clone, run_bind_of_ok hinstantiate]
    exact run_bind_of_ok hcopies
  · rw [← hschema₂] at hname
    obtain ⟨p, hp⟩ := Schema.declares_iff_exists.mp hname
    obtain ⟨v, hv, hshows⟩ := hdescribed.shows name p hp
    refine ⟨v, hshows.read s₃ hd₃ hschema₃, hclone.run_read_of_leavesNull (p := p) ?_ ?_ hshows.leavesNull⟩
    · rw [hproperties₃, hproperties₂, hp]
    · rw [hvalues name v hv, Option.getD_some]

/-! ### Records that are reached -/

theorem suits_of_typed_fixed (hd : FixedRecord.Typed G h S d H) : OwnKind.fixed.Stands h S d H ∧ H.Suits G S d := by
  refine ⟨⟨hd.cell, hd.hasCell, hd.hasSchema⟩, fun name p v hp hv _ => ?_⟩
  obtain ⟨q, hq, hfits⟩ := hd.declared hv
  cases hp.symm.trans hq
  exact hfits

theorem suits_of_typed_growing (hg : GrowingRecord.Typed G ⟨h, S, none⟩ H) :
    OwnKind.growing.Stands h S (GrowingRecord.values ⟨h, S, none⟩ H) H ∧
      H.Suits G S (GrowingRecord.values ⟨h, S, none⟩ H) := by
  refine ⟨⟨hg.cell, hg.hasCell, hg.hasSchema⟩, fun name p v hp hv _ => ?_⟩
  obtain ⟨q, hq, hfits⟩ := hg.declared hv
  cases hp.symm.trans hq
  exact hfits

/-- A record that keeps its values in itself is cloned, whatever registry there is, as long as each value that it holds
is one that the type of its name stores as it is: the clone is a new record of its kind with the same properties, from
which the same values are read, and neither shows what is written to the other.  So it is for whatever is made of a new
fixed record, and of a new growing record if no name is declared again. -/
theorem clone_is_equal_and_independent (b : Binder) :
    (∀ (k : OwnKind) (h : Handle .record) (S : Handle .schema) (d : Dict Value) (s : State G),
      k.Stands h S d s.heap → s.heap.Suits G S d →
      (∀ name, (s.heap.get S).declares name = true → Path.IsSimple name) →
      ∃ c S' s', Clones G b k h S s c S' s') ∧
    (∀ (S : Handle .schema) (s₀ : State G), s₀.heap.Has S → ∃ h s₁,
      ExceptT.run (Record.newFixed S : Op G (Handle .record)) s₀ = (.ok h, s₁) ∧
      ∀ s, Relation.ReflTransGen (FixedRecord.Step h) s₁ s →
        ∃ d, OwnKind.fixed.Stands h S d s.heap ∧ s.heap.Suits G S d) ∧
    ∀ (T : Schema) (s₀ : State G), ∃ h S s₁,
      ExceptT.run (Record.newGrowing T : Op G (Handle .record)) s₀ = (.ok h, s₁) ∧
      ∀ s, Relation.ReflTransGen (Record.Step h) s₁ s →
        ∃ d, OwnKind.growing.Stands h S d s.heap ∧ s.heap.Suits G S d := by
  refine ⟨fun k h S d s => exists_clones b, fun S s₀ hS => ?_, fun T s₀ => ?_⟩
  · obtain ⟨h, s₁, hnew, -, hd⟩ := FixedRecord.run_newFixed hS
    refine ⟨h, s₁, hnew, fun s hrun => ?_⟩
    obtain ⟨⟨d, hd'⟩, -⟩ := FixedRecord.typed_of_run hrun hd
    exact ⟨d, suits_of_typed_fixed hd'⟩
  · obtain ⟨h, S, s₁, hnew, hg, -⟩ := Record.run_newGrowing T s₀
    refine ⟨h, S, s₁, hnew, fun s hrun => ?_⟩
    exact ⟨_, suits_of_typed_growing (Record.typed_of_run hrun hg).1⟩

/-- A growing record that declares a list and holds a text. -/
def titled : State .empty where
  heap :=
    let (S, H) := Heap.empty.alloc .schema (.ofProperties "Row" [⟨"tags", .list, none⟩, ⟨"title", .text, none⟩])
    (H.alloc .record (.growing S (.own (Dict.empty.insert "title" (.text "x"))))).2
  caches := .empty

/-- What fills the declared list when the record is described is shared with the clone. -/
theorem clone_is_equal_and_independent_titled : ∃ c s',
    ExceptT.run (clone ⟨⟨0⟩, (Registry.withConfig .standard .empty).1⟩ (.record ⟨0⟩) : Op .empty Value) titled =
      (.ok (.record c), s') ∧ Independent ⟨0⟩ c s' ∧
    ∀ name ∈ ["tags", "title"], ∃ v, ExceptT.run (Record.read ⟨0⟩ name : Op .empty Value) s' = (.ok v, s') ∧
      ExceptT.run (Record.read c name : Op .empty Value) s' = (.ok v, s') := by
  have hd : OwnKind.growing.Stands ⟨0⟩ ⟨0⟩ (Dict.empty.insert "title" (.text "x")) titled.heap :=
    ⟨rfl, Nat.zero_lt_one, Nat.zero_lt_one⟩
  have hsuits : titled.heap.Suits .empty ⟨0⟩ (Dict.empty.insert "title" (.text "x")) := by
    intro name p v hp hv _
    rw [Dict.get?_insert] at hv
    split at hv
    · rename_i hname
      subst hname
      cases hv
      cases hp
      exact ⟨Heap.fits_of_accepts rfl rfl nofun, trivial⟩
    · cases hv
  have hnames : (titled.heap.get (⟨0⟩ : Handle .schema)).names = ["tags", "title"] := rfl
  obtain ⟨hclones, -⟩ := clone_is_equal_and_independent ⟨⟨0⟩, (Registry.withConfig .standard .empty).1⟩
  obtain ⟨c, S', s', hcloned⟩ := hclones .growing ⟨0⟩ ⟨0⟩ _ titled hd hsuits fun name hname => by
    rw [Schema.declares_iff, hnames] at hname
    revert name
    decide
  refine ⟨c, s', hcloned.run, hcloned.independent, fun name hname => hcloned.same name ?_⟩
  rw [Schema.declares_iff, hnames]
  exact hname

/-- A growing record that holds a text under a name that has been declared as a number since. -/
def redeclared : State .empty :=
  (ExceptT.run (do
    let h ← Record.newGrowing (.blank "LazyDynaBean")
    Record.write h "a" (.text "x")
    Record.declare h ⟨"a", .primitive (.int .w32), none⟩) (State.empty .empty)).2

/-- A name that is declared again may hold what its type does not store.  The clone shows what the text is converted to. -/
theorem clone_of_redeclared : ∃ c s', ExceptT.run (clone ⟨⟨0⟩, (Registry.withConfig .standard .empty).1⟩
      (.record ⟨0⟩) : Op .empty Value) redeclared = (.ok (.record c), s') ∧
    (ExceptT.run (Record.read ⟨0⟩ "a" : Op .empty Value) s').1 = .ok (.text "x") ∧
    (ExceptT.run (Record.read c "a" : Op .empty Value) s').1 = .ok (.int .w32 (.zero 32)) := by
  with_unfolding_all exact ⟨_, _, rfl, rfl, rfl⟩

end Binder

end ObjectGraph
