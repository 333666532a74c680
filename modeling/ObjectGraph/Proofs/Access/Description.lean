import ObjectGraph.Proofs.Access.Describing
import ObjectGraph.Proofs.Access.Single

/-!
Descriptions list what can be read.  Whatever a value is, a map, an object, a record or an adapter, its description has
under each name what reading the name answers, before and after, and has everything under its name that is read and is
not null.  There are two exceptions, and no others: an adapter does not list what its object stores without a getter,
and a growing record does not list what it still holds of a property that its schema has lost.
-/

namespace ObjectGraph

namespace Heap

/-- The object that a value is or shows. -/
def shownObject? (H : Heap) : Value → Option (Handle .object)
  | .object o => some o
  | .record h =>
    match H.get h with
    | .adapter _ o _ => some o
    | _ => none
  | _ => none

/-- Whether the cells that are needed to read a value are there. -/
def Whole (H : Heap) : Value → Prop
  | .object o => H.Has o
  | .record h =>
    match H.get h with
    | .fixed .. => True
    | .growing S store => H.Has h ∧ H.Has S ∧ ∀ m, store = .shared m → H.Has m
    | .adapter _ o _ => H.Has h ∧ H.Has o
  | _ => True

/-- Whether a value can be described.  An adapter reads the properties of its object by their names, which therefore
have to be free of the characters that have a meaning in paths. -/
def Describable (H : Heap) (G : ClassGraph) : Value → Prop
  | .map _ | .object _ => True
  | .record h =>
    match H.get h with
    | .adapter _ o _ => ∀ name m, H.getter? G o name = some m → checkSimpleName name = .ok ()
    | _ => True
  | _ => False

/-- Whether a value has a property that can be read and is not described: an adapter of an object that stores
something without a getter, or a growing record that holds something that is not declared. -/
def Omits (H : Heap) (G : ClassGraph) (name : String) : Value → Prop
  | .record h =>
    match H.get h with
    | .adapter _ o _ => H.getter? G o name = none ∧ ∃ v, H.storedEntry? o name = some v ∧ v ≠ .null
    | .growing S (.own d) => (H.get S).property? name = none ∧ ∃ v, d.get? name = some v ∧ v ≠ .null
    | _ => False
  | _ => False

/-- Whether a description and what comes of reading a name say the same of the name: what is described is read, and
what is read and is not null is described unless it is omitted. -/
structure Agrees (H : Heap) (omitted : Prop) (described : Option Value) (outcome : Except Error Value) : Prop where
  read : ∀ v ∈ described, ∃ w, outcome = .ok w ∧ H.Repeats v w
  described : (∀ w, outcome = .ok w → w ≠ .null → ∃ v ∈ described, H.Repeats v w) ↔ ¬ omitted

namespace Agrees
variable {H : Heap} {omitted : Prop} {v w : Value} {e : Error}

theorem none_error (h : ¬ omitted) : H.Agrees omitted none (.error e) where
  read v hv := absurd hv (Option.not_mem_none v)
  described := iff_of_true (fun _ hw => by cases hw) h

theorem none_ok (h : w = .null ↔ ¬ omitted) : H.Agrees omitted none (.ok w) where
  read v hv := absurd hv (Option.not_mem_none v)
  described := by
    rw [← h]
    refine ⟨fun hall => by_contra fun hw => ?_, fun hnull w' hw hne => ?_⟩
    · obtain ⟨v, hv, -⟩ := hall w rfl hw
      cases hv
    · exact absurd ((Except.ok.inj hw).symm.trans hnull) hne

theorem some_ok (h : H.Repeats v w) (hnot : ¬ omitted) : H.Agrees omitted (some v) (.ok w) where
  read := by
    rintro _ ⟨⟩
    exact ⟨w, rfl, h⟩
  described := by
    refine iff_of_true ?_ hnot
    rintro _ ⟨⟩ -
    exact ⟨v, rfl, h⟩

theorem of_elim {described : Option Value} (hnot : ¬ omitted) :
    H.Agrees omitted described (described.elim (.error e) .ok) := by
  cases described with
  | none => exact .none_error hnot
  | some v => exact .some_ok (.same v) hnot

theorem congr {omitted' : Prop} {described : Option Value} {outcome : Except Error Value}
    (h : H.Agrees omitted described outcome) (hiff : omitted ↔ omitted') : H.Agrees omitted' described outcome :=
  ⟨h.read, h.described.trans hiff.not⟩

end Agrees

end Heap

namespace Resolver
variable {G : ClassGraph} {r' : Resolver} {s s' s₁ : State G} {o : Handle .object} {name : String} {H H' : Heap}
  {v w : Value} {m : Method} {d c : Dict Value} {outcome : Except Error Value} {h : Handle .record} {S : Handle .schema}

/-! ### Objects -/

/-- Whether an object stores something that is not in a map of its entries, and has no getter for it. -/
def Skips (G : ClassGraph) (o : Handle .object) (d : Dict Value) (name : String) (H : Heap) : Prop :=
  H.getter? G o name = none ∧ d.get? name = none ∧ ∃ v, H.storedEntry? o name = some v ∧ v ≠ .null

theorem agrees_stored {e : Error} (hbase : ∀ v, d.get? name = some v → H.storedEntry? o name = some v)
    (hm : H.getter? G o name = none) :
    H'.Agrees (Skips G o d name H) (d.get? name) ((H.storedEntry? o name).elim (.error e) .ok) := by
  cases hd : d.get? name with
  | some v =>
    rw [hbase v hd]
    refine .some_ok (.same v) ?_
    rintro ⟨-, hnone, -⟩
    cases hd.symm.trans hnone
  | none =>
    rw [Skips]
    cases H.storedEntry? o name with
    | none =>
      refine .none_error ?_
      rintro ⟨-, -, v, hv, -⟩
      cases hv
    | some v => exact .none_ok (by simp [hm, hd])

namespace Tells
variable (hpure : s.heap.HasPureGetters G o) (ho : s.heap.Has o)
  (hbase : ∀ v, d.get? name = some v → s.heap.storedEntry? o name = some v)
include hpure ho hbase

/-- What has been told is read. -/
theorem agrees_after (r : Resolver) (htells : Tells G o d c s.heap s'.heap) :
    (ExceptT.run (r.readObject o name) s').2.heap.Agrees (Skips G o d name s.heap) (c.get? name)
      (ExceptT.run (r.readObject o name) s').1 := by
  have hgetter : s'.heap.getter? G o name = s.heap.getter? G o name := htells.onlyAdds.getter?_eq ho name
  cases hm : s.heap.getter? G o name with
  | some m =>
    obtain ⟨v, H₁, H₂, hc, hadds₁, hfirst, hadds₂⟩ := htells.got name m hm
    obtain ⟨w, H₃, hsecond, -⟩ := (hpure name m hm).invoked htells.onlyAdds
    obtain ⟨s₁, hrun, rfl⟩ := run_readObject_of_getter r (hgetter.trans hm) hsecond
    have hrepeats := (hpure name m hm).repeats hadds₁ hfirst hadds₂ hsecond
    rw [hrun, hc]
    refine .some_ok hrepeats ?_
    rintro ⟨hnone, -⟩
    cases hm.symm.trans hnone
  | none =>
    obtain ⟨e, s₁, hrun, -⟩ := run_readObject_of_stored r (hgetter.trans hm)
    rw [hrun, htells.rest name hm, htells.onlyAdds.storedEntry?_eq ho name]
    exact agrees_stored hbase hm

/-- What has been read is told. -/
theorem agrees_before (r : Resolver) (hrun : ExceptT.run (r.readObject o name) s = (outcome, s₁))
    (htells : Tells G o d c s₁.heap s'.heap) : s'.heap.Agrees (Skips G o d name s.heap) (c.get? name) outcome := by
  cases hm : s.heap.getter? G o name with
  | some m =>
    obtain ⟨w, H₂, hfirst, hadds⟩ := (hpure name m hm).invoked (.refl s.heap)
    obtain ⟨s₂, hread, rfl⟩ := run_readObject_of_getter r hm hfirst
    cases hrun.symm.trans hread
    obtain ⟨v, H₃, H₄, hc, hadds₃, hsecond, hadds₄⟩ := htells.got name m ((hadds.getter?_eq ho name).trans hm)
    have hrepeats := (hpure name m hm).repeats (.refl s.heap) hfirst hadds₃ hsecond
    rw [hc]
    refine .some_ok (hadds₄.repeats hrepeats).symm ?_
    rintro ⟨hnone, -⟩
    cases hm.symm.trans hnone
  | none =>
    obtain ⟨e, s₂, hread, hheap⟩ := run_readObject_of_stored r hm
    cases hrun.symm.trans hread
    rw [htells.rest name (by rw [hheap, hm])]
    exact agrees_stored hbase hm

end Tells

/-! ### Descriptions and readings -/

theorem run_read_object (r : Resolver) (s : State G) (hname : Path.IsSimple name) :
    ExceptT.run (r.read (.object o) name) s = ExceptT.run (r.readObject o name) s := run_read_of_isSimple hname nofun

theorem run_read_record (r : Resolver) (s : State G) (hname : Path.IsSimple name) :
    ExceptT.run (r.read (.record h) name) s = ExceptT.run (Record.read h name) s := run_read_of_isSimple hname nofun

/-- Whether a value is described, and what is read of it, right after that or right before, agrees with the description
about each name. -/
structure Tallies (r : Resolver) (t : Value) (s : State G) : Prop where
  after : ∃ D s₁, ExceptT.run (r.describe t) s = (.ok D, s₁) ∧ ∀ name, Path.IsSimple name →
    (ExceptT.run (r.read t name) s₁).2.heap.Agrees (s.heap.Omits G name t) (D.get? name)
      (ExceptT.run (r.read t name) s₁).1
  before : ∀ name, Path.IsSimple name → ∃ D s₂,
    ExceptT.run (r.describe t) (ExceptT.run (r.read t name) s).2 = (.ok D, s₂) ∧
      s₂.heap.Agrees (s.heap.Omits G name t) (D.get? name) (ExceptT.run (r.read t name) s).1

theorem agrees_entry (H : Heap) (d : Dict Value) (name : String) :
    H.Agrees False (d.get? name) (.ok ((d.get? name).getD .null)) := by
  cases d.get? name with
  | none => exact .none_ok (iff_of_true rfl not_false)
  | some v => exact .some_ok (.same v) not_false

theorem tallies_map (r : Resolver) (j : Handle .map) (s : State G) : Tallies r (.map j) s := by
  have hread {name : String} (hname : Path.IsSimple name) :
      ExceptT.run (r.read (.map j) name : Op G Value) s = (.ok (((s.heap.get j).get? name).getD .null), s) :=
    run_read_of_isSimple hname nofun
  refine ⟨⟨s.heap.get j, s, rfl, fun name hname => ?_⟩, fun name hname => ?_⟩
  · rw [hread hname]
    exact agrees_entry _ _ _
  · rw [hread hname]
    exact ⟨_, s, rfl, agrees_entry _ _ _⟩

theorem tallies_fixed (r : Resolver) (hcell : s.heap.get h = .fixed S d) : Tallies r (.record h) s := by
  have homits (name : String) : ¬ s.heap.Omits G name (.record h) := by
    rw [Heap.Omits, hcell]
    exact not_false
  obtain ⟨D, hrun, hD⟩ := run_describe_fixed r hcell
  refine ⟨⟨D, s, hrun, fun name hname => ?_⟩, fun name hname => ?_⟩
  · obtain ⟨e, hread⟩ := run_read_of_fixed hcell name
    rw [run_read_record r s hname, hread, hD]
    exact .of_elim (homits name)
  · obtain ⟨e, hread⟩ := run_read_of_fixed hcell name
    rw [run_read_record r s hname, hread]
    refine ⟨D, s, hrun, ?_⟩
    rw [hD]
    exact .of_elim (homits name)

theorem storedEntry?_of_storage (hv : ((H.get o).storage.getD .empty).get? name = some v) :
    H.storedEntry? o name = some v := by
  unfold Heap.storedEntry?
  cases hstorage : (H.get o).storage with
  | none =>
    rw [hstorage] at hv
    cases hv
  | some d =>
    rw [hstorage, Option.getD_some] at hv
    rw [Option.map_some, hv, Option.getD_some]

theorem not_skips_storage : ¬ Skips G o ((H.get o).storage.getD .empty) name H := by
  rintro ⟨-, hnone, v, hv, hne⟩
  unfold Heap.storedEntry? at hv
  cases hstorage : (H.get o).storage with
  | none =>
    rw [hstorage] at hv
    cases hv
  | some d =>
    rw [hstorage, Option.getD_some] at hnone
    rw [hstorage, Option.map_some, hnone] at hv
    exact hne (Option.some.inj hv).symm

/-- What the getters of an object answer and what it stores are found in its description. -/
theorem tallies_object (r : Resolver) (hpure : s.heap.HasPureGetters G o) (ho : s.heap.Has o) :
    Tallies r (.object o) s := by
  have homits (name : String) : Skips G o ((s.heap.get o).storage.getD .empty) name s.heap ↔
      s.heap.Omits G name (.object o) := iff_of_false not_skips_storage not_false
  refine ⟨?_, fun name hname => ?_⟩
  · obtain ⟨D, s₁, hrun, htells⟩ := run_describe_object r hpure
    refine ⟨D, s₁, hrun, fun name hname => ?_⟩
    rw [run_read_object r s₁ hname]
    exact (htells.agrees_after hpure ho (fun _ => storedEntry?_of_storage) r).congr (homits name)
  · rw [run_read_object r s hname]
    have hadds := onlyAdds_readObject r name hpure
    obtain ⟨D, s₂, hrun, htells⟩ := run_describe_object r (hadds.hasPureGetters ho hpure)
    rw [hadds.same ho] at htells
    have hagrees := htells.agrees_before hpure ho (fun _ => storedEntry?_of_storage) r rfl
    exact ⟨D, s₂, hrun, hagrees.congr (homits name)⟩

/-- An adapter is described by what the getters of its object answer, without what the object stores. -/
theorem tallies_adapter (r : Resolver) (hcell : s.heap.get h = .adapter S o r') (hh : s.heap.Has h)
    (ho : s.heap.Has o) (hpure : s.heap.HasPureGetters G o)
    (hsimple : ∀ name m, s.heap.getter? G o name = some m → checkSimpleName name = .ok ()) :
    Tallies r (.record h) s := by
  have homits (name : String) : Skips G o .empty name s.heap ↔ s.heap.Omits G name (.record h) := by
    rw [Heap.Omits, hcell, Skips]
    exact and_congr_right fun _ => and_iff_right rfl
  have hbase {name : String} (v : Value) (hv : (Dict.empty : Dict Value).get? name = some v) :
      s.heap.storedEntry? o name = some v := by cases hv
  have hread {s₁ : State G} (hadds : s.heap.OnlyAdds s₁.heap) {name : String} (hname : Path.IsSimple name) :
      ExceptT.run (r.read (.record h) name : Op G Value) s₁ = ExceptT.run (r'.readObject o name) s₁ := by
    rw [run_read_record r s₁ hname]
    exact run_read_of_adapter ((hadds.same hh).trans hcell) (checkSimpleName_of_isSimple hname)
  refine ⟨?_, fun name hname => ?_⟩
  · obtain ⟨D, s₁, hrun, htells⟩ := run_describe_adapter r hcell hh ho hpure hsimple
    refine ⟨D, s₁, hrun, fun name hname => ?_⟩
    rw [hread htells.onlyAdds hname]
    exact (htells.agrees_after hpure ho hbase r').congr (homits name)
  · rw [hread (.refl _) hname]
    have hadds := onlyAdds_readObject r' name hpure
    obtain ⟨D, s₂, hrun, htells⟩ := run_describe_adapter r ((hadds.same hh).trans hcell) (hadds.has hh) (hadds.has ho)
      (hadds.hasPureGetters ho hpure) fun n m hm => hsimple n m ((hadds.getter?_eq ho n).symm.trans hm)
    exact ⟨D, s₂, hrun, (htells.agrees_before hpure ho hbase r' rfl).congr (homits name)⟩

theorem omits_growing_iff {store : Store} (hcell : H.get h = .growing S store) :
    H.Omits G name (.record h) ↔ (GrowingRecord.ofStore h S store).property? name H = none ∧
      (GrowingRecord.ofStore h S store).stored name H ≠ .null := by
  rw [Heap.Omits, hcell]
  cases store with
  | own d =>
    have hvalues : (GrowingRecord.ofStore h S (.own d)).values H = d := by
      rw [GrowingRecord.values, GrowingRecord.ofStore, Heap.stored?, hcell, Option.getD_some]
    have hproperty : (GrowingRecord.ofStore h S (.own d)).property? name H = (H.get S).property? name := by
      rw [GrowingRecord.property?, GrowingRecord.ofStore]
      cases (H.get S).property? name <;> rfl
    rw [hproperty, GrowingRecord.stored, hvalues]
    cases hd : d.get? name <;> simp [hd]
  | shared m =>
    refine iff_of_false not_false ?_
    rintro ⟨hp, hv⟩
    -- What the map holds under a name makes the name one of a property.
    have hcontains : (H.get m).contains name = false := by
      rw [GrowingRecord.property?, GrowingRecord.ofStore, GrowingRecord.values] at hp
      cases hdeclared : (H.get S).property? name with
      | some p =>
        rw [hdeclared] at hp
        cases hp
      | none => simpa [hdeclared] using hp
    rw [Dict.contains, Option.isSome_eq_false_iff, Option.isNone_iff_eq_none] at hcontains
    refine hv ?_
    rw [GrowingRecord.stored, GrowingRecord.values, GrowingRecord.ofStore, hcontains, Option.getD_none]

/-- What a property is read as agrees with what the description has under its name, if it has the properties. -/
theorem agrees_growing {g : GrowingRecord} (hg : g.IsIn H) (hfills : GrowingRecord.Fills G g H H')
    (hw : g.Settled G name w H') {described : Option Value}
    (hdescribed : described = none ∧ g.property? name H = none ∨ described = some w ∧ g.property? name H ≠ none) :
    H'.Agrees (H.Omits G name (.record g.cell)) described (.ok w) := by
  obtain ⟨store, hcell, hstore⟩ := hg.cell
  rw [omits_growing_iff hcell, hstore]
  rcases hdescribed with ⟨rfl, hp⟩ | ⟨rfl, hp⟩
  · refine .none_ok ?_
    rw [← hw.stored, hfills.stored_eq_null_iff hp, ← not_not (a := g.stored name H = .null)]
    exact not_congr (and_iff_right hp).symm
  · exact .some_ok (.same w) fun hnot => hp hnot.1

theorem tallies_growing {g : GrowingRecord} (r : Resolver) (hg : g.IsIn s.heap) : Tallies r (.record g.cell) s := by
  have hread {s₁ : State G} (hfills : GrowingRecord.Fills G g s.heap s₁.heap) {name : String}
      (hname : Path.IsSimple name) : ExceptT.run (r.read (.record g.cell) name : Op G Value) s₁ =
        ExceptT.run (g.read name) s₁ := by
    rw [run_read_record r s₁ hname]
    exact run_read_growing (hfills.isIn hg)
  refine ⟨?_, fun name hname => ?_⟩
  · obtain ⟨D, s₁, hrun, hfills, hD⟩ := run_describe_growing r hg
    refine ⟨D, s₁, hrun, fun name hname => ?_⟩
    obtain ⟨w, s₂, hw, hfills', hsettled⟩ := GrowingRecord.run_read (hfills.isIn hg) name
    rw [hread hfills hname, hw]
    refine agrees_growing hg (hfills.trans hfills') hsettled ((hD name).imp id ?_)
    rintro ⟨v, hv, hp, hv'⟩
    exact ⟨hv.trans (congrArg some ((hfills'.settled hv').unique hsettled)), hp⟩
  · obtain ⟨w, s₁, hw, hfills, hsettled⟩ := GrowingRecord.run_read hg name
    rw [hread (.refl G g _) hname, hw]
    obtain ⟨D, s₂, hrun, hfills', hD⟩ := run_describe_growing r (hfills.isIn hg)
    refine ⟨D, s₂, hrun, agrees_growing hg (hfills.trans hfills') (hfills'.settled hsettled) ?_⟩
    have hD := hD name
    rw [hfills.property] at hD
    refine hD.imp id ?_
    rintro ⟨v, hv, hp, hv'⟩
    exact ⟨hv.trans (congrArg some (hv'.unique (hfills'.settled hsettled))), hp⟩

/-- A value that can be described has a description that lists what can be read, except what is omitted. -/
theorem describe_tallies_with_read (r : Resolver) (t : Value) (s : State G) (hwhole : s.heap.Whole t)
    (hpure : ∀ o, s.heap.shownObject? t = some o → s.heap.HasPureGetters G o) :
    (s.heap.Describable G t → Tallies r t s) ∧
      (¬ s.heap.Describable G t → ∃ e s₁, ExceptT.run (r.describe t : Op G (Dict Value)) s = (.error e, s₁)) := by
  cases t with
  | map j => exact ⟨fun _ => tallies_map r j s, fun h => absurd trivial h⟩
  | object o => exact ⟨fun _ => tallies_object r (hpure o rfl) hwhole, fun h => absurd trivial h⟩
  | record h =>
    rw [Heap.Whole] at hwhole
    rw [Heap.shownObject?] at hpure
    rw [Heap.Describable]
    cases hcell : s.heap.get h with
    | fixed S d => exact ⟨fun _ => tallies_fixed r hcell, fun h => absurd trivial h⟩
    | growing S store =>
      rw [hcell] at hwhole
      obtain ⟨hg, hcellOf⟩ := GrowingRecord.isIn_ofStore hcell hwhole.1 hwhole.2.1 hwhole.2.2
      have htallies := tallies_growing r hg
      rw [hcellOf] at htallies
      exact ⟨fun _ => htallies, fun hnot => absurd trivial hnot⟩
    | adapter S o r' =>
      rw [hcell] at hwhole hpure
      refine ⟨tallies_adapter r hcell hwhole.1 hwhole.2 (hpure o rfl), fun hnot => ?_⟩
      rcases hrun : ExceptT.run (r.describe (.record h) : Op G (Dict Value)) s with ⟨e | D, s₁⟩
      · exact ⟨e, s₁, rfl⟩
      · refine absurd (fun name m hm => ?_) hnot
        exact checkSimpleName_of_run_describe hcell hwhole.1 hwhole.2 (hpure o rfl) hrun hm
  | _ => exact ⟨False.elim, fun _ => ⟨_, s, rfl⟩⟩

/-- A getter of tags that answers a new list each time. -/
def getTags : Method := ⟨"getTags", [], some .list, true, some (.getField 0 "tags" true)⟩

/-- Objects with tags, which store entries besides. -/
def articles : ClassGraph :=
  (ClassGraph.empty.define? ⟨"Article", true, false, none, [], [getTags], true, false, [], true⟩).getD .empty

/-- An adapter of an object with a tag that stores a title. -/
def shownArticle : State articles where
  heap :=
    let (tags, H) := Heap.empty.newList [.text "new"]
    let (o, H) := H.alloc .object ⟨0, Dict.empty.insert "tags" tags, some (Dict.empty.insert "title" (.text "x"))⟩
    let (S, H) := H.alloc .schema (.blank "Article")
    (H.alloc .record (.adapter S o ⟨0⟩)).2
  caches := .empty

theorem getter?_articles (hm : shownArticle.heap.getter? articles ⟨0⟩ name = some m) :
    name = "tags" ∧ m = getTags := by
  have hds : articles.descriptors (shownArticle.heap.get (⟨0⟩ : Handle .object)).cls =
      [⟨"tags", some getTags, none, none, none⟩] := by
    with_unfolding_all rfl
  obtain ⟨d, hd, hread⟩ := Option.bind_eq_some_iff.mp hm
  obtain ⟨hmem, rfl⟩ := ((articles.descriptors_spec _).2.2.2 name d).mp hd
  rw [hds] at hmem
  obtain rfl := List.mem_singleton.mp hmem
  cases hread
  exact ⟨rfl, rfl⟩

/-- The tags of an adapted object are described, again and again as a new list. -/
theorem describe_tallies_with_read_article : shownArticle.heap.Whole (.record ⟨0⟩) ∧
    shownArticle.heap.HasPureGetters articles ⟨0⟩ ∧ shownArticle.heap.Describable articles (.record ⟨0⟩) ∧
    Tallies ⟨0⟩ (.record ⟨0⟩) shownArticle := by
  have hwhole : shownArticle.heap.Whole (.record ⟨0⟩) := ⟨Nat.zero_lt_one, Nat.zero_lt_one⟩
  have hpure : shownArticle.heap.HasPureGetters articles ⟨0⟩ := fun name m hm => by
    obtain ⟨rfl, rfl⟩ := getter?_articles hm
    exact Method.pureOn_getField rfl rfl rfl Nat.zero_lt_one Nat.zero_lt_one
  have hsimple : shownArticle.heap.Describable articles (.record ⟨0⟩) := fun name m hm => by
    obtain ⟨rfl, -⟩ := getter?_articles hm
    rfl
  refine ⟨hwhole, hpure, hsimple, (describe_tallies_with_read _ _ _ hwhole fun o ho => ?_).1 hsimple⟩
  cases ho
  exact hpure

/-- A growing record that still holds a title, which is not declared. -/
def undeclaredTitle : State .empty where
  heap :=
    let (S, H) := Heap.empty.alloc .schema (.blank "Article")
    (H.alloc .record (.growing S (.own (Dict.empty.insert "title" (.text "x"))))).2
  caches := .empty

/-- A title that an adapter reads from what its object stores is not described, and one that a growing record reads
without declaring it is not described either. -/
theorem describe_omits_title :
    (∃ D s', ExceptT.run (describe ⟨0⟩ (.record ⟨0⟩)) shownArticle = (.ok D, s') ∧ D.get? "title" = none ∧
      (ExceptT.run (read ⟨0⟩ (.record ⟨0⟩) "title") s').1 = .ok (.text "x")) ∧
    ∃ D s', ExceptT.run (describe ⟨0⟩ (.record ⟨0⟩)) undeclaredTitle = (.ok D, s') ∧ D.get? "title" = none ∧
      (ExceptT.run (read ⟨0⟩ (.record ⟨0⟩) "title") s').1 = .ok (.text "x") := by
  with_unfolding_all exact ⟨⟨_, _, rfl, rfl, rfl⟩, _, _, rfl, rfl, rfl⟩

end Resolver

end ObjectGraph
