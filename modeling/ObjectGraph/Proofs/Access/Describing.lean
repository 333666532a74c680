import ObjectGraph.Access.Bulk
import ObjectGraph.Proofs.Class.Introspection
import ObjectGraph.Proofs.Object.Access
import ObjectGraph.Proofs.Object.Purity
import ObjectGraph.Proofs.Record.Filling
import ObjectGraph.Proofs.Record.Fixed

/-!
How descriptions are made.  The names that are listed are read one after another, and each read may change the heap for
the next one, but only in a way that leaves the answers to the others as they are.  So a description holds under each
listed name what reading the name answers at some time while the description is made.
-/

namespace ObjectGraph

namespace Heap

/-- The getter of a property of an object. -/
def getter? (H : Heap) (G : ClassGraph) (o : Handle .object) (name : String) : Option Method :=
  (G.descriptor? (H.get o).cls name).bind Descriptor.read

/-- Whether all getters of an object are without effects. -/
def HasPureGetters (H : Heap) (G : ClassGraph) (o : Handle .object) : Prop :=
  ∀ name m, H.getter? G o name = some m → m.PureOn G o H

namespace OnlyAdds
variable {H H' : Heap} {G : ClassGraph} {o : Handle .object} (h : H.OnlyAdds H') (ho : H.Has o)
include h ho

theorem getter?_eq (name : String) : H'.getter? G o name = H.getter? G o name := by
  rw [getter?, h.same ho, getter?]

theorem storedEntry?_eq (name : String) : H'.storedEntry? o name = H.storedEntry? o name := by
  rw [Heap.storedEntry?, h.same ho, Heap.storedEntry?]

theorem hasPureGetters (hpure : H.HasPureGetters G o) : H'.HasPureGetters G o := fun name m hm =>
  (hpure name m ((h.getter?_eq ho name).symm.trans hm)).later h

end OnlyAdds

end Heap

namespace ClassGraph
variable {G : ClassGraph} {c : ClassId} {name : String}

/-- The names of the properties of a class that can be read as a whole. -/
def readableNames (G : ClassGraph) (c : ClassId) : List String :=
  ((G.descriptors c).filter fun d => d.read.isSome).map Descriptor.name

theorem mem_readableNames_iff :
    name ∈ G.readableNames c ↔ ∃ m, (G.descriptor? c name).bind Descriptor.read = some m := by
  have hfind := (G.descriptors_spec c).2.2.2
  rw [readableNames, List.mem_map]
  constructor
  · rintro ⟨d, hd, rfl⟩
    obtain ⟨hd, hread⟩ := List.mem_filter.mp hd
    rw [descriptor?, (hfind d.name d).mpr ⟨hd, rfl⟩]
    exact Option.isSome_iff_exists.mp hread
  · rintro ⟨m, hm⟩
    obtain ⟨d, hd, hread⟩ := Option.bind_eq_some_iff.mp hm
    obtain ⟨hmem, hname⟩ := (hfind name d).mp hd
    exact ⟨d, List.mem_filter.mpr ⟨hmem, by rw [hread]; rfl⟩, hname⟩

end ClassGraph

namespace Resolver
variable {G : ClassGraph} {r r' : Resolver} {s s' : State G} {o : Handle .object} {name : String} {names : List String}
  {H H' : Heap} {v w : Value} {m : Method} {d c : Dict Value} {readOne : String → Op G Value} {h : Handle .record}
  {S : Handle .schema}

/-! ### Reading names one after another -/

/-- If each read of a loop succeeds and leads on to a later state, in the sense of some order, then so does the loop,
and it collects what each of its reads has answered. -/
theorem run_collect_steps (Later : State G → State G → Prop) (Reads : String → State G → Value → State G → Prop)
    (readOne : String → Op G Value) (names : List String) (hrefl : ∀ s, Later s s)
    (htrans : ∀ {s s' s''}, Later s s' → Later s' s'' → Later s s'') {s₀ : State G}
    (hread : ∀ name ∈ names, ∀ s, Later s₀ s → ∃ v s', ExceptT.run (readOne name) s = (.ok v, s') ∧
      Later s s' ∧ Reads name s v s') (hs : Later s₀ s) (d : Dict Value) :
    ∃ c s', ExceptT.run (collect readOne d names) s = (.ok c, s') ∧ Later s s' ∧
      (∀ name ∈ names, ∃ v s₁ s₂, c.get? name = some v ∧ Later s s₁ ∧ Reads name s₁ v s₂ ∧ Later s₂ s') ∧
      ∀ name ∉ names, c.get? name = d.get? name := by
  induction names generalizing s d with
  | nil => exact ⟨d, s, rfl, hrefl s, nofun, fun _ _ => rfl⟩
  | cons n names ih =>
    obtain ⟨v, s₁, hrun, hlater, hreads⟩ := hread n List.mem_cons_self s hs
    obtain ⟨c, s', hcollect, hlater', hin, hout⟩ := ih (fun name hname => hread name (List.mem_cons_of_mem n hname))
      (htrans hs hlater) (d.insert n v)
    refine ⟨c, s', ?_, htrans hlater hlater', fun name hname => ?_, fun name hname => ?_⟩
    · rw [collect, Op.run_bind_of_ok hrun, hcollect]
    · -- A name that comes again is read again, and then the later answer counts.
      by_cases hagain : name ∈ names
      · obtain ⟨w, s₂, s₃, hc, h₂, hw, h₃⟩ := hin name hagain
        exact ⟨w, s₂, s₃, hc, htrans hlater h₂, hw, h₃⟩
      · obtain rfl := (List.mem_cons.mp hname).resolve_right hagain
        exact ⟨v, s, s₁, by rw [hout name hagain, Dict.get?_insert, if_pos rfl], hrefl s, hreads, hlater'⟩
    · obtain ⟨hne, hrest⟩ := not_or.mp (mt List.mem_cons.mpr hname)
      rw [hout name hrest, Dict.get?_insert, if_neg hne]

/-- A loop that succeeds has read each name successfully, in some later state. -/
theorem exists_run_of_mem_collect (Later : State G → State G → Prop) (hrefl : ∀ s, Later s s)
    (htrans : ∀ {s s' s''}, Later s s' → Later s' s'' → Later s s'') {s₀ : State G}
    (hread : ∀ name ∈ names, ∀ s v s', Later s₀ s → ExceptT.run (readOne name) s = (.ok v, s') → Later s s')
    (hs : Later s₀ s) (hrun : ExceptT.run (collect readOne d names) s = (.ok c, s')) :
    ∀ name ∈ names, ∃ s₁ v s₂, Later s s₁ ∧ ExceptT.run (readOne name) s₁ = (.ok v, s₂) := by
  induction names generalizing s d with
  | nil => exact fun _ h => absurd h List.not_mem_nil
  | cons n names ih =>
    rw [collect] at hrun
    obtain ⟨v, s₁, hn, hrest⟩ := Op.run_bind_eq_ok.mp hrun
    have hlater := hread n List.mem_cons_self s v s₁ hs hn
    have hin := ih (fun name hname => hread name (List.mem_cons_of_mem n hname)) (htrans hs hlater) hrest
    rw [List.forall_mem_cons]
    refine ⟨⟨s, v, s₁, hrefl s, hn⟩, fun name hname => ?_⟩
    obtain ⟨s₂, w, s₃, hlater', hw⟩ := hin name hname
    exact ⟨s₂, w, s₃, htrans hlater hlater', hw⟩

/-- Reading named properties changes nothing if no read does. -/
theorem run_collect {f : String → Value}
    (hread : ∀ name ∈ names, ExceptT.run (readOne name) s = (.ok (f name), s)) :
    ∃ c, ExceptT.run (collect readOne d names) s = (.ok c, s) ∧
      ∀ name, c.get? name = if name ∈ names then some (f name) else d.get? name := by
  have hstep : ∀ n ∈ names, ∀ s', s' = s → ∃ v s'', ExceptT.run (readOne n) s' = (.ok v, s'') ∧ s'' = s' ∧ v = f n := by
    rintro n hn _ rfl
    exact ⟨f n, _, hread n hn, rfl, rfl⟩
  obtain ⟨c, s', hrun, rfl, hin, hout⟩ := run_collect_steps (fun s s' => s' = s) (fun name _ v _ => v = f name) readOne
    names (fun _ => rfl) (fun h h' => h'.trans h) hstep rfl d
  refine ⟨c, hrun, fun name => ?_⟩
  split
  · obtain ⟨v, -, -, hc, -, rfl, -⟩ := hin name ‹_›
    exact hc
  · exact hout name ‹_›

theorem collectGetters_eq_collect (readOne : String → Op G Value) {getters : List (String × Method)}
    (h : ∀ e ∈ getters, readOne e.1 = call e.2 o []) (d : Dict Value) :
    collectGetters o d getters = collect readOne d (getters.map Prod.fst) := by
  induction getters generalizing d with
  | nil => rfl
  | cons e getters ih =>
    rw [List.forall_mem_cons] at h
    rw [List.map_cons, collectGetters, collect, h.1]
    exact bind_congr fun v => ih h.2 _

/-! ### Objects -/

/-- Whether a map has what the getters of an object have answered at some time while it was made, and else what another
map has. -/
structure Tells (G : ClassGraph) (o : Handle .object) (d D : Dict Value) (H H' : Heap) : Prop where
  onlyAdds : H.OnlyAdds H'
  got : ∀ name m, H.getter? G o name = some m → ∃ v H₁ H₂, D.get? name = some v ∧ H.OnlyAdds H₁ ∧
    m.invoke G o [] H₁ = .ok (v, H₂) ∧ H₂.OnlyAdds H'
  rest : ∀ name, H.getter? G o name = none → D.get? name = d.get? name

theorem run_readObject_of_getter (r : Resolver) (hm : s.heap.getter? G o name = some m)
    (hinvoke : m.invoke G o [] s.heap = .ok (v, H)) :
    ∃ s₁, ExceptT.run (r.readObject o name) s = (.ok v, s₁) ∧ s₁.heap = H := by
  obtain ⟨s₁, hheap, hread⟩ := run_readObject_of_read (r := r) rfl hm
  exact ⟨{ s₁ with heap := H }, hread.trans (Op.run_tryChange_of_ok s₁ (hheap ▸ hinvoke)), rfl⟩

theorem run_readObject_of_stored (r : Resolver) (hm : s.heap.getter? G o name = none) :
    ∃ e s₁, ExceptT.run (r.readObject o name) s = ((s.heap.storedEntry? o name).elim (.error e) .ok, s₁) ∧
      s₁.heap = s.heap := by
  obtain ⟨s₁, hheap, hds⟩ := run_descriptors r (s.heap.get o).cls s
  refine ⟨unreadable (G := G) (G.descriptor? (s.heap.get o).cls name).isSome (s.heap.get o).cls name, s₁, ?_, hheap⟩
  rw [readObject, classOf, Op.run_bind_of_ok (Op.run_read s _), Op.run_bind_of_ok hds]
  rw [Heap.getter?, ClassGraph.descriptor?] at hm
  simp only [hm]
  rw [Op.run_bind_of_ok (Op.run_read s₁ _), hheap]
  cases s.heap.storedEntry? o name <;> rfl

theorem onlyAdds_readObject (r : Resolver) (name : String) (hpure : s.heap.HasPureGetters G o) :
    s.heap.OnlyAdds (ExceptT.run (r.readObject o name) s).2.heap := by
  cases hm : s.heap.getter? G o name with
  | some m =>
    obtain ⟨v, H, hinvoke, hadds⟩ := (hpure name m hm).invoked (.refl s.heap)
    obtain ⟨s₁, hrun, rfl⟩ := run_readObject_of_getter r hm hinvoke
    rwa [hrun]
  | none =>
    obtain ⟨e, s₁, hrun, hheap⟩ := run_readObject_of_stored r hm
    rw [hrun, hheap]
    exact .refl s.heap

/-- A loop over the names of the properties that can be read, if each read of one calls the getter. -/
theorem run_collect_getters (hpure : s.heap.HasPureGetters G o) (hs : s'.heap = s.heap)
    (hread : ∀ name m, s.heap.getter? G o name = some m → ∀ (s₁ : State G) v H₂, s.heap.OnlyAdds s₁.heap →
      m.invoke G o [] s₁.heap = .ok (v, H₂) → ∃ s₂, ExceptT.run (readOne name) s₁ = (.ok v, s₂) ∧ s₂.heap = H₂)
    (d : Dict Value) : ∃ D s₁,
      ExceptT.run (collect readOne d (G.readableNames (s.heap.get o).cls)) s' = (.ok D, s₁) ∧
      Tells G o d D s.heap s₁.heap := by
  have hmem (name : String) : name ∈ G.readableNames (s.heap.get o).cls ↔ ∃ m, s.heap.getter? G o name = some m :=
    ClassGraph.mem_readableNames_iff
  have hstep : ∀ n ∈ G.readableNames (s.heap.get o).cls, ∀ s₁ : State G, s.heap.OnlyAdds s₁.heap → ∃ v s₂,
      ExceptT.run (readOne n) s₁ = (.ok v, s₂) ∧ s₁.heap.OnlyAdds s₂.heap ∧
        ∃ m, s.heap.getter? G o n = some m ∧ m.invoke G o [] s₁.heap = .ok (v, s₂.heap) := by
    intro n hn s₁ hs₁
    obtain ⟨m, hm⟩ := (hmem n).mp hn
    obtain ⟨v, H₂, hinvoke, hadds⟩ := (hpure n m hm).invoked hs₁
    obtain ⟨s₂, hrun, rfl⟩ := hread n m hm s₁ v H₂ hs₁ hinvoke
    exact ⟨v, s₂, hrun, hadds, m, hm, hinvoke⟩
  obtain ⟨D, s₁, hrun, hadds, hin, hout⟩ := run_collect_steps (fun s s' => s.heap.OnlyAdds s'.heap)
    (fun name s₁ v s₂ => ∃ m, s.heap.getter? G o name = some m ∧ m.invoke G o [] s₁.heap = .ok (v, s₂.heap)) readOne
    (G.readableNames (s.heap.get o).cls) (fun s => .refl s.heap) .trans hstep (s := s') (hs ▸ .refl _) d
  rw [hs] at hadds
  refine ⟨D, s₁, hrun, hadds, fun name m hm => ?_, fun name hm => hout name fun hname => ?_⟩
  · obtain ⟨v, s₂, s₃, hD, hadds₂, ⟨m', hm', hinvoke⟩, hadds₃⟩ := hin name ((hmem name).mpr ⟨m, hm⟩)
    cases hm.symm.trans hm'
    exact ⟨v, s₂.heap, s₃.heap, hD, hs ▸ hadds₂, hinvoke, hadds₃⟩
  · obtain ⟨m, hm'⟩ := (hmem name).mp hname
    rw [hm] at hm'
    cases hm'

/-- Calls a getter that an object has in some heap. -/
def callGetter (H : Heap) (o : Handle .object) (name : String) : Op G Value :=
  (H.getter? G o name).elim (pure .null) (call · o [])

theorem collectGetters_descriptors (d : Dict Value) :
    collectGetters (G := G) o d ((G.descriptors (H.get o).cls).filterMap fun d => d.read.map fun m => (d.name, m)) =
      collect (callGetter H o) d (G.readableNames (H.get o).cls) := by
  rw [collectGetters_eq_collect (callGetter H o)]
  · rw [List.map_filterMap, ClassGraph.readableNames, ← List.filterMap_eq_map, List.filterMap_filter]
    refine congrArg (collect _ _) (List.filterMap_congr fun d _ => ?_)
    cases d.read <;> rfl
  · intro e he
    obtain ⟨d, hd, he⟩ := List.mem_filterMap.mp he
    obtain ⟨m, hm, rfl⟩ := Option.map_eq_some_iff.mp he
    have hfound := ((G.descriptors_spec (H.get o).cls).2.2.2 d.name d).mpr ⟨hd, rfl⟩
    rw [callGetter, Heap.getter?, ClassGraph.descriptor?, hfound, Option.bind_some, hm, Option.elim_some]

theorem run_describe_object (r : Resolver) (hpure : s.heap.HasPureGetters G o) :
    ∃ D s₁, ExceptT.run (r.describe (.object o)) s = (.ok D, s₁) ∧
      Tells G o ((s.heap.get o).storage.getD .empty) D s.heap s₁.heap := by
  obtain ⟨s₀, hheap, hds⟩ := run_descriptors r (s.heap.get o).cls s
  have hcall (name : String) (m : Method) (hm : s.heap.getter? G o name = some m) (s₁ : State G) (v : Value) (H₂ : Heap)
      (_ : s.heap.OnlyAdds s₁.heap) (hinvoke : m.invoke G o [] s₁.heap = .ok (v, H₂)) :
      ∃ s₂, ExceptT.run (callGetter s.heap o name) s₁ = (.ok v, s₂) ∧ s₂.heap = H₂ := by
    rw [callGetter, hm]
    exact ⟨_, Op.run_tryChange_of_ok s₁ hinvoke, rfl⟩
  obtain ⟨D, s₁, hrun, htells⟩ := run_collect_getters hpure hheap hcall ((s.heap.get o).storage.getD .empty)
  refine ⟨D, s₁, ?_, htells⟩
  rw [describe, Op.run_bind_of_ok (Op.run_read s _), classOf, Op.run_bind_of_ok (Op.run_read s _),
    Op.run_bind_of_ok hds, collectGetters_descriptors, hrun]

/-! ### Records -/

theorem run_read_of_adapter (hcell : s.heap.get h = .adapter S o r') (hname : checkSimpleName name = .ok ()) :
    ExceptT.run (Record.read h name : Op G Value) s = ExceptT.run (r'.readObject o name) s := by
  have hcheck : ExceptT.run (Op.tryRead fun _ => checkSimpleName name : Op G Unit) s = (.ok (), s) := by
    rw [Op.run_tryRead, hname]
  rw [Record.read, Op.run_bind_of_ok (Op.run_read s _), hcell]
  dsimp only
  rw [Op.run_bind_of_ok hcheck]

theorem run_describe_of_adapter (r : Resolver) (hcell : s.heap.get h = .adapter S o r') : ∃ s₁ : State G,
    s₁.heap = s.heap ∧ ExceptT.run (r.describe (.record h)) s =
      ExceptT.run (collect (Record.read h) .empty (G.readableNames (s.heap.get o).cls)) s₁ := by
  obtain ⟨s₁, hheap, hds⟩ := run_descriptors r' (s.heap.get o).cls s
  have hnames : ExceptT.run (Record.names h : Op G (List String)) s =
      (.ok (G.readableNames (s.heap.get o).cls), s₁) := by
    rw [Record.names, Op.run_bind_of_ok (Op.run_read s _), hcell]
    dsimp only
    rw [classOf, Op.run_bind_of_ok (Op.run_read s _), Op.run_bind_of_ok hds]
    rfl
  exact ⟨s₁, hheap, by rw [describe, Op.run_bind_of_ok hnames]⟩

theorem run_describe_adapter (r : Resolver) (hcell : s.heap.get h = .adapter S o r') (hh : s.heap.Has h)
    (ho : s.heap.Has o) (hpure : s.heap.HasPureGetters G o)
    (hsimple : ∀ name m, s.heap.getter? G o name = some m → checkSimpleName name = .ok ()) :
    ∃ D s₁, ExceptT.run (r.describe (.record h)) s = (.ok D, s₁) ∧ Tells G o .empty D s.heap s₁.heap := by
  obtain ⟨s₀, hheap, hdescribe⟩ := run_describe_of_adapter r hcell
  have hcall (name : String) (m : Method) (hm : s.heap.getter? G o name = some m) (s₁ : State G) (v : Value) (H₂ : Heap)
      (hadds : s.heap.OnlyAdds s₁.heap) (hinvoke : m.invoke G o [] s₁.heap = .ok (v, H₂)) :
      ∃ s₂, ExceptT.run (Record.read h name : Op G Value) s₁ = (.ok v, s₂) ∧ s₂.heap = H₂ := by
    rw [run_read_of_adapter ((hadds.same hh).trans hcell) (hsimple name m hm)]
    exact run_readObject_of_getter r' ((hadds.getter?_eq ho name).trans hm) hinvoke
  obtain ⟨D, s₁, hrun, htells⟩ := run_collect_getters hpure hheap hcall .empty
  exact ⟨D, s₁, hdescribe.trans hrun, htells⟩

/-- An adapter is described only if the names of what can be read of its object have no delimiters. -/
theorem checkSimpleName_of_run_describe (hcell : s.heap.get h = .adapter S o r') (hh : s.heap.Has h)
    (ho : s.heap.Has o) (hpure : s.heap.HasPureGetters G o)
    (hrun : ExceptT.run (r.describe (.record h)) s = (.ok c, s')) (hm : s.heap.getter? G o name = some m) :
    checkSimpleName name = .ok () := by
  obtain ⟨s₀, hheap, hdescribe⟩ := run_describe_of_adapter r hcell
  have hchecked {name : String} {s₁ s₂ : State G} {v : Value} (hadds : s.heap.OnlyAdds s₁.heap)
      (hread : ExceptT.run (Record.read h name : Op G Value) s₁ = (.ok v, s₂)) : checkSimpleName name = .ok () := by
    rw [Record.read, Op.run_bind_of_ok (Op.run_read s₁ _), hadds.same hh, hcell] at hread
    obtain ⟨_, s₃, hcheck, -⟩ := Op.run_bind_eq_ok.mp hread
    rw [Op.run_tryRead] at hcheck
    exact congrArg Prod.fst hcheck
  have hadds : ∀ n ∈ G.readableNames (s.heap.get o).cls, ∀ (s₁ : State G) v s₂, s.heap.OnlyAdds s₁.heap →
      ExceptT.run (Record.read h n) s₁ = (.ok v, s₂) → s₁.heap.OnlyAdds s₂.heap := by
    intro n hn s₁ v s₂ hs₁ hread
    obtain ⟨m, hm⟩ := ClassGraph.mem_readableNames_iff.mp hn
    rw [run_read_of_adapter ((hs₁.same hh).trans hcell) (hchecked hs₁ hread)] at hread
    obtain ⟨w, H₂, hinvoke, hadds⟩ := (hpure n m hm).invoked hs₁
    obtain ⟨s₃, hrun, rfl⟩ := run_readObject_of_getter r' ((hs₁.getter?_eq ho n).trans hm) hinvoke
    cases hrun.symm.trans hread
    exact hadds
  rw [hdescribe] at hrun
  obtain ⟨s₁, v, s₂, hlater, hread⟩ := exists_run_of_mem_collect (fun s s' => s.heap.OnlyAdds s'.heap)
    (fun s => .refl s.heap) .trans hadds (hheap ▸ .refl _) hrun name (ClassGraph.mem_readableNames_iff.mpr ⟨m, hm⟩)
  exact hchecked (hheap ▸ hlater) hread

theorem run_read_of_fixed (hcell : s.heap.get h = .fixed S d) (name : String) : ∃ e,
    ExceptT.run (Record.read h name : Op G Value) s =
      ((((s.heap.get S).property? name).map (FixedRecord.shown d)).elim (.error e) .ok, s) := by
  cases hp : (s.heap.get S).property? name with
  | some p => exact ⟨.nullTarget, FixedRecord.run_read hcell hp⟩
  | none =>
    refine ⟨.unknownProperty name (s.heap.get S).name, ?_⟩
    rw [Record.read, Op.run_bind_of_ok (Op.run_read s _), hcell]
    dsimp only
    rw [Op.run_tryRead, FixedRecord.read, Schema.declared, hp]
    rfl

theorem run_names_fixed (hcell : s.heap.get h = .fixed S d) :
    ExceptT.run (Record.names h : Op G (List String)) s = (.ok (s.heap.get S).names, s) := by
  rw [Record.names, Op.run_bind_of_ok (Op.run_read s _), hcell]
  rfl

/-- A fixed record is described by what its declared properties show. -/
theorem run_describe_fixed (r : Resolver) (hcell : s.heap.get h = .fixed S d) :
    ∃ D, ExceptT.run (r.describe (.record h)) s = (.ok D, s) ∧
      ∀ name, D.get? name = ((s.heap.get S).property? name).map (FixedRecord.shown d) := by
  have hread : ∀ n ∈ (s.heap.get S).names, ExceptT.run (Record.read h n : Op G Value) s =
      (.ok ((((s.heap.get S).property? n).map (FixedRecord.shown d)).getD .null), s) := by
    intro n hn
    obtain ⟨p, hp⟩ := Schema.mem_names_iff.mp hn
    rw [FixedRecord.run_read hcell hp, hp, Option.map_some, Option.getD_some]
  obtain ⟨D, hrun, hD⟩ := run_collect (d := .empty) hread
  refine ⟨D, by rw [describe, Op.run_bind_of_ok (run_names_fixed hcell), hrun], fun name => ?_⟩
  rw [hD]
  cases hp : (s.heap.get S).property? name with
  | some p => rw [if_pos (Schema.mem_names_iff.mpr ⟨p, hp⟩), Option.map_some, Option.getD_some]
  | none =>
    have hname : name ∉ (s.heap.get S).names := by simp [Schema.mem_names_iff, hp]
    rw [if_neg hname]
    rfl

theorem run_read_growing {g : GrowingRecord} (hg : g.IsIn s.heap) :
    ExceptT.run (Record.read g.cell name : Op G Value) s = ExceptT.run (g.read name) s := by
  obtain ⟨store, hcell, hstore⟩ := hg.cell
  rw [Record.read, Op.run_bind_of_ok (Op.run_read s _), hcell]
  dsimp only
  rw [hstore]

theorem run_names_growing {g : GrowingRecord} (hg : g.IsIn s.heap) :
    ExceptT.run (Record.names g.cell : Op G (List String)) s = (.ok (g.names s.heap), s) := by
  obtain ⟨store, hcell, hstore⟩ := hg.cell
  rw [Record.names, Op.run_bind_of_ok (Op.run_read s _), hcell]
  dsimp only
  rw [hstore, Op.run_read]

/-- A growing record is described by what its properties are read as, which settles them. -/
theorem run_describe_growing {g : GrowingRecord} (r : Resolver) (hg : g.IsIn s.heap) :
    ∃ D s₁, ExceptT.run (r.describe (.record g.cell)) s = (.ok D, s₁) ∧ GrowingRecord.Fills G g s.heap s₁.heap ∧
      ∀ name, D.get? name = none ∧ g.property? name s.heap = none ∨
        ∃ v, D.get? name = some v ∧ g.property? name s.heap ≠ none ∧ g.Settled G name v s₁.heap := by
  have hstep : ∀ n ∈ g.names s.heap, ∀ s₁ : State G, GrowingRecord.Fills G g s.heap s₁.heap → ∃ v s₂,
      ExceptT.run (Record.read g.cell n) s₁ = (.ok v, s₂) ∧ GrowingRecord.Fills G g s₁.heap s₂.heap ∧
        g.Settled G n v s₂.heap := by
    intro n _ s₁ hs₁
    rw [run_read_growing (hs₁.isIn hg)]
    exact GrowingRecord.run_read (hs₁.isIn hg) n
  obtain ⟨D, s₁, hrun, hfills, hin, hout⟩ := run_collect_steps (fun s s' => GrowingRecord.Fills G g s.heap s'.heap)
    (fun name _ v s => g.Settled G name v s.heap) (Record.read g.cell) (g.names s.heap) (fun s => .refl G g s.heap)
    .trans hstep (.refl G g s.heap) .empty
  refine ⟨D, s₁, by rw [describe, Op.run_bind_of_ok (run_names_growing hg), hrun], hfills, fun name => ?_⟩
  have hmem : name ∈ g.names s.heap ↔ g.property? name s.heap ≠ none :=
    GrowingRecord.mem_names_iff.trans Option.isSome_iff_ne_none
  by_cases hname : name ∈ g.names s.heap
  · obtain ⟨v, -, s₂, hD, -, hsettled, hlater⟩ := hin name hname
    exact Or.inr ⟨v, hD, hmem.mp hname, hlater.settled hsettled⟩
  · exact Or.inl ⟨hout name hname, by_contra fun hp => hname (hmem.mpr hp)⟩

end Resolver

end ObjectGraph
