import ObjectGraph.Access.Target
import ObjectGraph.Proofs.Access.Slot
import ObjectGraph.Proofs.Operation

/-!
What one segment of a path reads in a tree: it follows the steps of the segment.  Whether it succeeds,
and how it fails, depends on nothing else but the types and lengths of the values on the way.
-/

namespace ObjectGraph

/-- The step of a subscript. -/
def Subscript.steps : Subscript → List Step
  | .none => []
  | .index i => [.index i]
  | .key k => [.key k]

/-- The steps of a segment.  An empty name is no step. -/
def Segment.steps (g : Segment) : List Step :=
  if g.name = "" then g.subscript.steps else .key g.name :: g.subscript.steps

/-- Whether a segment has a name or a subscript, as all segments of texts have. -/
def Segment.HasStep (g : Segment) : Prop := g.subscript = .none → g.name ≠ ""

theorem Segment.HasStep.steps_ne_nil {g : Segment} (hg : g.HasStep) : g.steps ≠ [] := by
  unfold Segment.steps
  split
  · rename_i hname
    cases hsub : g.subscript with
    | none => exact absurd hname (hg hsub)
    | index i => exact List.cons_ne_nil _ _
    | key k => exact List.cons_ne_nil _ _
  · exact List.cons_ne_nil _ _

namespace Value
variable {v : Value}

/-- Whether a value is neither an object nor a record. -/
def isPlain : Value → Bool
  | object _ | record _ => false
  | _ => true

/-- Whether a value is a list, an array or a scalar that is not null. -/
def isNameless : Value → Bool
  | null | map _ | object _ | record _ => false
  | _ => true

theorem isPlain_of_isContainer (h : v.isContainer = true) : v.isPlain = true := by
  cases v <;> first | rfl | cases h

theorem cases_of_isPlain (h : v.isPlain = true) : v = .null ∨ (∃ m, v = .map m) ∨ v.isNameless = true := by
  cases v <;> first | exact Or.inl rfl | exact Or.inr (Or.inr rfl) | exact Or.inr (Or.inl ⟨_, rfl⟩) | cases h

end Value

/-! ### Reading on two states -/

namespace Op
variable {G : ClassGraph} {s s' : State G} {x : Op G Value} {o : Option Value}

/-- On two states, an operation changes nothing and answers a value, or fails alike where there is none. -/
def Reads (x : Op G Value) (s s' : State G) (o : Option Value) : Prop :=
  match o with
  | some v => ExceptT.run x s = (.ok v, s) ∧ ExceptT.run x s' = (.ok v, s')
  | none => ∃ e, ExceptT.run x s = (.error e, s) ∧ ExceptT.run x s' = (.error e, s')

namespace Reads

theorem pure (v : Value) : Reads (Pure.pure v) s s' (some v) := ⟨rfl, rfl⟩

theorem throw (e : Error) : Reads (MonadExcept.throw e) s s' none := ⟨e, rfl, rfl⟩

theorem tryRead {f : Heap → Except Error Value} (h : f s'.heap = f s.heap)
    (ho : ∃ e, f s.heap = o.elim (.error e) .ok) : Reads (Op.tryRead f) s s' o := by
  obtain ⟨e, ho⟩ := ho
  cases o with
  | some v => exact ⟨by rw [run_tryRead, ho]; rfl, by rw [run_tryRead, h, ho]; rfl⟩
  | none => exact ⟨e, by rw [run_tryRead, ho]; rfl, by rw [run_tryRead, h, ho]; rfl⟩

theorem bind {k : Value → Op G Value} {p : Value → Option Value} (hx : Reads x s s' o)
    (hk : ∀ u, o = some u → Reads (k u) s s' (p u)) : Reads (x >>= k) s s' (o.bind p) := by
  cases o with
  | none =>
    obtain ⟨e, hs, hs'⟩ := hx
    exact ⟨e, run_bind_of_error hs, run_bind_of_error hs'⟩
  | some u =>
    have hku := hk u rfl
    rw [Option.bind_some]
    cases hp : p u with
    | none =>
      rw [hp] at hku
      obtain ⟨e, hs, hs'⟩ := hku
      exact ⟨e, (run_bind_of_ok hx.1).trans hs, (run_bind_of_ok hx.2).trans hs'⟩
    | some v =>
      rw [hp] at hku
      exact ⟨(run_bind_of_ok hx.1).trans hku.1, (run_bind_of_ok hx.2).trans hku.2⟩

/-- The outcome is the same on both states. -/
theorem exists_outcome (h : Reads x s s' o) : ∃ a, ExceptT.run x s = (a, s) ∧ ExceptT.run x s' = (a, s') ∧
    ∀ v, a = .ok v → o = some v := by
  cases o with
  | none =>
    obtain ⟨e, hs, hs'⟩ := h
    refine ⟨.error e, hs, hs', fun v hv => ?_⟩
    cases hv
  | some u =>
    refine ⟨.ok u, h.1, h.2, fun v hv => ?_⟩
    cases hv
    rfl

end Reads

end Op

/-! ### Elements and entries by slots -/

namespace Heap
variable {G : ClassGraph} {H H' : Heap} {t u c v w : Value} {cs : List Value} {name k : String} {i : Nat}

theorem Spans.isPlain (h : H.Spans v cs) : v.isPlain = true := by
  cases h with
  | scalar hs => cases v <;> first | rfl | cases hs
  | container hc => cases v <;> first | rfl | cases hc

theorem slot?_of_isNameless (h : t.isNameless = true) : H.slot? t (.key k) = none := by
  cases t <;> first | rfl | cases h

theorem element_congr (ha : Alike G H H') (hslot : H'.slot? v (.index i) = H.slot? v (.index i)) :
    H'.element name i v = H.element name i v := by
  have hlen := ha.length v
  simp only [slot?] at hslot
  cases hitems : H.items? v with
  | none =>
    rw [hitems, Option.map_none, Option.map_eq_none_iff] at hlen
    simp only [element, hitems, hlen]
  | some items =>
    rw [hitems, Option.map_some] at hlen
    obtain ⟨items', hitems', hlen'⟩ := Option.map_eq_some_iff.mp hlen
    rw [hitems, hitems', Option.bind_some, Option.bind_some] at hslot
    simp only [element, hitems, hitems', hslot, hlen']

theorem element_eq : ∃ e, H.element name i v = (H.slot? v (.index i)).elim (.error e) .ok := by
  simp only [element, slot?]
  cases H.items? v with
  | none => exact ⟨_, rfl⟩
  | some items =>
    cases hi : items[i]? with
    | none => exact ⟨.indexOutOfRange name i items.length, by simp only [Option.bind_some, hi]; rfl⟩
    | some w => exact ⟨.nullTarget, by simp only [Option.bind_some, hi]; rfl⟩

theorem element_of_items {items : List Value} (hitems : H.items? v = some items) (hi : items[i]? = some w) :
    H.element name i v = .ok w := by
  rw [element, hitems]
  dsimp only
  rw [hi]

theorem entry_eq (hv : v.isPlain = true) :
    H.entry name k v = (H.slot? v (.key k)).elim (.error (.notMapped name)) .ok := by
  cases v <;> first | rfl | cases hv

theorem entry_congr (hv : v.isPlain = true) (hslot : H'.slot? v (.key k) = H.slot? v (.key k)) :
    H'.entry name k v = H.entry name k v := by
  rw [entry_eq hv, entry_eq hv, hslot]

/-! ### Elements and entries of what may be missing -/

theorem elementOf_of_ne (hv : v ≠ .null) : H.elementOf name i v = H.element name i v := by
  cases v <;> first | rfl | exact absurd rfl hv

theorem entryOf_of_ne (hv : v ≠ .null) : H.entryOf name k v = H.entry name k v := by
  cases v <;> first | rfl | exact absurd rfl hv

theorem elementOf_congr (ha : Alike G H H') (hslot : H'.slot? v (.index i) = H.slot? v (.index i)) :
    H'.elementOf name i v = H.elementOf name i v := by
  by_cases hv : v = .null
  · rw [hv]
    rfl
  · rw [elementOf_of_ne hv, elementOf_of_ne hv, element_congr ha hslot]

theorem elementOf_eq : ∃ e, H.elementOf name i v = (H.slot? v (.index i)).elim (.error e) .ok := by
  by_cases hv : v = .null
  · rw [hv]
    exact ⟨_, rfl⟩
  · rw [elementOf_of_ne hv]
    exact element_eq

theorem entryOf_eq (hv : v.isPlain = true) :
    ∃ e, H.entryOf name k v = (H.slot? v (.key k)).elim (.error e) .ok := by
  by_cases hnull : v = .null
  · rw [hnull]
    exact ⟨_, rfl⟩
  · rw [entryOf_of_ne hnull]
    exact ⟨_, entry_eq hv⟩

theorem entryOf_congr (hv : v.isPlain = true) (hslot : H'.slot? v (.key k) = H.slot? v (.key k)) :
    H'.entryOf name k v = H.entryOf name k v := by
  by_cases hnull : v = .null
  · rw [hnull]
    rfl
  · rw [entryOf_of_ne hnull, entryOf_of_ne hnull, entry_congr hv hslot]

end Heap

/-! ### Reading a segment -/

namespace Resolver
variable {G : ClassGraph} {r : Resolver} {s s' : State G} {t v : Value} {cs : List Value} {name k : String} {i : Nat}
  {g : Segment}

theorem isEmpty_of_ne (hname : name ≠ "") : name.isEmpty = false :=
  Bool.eq_false_iff.mpr fun he => hname (String.isEmpty_iff.mp he)

theorem reads_unknown (ha : Heap.Alike G s.heap s'.heap) : Op.Reads (unknown name t) s s' none :=
  ⟨.unknownProperty name (s.heap.targetName G t), rfl, by rw [← ha.targetName]; rfl⟩

theorem readName_of_isNameless (h : t.isNameless = true) : (r.readName t name : Op G Value) = unknown name t := by
  cases t <;> first | rfl | cases h

theorem readElement_of_isNameless (h : t.isNameless = true) (hname : name ≠ "") :
    (r.readElement t name i : Op G Value) = unknown name t := by
  have hempty := isEmpty_of_ne hname
  cases t <;> first | exact absurd h Bool.false_ne_true | simp only [readElement, hempty, Bool.false_eq_true, if_false]

theorem readEntry_of_isNameless (h : t.isNameless = true) (hname : name ≠ "") :
    (r.readEntry t name k : Op G Value) = unknown name t := by
  have hempty := isEmpty_of_ne hname
  cases t <;> first | exact absurd h Bool.false_ne_true | simp only [readEntry, hempty, Bool.false_eq_true, if_false]

theorem readElement_nameless (hp : t.isPlain = true) (ht : t ≠ .null) :
    (r.readElement t "" i : Op G Value) = Op.tryRead fun H => H.element (H.targetName G t) i t := by
  cases t <;> first | rfl | exact absurd rfl ht | cases hp

theorem readEntry_nameless (hp : t.isPlain = true) (ht : t ≠ .null) :
    (r.readEntry t "" k : Op G Value) = Op.tryRead fun H => H.entry (H.targetName G t) k t := by
  cases t <;> first | rfl | exact absurd rfl ht | cases hp

theorem readElement_map {m : Handle .map} (hname : name ≠ "") :
    (r.readElement (.map m) name i : Op G Value) = Op.tryRead fun H => H.elementOf name i (mapEntry m name H) := by
  have hempty := isEmpty_of_ne hname
  simp only [readElement, hempty, Bool.false_eq_true, if_false]

theorem readEntry_map {m : Handle .map} (hname : name ≠ "") :
    (r.readEntry (.map m) name k : Op G Value) = Op.tryRead fun H => H.entryOf name k (mapEntry m name H) := by
  have hempty := isEmpty_of_ne hname
  simp only [readEntry, hempty, Bool.false_eq_true, if_false]

theorem follow?_map {H : Heap} {m : Handle .map} {steps : List Step} :
    H.follow? (.map m) (.key name :: steps) = H.follow? (mapEntry m name H) steps := rfl

theorem reads_readName (ha : Heap.Alike G s.heap s'.heap) (hp : t.isPlain = true)
    (hsame : s.heap.SameAlong s'.heap t [.key name]) :
    Op.Reads (r.readName t name) s s' (s.heap.follow? t [.key name]) := by
  rw [Heap.follow?_singleton]
  rcases Value.cases_of_isPlain hp with rfl | ⟨m, rfl⟩ | hn
  · exact Op.Reads.throw _
  · have hentry : mapEntry m name s'.heap = mapEntry m name s.heap := Option.some.inj hsame.slot?
    exact ⟨rfl, congrArg (fun v => (Except.ok v, s')) hentry⟩
  · rw [readName_of_isNameless hn, Heap.slot?_of_isNameless hn]
    exact reads_unknown ha

theorem reads_readElement_nameless (ha : Heap.Alike G s.heap s'.heap) (hp : t.isPlain = true)
    (hsame : s.heap.SameAlong s'.heap t [.index i]) :
    Op.Reads (r.readElement t "" i) s s' (s.heap.follow? t [.index i]) := by
  rw [Heap.follow?_singleton]
  by_cases ht : t = .null
  · subst ht
    exact Op.Reads.throw _
  · rw [readElement_nameless hp ht]
    refine Op.Reads.tryRead ?_ Heap.element_eq
    rw [ha.targetName, Heap.element_congr ha hsame.slot?]

theorem reads_readEntry_nameless (ha : Heap.Alike G s.heap s'.heap) (hp : t.isPlain = true)
    (hsame : s.heap.SameAlong s'.heap t [.key k]) :
    Op.Reads (r.readEntry t "" k) s s' (s.heap.follow? t [.key k]) := by
  rw [Heap.follow?_singleton]
  by_cases ht : t = .null
  · subst ht
    exact Op.Reads.throw _
  · rw [readEntry_nameless hp ht]
    refine Op.Reads.tryRead ?_ ⟨_, Heap.entry_eq hp⟩
    rw [ha.targetName, Heap.entry_congr hp hsame.slot?]

theorem reads_readElement (ha : Heap.Alike G s.heap s'.heap) (hp : t.isPlain = true) (hname : name ≠ "")
    (hsame : s.heap.SameAlong s'.heap t [.key name, .index i]) :
    Op.Reads (r.readElement t name i) s s' (s.heap.follow? t [.key name, .index i]) := by
  rcases Value.cases_of_isPlain hp with rfl | ⟨m, rfl⟩ | hn
  · exact Op.Reads.throw _
  · have hentry : mapEntry m name s'.heap = mapEntry m name s.heap := Option.some.inj hsame.slot?
    have hrest : s.heap.SameAlong s'.heap (mapEntry m name s.heap) [.index i] :=
      hsame.rest [.key name] Heap.follow?_singleton
    rw [readElement_map hname, follow?_map, Heap.follow?_singleton]
    refine Op.Reads.tryRead ?_ Heap.elementOf_eq
    rw [hentry, Heap.elementOf_congr ha hrest.slot?]
  · rw [readElement_of_isNameless hn hname, Heap.follow?, Heap.slot?_of_isNameless hn]
    exact reads_unknown ha

theorem reads_readEntry (hp : t.isPlain = true) (hname : name ≠ "") (ha : Heap.Alike G s.heap s'.heap)
    (hentries : ∀ u, s.heap.slot? t (.key name) = some u → u.isPlain = true)
    (hsame : s.heap.SameAlong s'.heap t [.key name, .key k]) :
    Op.Reads (r.readEntry t name k) s s' (s.heap.follow? t [.key name, .key k]) := by
  rcases Value.cases_of_isPlain hp with rfl | ⟨m, rfl⟩ | hn
  · exact Op.Reads.throw _
  · have hentry : mapEntry m name s'.heap = mapEntry m name s.heap := Option.some.inj hsame.slot?
    have hrest : s.heap.SameAlong s'.heap (mapEntry m name s.heap) [.key k] :=
      hsame.rest [.key name] Heap.follow?_singleton
    have hplain : (mapEntry m name s.heap).isPlain = true := hentries _ rfl
    rw [readEntry_map hname, follow?_map, Heap.follow?_singleton]
    refine Op.Reads.tryRead ?_ (Heap.entryOf_eq hplain)
    rw [hentry, Heap.entryOf_congr hplain hrest.slot?]
  · rw [readEntry_of_isNameless hn hname, Heap.follow?, Heap.slot?_of_isNameless hn]
    exact reads_unknown ha

/-- Reading a segment is following its steps, if no object or record is on the way. -/
theorem reads_readSegment_of_isPlain (hg : g.HasStep) (ha : Heap.Alike G s.heap s'.heap)
    (hp : t.isPlain = true)
    (hentries : g.name ≠ "" → ∀ k, g.subscript = .key k →
      ∀ u, s.heap.slot? t (.key g.name) = some u → u.isPlain = true)
    (hsame : s.heap.SameAlong s'.heap t g.steps) :
    Op.Reads (r.readSegment t g) s s' (s.heap.follow? t g.steps) := by
  obtain ⟨name, sub⟩ := g
  by_cases hname : name = ""
  · subst hname
    cases sub with
    | none => exact absurd rfl (hg rfl)
    | index i => exact reads_readElement_nameless ha hp hsame
    | key k => exact reads_readEntry_nameless ha hp hsame
  · simp only [Segment.steps, if_neg hname] at hsame ⊢
    cases sub with
    | none => exact reads_readName ha hp hsame
    | index i => exact reads_readElement ha hp hname hsame
    | key k => exact reads_readEntry hp hname ha (hentries hname k rfl) hsame

theorem reads_readSegment (hspans : s.heap.Spans t cs) (hg : g.HasStep)
    (ha : Heap.Alike G s.heap s'.heap) (hsame : s.heap.SameAlong s'.heap t g.steps) :
    Op.Reads (r.readSegment t g) s s' (s.heap.follow? t g.steps) := by
  refine reads_readSegment_of_isPlain hg ha hspans.isPlain (fun _ k _ u hu => ?_) hsame
  obtain ⟨ds, hds, -⟩ := hspans.slot? hu
  exact hds.isPlain

/-- Where the steps of a segment lead to a value, the segment reads it. -/
theorem run_readSegment_of_follow? (hg : g.HasStep)
    (h : s.heap.follow? t g.steps = some v) :
    ExceptT.run (r.readSegment t g : Op G Value) s = (.ok v, s) := by
  have hp : t.isPlain = true := by
    obtain ⟨st, steps, hsteps⟩ := List.exists_cons_of_ne_nil hg.steps_ne_nil
    rw [hsteps] at h
    obtain ⟨u, hu, -⟩ := Heap.follow?_cons_eq_some.mp h
    exact Value.isPlain_of_isContainer (Heap.isContainer_of_slot? hu)
  have hentries (hname : g.name ≠ "") (k : String) (hk : g.subscript = .key k) (u : Value)
      (hu : s.heap.slot? t (.key g.name) = some u) : u.isPlain = true := by
    simp only [Segment.steps, if_neg hname, hk, Subscript.steps] at h
    obtain ⟨u', hu', hrest⟩ := Heap.follow?_cons_eq_some.mp h
    obtain rfl : u = u' := Option.some.inj (hu.symm.trans hu')
    rw [Heap.follow?_singleton] at hrest
    exact Value.isPlain_of_isContainer (Heap.isContainer_of_slot? hrest)
  have hreads := reads_readSegment_of_isPlain (r := r) hg Heap.alike_refl hp hentries
    (Heap.SameAlong.refl s.heap t g.steps)
  rw [h] at hreads
  exact hreads.1

end Resolver

end ObjectGraph
