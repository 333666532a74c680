import ObjectGraph.Access.Bulk
import ObjectGraph.Proofs.Convert.Growth
import ObjectGraph.Proofs.Object.Access
import ObjectGraph.Proofs.Object.Creation

/-!
Outcomes of operations: the answer, and the heap after it.  The caches of resolvers make no difference to the outcome
of a write to an object, and a write to an object without entries changes fields of objects and maps only.
-/

namespace ObjectGraph

namespace Heap

/-- Whether a heap has all cells of another one as they are, except for maps and the fields of objects, and perhaps
more. -/
structure ChangesFields (H H' : Heap) : Prop where
  has : ∀ {k : CellKind} {h : Handle k}, H.Has h → H'.Has h
  same : ∀ {k : CellKind} {h : Handle k}, k ≠ .map → k ≠ .object → H.Has h → H'.get h = H.get h
  cls : ∀ {o : Handle .object}, H.Has o → (H'.get o).cls = (H.get o).cls
  storage : ∀ {o : Handle .object}, H.Has o → (H'.get o).storage = (H.get o).storage

/-- Whether an object has no entries. -/
structure Bare (H : Heap) (o : Handle .object) : Prop where
  hasCell : H.Has o
  storage : (H.get o).storage = none

variable {H H' H'' : Heap} {o : Handle .object}

theorem OnlyAdds.changesFields (h : H.OnlyAdds H') : H.ChangesFields H' where
  has := h.has
  same _ _ := h.same
  cls hj := congrArg Object.cls (h.same hj)
  storage hj := congrArg Object.storage (h.same hj)

namespace ChangesFields

theorem refl (H : Heap) : H.ChangesFields H := (OnlyAdds.refl H).changesFields

theorem trans (h : H.ChangesFields H') (h' : H'.ChangesFields H'') : H.ChangesFields H'' where
  has hj := h'.has (h.has hj)
  same hmap hobject hj := (h'.same hmap hobject (h.has hj)).trans (h.same hmap hobject hj)
  cls hj := (h'.cls (h.has hj)).trans (h.cls hj)
  storage hj := (h'.storage (h.has hj)).trans (h.storage hj)

theorem bare (h : H.ChangesFields H') (ho : H.Bare o) : H'.Bare o :=
  ⟨h.has ho.hasCell, (h.storage ho.hasCell).trans ho.storage⟩

end ChangesFields

theorem changesFields_setMap (m : Handle .map) (d : Dict Value) : H.ChangesFields (H.set m d) where
  has := has_set
  same hmap _ _ := H.get_set_of_kind_ne (k := .map) d hmap
  cls {j} _ := congrArg Object.cls (H.get_set_of_kind_ne (k := .map) (j := j) d nofun)
  storage {j} _ := congrArg Object.storage (H.get_set_of_kind_ne (k := .map) (j := j) d nofun)

theorem changesFields_setField (o : Handle .object) (name : String) (v : Value) :
    H.ChangesFields (H.setField o name v) where
  has := has_set
  same _ hobject _ := H.get_set_of_kind_ne (k := .object) _ hobject
  cls {j} _ := by
    by_cases hj : j = o
    · subst hj
      rw [setField, H.get_set_self (k := .object)]
    · exact congrArg Object.cls (H.get_set_of_ne (k := .object) _ hj)
  storage {j} _ := by
    by_cases hj : j = o
    · subst hj
      rw [setField, H.get_set_self (k := .object)]
    · exact congrArg Object.storage (H.get_set_of_ne (k := .object) _ hj)

/-- Whether a call, if it succeeds, changes maps and fields of objects only. -/
def Tame (H : Heap) (x : CallResult) : Prop := ∀ v H', x = .ok (v, H') → H.ChangesFields H'

namespace Tame
variable {α : Type} {x : Except Error α} {k : α → CallResult} {v : Value}

theorem ok (h : H.ChangesFields H') : H.Tame (.ok (v, H')) := by
  rintro _ _ ⟨⟩
  exact h

theorem error (e : Error) : H.Tame (.error e) := by
  rintro _ _ ⟨⟩

theorem bind (hk : ∀ a, H.Tame (k a)) : H.Tame (x >>= k) := by
  intro v H' h
  obtain ⟨a, -, hrest⟩ := bind_eq_ok.mp h
  exact hk a v H' hrest

end Tame

theorem onlyAdds_copyItems (H : Heap) (v : Value) : H.OnlyAdds (H.copyItems v).2 := by
  cases v with
  | list l => exact H.onlyAdds_alloc (k := .list) _
  | array a => exact H.onlyAdds_alloc (k := .array) _
  | _ => exact .refl H

theorem onlyAdds_newLike (H : Heap) (v : Value) (items : List Value) : H.OnlyAdds (H.newLike v items).2 := by
  cases v with
  | array a => exact H.onlyAdds_alloc (k := .array) _
  | _ => exact H.onlyAdds_alloc (k := .list) _

end Heap

/-! ### Calls of methods -/

namespace Method

open Heap Tame

variable {G : ClassGraph} {H : Heap} {o : Handle .object} {name : String} {args : List Value}

theorem tame_run (body : Body) : H.Tame (run G name o args H body) := by
  cases body with
  | getField owner field fresh =>
    refine .bind fun _ => ?_
    dsimp only
    split
    · exact .ok (H.onlyAdds_copyItems _).changesFields
    · exact .ok (.refl H)
  | setField owner property field refusal =>
    exact .bind fun _ => .bind fun _ => .ok (changesFields_setField o field _)
  | getElement owner property field =>
    refine .bind fun _ => .bind fun i => ?_
    dsimp only
    split
    · exact .ok (.refl H)
    · exact .error _
  | setElement owner property field grows =>
    exact .bind fun i => .bind fun _ => .bind fun items =>
      .ok ((H.onlyAdds_newLike _ _).changesFields.trans (changesFields_setField o field _))
  | getEntry owner field =>
    refine .bind fun _ => .bind fun key => ?_
    split <;> exact .ok (.refl H)
  | setEntry owner property field refusal =>
    refine .bind fun key => .bind fun _ => .bind fun _ => ?_
    dsimp only
    split
    · exact .ok (changesFields_setMap _ _)
    · exact .ok ((H.onlyAdds_alloc (k := .map) _).changesFields.trans (changesFields_setField o field _))
  | storeLast field => exact .ok (changesFields_setField o field _)
  | constant t => exact .ok (Template.onlyAdds_buildWith (fun c H => G.onlyAdds_blankObject _ c H) H t).changesFields
  | arguments => exact .ok (H.onlyAdds_alloc (k := .list) _).changesFields
  | fail reason => exact .error _
  | reenter field =>
    simp only [run]
    split
    · split
      · exact .error _
      · exact .ok (.refl H)
    · exact .ok (.refl H)
  | _ => exact .ok (.refl H)

theorem tame_invoke (m : Method) : H.Tame (m.invoke G o args H) := by
  unfold invoke
  split
  · exact .error _
  · split
    · exact tame_run _
    · exact .error _

end Method

/-! ### Outcomes -/

namespace Op
variable {G : ClassGraph} {α β : Type}

/-- The answer of an operation, and the heap after it. -/
def outcome (x : Op G α) (s : State G) : Except Error α × Heap := ((ExceptT.run x s).1, (ExceptT.run x s).2.heap)

/-- Whether an operation changes no more than the caches. -/
def Asks (x : Op G α) : Prop := ∀ s : State G, (ExceptT.run x s).2.heap = s.heap

/-- Whether the caches make no difference to an operation, and with an object that has no entries it changes fields
of objects and maps only. -/
structure Tame (o : Handle .object) (x : Op G α) : Prop where
  outcome : ∀ {s t : State G}, t.heap = s.heap → Op.outcome x t = Op.outcome x s
  changesFields : ∀ s : State G, s.heap.Bare o → s.heap.ChangesFields (Op.outcome x s).2

variable {x : Op G α} {k : α → Op G β} {o : Handle .object} {s t : State G}

theorem outcome_of_run {r : Except Error α} {s' : State G} (h : ExceptT.run x s = (r, s')) :
    outcome x s = (r, s'.heap) := by
  rw [outcome, h]

theorem run_of_outcome {r : Except Error α} {H : Heap} (h : outcome x s = (r, H)) :
    ∃ s' : State G, s'.heap = H ∧ ExceptT.run x s = (r, s') := by
  cases h
  exact ⟨_, rfl, rfl⟩

theorem outcome_of_run_eq {y : Op G α} (h : ExceptT.run x s = ExceptT.run y t) : outcome x s = outcome y t := by
  rw [outcome, outcome, h]

/-- Two runs go on alike if they begin alike, and go on alike from states with the same heap. -/
theorem outcome_bind_congr {y : Op G α} {l : α → Op G β} (h : outcome x s = outcome y t)
    (hk : ∀ a (s' t' : State G), outcome x s = (.ok a, s'.heap) → t'.heap = s'.heap →
      outcome (k a) s' = outcome (l a) t') :
    outcome (x >>= k) s = outcome (y >>= l) t := by
  rcases hx : outcome x s with ⟨e | a, H⟩ <;> rw [hx] at h <;> obtain ⟨s', rfl, hs⟩ := run_of_outcome hx <;>
    obtain ⟨t', ht', ht⟩ := run_of_outcome h.symm
  · rw [outcome_of_run (run_bind_of_error hs), outcome_of_run (run_bind_of_error ht), ht']
  · rw [outcome_of_run_eq (run_bind_of_ok hs), outcome_of_run_eq (run_bind_of_ok ht)]
    exact hk a s' t' hx ht'

namespace Asks

theorem bind (hx : Asks x) (hk : ∀ a, Asks (k a)) : Asks (x >>= k) := by
  intro s
  rcases hrun : ExceptT.run x s with ⟨e | a, t⟩ <;> have hheap := hx s <;> rw [hrun] at hheap
  · rw [run_bind_of_error hrun]
    exact hheap
  · rw [run_bind_of_ok hrun, hk a t]
    exact hheap

theorem ask (r : Resolver) (f : SoundCache G → α × SoundCache G) : Asks (Op.ask r f) := fun _ => rfl

theorem read (f : Heap → α) : Asks (Op.read f : Op G α) := fun _ => rfl

theorem pure (a : α) : Asks (Pure.pure a : Op G α) := fun _ => rfl

theorem throw (e : Error) : Asks (MonadExcept.throw e : Op G α) := fun _ => rfl

theorem tryRead (f : Heap → Except Error α) : Asks (Op.tryRead f : Op G α) := fun _ => rfl

theorem attempt (hx : Asks x) : Asks (Op.attempt x) := fun s => hx s

theorem ite {c : Prop} [Decidable c] {y : Op G α} (hx : Asks x) (hy : Asks y) : Asks (if c then x else y) := by
  split
  · exact hx
  · exact hy

/-- What only asks after something else changes nothing more. -/
theorem heap_bind (hk : ∀ a, Asks (k a)) : (outcome (x >>= k) s).2 = (outcome x s).2 := by
  rcases hrun : ExceptT.run x s with ⟨e | a, t⟩
  · rw [outcome_of_run (run_bind_of_error hrun), outcome_of_run hrun]
  · rw [outcome_of_run_eq (run_bind_of_ok hrun), outcome_of_run hrun]
    exact hk a t

end Asks

namespace Tame

theorem bind (hx : Tame o x) (hk : ∀ a, Tame o (k a)) : Tame o (x >>= k) where
  outcome h := outcome_bind_congr (hx.outcome h) fun a _ _ _ ht => (hk a).outcome ht.symm
  changesFields s hbare := by
    have hfirst := hx.changesFields s hbare
    rcases hs : Op.outcome x s with ⟨e | a, H⟩ <;> rw [hs] at hfirst <;> obtain ⟨s', rfl, hrun⟩ := run_of_outcome hs
    · rw [outcome_of_run (run_bind_of_error hrun)]
      exact hfirst
    · rw [outcome_of_run_eq (run_bind_of_ok hrun)]
      exact hfirst.trans ((hk a).changesFields s' (hfirst.bare hbare))

theorem tryRead (f : Heap → Except Error α) : Tame o (Op.tryRead f : Op G α) where
  outcome h := by simp only [Op.outcome, run_tryRead, h]
  changesFields s _ := .refl s.heap

theorem read (f : Heap → α) : Tame o (Op.read f : Op G α) := tryRead fun H => .ok (f H)

theorem pure (a : α) : Tame o (Pure.pure a : Op G α) := tryRead fun _ => .ok a

theorem throw (e : Error) : Tame o (MonadExcept.throw e : Op G α) := tryRead fun _ => .error e

theorem tryChange {f : Heap → Except Error (α × Heap)}
    (hf : ∀ (H H' : Heap) (a : α), H.Bare o → f H = .ok (a, H') → H.ChangesFields H') :
    Tame o (Op.tryChange f : Op G α) where
  outcome {s t} h := by
    cases hs : f s.heap with
    | error e =>
      rw [outcome_of_run (run_tryChange_of_error s hs), outcome_of_run (run_tryChange_of_error t (h ▸ hs)), h]
    | ok r => rw [outcome_of_run (run_tryChange_of_ok s hs), outcome_of_run (run_tryChange_of_ok t (h ▸ hs))]
  changesFields s hbare := by
    cases hs : f s.heap with
    | error e =>
      rw [outcome_of_run (run_tryChange_of_error s hs)]
      exact .refl s.heap
    | ok r =>
      rw [outcome_of_run (run_tryChange_of_ok s hs)]
      exact hf s.heap r.2 r.1 hbare hs

end Tame

/-- What makes new cells at most changes no fields. -/
theorem Grows.tame (h : x.Grows) : Tame o x where
  outcome {s t} hheap := by
    rcases hs : ExceptT.run x s with ⟨a, s'⟩
    rw [outcome_of_run (h.run_of_heap hheap hs).1, outcome_of_run hs]
  changesFields s _ := by
    rcases hs : ExceptT.run x s with ⟨a, s'⟩
    rw [outcome_of_run hs]
    exact (h.run_of_heap rfl hs).2.1.changesFields

/-! ### Loops -/

variable {ι : Type} {y : ι → Op G Unit} {is : List ι} {H : Heap}

theorem Tame.forM (hy : ∀ i, Tame o (y i)) (is : List ι) : Tame o (is.forM y) := by
  induction is with
  | nil => exact pure ()
  | cons i is ih => exact (hy i).bind fun _ => ih

/-- A recursion over a list is a loop if each of its steps is one of the loop, in all states that come up. -/
theorem outcome_loop {loop : List ι → Op G Unit} {step : ι → Op G Unit} (hnil : loop [] = pure ())
    (hcons : ∀ i is, loop (i :: is) = step i >>= fun _ => loop is) (hy : ∀ i, Tame o (y i))
    (hstep : ∀ i ∈ is, ∀ t : State G, t.heap.Bare o → H.ChangesFields t.heap → outcome (step i) t = outcome (y i) t)
    (hbare : s.heap.Bare o) (hlater : H.ChangesFields s.heap) : outcome (loop is) s = outcome (is.forM y) s := by
  induction is generalizing s with
  | nil => rw [hnil]; rfl
  | cons i is ih =>
    rw [hcons]
    have hfirst := hstep i List.mem_cons_self s hbare hlater
    refine outcome_bind_congr hfirst fun _ s' t' hs ht => ?_
    have hchanges := (hy i).changesFields s hbare
    rw [← hfirst, hs] at hchanges
    rw [(Tame.forM hy is).outcome ht]
    exact ih (fun j hj => hstep j (List.mem_cons_of_mem _ hj)) (hchanges.bare hbare) (hlater.trans hchanges)

/-- Steps that do nothing can be left out. -/
theorem outcome_forM_filter {p : ι → Bool} (hy : ∀ i, Tame o (y i))
    (hskip : ∀ i ∈ is, p i = false → ∀ t : State G, t.heap.Bare o → H.ChangesFields t.heap →
      outcome (y i) t = (.ok (), t.heap))
    (hbare : s.heap.Bare o) (hlater : H.ChangesFields s.heap) :
    outcome (is.forM y) s = outcome ((is.filter p).forM y) s := by
  induction is generalizing s with
  | nil => rfl
  | cons i is ih =>
    have hrest := fun j hj => hskip j (List.mem_cons_of_mem i hj)
    cases hp : p i with
    | true =>
      rw [List.filter_cons_of_pos hp]
      refine outcome_bind_congr rfl fun _ s' t' hs ht => ?_
      have hchanges := (hy i).changesFields s hbare
      rw [hs] at hchanges
      rw [(Tame.forM hy _).outcome ht]
      exact ih hrest (hchanges.bare hbare) (hlater.trans hchanges)
    | false =>
      rw [List.filter_cons_of_neg (Bool.eq_false_iff.mp hp)]
      obtain ⟨s', hheap, hrun⟩ := run_of_outcome (hskip i List.mem_cons_self hp s hbare hlater)
      have hstep : outcome ((i :: is).forM y) s = outcome (is.forM y) s' := outcome_of_run_eq (run_bind_of_ok hrun)
      rw [hstep, (Tame.forM hy is).outcome hheap]
      exact ih hrest hbare hlater

/-- A step that fails whenever it comes up makes the loop fail. -/
theorem outcome_forM_of_error {i : ι} (hy : ∀ i, Tame o (y i)) (hi : i ∈ is)
    (hfails : ∀ t : State G, t.heap.Bare o → H.ChangesFields t.heap → ∃ e H', outcome (y i) t = (.error e, H'))
    (hbare : s.heap.Bare o) (hlater : H.ChangesFields s.heap) : ∃ e H', outcome (is.forM y) s = (.error e, H') := by
  induction is generalizing s with
  | nil => cases hi
  | cons j is ih =>
    have hchanges := (hy j).changesFields s hbare
    rcases hfirst : outcome (y j) s with ⟨e | ⟨⟩, H'⟩ <;> rw [hfirst] at hchanges <;>
      obtain ⟨s', rfl, hrun⟩ := run_of_outcome hfirst
    · exact ⟨e, _, outcome_of_run (run_bind_of_error hrun)⟩
    · rcases List.mem_cons.mp hi with rfl | hi
      · obtain ⟨e, H', hfailed⟩ := hfails s hbare hlater
        cases hfirst.symm.trans hfailed
      · obtain ⟨e, H', hrest⟩ := ih hi (hchanges.bare hbare) (hlater.trans hchanges)
        exact ⟨e, H', (outcome_of_run_eq (run_bind_of_ok hrun)).trans hrest⟩

end Op

namespace Resolver

open Op

variable {G : ClassGraph} {r : Resolver} {s : State G} {o : Handle .object} {name : String} {v : Value} {m : Method}
  {c : ClassId}

/-- Without a getter there is at most an entry to be read. -/
theorem heap_readObject_of_none (hc : (s.heap.get o).cls = c)
    (hm : (G.descriptor? c name).bind Descriptor.read = none) :
    (ExceptT.run (r.readObject o name) s).2.heap = s.heap := by
  obtain ⟨s₁, hheap, hds⟩ := run_descriptors r c s
  rw [ClassGraph.descriptor?] at hm
  rw [readObject, classOf, run_bind_of_ok (Op.run_read s _), hc, run_bind_of_ok hds]
  simp only [hm]
  rw [run_bind_of_ok (Op.run_read s₁ _)]
  split <;> exact hheap

/-- Without a setter there is at most an entry to be written. -/
theorem heap_writeObject_of_none (hbare : s.heap.Bare o) (hc : (s.heap.get o).cls = c)
    (hm : (G.descriptor? c name).bind Descriptor.write = none) :
    (ExceptT.run (r.writeObject o name v) s).2.heap = s.heap := by
  obtain ⟨s₁, hheap, hds⟩ := run_descriptors r c s
  rw [ClassGraph.descriptor?] at hm
  rw [writeObject, classOf, run_bind_of_ok (Op.run_read s _), hc, run_bind_of_ok hds]
  simp only [hm]
  rw [run_bind_of_ok (Op.run_read s₁ _), hheap, storedEntry?_eq_none hbare.storage]
  exact hheap

theorem asks_descriptors (r : Resolver) (c : ClassId) : Asks (r.descriptors c : Op G (List Descriptor)) := .ask r _

theorem asks_keyedIfSound (r : Resolver) (c : ClassId) (name : String) :
    Asks (r.keyedIfSound c name : Op G (Option KeyedDescriptor)) := by
  refine .bind (.attempt (.bind (.ask r _) fun k? => ?_)) fun k? => ?_
  · split
    · exact .pure _
    · exact .throw _
  · split <;> exact .pure _

theorem asks_objectReadable (r : Resolver) (o : Handle .object) (g : Segment) :
    Asks (r.objectReadable o g : Op G Bool) := by
  unfold objectReadable
  refine .bind (.read _) fun isKeyed => .ite (.pure true) ?_
  refine .bind (.read _) fun c => .bind (asks_descriptors r c) fun ds => ?_
  split
  · split <;> exact .pure _
  · exact .bind (asks_keyedIfSound r c g.name) fun k? => .pure _

theorem asks_objectWriteable (r : Resolver) (o : Handle .object) (g : Segment) :
    Asks (r.objectWriteable o g : Op G Bool) := by
  unfold objectWriteable
  refine .bind (.read _) fun isKeyed => .ite (.pure true) ?_
  refine .bind (.read _) fun c => .bind (asks_descriptors r c) fun ds => ?_
  split
  · split <;> exact .pure _
  · exact .bind (asks_keyedIfSound r c g.name) fun k? => .pure _

theorem tame_call (args : List Value) : Tame o (call m o args : Op G Value) :=
  .tryChange fun _ H' v _ h => m.tame_invoke v H' h

theorem tame_callWith (leading : List Value) : Tame o (callWith m o name leading v : Op G Unit) := by
  unfold callWith
  have hcall (w : Value) : Tame o (call m o (leading ++ [w]) >>= fun _ => pure () : Op G Unit) :=
    .bind (tame_call _) fun _ => .pure ()
  split
  · exact .bind (.tryRead _) hcall
  · exact .bind (.pure v) hcall

theorem tame_descriptors (c : ClassId) : Tame o (r.descriptors c : Op G (List Descriptor)) where
  outcome {s t} h := by
    obtain ⟨s₁, hs, hrun⟩ := run_descriptors r c s
    obtain ⟨t₁, ht, hrun'⟩ := run_descriptors r c t
    rw [outcome_of_run hrun, outcome_of_run hrun', hs, ht, h]
  changesFields s _ := .refl s.heap

/-- The caches make no difference to a write to an object, and one without entries changes no others. -/
theorem tame_writeObject : Tame o (r.writeObject o name v : Op G Unit) := by
  unfold writeObject
  refine .bind (.read _) fun c => .bind (tame_descriptors c) fun ds => ?_
  dsimp only
  split
  · exact tame_callWith []
  · refine .bind (.read _) fun stored => ?_
    split
    · refine .tryChange fun H H' _ hbare h => ?_
      simp only [Heap.setEntry, Heap.entries, Heap.entries?, hbare.storage] at h
      cases h
    · exact .throw _

/-! ### Failures that are ignored -/

variable {x : Op G Unit} {s' : State G}

theorem run_unlessMissing (h : ExceptT.run x s = (.ok (), s')) : ExceptT.run (unlessMissing x) s = (.ok (), s') := by
  rw [unlessMissing, run_attempt_bind h]
  rfl

theorem outcome_unlessMissing (x : Op G Unit) (s : State G) : outcome (unlessMissing x) s =
    (match (outcome x s).1 with
      | .error e => if e.isMissing then .ok () else .error e
      | .ok () => .ok (), (outcome x s).2) := by
  rcases hx : outcome x s with ⟨e | ⟨⟩, H⟩ <;> obtain ⟨s', rfl, hrun⟩ := run_of_outcome hx <;>
    rw [unlessMissing, outcome_of_run_eq (run_attempt_bind hrun)]
  · dsimp only
    split <;> rfl
  · rfl

theorem Tame.unlessMissing (hx : Tame o x) : Tame o (unlessMissing x) where
  outcome h := by rw [outcome_unlessMissing, outcome_unlessMissing, hx.outcome h]
  changesFields s hbare := by
    rw [outcome_unlessMissing]
    exact hx.changesFields s hbare

end Resolver

end ObjectGraph
