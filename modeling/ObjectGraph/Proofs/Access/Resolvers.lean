import ObjectGraph.Proofs.Object.Outcome
import ObjectGraph.Proofs.Record.Growing

/-!
Which resolver is asked makes no difference.  Caches hold nothing but what is so, so that two resolvers, with whatever
they remember, read and write alike: the answer and the heap after it are the same.  Along the way a record may change
what it stores, but stays of its kind, with the same schema, map or object.
-/

namespace ObjectGraph

/-- A record without the values that it has of its own. -/
def Record.frame : Record → Record
  | .fixed S _ => .fixed S .empty
  | .growing S (.own _) => .growing S (.own .empty)
  | record => record

namespace Heap
variable {H H' K K' : Heap}

/-- Whether a heap is a later one in which all records are the same, but for the values that they have of their own. -/
structure KeepsFrames (H H' : Heap) : Prop where
  has : ∀ {h : Handle .record}, H.Has h → H'.Has h
  frame : ∀ {h : Handle .record}, H.Has h → (H'.get h).frame = (H.get h).frame

/-- Whether a growing record with values of its own stands in its cell, if that was there before. -/
def Stands (H : Heap) (g : GrowingRecord) : Prop :=
  g.shared = none → H.Has g.cell → (H.get g.cell).frame = .growing g.schema (.own .empty)

namespace KeepsFrames

theorem refl (H : Heap) : H.KeepsFrames H := ⟨id, fun _ => rfl⟩

theorem trans (h : H.KeepsFrames K) (h' : K.KeepsFrames K') : H.KeepsFrames K' where
  has hj := h'.has (h.has hj)
  frame hj := (h'.frame (h.has hj)).trans (h.frame hj)

theorem spared (h : H.KeepsFrames K) (hs : K.SparesRecords K') : H.KeepsFrames K' :=
  h.trans ⟨hs.types.has, fun hj => congrArg Record.frame (hs.record hj)⟩

theorem adds (h : H.KeepsFrames K) (hadds : K.OnlyAdds K') : H.KeepsFrames K' := h.spared hadds.sparesRecords

theorem changesFields (h : H.KeepsFrames K) (hf : K.ChangesFields K') : H.KeepsFrames K' :=
  h.trans ⟨hf.has, fun hj => congrArg Record.frame (hf.same (k := .record) nofun nofun hj)⟩

theorem set {k : CellKind} (h : H.KeepsFrames K) (j : Handle k) (a : Cell k) (hk : k ≠ .record) :
    H.KeepsFrames (K.set j a) :=
  h.trans ⟨has_set, fun {i} _ => congrArg Record.frame (K.get_set_of_kind_ne (j := i) a hk.symm)⟩

theorem setRecord (h : H.KeepsFrames K) {j : Handle .record} {a : Record}
    (ha : H.Has j → a.frame = (H.get j).frame) : H.KeepsFrames (K.set j a) where
  has hi := has_set (h.has hi)
  frame {i} hi := by
    by_cases hij : i = j
    · subst hij
      rw [K.get_set_self (k := .record)]
      exact ha hi
    · rw [K.get_set_of_ne (k := .record) a hij]
      exact h.frame hi

/-- Whoever is shown by an adapter stays so. -/
theorem adapter {w : Handle .record} {S : Handle .schema} {o : Handle .object} {r : Resolver} (h : H.KeepsFrames K)
    (hcell : H.get w = .adapter S o r) : K.get w = .adapter S o r := by
  have hhas : H.Has w := by
    by_contra hnot
    rw [get_of_not_has hnot] at hcell
    cases hcell
  have hframe := h.frame hhas
  rw [hcell] at hframe
  revert hframe
  rcases K.get w with ⟨_, _⟩ | ⟨_, _ | _⟩ | ⟨_, _, _⟩ <;> intro hframe <;> cases hframe
  rfl

theorem setValues {g : GrowingRecord} (h : H.KeepsFrames K) (hg : H.Stands g) (d : Dict Value) :
    H.KeepsFrames (g.setValues d K) := by
  unfold GrowingRecord.setValues
  cases hshared : g.shared with
  | none => exact h.setRecord fun hj => (hg hshared hj).symm
  | some m => exact h.set m d nofun

end KeepsFrames

theorem stands_ofStore (h : H.KeepsFrames K) {j : Handle .record} {S : Handle .schema} {store : Store}
    (hcell : K.get j = .growing S store) : H.Stands (GrowingRecord.ofStore j S store) := by
  cases store with
  | shared m => exact nofun
  | own d => exact fun _ hj => (h.frame hj).symm.trans (congrArg Record.frame hcell)

end Heap

namespace Op
variable {G : ClassGraph} {α β : Type} {H : Heap} {x y : Op G α} {k l : α → Op G β}

/-- Whether two operations have the same outcome wherever the heap is the same and the records of a heap have kept
their frames, and keep them so.  The caches may be any. -/
def Coincide (H : Heap) (x y : Op G α) : Prop := ∀ s t : State G, t.heap = s.heap → H.KeepsFrames s.heap →
  outcome x s = outcome y t ∧ H.KeepsFrames (outcome x s).2

namespace Coincide

theorem bind (hx : Coincide H x y) (hk : ∀ a, Coincide H (k a) (l a)) : Coincide H (x >>= k) (y >>= l) := by
  intro s t hheap hkeeps
  obtain ⟨hsame, hkept⟩ := hx s t hheap hkeeps
  rcases hs : outcome x s with ⟨e | a, K⟩ <;> rw [hs] at hsame hkept <;>
    obtain ⟨s', rfl, hrun⟩ := run_of_outcome hs <;> obtain ⟨t', ht', hrun'⟩ := run_of_outcome hsame.symm
  · rw [outcome_of_run (run_bind_of_error hrun), outcome_of_run (run_bind_of_error hrun'), ht']
    exact ⟨rfl, hkept⟩
  · rw [outcome_of_run_eq (run_bind_of_ok hrun), outcome_of_run_eq (run_bind_of_ok hrun')]
    exact hk a s' t' ht' hkept

/-- What is read is known in what follows. -/
theorem read_bind {f : Heap → α} (hk : ∀ K, H.KeepsFrames K → Coincide H (k (f K)) (l (f K))) :
    Coincide H (Op.read f >>= k) (Op.read f >>= l) := by
  intro s t hheap hkeeps
  rw [outcome_of_run_eq (run_bind_of_ok (run_read s f)), outcome_of_run_eq (run_bind_of_ok (run_read t f)), hheap]
  exact hk s.heap hkeeps s t hheap hkeeps

theorem tryChange {f : Heap → Except Error (α × Heap)}
    (hf : ∀ {K K' a}, H.KeepsFrames K → f K = .ok (a, K') → H.KeepsFrames K') :
    Coincide H (Op.tryChange f : Op G α) (Op.tryChange f) := by
  intro s t hheap hkeeps
  cases hs : f s.heap with
  | error e =>
    rw [outcome_of_run (run_tryChange_of_error s hs), outcome_of_run (run_tryChange_of_error t (hheap ▸ hs)), hheap]
    exact ⟨rfl, hkeeps⟩
  | ok r =>
    rw [outcome_of_run (run_tryChange_of_ok s hs), outcome_of_run (run_tryChange_of_ok t (hheap ▸ hs))]
    exact ⟨rfl, hf hkeeps hs⟩

theorem tryRead (f : Heap → Except Error α) : Coincide H (Op.tryRead f : Op G α) (Op.tryRead f) := by
  intro s t hheap hkeeps
  simp only [outcome, run_tryRead, hheap]
  exact ⟨trivial, hkeeps⟩

theorem read (f : Heap → α) : Coincide H (Op.read f : Op G α) (Op.read f) := tryRead fun K => .ok (f K)

theorem pure (a : α) : Coincide H (Pure.pure a : Op G α) (Pure.pure a) := tryRead fun _ => .ok a

theorem throw (e : Error) : Coincide H (MonadExcept.throw e : Op G α) (MonadExcept.throw e) := tryRead fun _ => .error e

theorem change {f : Heap → α × Heap} (hf : ∀ {K}, H.KeepsFrames K → H.KeepsFrames (f K).2) :
    Coincide H (Op.change f : Op G α) (Op.change f) := by
  refine tryChange (f := fun K => .ok (f K)) fun {K K' a} hK h => ?_
  have hK' : (f K).2 = K' := congrArg Prod.snd (Except.ok.inj h)
  exact hK' ▸ hf hK

theorem write {f : Heap → Heap} (hf : ∀ {K}, H.KeepsFrames K → H.KeepsFrames (f K)) :
    Coincide H (Op.write f : Op G Unit) (Op.write f) := change hf

theorem tryWrite {f : Heap → Except Error Heap} (hf : ∀ {K K'}, H.KeepsFrames K → f K = .ok K' → H.KeepsFrames K') :
    Coincide H (Op.tryWrite f : Op G Unit) (Op.tryWrite f) := by
  refine tryChange fun {K K'} _ hK h => ?_
  cases hf' : f K with
  | error e =>
    rw [hf'] at h
    cases h
  | ok K'' =>
    rw [hf'] at h
    cases h
    exact hf hK hf'

/-- What writes into another container changes no record. -/
theorem tryWrite_spares {f : Heap → Except Error Heap} (hf : ∀ {K K' : Heap}, f K = .ok K' → K.SparesRecords K') :
    Coincide H (Op.tryWrite f : Op G Unit) (Op.tryWrite f) := tryWrite fun hK h => hK.spared (hf h)

theorem ite {c : Prop} [Decidable c] {x' y' : Op G α} (h : Coincide H x y) (h' : Coincide H x' y') :
    Coincide H (if c then x else x') (if c then y else y') := by
  split
  · exact h
  · exact h'

theorem attempt (h : Coincide H x y) : Coincide H (Op.attempt x) (Op.attempt y) := by
  intro s t hheap hkeeps
  obtain ⟨hsame, hkept⟩ := h s t hheap hkeeps
  obtain ⟨hanswer, hheap'⟩ := Prod.mk.inj hsame
  refine ⟨?_, hkept⟩
  simp only [outcome, run_attempt, hanswer, hheap']

/-- What runs as other operations do coincides as they do. -/
theorem of_run_eq {x' y' : Op G α} (hx : ∀ s, ExceptT.run x s = ExceptT.run x' s)
    (hy : ∀ s, ExceptT.run y s = ExceptT.run y' s) (h : Coincide H x' y') : Coincide H x y := by
  intro s t hheap hkeeps
  rw [outcome_of_run_eq (hx s), outcome_of_run_eq (hy t)]
  exact h s t hheap hkeeps

theorem of_grows (h : x.Grows) : Coincide H x x := by
  intro s t hheap hkeeps
  rcases hs : ExceptT.run x s with ⟨a, s'⟩
  rw [outcome_of_run (h.run_of_heap hheap hs).1, outcome_of_run hs]
  exact ⟨rfl, hkeeps.adds (h.run_of_heap rfl hs).2.1⟩

end Coincide

end Op

open Op

namespace Heap
variable {G : ClassGraph} {K K' : Heap} {name key : String} {i : Nat} {t : Ty} {v w : Value}

theorem sparesRecords_setElementOf (h : K.setElementOf G name i w t v = .ok K') : K.SparesRecords K' := by
  obtain ⟨_, -, hset⟩ := bind_eq_ok.mp h
  exact sparesRecords_setElement hset

theorem sparesRecords_setEntryOf (h : K.setEntryOf name key w v = .ok K') : K.SparesRecords K' := by
  obtain ⟨_, -, hset⟩ := bind_eq_ok.mp h
  exact sparesRecords_setEntry hset

end Heap

/-! ### Objects -/

namespace Resolver
variable {G : ClassGraph} {H : Heap} (r r' : Resolver) (o : Handle .object) (name key : String) (i : Nat) (v : Value)

theorem coincide_descriptors (c : ClassId) :
    Coincide H (r.descriptors c : Op G (List Descriptor)) (r'.descriptors c) := by
  intro s t hheap hkeeps
  obtain ⟨s₁, hs, hrun⟩ := run_descriptors r c s
  obtain ⟨t₁, ht, hrun'⟩ := run_descriptors r' c t
  rw [outcome_of_run hrun, outcome_of_run hrun', hs, ht, hheap]
  exact ⟨rfl, hkeeps⟩

theorem coincide_keyed (c : ClassId) :
    Coincide H (r.keyed c name : Op G (Option KeyedDescriptor)) (r'.keyed c name) := by
  intro s t hheap hkeeps
  obtain ⟨s₁, hs, hrun⟩ := run_keyed_eq r c name s
  obtain ⟨t₁, ht, hrun'⟩ := run_keyed_eq r' c name t
  rw [outcome_of_run hrun, outcome_of_run hrun', hs, ht, hheap]
  exact ⟨rfl, hkeeps⟩

theorem coincide_call (m : Method) (args : List Value) :
    Coincide H (call m o args : Op G Value) (call m o args) :=
  .tryChange fun hK h => hK.changesFields (m.tame_invoke _ _ h)

theorem coincide_callWith (m : Method) (leading : List Value) :
    Coincide H (callWith m o name leading v : Op G Unit) (callWith m o name leading v) := by
  unfold callWith
  have hcall (w : Value) : Coincide H (call m o (leading ++ [w]) >>= fun _ => pure () : Op G Unit)
      (call m o (leading ++ [w]) >>= fun _ => pure ()) := .bind (coincide_call o m _) fun _ => .pure ()
  split
  · exact .bind (.tryRead _) hcall
  · exact .bind (.pure v) hcall

theorem coincide_readObject : Coincide H (r.readObject o name : Op G Value) (r'.readObject o name) := by
  unfold readObject
  refine .bind (.read _) fun c => .bind (coincide_descriptors r r' c) fun ds => ?_
  dsimp only
  split
  · exact coincide_call o _ _
  · refine .bind (.read _) fun v => ?_
    split
    · exact .pure _
    · exact .throw _

theorem coincide_readObjectElement :
    Coincide H (r.readObjectElement o name i : Op G Value) (r'.readObjectElement o name i) := by
  unfold readObjectElement
  refine .bind (.read _) fun c => .ite (.throw _) (.bind (coincide_descriptors r r' c) fun ds => ?_)
  split
  · split
    · exact .bind (.tryRead _) fun j => coincide_call o _ _
    · exact .bind (coincide_call o _ _) fun w => .tryRead _
    · exact .throw _
  · refine .bind (coincide_keyed r r' name c) fun k => .ite (.throw _) (.bind (.read _) fun w => ?_)
    split
    · exact .tryRead _
    · exact .throw _

theorem coincide_readObjectEntry :
    Coincide H (r.readObjectEntry o name key : Op G Value) (r'.readObjectEntry o name key) := by
  unfold readObjectEntry
  refine .bind (.read _) fun c => .ite (.tryRead _) (.bind (coincide_descriptors r r' c) fun ds => ?_)
  dsimp only
  split
  · exact .bind (coincide_call o _ _) fun w => .tryRead _
  · refine .bind (coincide_keyed r r' name c) fun k => ?_
    split
    · split
      · exact coincide_call o _ _
      · exact .throw _
    · refine .bind (.read _) fun w => ?_
      split
      · exact .tryRead _
      · exact .throw _

theorem coincide_writeObject : Coincide H (r.writeObject o name v : Op G Unit) (r'.writeObject o name v) := by
  unfold writeObject
  refine .bind (.read _) fun c => .bind (coincide_descriptors r r' c) fun ds => ?_
  dsimp only
  split
  · exact coincide_callWith o name v _ _
  · exact .bind (.read _) fun w => .ite (.tryWrite_spares Heap.sparesRecords_setEntry) (.throw _)

theorem coincide_writeObjectElement :
    Coincide H (r.writeObjectElement o name i v : Op G Unit) (r'.writeObjectElement o name i v) := by
  unfold writeObjectElement
  refine .bind (.read _) fun c => .ite (.throw _) (.bind (coincide_descriptors r r' c) fun ds => ?_)
  split
  · split
    · exact .bind (.tryRead _) fun j => coincide_callWith o name v _ _
    · exact .bind (coincide_call o _ _) fun w => .tryWrite_spares Heap.sparesRecords_setElementOf
    · exact .throw _
  · refine .bind (coincide_keyed r r' name c) fun k => .ite (.throw _) (.bind (.read _) fun w => ?_)
    split
    · exact .tryWrite_spares Heap.sparesRecords_setElementOf
    · exact .throw _

theorem coincide_writeObjectEntry :
    Coincide H (r.writeObjectEntry o name key v : Op G Unit) (r'.writeObjectEntry o name key v) := by
  unfold writeObjectEntry
  refine .bind (.read _) fun c =>
    .ite (.tryWrite_spares Heap.sparesRecords_setEntry) (.bind (coincide_descriptors r r' c) fun ds => ?_)
  dsimp only
  split
  · exact .bind (coincide_call o _ _) fun w => .tryWrite_spares Heap.sparesRecords_setEntryOf
  · refine .bind (coincide_keyed r r' name c) fun k => ?_
    split
    · split
      · exact coincide_callWith o name v _ _
      · exact .throw _
    · refine .bind (.read _) fun w => ?_
      split
      · exact .tryWrite_spares Heap.sparesRecords_setEntryOf
      · exact .throw _

end Resolver

/-! ### Growing records -/

namespace GrowingRecord
variable {G : ClassGraph} {H : Heap} {g : GrowingRecord}

theorem coincide_declare (p : Property) : Coincide H (g.declare p : Op G Unit) (g.declare p) := by
  refine .tryWrite fun {K K'} hK h => ?_
  cases hS : (K.get g.schema).add p with
  | error e =>
    rw [hS] at h
    cases h
  | ok S =>
    rw [hS] at h
    cases h
    exact hK.set g.schema S nofun

section Stands
variable (hg : H.Stands g) (name key : String) (i : Nat) (v : Value)
include hg

theorem keepsFrames_store {K : Heap} (hK : H.KeepsFrames K) : H.KeepsFrames (g.store name v K) := hK.setValues hg _

theorem coincide_read : Coincide H (g.read name : Op G Value) (g.read name) := by
  refine .change fun {K} hK => ?_
  dsimp only
  split
  · split
    · exact hK
    · rename_i p hp
      have hmade := hK.adds (G.onlyAdds_defaultValue p.ty K).1
      dsimp only
      split
      · exact hmade
      · exact keepsFrames_store hg name _ hmade
  · exact hK

theorem coincide_write : Coincide H (g.write name v : Op G Unit) (g.write name v) := by
  unfold write
  have hstored (p : Property) : Coincide H
      (Op.tryRead (fun K => K.coerce G p.ty name v) >>= fun w => Op.write (g.store name w) : Op G Unit)
      (Op.tryRead (fun K => K.coerce G p.ty name v) >>= fun w => Op.write (g.store name w)) :=
    .bind (.tryRead _) fun w => .write (keepsFrames_store hg name w)
  refine .bind (.read _) fun p? => ?_
  dsimp only
  split
  · exact .bind (.pure _) hstored
  · exact .bind (.read _) fun t => .bind (coincide_declare _) fun _ => .bind (.pure _) hstored

theorem coincide_container {blank : Heap → Value × Heap} (hblank : ∀ K : Heap, K.OnlyAdds (blank K).2) :
    Coincide H (g.container name blank : Op G (Property × Value)) (g.container name blank) := by
  have hmade : Coincide H (Op.change blank : Op G Value) (Op.change blank) := .change fun hK => hK.adds (hblank _)
  refine .bind (.read _) fun p? => .ite (.bind hmade fun w => .bind (coincide_write hg name w) fun _ => ?_) ?_
  -- With and without a declaration, the rest is the same.
  all_goals
    refine .bind (coincide_read hg name) fun w =>
      .ite (.bind hmade fun w => .bind (coincide_write hg name w) fun _ => ?_) ?_
    all_goals
      refine .bind (.read _) fun p? => ?_
      split
      · exact .pure _
      · exact .bind (.read _) fun _ => .throw _

theorem coincide_lengthened : Coincide H (g.lengthened name i : Op G (Property × Value)) (g.lengthened name i) := by
  unfold lengthened
  refine .bind (coincide_container hg name fun K => K.onlyAdds_alloc (k := .list) []) fun pv => ?_
  dsimp only
  split
  · refine .bind (.write fun {K} hK => ?_) fun _ => .pure _
    split
    · exact hK.set (k := .list) _ _ nofun
    · exact hK
  · refine .bind (.read _) fun a => .ite (.pure _) (.bind (.change fun {K} hK => ?_) fun w => .pure _)
    dsimp only
    have hgrown := hK.adds (a.onlyAdds_grown G (i + 1) K)
    exact keepsFrames_store hg name _ (hgrown.adds (Heap.onlyAdds_alloc (k := .array) _ (a.grown G (i + 1) K).1))
  · exact .throw _

theorem coincide_readElement : Coincide H (g.readElement name i : Op G Value) (g.readElement name i) :=
  .bind (coincide_lengthened hg name i) fun _ => .tryRead _

theorem coincide_writeElement : Coincide H (g.writeElement name i v : Op G Unit) (g.writeElement name i v) :=
  .bind (coincide_lengthened hg name i) fun _ => .tryWrite_spares Heap.sparesRecords_setElement

theorem coincide_keyed : Coincide H (g.keyed name : Op G (Property × Value)) (g.keyed name) :=
  .bind (coincide_container hg name fun K => K.onlyAdds_alloc (k := .map) .empty) fun _ =>
    .bind (.read _) fun _ => .ite (.pure _) (.throw _)

theorem coincide_readEntry : Coincide H (g.readEntry name key : Op G Value) (g.readEntry name key) :=
  .bind (coincide_keyed hg name) fun _ => .tryRead _

theorem coincide_writeEntry : Coincide H (g.writeEntry name key v : Op G Unit) (g.writeEntry name key v) :=
  .bind (coincide_keyed hg name) fun _ => .bind (.tryRead _) fun _ => .tryWrite_spares Heap.sparesRecords_setEntry

end Stands

end GrowingRecord

/-! ### Records -/

namespace Record
variable {G : ClassGraph} {H : Heap} (h : Handle .record) (name key : String) (i : Nat) (v : Value)

open Resolver Heap

theorem coincide_read : Coincide H (read h name : Op G Value) (read h name) := by
  unfold read
  refine .read_bind fun K hK => ?_
  split
  · exact .tryRead _
  · exact GrowingRecord.coincide_read (stands_ofStore hK ‹_›) name
  · exact .bind (.tryRead _) fun _ => coincide_readObject _ _ _ name

theorem coincide_readElement : Coincide H (readElement h name i : Op G Value) (readElement h name i) := by
  unfold readElement
  refine .read_bind fun K hK => ?_
  split
  · exact .tryRead _
  · exact GrowingRecord.coincide_readElement (stands_ofStore hK ‹_›) name i
  · exact coincide_readObjectElement _ _ _ name i

theorem coincide_readEntry : Coincide H (readEntry h name key : Op G Value) (readEntry h name key) := by
  unfold readEntry
  refine .read_bind fun K hK => ?_
  split
  · exact .tryRead _
  · exact GrowingRecord.coincide_readEntry (stands_ofStore hK ‹_›) name key
  · exact coincide_readObjectEntry _ _ _ name key

theorem coincide_write : Coincide H (write h name v : Op G Unit) (write h name v) := by
  unfold write
  refine .read_bind fun K hK => ?_
  split
  · rename_i S values hcell
    refine .tryWrite fun {L L'} hL hwrite => ?_
    obtain ⟨d, -, hset⟩ := bind_eq_ok.mp hwrite
    cases hset
    exact hL.setRecord fun hj => (congrArg Record.frame hcell).symm.trans (hK.frame hj)
  · exact GrowingRecord.coincide_write (stands_ofStore hK ‹_›) name v
  · exact .bind (.tryRead _) fun _ => coincide_writeObject _ _ _ name v

theorem coincide_writeElement : Coincide H (writeElement h name i v : Op G Unit) (writeElement h name i v) := by
  unfold writeElement
  refine .read_bind fun K hK => ?_
  split
  · refine .tryWrite_spares fun hwrite => ?_
    obtain ⟨p, -, hrest⟩ := bind_eq_ok.mp hwrite
    obtain ⟨c, -, hset⟩ := bind_eq_ok.mp hrest
    exact sparesRecords_setElementOf hset
  · exact GrowingRecord.coincide_writeElement (stands_ofStore hK ‹_›) name i v
  · exact coincide_writeObjectElement _ _ _ name i v

theorem coincide_writeEntry : Coincide H (writeEntry h name key v : Op G Unit) (writeEntry h name key v) := by
  unfold writeEntry
  refine .read_bind fun K hK => ?_
  split
  · refine .tryWrite_spares fun hwrite => ?_
    obtain ⟨p, -, hrest⟩ := bind_eq_ok.mp hwrite
    obtain ⟨w, -, hrest⟩ := bind_eq_ok.mp hrest
    obtain ⟨c, -, hset⟩ := bind_eq_ok.mp hrest
    exact sparesRecords_setEntryOf hset
  · exact GrowingRecord.coincide_writeEntry (stands_ofStore hK ‹_›) name key v
  · exact coincide_writeObjectEntry _ _ _ name key v

end Record

/-! ### Segments and paths -/

namespace Resolver
variable {G : ClassGraph} {H : Heap} (r r' : Resolver) (t v : Value) (name key : String) (i : Nat) (g : Segment)

theorem coincide_unknown {α : Type} : Coincide H (unknown name t : Op G α) (unknown name t) :=
  .bind (.read _) fun _ => .throw _

theorem coincide_readName : Coincide H (r.readName t name : Op G Value) (r'.readName t name) := by
  cases t with
  | null => exact .throw _
  | record h => exact Record.coincide_read h name
  | map m => exact .read _
  | object o => exact coincide_readObject r r' o name
  | _ => exact coincide_unknown _ name

theorem coincide_readElement : Coincide H (r.readElement t name i : Op G Value) (r'.readElement t name i) := by
  cases t with
  | null => exact .throw _
  | record h => exact Record.coincide_readElement h name i
  | object o => exact coincide_readObjectElement r r' o name i
  | map m => exact .ite (.tryRead _) (.tryRead _)
  | _ => exact .ite (.tryRead _) (coincide_unknown _ name)

theorem coincide_readEntry : Coincide H (r.readEntry t name key : Op G Value) (r'.readEntry t name key) := by
  cases t with
  | null => exact .throw _
  | record h => exact Record.coincide_readEntry h name key
  | object o => exact coincide_readObjectEntry r r' o name key
  | map m => exact .ite (.tryRead _) (.tryRead _)
  | _ => exact .ite (.tryRead _) (coincide_unknown _ name)

theorem coincide_writeName : Coincide H (r.writeName t name v : Op G Unit) (r'.writeName t name v) := by
  cases t with
  | null => exact .throw _
  | record h => exact Record.coincide_write h name v
  | map m => exact .write fun hK => hK.set m _ nofun
  | object o => exact coincide_writeObject r r' o name v
  | _ => exact coincide_unknown _ name

theorem coincide_writeElement : Coincide H (r.writeElement t name i v : Op G Unit) (r'.writeElement t name i v) := by
  have hitself (u : Value) : Coincide H
      (Op.tryWrite fun K => K.setElement G (K.targetName G u) i v .any u : Op G Unit) (Op.tryWrite _) :=
    .tryWrite_spares Heap.sparesRecords_setElement
  cases t with
  | null => exact .throw _
  | record h => exact Record.coincide_writeElement h name i v
  | object o => exact coincide_writeObjectElement r r' o name i v
  | map m => exact .ite (hitself _) (.tryWrite_spares Heap.sparesRecords_setElementOf)
  | _ => exact .ite (hitself _) (coincide_unknown _ name)

theorem coincide_writeEntry : Coincide H (r.writeEntry t name key v : Op G Unit) (r'.writeEntry t name key v) := by
  have hitself (u : Value) : Coincide H
      (Op.tryWrite fun K => K.setEntry (K.targetName G u) key v u : Op G Unit) (Op.tryWrite _) :=
    .tryWrite_spares Heap.sparesRecords_setEntry
  cases t with
  | null => exact .throw _
  | record h => exact Record.coincide_writeEntry h name key v
  | object o => exact coincide_writeObjectEntry r r' o name key v
  | map m => exact .ite (hitself _) (.tryWrite_spares Heap.sparesRecords_setEntryOf)
  | _ => exact .ite (hitself _) (coincide_unknown _ name)

theorem coincide_readSegment : Coincide H (r.readSegment t g : Op G Value) (r'.readSegment t g) := by
  unfold readSegment
  split
  · exact coincide_readName r r' t _
  · exact coincide_readElement r r' t _ _
  · exact coincide_readEntry r r' t _ _

theorem coincide_writeSegment : Coincide H (r.writeSegment t g v : Op G Unit) (r'.writeSegment t g v) := by
  unfold writeSegment
  split
  · exact coincide_writeName r r' t v _
  · exact coincide_writeElement r r' t v _ _
  · exact coincide_writeEntry r r' t v _ _

variable {t} in
theorem coincide_walk (full : String) (passed gs : List Segment) :
    Coincide H (r.walk full passed t gs : Op G Value) (r'.walk full passed t gs) := by
  induction gs generalizing passed t with
  | nil => exact .pure t
  | cons g gs ih =>
    have hnext : Coincide H (r.readSegment t g >>= fun u => r.walk full (passed ++ [g]) u gs : Op G Value)
        (r'.readSegment t g >>= fun u => r'.walk full (passed ++ [g]) u gs) :=
      .bind (coincide_readSegment r r' t g) fun _ => ih _
    rw [walk, walk]
    exact .ite (.bind (.throw _) fun _ => hnext) hnext

/-! ### Questions -/

theorem coincide_keyedIfSound (c : ClassId) :
    Coincide H (r.keyedIfSound c name : Op G (Option KeyedDescriptor)) (r'.keyedIfSound c name) := by
  unfold keyedIfSound
  refine .bind (.attempt (coincide_keyed r r' name c)) fun k? => ?_
  split <;> exact .pure _

theorem coincide_typeByValue : Coincide H (r.typeByValue t g : Op G (Option Ty)) (r'.typeByValue t g) := by
  unfold typeByValue
  refine .bind (.attempt (coincide_readSegment r r' t g)) fun u? => ?_
  split
  · exact .ite (.pure _) (.read _)
  · exact .pure _

theorem coincide_objectTy (o : Handle .object) : Coincide H (r.objectTy o g : Op G (Option Ty)) (r'.objectTy o g) := by
  unfold objectTy
  refine .bind (.read _) fun c => .bind (coincide_descriptors r r' c) fun ds => ?_
  split
  · split <;> exact .pure _
  · refine .bind (coincide_keyed r r' g.name c) fun k? => ?_
    split
    · exact .pure _
    · exact coincide_typeByValue r r' _ g

theorem coincide_segmentTy : Coincide H (r.segmentTy t g : Op G (Option Ty)) (r'.segmentTy t g) := by
  cases t with
  | record h => exact .bind (.read _) fun p? => .pure _
  | map m => exact coincide_typeByValue r r' _ g
  | object o => exact coincide_objectTy r r' g o
  | _ => exact .pure _

theorem coincide_objectReadable (o : Handle .object) :
    Coincide H (r.objectReadable o g : Op G Bool) (r'.objectReadable o g) := by
  unfold objectReadable
  refine .bind (.read _) fun isKeyed => .ite (.pure _) (.bind (.read _) fun c =>
    .bind (coincide_descriptors r r' c) fun ds => ?_)
  split
  · split <;> exact .pure _
  · exact .bind (coincide_keyedIfSound r r' g.name c) fun k? => .pure _

theorem coincide_objectWriteable (o : Handle .object) :
    Coincide H (r.objectWriteable o g : Op G Bool) (r'.objectWriteable o g) := by
  unfold objectWriteable
  refine .bind (.read _) fun isKeyed => .ite (.pure _) (.bind (.read _) fun c =>
    .bind (coincide_descriptors r r' c) fun ds => ?_)
  split
  · split <;> exact .pure _
  · exact .bind (coincide_keyedIfSound r r' g.name c) fun k? => .pure _

theorem coincide_recordReadable (h : Handle .record) :
    Coincide H (recordReadable h name : Op G Bool) (recordReadable h name) := by
  unfold recordReadable
  refine .bind (.read _) fun record => ?_
  split
  · exact .read _
  · exact .pure _
  · exact .ite (.pure _) (coincide_objectReadable _ _ _ _)

theorem coincide_recordWriteable (h : Handle .record) :
    Coincide H (recordWriteable h name : Op G Bool) (recordWriteable h name) := by
  unfold recordWriteable
  refine .bind (.read _) fun record => ?_
  split
  · exact .read _
  · exact .read _
  · exact .ite (.pure _) (coincide_objectWriteable _ _ _ _)

theorem coincide_segmentReadable : Coincide H (r.segmentReadable t g : Op G Bool) (r'.segmentReadable t g) := by
  cases t with
  | record h => exact coincide_recordReadable g.name h
  | map m => exact .pure _
  | object o => exact coincide_objectReadable r r' g o
  | _ => exact .pure _

theorem coincide_segmentWriteable : Coincide H (r.segmentWriteable t g : Op G Bool) (r'.segmentWriteable t g) := by
  cases t with
  | record h => exact coincide_recordWriteable g.name h
  | map m => exact .pure _
  | object o => exact coincide_objectWriteable r r' g o
  | _ => exact .pure _

end Resolver

end ObjectGraph
