import ObjectGraph.Object.Access
import ObjectGraph.Proofs.Class.Cache
import ObjectGraph.Proofs.Object.Failures
import ObjectGraph.Proofs.Value.Fitting

/-!
Reading and writing a property of an object.  The caches of a resolver make no difference to which accessor is
called; whether one is called at all, and which, is a matter of the class.
-/

namespace ObjectGraph

namespace ClassGraph
variable (G : ClassGraph)

/-- The property of a class with a name. -/
def descriptor? (c : ClassId) (name : String) : Option Descriptor := findDescriptor? (G.descriptors c) name

/-- The keyed property of a class, if its accessors agree. -/
def soundKeyed? (c : ClassId) (name : String) : Option KeyedDescriptor := (G.keyed? c name).toOption.join

/-- The getter of a keyed property. -/
def keyedReader? (c : ClassId) (name : String) : Option Method := (G.soundKeyed? c name).bind KeyedDescriptor.read

/-- The setter of a keyed property. -/
def keyedWriter? (c : ClassId) (name : String) : Option Method := (G.soundKeyed? c name).bind KeyedDescriptor.write

variable {G} {c : ClassId} {name : String} {k : KeyedDescriptor}

theorem soundKeyed?_eq_some : G.soundKeyed? c name = some k ↔ G.keyed? c name = .ok (some k) := by
  rw [soundKeyed?]
  cases G.keyed? c name with
  | error e => exact ⟨nofun, nofun⟩
  | ok k? => cases k? <;> simp [Except.toOption]

theorem isEmpty_eq_false_of_keyed? (h : G.keyed? c name = .ok (some k)) : name.isEmpty = false := by
  cases hname : name.isEmpty with
  | false => rfl
  | true =>
    rw [keyed?, if_pos hname] at h
    cases h

end ClassGraph

namespace Resolver
variable {G : ClassGraph} {r : Resolver} {s : State G} {o : Handle .object} {name key : String} {i : Nat} {v : Value}
  {c : ClassId} {m : Method} {α : Type}

theorem isMissing_unreadable (known : Bool) (c : ClassId) (name : String) :
    (unreadable (G := G) known c name).isMissing = true := by
  cases known <;> rfl

theorem isMissing_unwriteable (known : Bool) (c : ClassId) (name : String) :
    (unwriteable (G := G) known c name).isMissing = true := by
  cases known <;> rfl

theorem neverMissing_keyed? : NeverMissing (G.keyed? c name) := by
  unfold ClassGraph.keyed? KeyedDescriptor.ofMethods
  split
  · exact .ok none
  · dsimp only
    split
    · exact .ok none
    · split
      · exact .ok _
      · exact .error rfl
    · exact .ok _
    · exact .ok _

theorem isKeyed_eq_false (hstorage : (s.heap.get o).storage = none) : s.heap.isKeyed (.object o) = false := by
  simp only [Heap.isKeyed, Heap.entries?, hstorage, Option.isSome_none]

theorem storedEntry?_eq_none (hstorage : (s.heap.get o).storage = none) : s.heap.storedEntry? o name = none := by
  rw [Heap.storedEntry?, hstorage, Option.map_none]

/-! ### Accessors of a class -/

/-- What is asked through a cache leaves the heap as it is. -/
theorem run_ask_of_answer {f : SoundCache G → α × SoundCache G} {answer : α} (r : Resolver)
    (h : (f (s.caches.get r.cache)).1 = answer) : ∃ s₁ : State G, s₁.heap = s.heap ∧
    ExceptT.run (Op.ask r f) s = (.ok answer, s₁) := by
  refine ⟨{ s with caches := s.caches.set r.cache (f (s.caches.get r.cache)).2 }, rfl, ?_⟩
  rw [Op.run_ask, h]

theorem run_descriptors (r : Resolver) (c : ClassId) (s : State G) : ∃ s₁ : State G, s₁.heap = s.heap ∧
    ExceptT.run (r.descriptors c) s = (.ok (G.descriptors c), s₁) :=
  run_ask_of_answer r ((s.caches.get r.cache).sound.askDescriptors c).1

theorem run_method (r : Resolver) (q : MethodQuery) (s : State G) : ∃ s₁ : State G, s₁.heap = s.heap ∧
    ExceptT.run (r.method q) s = (.ok (G.answer q), s₁) :=
  run_ask_of_answer r ((s.caches.get r.cache).sound.askMethod q).1

theorem run_keyed_eq (r : Resolver) (c : ClassId) (name : String) (s : State G) : ∃ s₁ : State G, s₁.heap = s.heap ∧
    ExceptT.run (r.keyed c name) s = (G.keyed? c name, s₁) := by
  have hanswer := ((s.caches.get r.cache).sound.askKeyed c name).1
  obtain ⟨s₁, hheap, hasked⟩ := run_ask_of_answer (f := (·.askKeyed c name)) r hanswer
  refine ⟨s₁, hheap, (Op.run_bind_of_ok hasked).trans ?_⟩
  cases G.keyed? c name <;> rfl

/-- A keyed accessor that is found is used. -/
theorem run_keyed_of_some {k : KeyedDescriptor} {found : KeyedDescriptor → Op G α} {rest : Op G α}
    (hk : G.keyed? c name = .ok (some k)) : ∃ s₁ : State G, s₁.heap = s.heap ∧
    ExceptT.run (r.keyed c name >>= fun k? => match k? with | some k => found k | none => rest) s =
      ExceptT.run (found k) s₁ := by
  obtain ⟨s₁, hheap, hkeyed⟩ := run_keyed_eq r c name s
  rw [hk] at hkeyed
  exact ⟨s₁, hheap, Op.run_bind_of_ok hkeyed⟩

/-- Without the keyed accessor that is wanted, an access fails if it does so elsewhere. -/
theorem run_keyed_of_none {accessor? : KeyedDescriptor → Option Method} {found : KeyedDescriptor → Op G α}
    {rest : Op G α} (hk : (G.soundKeyed? c name).bind accessor? = none)
    (hfound : ∀ k (s₁ : State G), accessor? k = none → ∃ e, ExceptT.run (found k) s₁ = (.error e, s₁))
    (hrest : ∀ s₁ : State G, s₁.heap = s.heap → ∃ e, ExceptT.run rest s₁ = (.error e, s₁)) : ∃ e s₁,
    ExceptT.run (r.keyed c name >>= fun k? => match k? with | some k => found k | none => rest) s = (.error e, s₁) := by
  obtain ⟨s₁, hheap, hkeyed⟩ := run_keyed_eq r c name s
  cases hanswer : G.keyed? c name with
  | error e =>
    rw [hanswer] at hkeyed
    exact ⟨e, s₁, Op.run_bind_of_error hkeyed⟩
  | ok k? =>
    rw [hanswer] at hkeyed
    rw [Op.run_bind_of_ok hkeyed]
    cases k? with
    | some k =>
      rw [ClassGraph.soundKeyed?_eq_some.mpr hanswer, Option.bind_some] at hk
      obtain ⟨e, he⟩ := hfound k s₁ hk
      exact ⟨e, s₁, he⟩
    | none =>
      obtain ⟨e, he⟩ := hrest s₁ hheap
      exact ⟨e, s₁, he⟩

/-! ### Reading -/

theorem run_readObject_of_read (hc : (s.heap.get o).cls = c)
    (hm : (G.descriptor? c name).bind Descriptor.read = some m) : ∃ s₁ : State G, s₁.heap = s.heap ∧
    ExceptT.run (r.readObject o name) s = ExceptT.run (call m o []) s₁ := by
  obtain ⟨s₁, hheap, hds⟩ := run_descriptors r c s
  refine ⟨s₁, hheap, ?_⟩
  rw [readObject, classOf, Op.run_bind_of_ok (Op.run_read s _), hc, Op.run_bind_of_ok hds]
  rw [ClassGraph.descriptor?] at hm
  simp only [hm]

theorem run_readObject_of_none (hstorage : (s.heap.get o).storage = none) (hc : (s.heap.get o).cls = c)
    (hm : (G.descriptor? c name).bind Descriptor.read = none) : ∃ e s₁,
    ExceptT.run (r.readObject o name) s = (.error e, s₁) ∧ e.isMissing = true := by
  obtain ⟨s₁, hheap, hds⟩ := run_descriptors r c s
  refine ⟨_, s₁, ?_, isMissing_unreadable (G := G) (G.descriptor? c name).isSome c name⟩
  rw [readObject, classOf, Op.run_bind_of_ok (Op.run_read s _), hc, Op.run_bind_of_ok hds]
  rw [ClassGraph.descriptor?] at hm
  simp only [hm]
  rw [Op.run_bind_of_ok (Op.run_read s₁ _), storedEntry?_eq_none (hheap ▸ hstorage)]
  rfl

/-- An entry is read from what the getter of the whole answers, if there is one. -/
theorem neverMissing_readObjectEntry (hc : (s.heap.get o).cls = c)
    (hm : (G.descriptor? c name).bind Descriptor.read = some m) :
    NeverMissing (ExceptT.run (r.readObjectEntry o name key) s).1 := by
  obtain ⟨s₁, -, hds⟩ := run_descriptors r c s
  rw [ClassGraph.descriptor?] at hm
  rw [readObjectEntry, classOf, Op.run_bind_of_ok (Op.run_read s _), hc]
  split
  · exact neverMissing_tryRead Heap.neverMissing_entry
  · rw [Op.run_bind_of_ok hds]
    simp only [hm]
    exact neverMissing_run_bind neverMissing_call fun v s' => neverMissing_tryRead Heap.neverMissing_entryOf

theorem run_readObjectEntry_of_keyed (key : String) (hc : (s.heap.get o).cls = c)
    (hm : (G.descriptor? c name).bind Descriptor.read = none) (hk : G.keyedReader? c name = some m) :
    ∃ s₁ : State G, s₁.heap = s.heap ∧
      ExceptT.run (r.readObjectEntry o name key) s = ExceptT.run (call m o [.text key]) s₁ := by
  obtain ⟨k, hsound, hread⟩ := Option.bind_eq_some_iff.mp hk
  have hfound := ClassGraph.soundKeyed?_eq_some.mp hsound
  have hname := ClassGraph.isEmpty_eq_false_of_keyed? hfound
  obtain ⟨s₁, hheap, hds⟩ := run_descriptors r c s
  rw [ClassGraph.descriptor?] at hm
  rw [readObjectEntry, classOf, Op.run_bind_of_ok (Op.run_read s _), hc, hname, if_neg Bool.false_ne_true,
    Op.run_bind_of_ok hds]
  simp only [hm]
  obtain ⟨s₂, hheap', hrun⟩ := run_keyed_of_some (r := r) (s := s₁) hfound
  refine ⟨s₂, hheap'.trans hheap, hrun.trans ?_⟩
  simp only [hread]

theorem run_readObjectEntry_of_none (key : String) (hstorage : (s.heap.get o).storage = none)
    (hc : (s.heap.get o).cls = c) (hm : (G.descriptor? c name).bind Descriptor.read = none)
    (hk : G.keyedReader? c name = none) :
    ∃ e s₁, ExceptT.run (r.readObjectEntry o name key) s = (.error e, s₁) := by
  obtain ⟨s₁, hheap, hds⟩ := run_descriptors r c s
  rw [ClassGraph.descriptor?] at hm
  rw [readObjectEntry, classOf, Op.run_bind_of_ok (Op.run_read s _), hc]
  split
  · rw [Op.run_tryRead, Heap.entry, Heap.entries, Heap.entries?, hstorage]
    exact ⟨_, _, rfl⟩
  · rw [Op.run_bind_of_ok hds]
    simp only [hm]
    refine run_keyed_of_none hk (fun k s₂ hread => ?_) fun s₂ hheap' => ?_
    · simp only [hread]
      exact ⟨_, rfl⟩
    · rw [Op.run_bind_of_ok (Op.run_read s₂ _), storedEntry?_eq_none ((hheap'.trans hheap) ▸ hstorage)]
      exact ⟨_, rfl⟩

/-! ### Writing -/

theorem run_writeObject_of_write (hc : (s.heap.get o).cls = c)
    (hm : (G.descriptor? c name).bind Descriptor.write = some m) : ∃ s₁ : State G, s₁.heap = s.heap ∧
    ExceptT.run (r.writeObject o name v) s = ExceptT.run (callWith m o name [] v) s₁ := by
  obtain ⟨s₁, hheap, hds⟩ := run_descriptors r c s
  refine ⟨s₁, hheap, ?_⟩
  rw [writeObject, classOf, Op.run_bind_of_ok (Op.run_read s _), hc, Op.run_bind_of_ok hds]
  rw [ClassGraph.descriptor?] at hm
  simp only [hm]

theorem run_writeObject_of_none (hstorage : (s.heap.get o).storage = none) (hc : (s.heap.get o).cls = c)
    (hm : (G.descriptor? c name).bind Descriptor.write = none) : ∃ e s₁,
    ExceptT.run (r.writeObject o name v) s = (.error e, s₁) ∧ e.isMissing = true := by
  obtain ⟨s₁, hheap, hds⟩ := run_descriptors r c s
  refine ⟨_, s₁, ?_, isMissing_unwriteable (G := G) (G.descriptor? c name).isSome c name⟩
  rw [writeObject, classOf, Op.run_bind_of_ok (Op.run_read s _), hc, Op.run_bind_of_ok hds]
  rw [ClassGraph.descriptor?] at hm
  simp only [hm]
  rw [Op.run_bind_of_ok (Op.run_read s₁ _), storedEntry?_eq_none (hheap ▸ hstorage)]
  rfl

/-- An entry is written into what the getter of the whole answers, if there is one. -/
theorem neverMissing_writeObjectEntry (hc : (s.heap.get o).cls = c)
    (hm : (G.descriptor? c name).bind Descriptor.read = some m) :
    NeverMissing (ExceptT.run (r.writeObjectEntry o name key v) s).1 := by
  obtain ⟨s₁, -, hds⟩ := run_descriptors r c s
  rw [ClassGraph.descriptor?] at hm
  rw [writeObjectEntry, classOf, Op.run_bind_of_ok (Op.run_read s _), hc]
  split
  · exact neverMissing_tryWrite Heap.neverMissing_setEntry
  · rw [Op.run_bind_of_ok hds]
    simp only [hm]
    exact neverMissing_run_bind neverMissing_call fun w s' => neverMissing_tryWrite Heap.neverMissing_setEntryOf

theorem run_writeObjectEntry_of_keyed (key : String) (v : Value) (hc : (s.heap.get o).cls = c)
    (hm : (G.descriptor? c name).bind Descriptor.read = none) (hk : G.keyedWriter? c name = some m) :
    ∃ s₁ : State G, s₁.heap = s.heap ∧ ExceptT.run (r.writeObjectEntry o name key v) s =
      ExceptT.run (callWith m o name [.text key] v) s₁ := by
  obtain ⟨k, hsound, hwrite⟩ := Option.bind_eq_some_iff.mp hk
  have hfound := ClassGraph.soundKeyed?_eq_some.mp hsound
  have hname := ClassGraph.isEmpty_eq_false_of_keyed? hfound
  obtain ⟨s₁, hheap, hds⟩ := run_descriptors r c s
  rw [ClassGraph.descriptor?] at hm
  rw [writeObjectEntry, classOf, Op.run_bind_of_ok (Op.run_read s _), hc, hname, if_neg Bool.false_ne_true,
    Op.run_bind_of_ok hds]
  simp only [hm]
  obtain ⟨s₂, hheap', hrun⟩ := run_keyed_of_some (r := r) (s := s₁) hfound
  refine ⟨s₂, hheap'.trans hheap, hrun.trans ?_⟩
  simp only [hwrite]

theorem run_writeObjectEntry_of_none (key : String) (v : Value) (hstorage : (s.heap.get o).storage = none)
    (hc : (s.heap.get o).cls = c) (hm : (G.descriptor? c name).bind Descriptor.read = none)
    (hk : G.keyedWriter? c name = none) :
    ∃ e s₁, ExceptT.run (r.writeObjectEntry o name key v) s = (.error e, s₁) := by
  obtain ⟨s₁, hheap, hds⟩ := run_descriptors r c s
  rw [ClassGraph.descriptor?] at hm
  rw [writeObjectEntry, classOf, Op.run_bind_of_ok (Op.run_read s _), hc]
  split
  · rw [Op.run_tryWrite, Heap.setEntry, Heap.entries, Heap.entries?, hstorage]
    exact ⟨_, _, rfl⟩
  · rw [Op.run_bind_of_ok hds]
    simp only [hm]
    refine run_keyed_of_none hk (fun k s₂ hwrite => ?_) fun s₂ hheap' => ?_
    · simp only [hwrite]
      exact ⟨_, rfl⟩
    · rw [Op.run_bind_of_ok (Op.run_read s₂ _), storedEntry?_eq_none ((hheap'.trans hheap) ▸ hstorage)]
      exact ⟨_, rfl⟩

/-- A setter takes some value, as long as its body does not fail. -/
theorem exists_run_callWith (name : String) (args : List Value)
    (hbody : ∀ w H, (H.get o).cls = c → ∃ a, m.invoke G o (args ++ [w]) H = .ok a) :
    ∃ v, ∀ s : State G, (s.heap.get o).cls = c → ∃ s₁, ExceptT.run (callWith m o name args v) s = (.ok (), s₁) := by
  have hcall (w : Value) (s : State G) (hc : (s.heap.get o).cls = c) :
      ∃ s₁, ExceptT.run (call m o (args ++ [w]) >>= fun _ => pure () : Op G Unit) s = (.ok (), s₁) := by
    obtain ⟨⟨a, H⟩, ha⟩ := hbody w s.heap hc
    rw [call, Op.run_bind_of_ok (Op.run_tryChange_of_ok s ha)]
    exact ⟨_, rfl⟩
  unfold callWith
  cases m.params.getLast? with
  | some t =>
    refine ⟨t.zero, fun s hc => ?_⟩
    obtain ⟨s₁, hrun⟩ := hcall t.zero s hc
    have hcoerce : ExceptT.run (Op.tryRead fun H => H.coerce G t name t.zero : Op G Value) s = (.ok t.zero, s) := by
      rw [Op.run_tryRead, Heap.fits_zero.coerce]
    dsimp only
    rw [Op.run_bind_of_ok hcoerce, hrun]
    exact ⟨s₁, rfl⟩
  | none => exact ⟨.null, fun s hc => hcall .null s hc⟩

end Resolver

end ObjectGraph
