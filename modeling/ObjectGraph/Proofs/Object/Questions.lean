import ObjectGraph.Class.Builder
import ObjectGraph.Proofs.Access.Single
import ObjectGraph.Proofs.Object.Access

/-!
Whether the answers to the questions if a property of an object can be read or written agree with what reading and
writing do.  They do so but for a few classes of accessors: a keyed accessor beside others of its name is
overlooked, one that stands alone is taken for an accessor of the whole property, and a setter of the whole
property for one of its elements.
-/

namespace ObjectGraph

namespace ClassGraph
variable (G : ClassGraph)

/-- What is answered if a segment of an object is to be read. -/
def answersReadable (c : ClassId) (g : Segment) : Bool :=
  match G.descriptor? c g.name, g.subscript with
  | some d, .index _ => d.isReadable
  | some d, _ => d.read.isSome
  | none, _ => (G.keyedReader? c g.name).isSome

/-- What is answered if a segment of an object is to be written. -/
def answersWriteable (c : ClassId) (g : Segment) : Bool :=
  match G.descriptor? c g.name, g.subscript with
  | some d, .none => d.write.isSome
  | some d, .index _ => d.isWriteable || d.read.isSome
  | some d, .key _ => d.read.isSome
  | none, _ => (G.keyedWriter? c g.name).isSome

/-- Whether the answer for reading is the wrong one: no, though a keyed getter would be called, as there are other
accessors of the name but no getter; or yes, though there is a keyed getter only and the segment has no key. -/
def misreads (c : ClassId) (g : Segment) : Bool :=
  match G.descriptor? c g.name, g.subscript with
  | some d, .key _ => d.read.isNone && (G.keyedReader? c g.name).isSome
  | none, .none => (G.keyedReader? c g.name).isSome
  | _, _ => false

/-- Whether the answer for writing is the wrong one.  Besides the cases as for reading there is a yes for an element
of a property that has a setter of the whole only. -/
def miswrites (c : ClassId) (g : Segment) : Bool :=
  match G.descriptor? c g.name, g.subscript with
  | some d, .key _ => d.read.isNone && (G.keyedWriter? c g.name).isSome
  | some d, .index _ => !g.name.isEmpty && d.write.isSome && d.writeElement.isNone && d.read.isNone
  | none, .none => (G.keyedWriter? c g.name).isSome
  | _, _ => false

variable {G} {c : ClassId} {name : String} {k : KeyedDescriptor}

theorem answersReadable_of_read {m : Method} (sub : Subscript)
    (hm : (G.descriptor? c name).bind Descriptor.read = some m) (hsub : ∀ i, sub ≠ .index i) :
    G.answersReadable c ⟨name, sub⟩ = true := by
  obtain ⟨d, hd, hread⟩ := Option.bind_eq_some_iff.mp hm
  cases sub <;> simp_all [answersReadable]

theorem answersReadable_of_read_eq_none (sub : Subscript) (hm : (G.descriptor? c name).bind Descriptor.read = none)
    (hsub : ∀ i, sub ≠ .index i) :
    G.answersReadable c ⟨name, sub⟩ = ((G.descriptor? c name).isNone && (G.keyedReader? c name).isSome) := by
  cases hd : G.descriptor? c name <;> cases sub <;> simp_all [answersReadable]

theorem misreads_name : G.misreads c ⟨name, .none⟩ =
    ((G.descriptor? c name).isNone && (G.keyedReader? c name).isSome) := by
  cases hd : G.descriptor? c name <;> simp [misreads, hd]

theorem of_misreads_key {key : String} (h : G.misreads c ⟨name, .key key⟩ = true) :
    (G.descriptor? c name).bind Descriptor.read = none ∧ (G.descriptor? c name).isNone = false ∧
      ∃ m, G.keyedReader? c name = some m := by
  cases hd : G.descriptor? c name <;> simp_all [misreads, Option.isSome_iff_exists]

/-- A keyed getter that is not misjudged stands alone, unless there is a getter of the whole. -/
theorem isNone_descriptor?_of_misreads {m : Method} {key : String} (h : G.misreads c ⟨name, .key key⟩ = false)
    (hm : (G.descriptor? c name).bind Descriptor.read = none) (hk : G.keyedReader? c name = some m) :
    (G.descriptor? c name).isNone = true := by
  cases hd : G.descriptor? c name <;> simp_all [misreads]

theorem answersWriteable_of_write {m : Method} (hm : (G.descriptor? c name).bind Descriptor.write = some m) :
    G.answersWriteable c ⟨name, .none⟩ = true := by
  obtain ⟨d, hd, hwrite⟩ := Option.bind_eq_some_iff.mp hm
  simp [answersWriteable, hd, hwrite]

theorem answersWriteable_of_write_eq_none (hm : (G.descriptor? c name).bind Descriptor.write = none) :
    G.answersWriteable c ⟨name, .none⟩ = ((G.descriptor? c name).isNone && (G.keyedWriter? c name).isSome) := by
  cases hd : G.descriptor? c name <;> simp_all [answersWriteable]

theorem answersWriteable_of_read {m : Method} {key : String}
    (hm : (G.descriptor? c name).bind Descriptor.read = some m) : G.answersWriteable c ⟨name, .key key⟩ = true := by
  obtain ⟨d, hd, hread⟩ := Option.bind_eq_some_iff.mp hm
  simp [answersWriteable, hd, hread]

theorem answersWriteable_of_read_eq_none {key : String} (hm : (G.descriptor? c name).bind Descriptor.read = none) :
    G.answersWriteable c ⟨name, .key key⟩ = ((G.descriptor? c name).isNone && (G.keyedWriter? c name).isSome) := by
  cases hd : G.descriptor? c name <;> simp_all [answersWriteable]

theorem miswrites_name : G.miswrites c ⟨name, .none⟩ =
    ((G.descriptor? c name).isNone && (G.keyedWriter? c name).isSome) := by
  cases hd : G.descriptor? c name <;> simp [miswrites, hd]

theorem of_miswrites_key {key : String} (h : G.miswrites c ⟨name, .key key⟩ = true) :
    (G.descriptor? c name).bind Descriptor.read = none ∧ (G.descriptor? c name).isNone = false ∧
      ∃ m, G.keyedWriter? c name = some m := by
  cases hd : G.descriptor? c name <;> simp_all [miswrites, Option.isSome_iff_exists]

theorem isNone_descriptor?_of_miswrites {m : Method} {key : String} (h : G.miswrites c ⟨name, .key key⟩ = false)
    (hm : (G.descriptor? c name).bind Descriptor.read = none) (hk : G.keyedWriter? c name = some m) :
    (G.descriptor? c name).isNone = true := by
  cases hd : G.descriptor? c name <;> simp_all [miswrites]

theorem answersWriteable_of_miswrites {i : Nat} (h : G.miswrites c ⟨name, .index i⟩ = true) :
    G.answersWriteable c ⟨name, .index i⟩ = true := by
  cases hd : G.descriptor? c name <;> simp_all [miswrites, answersWriteable, Descriptor.isWriteable]

end ClassGraph

/-- Whether an answer is fair to what then happens: what succeeds has been answered by yes, and after a yes no
failure says that the property is absent or may not be read or written. -/
def Fair {α : Type} (answer : Bool) (x : Except Error α) : Prop :=
  (∀ a, x = .ok a → answer = true) ∧ (answer = true → NeverMissing x)

namespace Fair
variable {α : Type} {answer : Bool} {x : Except Error α} {e : Error}

theorem of_neverMissing (h : NeverMissing x) : Fair true x := ⟨fun _ _ => rfl, fun _ => h⟩

theorem of_error (e : Error) : Fair false (.error e : Except Error α) := ⟨nofun, nofun⟩

theorem of_isMissing_eq_false (answer : Bool) (h : e.isMissing = false) : Fair answer (.error e : Except Error α) :=
  ⟨nofun, fun _ => .error h⟩

theorem not_of_ok (a : α) : ¬ Fair false (.ok a) := fun h => Bool.false_ne_true (h.1 a rfl)

theorem not_of_isMissing (h : e.isMissing = true) : ¬ Fair true (.error e : Except Error α) := fun hfair =>
  absurd (hfair.2 rfl e rfl) (by simp [h])

end Fair

namespace Resolver
variable {G : ClassGraph} {r : Resolver} {s : State G} {o : Handle .object} {name key : String} {i : Nat} {v : Value}
  {c : ClassId} {d : Descriptor} {m : Method} {α : Type}

/-! ### Questions -/

theorem run_keyedIfSound (r : Resolver) (c : ClassId) (name : String) (s : State G) : ∃ s₁ : State G,
    ExceptT.run (r.keyedIfSound c name) s = (.ok (G.soundKeyed? c name), s₁) := by
  obtain ⟨s₁, -, hkeyed⟩ := run_keyed_eq r c name s
  refine ⟨s₁, ?_⟩
  rw [keyedIfSound, Op.run_bind_of_ok (Op.run_attempt s _), hkeyed, ClassGraph.soundKeyed?]
  cases G.keyed? c name <;> rfl

theorem run_objectReadable (hstorage : (s.heap.get o).storage = none) (hc : (s.heap.get o).cls = c) (g : Segment) :
    ∃ s₁ : State G, ExceptT.run (r.objectReadable o g) s = (.ok (G.answersReadable c g), s₁) := by
  obtain ⟨s₁, -, hds⟩ := run_descriptors r c s
  rw [objectReadable, Op.run_bind_of_ok (Op.run_read s _), isKeyed_eq_false hstorage, if_neg Bool.false_ne_true,
    classOf, Op.run_bind_of_ok (Op.run_read s _), hc, Op.run_bind_of_ok hds, ClassGraph.answersReadable,
    ClassGraph.descriptor?]
  cases findDescriptor? (G.descriptors c) g.name with
  | some d => cases g.subscript <;> exact ⟨s₁, rfl⟩
  | none =>
    obtain ⟨s₂, hsound⟩ := run_keyedIfSound r c g.name s₁
    dsimp only
    rw [Op.run_bind_of_ok hsound]
    refine ⟨s₂, ?_⟩
    rw [ClassGraph.keyedReader?]
    cases G.soundKeyed? c g.name <;> rfl

theorem run_objectWriteable (hstorage : (s.heap.get o).storage = none) (hc : (s.heap.get o).cls = c) (g : Segment) :
    ∃ s₁ : State G, ExceptT.run (r.objectWriteable o g) s = (.ok (G.answersWriteable c g), s₁) := by
  obtain ⟨s₁, -, hds⟩ := run_descriptors r c s
  rw [objectWriteable, Op.run_bind_of_ok (Op.run_read s _), isKeyed_eq_false hstorage, if_neg Bool.false_ne_true,
    classOf, Op.run_bind_of_ok (Op.run_read s _), hc, Op.run_bind_of_ok hds, ClassGraph.answersWriteable,
    ClassGraph.descriptor?]
  cases findDescriptor? (G.descriptors c) g.name with
  | some d => cases g.subscript <;> exact ⟨s₁, rfl⟩
  | none =>
    obtain ⟨s₂, hsound⟩ := run_keyedIfSound r c g.name s₁
    dsimp only
    rw [Op.run_bind_of_ok hsound]
    refine ⟨s₂, ?_⟩
    rw [ClassGraph.keyedWriter?]
    cases G.soundKeyed? c g.name <;> rfl

/-- Without accessors of a name, an element is refused because the property is keyed, or because it is absent. -/
theorem fair_of_no_descriptor {refusal rest : Op G α} (read? : KeyedDescriptor → Option Method)
    (hrefusal : ∀ s₁ : State G, (ExceptT.run refusal s₁).1 = .error (.notIndexed name))
    (hrest : ∀ s₁ : State G, s₁.heap = s.heap → ∃ e, (ExceptT.run rest s₁).1 = .error e) :
    Fair ((G.soundKeyed? c name).bind read?).isSome
      (ExceptT.run (r.keyed c name >>= fun k? => if k?.isSome then refusal else rest) s).1 := by
  obtain ⟨s₁, hheap, hkeyed⟩ := run_keyed_eq r c name s
  cases hfound : G.keyed? c name with
  | error e =>
    rw [hfound] at hkeyed
    rw [Op.run_bind_of_error hkeyed]
    exact .of_isMissing_eq_false _ (neverMissing_keyed? e hfound)
  | ok k? =>
    rw [hfound] at hkeyed
    rw [Op.run_bind_of_ok hkeyed]
    cases k? with
    | some k =>
      rw [Option.isSome_some, if_pos rfl, hrefusal]
      exact .of_isMissing_eq_false _ rfl
    | none =>
      have hanswer : ((G.soundKeyed? c name).bind read?).isSome = false := by
        rw [ClassGraph.soundKeyed?, hfound]
        rfl
      obtain ⟨e, hrest⟩ := hrest s₁ hheap
      rw [hanswer, Option.isSome_none, if_neg Bool.false_ne_true, hrest]
      exact .of_error e

/-! ### Reading -/

/-- An element is read by a getter of elements, or from what the getter of the whole answers. -/
theorem fair_readObjectElement (hstorage : (s.heap.get o).storage = none) (hc : (s.heap.get o).cls = c) :
    Fair (G.answersReadable c ⟨name, .index i⟩) (ExceptT.run (r.readObjectElement o name i) s).1 := by
  obtain ⟨s₁, hheap, hds⟩ := run_descriptors r c s
  rw [readObjectElement, classOf, Op.run_bind_of_ok (Op.run_read s _), hc]
  by_cases hname : name.isEmpty = true
  · rw [if_pos hname]
    exact Fair.of_isMissing_eq_false (e := .notIndexed (G.nameOf c)) _ rfl
  rw [if_neg hname, Op.run_bind_of_ok hds, ClassGraph.answersReadable, ClassGraph.descriptor?]
  dsimp only
  cases findDescriptor? (G.descriptors c) name with
  | some d =>
    dsimp only
    cases hreadElement : d.readElement with
    | some m =>
      have hanswer : d.isReadable = true := by simp [Descriptor.isReadable, hreadElement]
      rw [hanswer]
      exact .of_neverMissing (neverMissing_run_bind (neverMissing_tryRead neverMissing_indexArgument) fun j s' =>
        neverMissing_call)
    | none =>
      cases hread : d.read with
      | some m =>
        have hanswer : d.isReadable = true := by simp [Descriptor.isReadable, hread]
        rw [hanswer]
        exact .of_neverMissing (neverMissing_run_bind neverMissing_call fun v s' =>
          neverMissing_tryRead Heap.neverMissing_elementOf)
      | none =>
        have hanswer : d.isReadable = false := by simp [Descriptor.isReadable, hread, hreadElement]
        rw [hanswer]
        exact .of_error _
  | none =>
    refine fair_of_no_descriptor _ (fun _ => rfl) fun s₂ hheap' => ?_
    rw [Op.run_bind_of_ok (Op.run_read s₂ _), storedEntry?_eq_none ((hheap'.trans hheap) ▸ hstorage)]
    exact ⟨_, rfl⟩

-- Elements are judged rightly in all classes, so the hypothesis is about the other two kinds of segments.
theorem fair_readSegment (hstorage : (s.heap.get o).storage = none) (hc : (s.heap.get o).cls = c) {g : Segment}
    (h : G.misreads c g = false) :
    Fair (G.answersReadable c g) (ExceptT.run (r.readSegment (.object o) g) s).1 := by
  obtain ⟨name, sub⟩ := g
  cases sub with
  | index i => exact fair_readObjectElement hstorage hc
  | none =>
    change Fair _ (ExceptT.run (r.readObject o name) s).1
    cases hm : (G.descriptor? c name).bind Descriptor.read with
    | some m =>
      obtain ⟨s₁, -, hrun⟩ := run_readObject_of_read (r := r) hc hm
      rw [hrun, ClassGraph.answersReadable_of_read .none hm nofun]
      exact .of_neverMissing neverMissing_call
    | none =>
      obtain ⟨e, s₁, hrun, -⟩ := run_readObject_of_none (r := r) hstorage hc hm
      rw [hrun, ClassGraph.answersReadable_of_read_eq_none .none hm nofun, ← ClassGraph.misreads_name, h]
      exact .of_error e
  | key key =>
    change Fair _ (ExceptT.run (r.readObjectEntry o name key) s).1
    cases hm : (G.descriptor? c name).bind Descriptor.read with
    | some m =>
      rw [ClassGraph.answersReadable_of_read (.key key) hm nofun]
      exact .of_neverMissing (neverMissing_readObjectEntry hc hm)
    | none =>
      rw [ClassGraph.answersReadable_of_read_eq_none (.key key) hm nofun]
      cases hk : G.keyedReader? c name with
      | some m =>
        obtain ⟨s₁, -, hrun⟩ := run_readObjectEntry_of_keyed (r := r) key hc hm hk
        rw [hrun, ClassGraph.isNone_descriptor?_of_misreads h hm hk]
        exact .of_neverMissing neverMissing_call
      | none =>
        obtain ⟨e, s₁, hrun⟩ := run_readObjectEntry_of_none (r := r) key hstorage hc hm hk
        rw [hrun, Option.isSome_none, Bool.and_false]
        exact .of_error e

/-- A keyed getter that is called does not fail as long as its body does not. -/
theorem not_fair_readSegment (hstorage : (s.heap.get o).storage = none) (hc : (s.heap.get o).cls = c) {g : Segment}
    (h : G.misreads c g = true)
    (hbody : ∀ m, G.keyedReader? c g.name = some m → ∀ key H, (H.get o).cls = c →
      ∃ a, m.invoke G o [.text key] H = .ok a) :
    ¬ Fair (G.answersReadable c g) (ExceptT.run (r.readSegment (.object o) g) s).1 := by
  obtain ⟨name, sub⟩ := g
  cases sub with
  | index i => cases hd : G.descriptor? c name <;> simp [ClassGraph.misreads, hd] at h
  | none =>
    change ¬ Fair _ (ExceptT.run (r.readObject o name) s).1
    have halone := h
    rw [ClassGraph.misreads_name, Bool.and_eq_true_iff, Option.isNone_iff_eq_none] at halone
    have hm : (G.descriptor? c name).bind Descriptor.read = none := by rw [halone.1, Option.bind_none]
    obtain ⟨e, s₁, hrun, hmissing⟩ := run_readObject_of_none (r := r) hstorage hc hm
    rw [hrun, ClassGraph.answersReadable_of_read_eq_none .none hm nofun, ← ClassGraph.misreads_name, h]
    exact Fair.not_of_isMissing hmissing
  | key key =>
    change ¬ Fair _ (ExceptT.run (r.readObjectEntry o name key) s).1
    obtain ⟨hm, hbeside, m, hk⟩ := ClassGraph.of_misreads_key h
    obtain ⟨s₁, hheap, hrun⟩ := run_readObjectEntry_of_keyed (r := r) key hc hm hk
    obtain ⟨a, ha⟩ := hbody m hk key s₁.heap (hheap ▸ hc)
    rw [hrun, ClassGraph.answersReadable_of_read_eq_none (.key key) hm nofun, call, Op.run_tryChange_of_ok s₁ ha,
      hbeside]
    exact Fair.not_of_ok _

/-! ### Writing -/

/-- An element is written by a setter of elements, or into what the getter of the whole answers. -/
theorem fair_writeObjectElement (hstorage : (s.heap.get o).storage = none) (hc : (s.heap.get o).cls = c)
    (h : G.miswrites c ⟨name, .index i⟩ = false) :
    Fair (G.answersWriteable c ⟨name, .index i⟩) (ExceptT.run (r.writeObjectElement o name i v) s).1 := by
  obtain ⟨s₁, hheap, hds⟩ := run_descriptors r c s
  rw [writeObjectElement, classOf, Op.run_bind_of_ok (Op.run_read s _), hc]
  by_cases hname : name.isEmpty = true
  · rw [if_pos hname]
    exact Fair.of_isMissing_eq_false (e := .notIndexed (G.nameOf c)) _ rfl
  rw [if_neg hname, Op.run_bind_of_ok hds, ClassGraph.answersWriteable, ClassGraph.descriptor?]
  rw [ClassGraph.miswrites, ClassGraph.descriptor?] at h
  dsimp only at h ⊢
  cases hd : findDescriptor? (G.descriptors c) name with
  | some d =>
    rw [hd] at h
    dsimp only at h ⊢
    cases hwriteElement : d.writeElement with
    | some m =>
      have hanswer : (d.isWriteable || d.read.isSome) = true := by simp [Descriptor.isWriteable, hwriteElement]
      rw [hanswer]
      exact .of_neverMissing (neverMissing_run_bind (neverMissing_tryRead neverMissing_indexArgument) fun j s' =>
        neverMissing_callWith)
    | none =>
      cases hread : d.read with
      | some m =>
        rw [Option.isSome_some, Bool.or_true]
        exact .of_neverMissing (neverMissing_run_bind neverMissing_call fun w s' =>
          neverMissing_tryWrite Heap.neverMissing_setElementOf)
      | none =>
        have hanswer : d.isWriteable = false := by simp_all [Descriptor.isWriteable]
        rw [hanswer]
        exact .of_error _
  | none =>
    refine fair_of_no_descriptor _ (fun _ => rfl) fun s₂ hheap' => ?_
    rw [Op.run_bind_of_ok (Op.run_read s₂ _), storedEntry?_eq_none ((hheap'.trans hheap) ▸ hstorage)]
    exact ⟨_, rfl⟩

theorem run_writeObjectElement_of_miswrites (hc : (s.heap.get o).cls = c)
    (h : G.miswrites c ⟨name, .index i⟩ = true) : ∃ e s₁,
    ExceptT.run (r.writeObjectElement o name i v) s = (.error e, s₁) ∧ e.isMissing = true := by
  obtain ⟨s₁, -, hds⟩ := run_descriptors r c s
  refine ⟨_, s₁, ?_, isMissing_unwriteable (G := G) true c name⟩
  rw [ClassGraph.miswrites, ClassGraph.descriptor?] at h
  dsimp only at h
  cases hd : findDescriptor? (G.descriptors c) name with
  | some d =>
    rw [hd] at h
    simp only [Bool.and_eq_true_iff, Bool.not_eq_true', Option.isNone_iff_eq_none] at h
    obtain ⟨⟨⟨hname, -⟩, hwriteElement⟩, hread⟩ := h
    rw [writeObjectElement, classOf, Op.run_bind_of_ok (Op.run_read s _), hc, hname, if_neg Bool.false_ne_true,
      Op.run_bind_of_ok hds, hd]
    simp only [hwriteElement, hread]
    rfl
  | none =>
    rw [hd] at h
    cases h

theorem fair_writeSegment (hstorage : (s.heap.get o).storage = none) (hc : (s.heap.get o).cls = c) {g : Segment}
    (h : G.miswrites c g = false) (v : Value) :
    Fair (G.answersWriteable c g) (ExceptT.run (r.writeSegment (.object o) g v) s).1 := by
  obtain ⟨name, sub⟩ := g
  cases sub with
  | index i => exact fair_writeObjectElement hstorage hc h
  | none =>
    change Fair _ (ExceptT.run (r.writeObject o name v) s).1
    cases hm : (G.descriptor? c name).bind Descriptor.write with
    | some m =>
      obtain ⟨s₁, -, hrun⟩ := run_writeObject_of_write (r := r) (v := v) hc hm
      rw [hrun, ClassGraph.answersWriteable_of_write hm]
      exact .of_neverMissing neverMissing_callWith
    | none =>
      obtain ⟨e, s₁, hrun, -⟩ := run_writeObject_of_none (r := r) (v := v) hstorage hc hm
      rw [hrun, ClassGraph.answersWriteable_of_write_eq_none hm, ← ClassGraph.miswrites_name, h]
      exact .of_error e
  | key key =>
    change Fair _ (ExceptT.run (r.writeObjectEntry o name key v) s).1
    cases hm : (G.descriptor? c name).bind Descriptor.read with
    | some m =>
      rw [ClassGraph.answersWriteable_of_read hm]
      exact .of_neverMissing (neverMissing_writeObjectEntry hc hm)
    | none =>
      rw [ClassGraph.answersWriteable_of_read_eq_none hm]
      cases hk : G.keyedWriter? c name with
      | some m =>
        obtain ⟨s₁, -, hrun⟩ := run_writeObjectEntry_of_keyed (r := r) key v hc hm hk
        rw [hrun, ClassGraph.isNone_descriptor?_of_miswrites h hm hk]
        exact .of_neverMissing neverMissing_callWith
      | none =>
        obtain ⟨e, s₁, hrun⟩ := run_writeObjectEntry_of_none (r := r) key v hstorage hc hm hk
        rw [hrun, Option.isSome_none, Bool.and_false]
        exact .of_error e

/-- A keyed setter that is called takes some value as long as its body does not fail. -/
theorem exists_not_fair_writeSegment (hstorage : (s.heap.get o).storage = none) (hc : (s.heap.get o).cls = c)
    {g : Segment} (h : G.miswrites c g = true)
    (hbody : ∀ m, G.keyedWriter? c g.name = some m → ∀ key w H, (H.get o).cls = c →
      ∃ a, m.invoke G o [.text key, w] H = .ok a) :
    ∃ v, ¬ Fair (G.answersWriteable c g) (ExceptT.run (r.writeSegment (.object o) g v) s).1 := by
  obtain ⟨name, sub⟩ := g
  cases sub with
  | index i =>
    obtain ⟨e, s₁, hrun, hmissing⟩ := run_writeObjectElement_of_miswrites (r := r) (s := s) (v := .null) hc h
    refine ⟨.null, ?_⟩
    change ¬ Fair _ (ExceptT.run (r.writeObjectElement o name i .null) s).1
    rw [hrun, ClassGraph.answersWriteable_of_miswrites h]
    exact Fair.not_of_isMissing hmissing
  | none =>
    have halone := h
    rw [ClassGraph.miswrites_name, Bool.and_eq_true_iff, Option.isNone_iff_eq_none] at halone
    have hm : (G.descriptor? c name).bind Descriptor.write = none := by rw [halone.1, Option.bind_none]
    obtain ⟨e, s₁, hrun, hmissing⟩ := run_writeObject_of_none (r := r) (v := .null) hstorage hc hm
    refine ⟨.null, ?_⟩
    change ¬ Fair _ (ExceptT.run (r.writeObject o name .null) s).1
    rw [hrun, ClassGraph.answersWriteable_of_write_eq_none hm, ← ClassGraph.miswrites_name, h]
    exact Fair.not_of_isMissing hmissing
  | key key =>
    obtain ⟨hm, hbeside, m, hk⟩ := ClassGraph.of_miswrites_key h
    obtain ⟨v, hv⟩ := exists_run_callWith name [.text key] (hbody m hk key)
    obtain ⟨s₁, hheap, hrun⟩ := run_writeObjectEntry_of_keyed (r := r) key v hc hm hk
    obtain ⟨s₂, hcall⟩ := hv s₁ (hheap ▸ hc)
    refine ⟨v, ?_⟩
    change ¬ Fair _ (ExceptT.run (r.writeObjectEntry o name key v) s).1
    rw [hrun, hcall, ClassGraph.answersWriteable_of_read_eq_none hm, hbeside]
    exact Fair.not_of_ok ()

/-- At a path of one segment of an object without storage, the answers whether it can be read and written depend on
the class only.  They are fair to every read and write unless they are misjudged; and where they are, they are not,
as long as the keyed accessors do not fail. -/
theorem questions_agree_with_access (r : Resolver) (s : State G) (o : Handle .object) (path : String) (p : Path)
    (g : Segment) (hparse : Path.parse path = .ok p) (hsegments : p.segments = [g])
    (hstorage : (s.heap.get o).storage = none) :
    (∃ answer, (∀ s' : State G, (s'.heap.get o).cls = (s.heap.get o).cls → (s'.heap.get o).storage = none →
        ∃ s₁, ExceptT.run (r.isReadable (.object o) path) s' = (.ok answer, s₁)) ∧
      (G.misreads (s.heap.get o).cls g = false → Fair answer (ExceptT.run (r.read (.object o) path) s).1) ∧
      (G.misreads (s.heap.get o).cls g = true →
        (∀ m, G.keyedReader? (s.heap.get o).cls g.name = some m → ∀ key H, (H.get o).cls = (s.heap.get o).cls →
          ∃ a, m.invoke G o [.text key] H = .ok a) →
        ¬ Fair answer (ExceptT.run (r.read (.object o) path) s).1)) ∧
    (∃ answer, (∀ s' : State G, (s'.heap.get o).cls = (s.heap.get o).cls → (s'.heap.get o).storage = none →
        ∃ s₁, ExceptT.run (r.isWriteable (.object o) path) s' = (.ok answer, s₁)) ∧
      (G.miswrites (s.heap.get o).cls g = false → ∀ v, Fair answer (ExceptT.run (r.write (.object o) path v) s).1) ∧
      (G.miswrites (s.heap.get o).cls g = true →
        (∀ m, G.keyedWriter? (s.heap.get o).cls g.name = some m → ∀ key w H, (H.get o).cls = (s.heap.get o).cls →
          ∃ a, m.invoke G o [.text key, w] H = .ok a) →
        ∃ v, ¬ Fair answer (ExceptT.run (r.write (.object o) path v) s).1)) := by
  have hobject : Value.object o ≠ .null := nofun
  refine ⟨⟨G.answersReadable (s.heap.get o).cls g, fun s' hc' hstorage' => ?_, fun h => ?_, fun h hbody => ?_⟩,
    ⟨G.answersWriteable (s.heap.get o).cls g, fun s' hc' hstorage' => ?_, fun h v => ?_, fun h hbody => ?_⟩⟩
  · rw [run_isReadable_single hparse hsegments hobject]
    exact run_objectReadable hstorage' hc' g
  · rw [run_read_single hparse hsegments hobject]
    exact fair_readSegment hstorage rfl h
  · rw [run_read_single hparse hsegments hobject]
    exact not_fair_readSegment hstorage rfl h hbody
  · rw [run_isWriteable_single hparse hsegments hobject]
    exact run_objectWriteable hstorage' hc' g
  · rw [run_write_single hparse hsegments hobject]
    exact fair_writeSegment hstorage rfl h v
  · obtain ⟨v, hv⟩ := exists_not_fair_writeSegment (r := r) hstorage rfl h hbody
    refine ⟨v, ?_⟩
    rw [run_write_single hparse hsegments hobject]
    exact hv

/-- A class with a setter beside keyed accessors of the same name, one with the keyed accessors alone, and one with
a setter of a whole array alone. -/
def loneAccessors : ClassGraph :=
  let keyed : List Method := [.entryGetter 0 "p" .text "q", .entrySetter 0 "p" .text "q" none]
  let classes : List Class := [
    ⟨"Tagged", true, false, none, [], .setter 0 "p" .text "p" none :: keyed, true, false, [], false⟩,
    ⟨"Keyed", true, false, none, [], keyed, true, false, [], false⟩,
    ⟨"Filled", true, false, none, [], [.setter 2 "p" (.array .text) "p" none], true, false, [], false⟩]
  classes.foldl (fun G c => (G.define? c).getD G) .empty

/-- An object of each of the classes. -/
def loneObjects : State loneAccessors :=
  ⟨⟨.empty, .empty, .empty, ⟨#[⟨0, .empty, none⟩, ⟨1, .empty, none⟩, ⟨2, .empty, none⟩]⟩, .empty, .empty⟩, .empty⟩

theorem all_keyedReader : (loneAccessors.keyedReader? 0 "p").all (fun m => m.arity == 1 &&
    match m.body with
    | some (.getEntry owner _) => loneAccessors.exposes 0 owner
    | _ => false) = true := by decide +kernel

theorem exists_invoke_keyedReader (hm : loneAccessors.keyedReader? 0 "p" = some m) (key : String) (H : Heap)
    (hc : (H.get o).cls = 0) : ∃ a, m.invoke loneAccessors o [.text key] H = .ok a := by
  have hgetter := all_keyedReader
  rw [hm, Option.all_some, Bool.and_eq_true_iff, beq_iff_eq] at hgetter
  obtain ⟨harity, hbody⟩ := hgetter
  unfold Method.invoke
  split at hbody
  · rename_i owner field hm
    rw [hm]
    dsimp only
    rw [if_pos (by rw [harity]; rfl), Method.run]
    have hexposing : Method.exposing loneAccessors H o owner = .ok () := by
      rw [Method.exposing, hc]
      exact if_pos hbody
    rw [hexposing]
    cases H.field o field <;> exact ⟨_, rfl⟩
  · cases hbody

/-- A getter of entries beside a setter answers, though the answer is that the property cannot be read. -/
theorem questions_agree_with_access_beside : ∃ answer,
    (∃ s₁, ExceptT.run (isReadable ⟨0⟩ (.object ⟨0⟩) "p(k)") loneObjects = (.ok answer, s₁)) ∧
    ¬ Fair answer (ExceptT.run (read ⟨0⟩ (.object ⟨0⟩) "p(k)") loneObjects).1 := by
  have hparse : Path.parse "p(k)" = .ok ⟨[⟨"p", .key "k"⟩], by simp⟩ := rfl
  obtain ⟨⟨answer, hanswer, -, hunfair⟩, -⟩ :=
    questions_agree_with_access (G := loneAccessors) ⟨0⟩ loneObjects ⟨0⟩ "p(k)" _ _ hparse rfl rfl
  have hmisreads : loneAccessors.misreads 0 ⟨"p", .key "k"⟩ = true := by decide +kernel
  exact ⟨answer, hanswer loneObjects rfl rfl, hunfair hmisreads fun _ hm => exists_invoke_keyedReader hm⟩

/-- The answers are not always fair: an entry is read, though the answer is no; a keyed property cannot be read
without a key, and an element of one with a setter of the whole only cannot be written, though the answer is yes. -/
theorem questions_disagree_with_access :
    (∃ s₁ v s₂, ExceptT.run (isReadable ⟨0⟩ (.object ⟨0⟩) "p(k)") loneObjects = (.ok false, s₁) ∧
      ExceptT.run (read ⟨0⟩ (.object ⟨0⟩) "p(k)") loneObjects = (.ok v, s₂)) ∧
    (∃ s₁ e s₂, ExceptT.run (isReadable ⟨0⟩ (.object ⟨1⟩) "p") loneObjects = (.ok true, s₁) ∧
      ExceptT.run (read ⟨0⟩ (.object ⟨1⟩) "p") loneObjects = (.error e, s₂) ∧ e.isMissing = true) ∧
    (∃ s₁ e s₂, ExceptT.run (isWriteable ⟨0⟩ (.object ⟨2⟩) "p[0]") loneObjects = (.ok true, s₁) ∧
      ExceptT.run (write ⟨0⟩ (.object ⟨2⟩) "p[0]" (.text "x")) loneObjects = (.error e, s₂) ∧ e.isMissing = true) := by
  have hobject (o : Handle .object) : Value.object o ≠ .null := nofun
  refine ⟨?_, ?_, ?_⟩
  · have hparse : Path.parse "p(k)" = .ok ⟨[⟨"p", .key "k"⟩], by simp⟩ := rfl
    have hanswer : loneAccessors.answersReadable 0 ⟨"p", .key "k"⟩ = false := by decide +kernel
    have hread : ((loneAccessors.descriptor? 0 "p").bind Descriptor.read).isNone = true := by decide +kernel
    have hkeyed : (loneAccessors.keyedReader? 0 "p").isSome = true := by decide +kernel
    obtain ⟨m, hm⟩ := Option.isSome_iff_exists.mp hkeyed
    obtain ⟨s₁, hasked⟩ := run_objectReadable (r := ⟨0⟩) (s := loneObjects) (o := ⟨0⟩) rfl rfl ⟨"p", .key "k"⟩
    obtain ⟨s₂, hheap, hrun⟩ := run_readObjectEntry_of_keyed (r := ⟨0⟩) (s := loneObjects) (o := ⟨0⟩) "k" rfl
      (Option.isNone_iff_eq_none.mp hread) hm
    obtain ⟨⟨v, H⟩, hv⟩ := exists_invoke_keyedReader (o := ⟨0⟩) hm "k" s₂.heap (hheap ▸ rfl)
    rw [run_isReadable_single hparse rfl (hobject _), run_read_single hparse rfl (hobject _)]
    exact ⟨s₁, v, _, hanswer ▸ hasked, hrun.trans (Op.run_tryChange_of_ok s₂ hv)⟩
  · have hparse : Path.parse "p" = .ok ⟨[⟨"p", .none⟩], by simp⟩ := rfl
    have hanswer : loneAccessors.answersReadable 1 ⟨"p", .none⟩ = true := by decide +kernel
    have hread : ((loneAccessors.descriptor? 1 "p").bind Descriptor.read).isNone = true := by decide +kernel
    obtain ⟨s₁, hasked⟩ := run_objectReadable (r := ⟨0⟩) (s := loneObjects) (o := ⟨1⟩) rfl rfl ⟨"p", .none⟩
    obtain ⟨e, s₂, hrun, hmissing⟩ := run_readObject_of_none (r := ⟨0⟩) (s := loneObjects) (o := ⟨1⟩) rfl rfl
      (Option.isNone_iff_eq_none.mp hread)
    rw [run_isReadable_single hparse rfl (hobject _), run_read_single hparse rfl (hobject _)]
    exact ⟨s₁, e, s₂, hanswer ▸ hasked, hrun, hmissing⟩
  · have hparse : Path.parse "p[0]" = .ok ⟨[⟨"p", .index 0⟩], by simp⟩ := rfl
    have hmiswrites : loneAccessors.miswrites 2 ⟨"p", .index 0⟩ = true := by decide +kernel
    obtain ⟨s₁, hasked⟩ := run_objectWriteable (r := ⟨0⟩) (s := loneObjects) (o := ⟨2⟩) rfl rfl ⟨"p", .index 0⟩
    obtain ⟨e, s₂, hrun, hmissing⟩ := run_writeObjectElement_of_miswrites (r := ⟨0⟩) (s := loneObjects) (o := ⟨2⟩)
      (v := .text "x") rfl hmiswrites
    rw [run_isWriteable_single hparse rfl (hobject _), run_write_single hparse rfl (hobject _)]
    exact ⟨s₁, e, s₂, ClassGraph.answersWriteable_of_miswrites hmiswrites ▸ hasked, hrun, hmissing⟩

end Resolver

end ObjectGraph
