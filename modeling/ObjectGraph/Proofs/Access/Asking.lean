import ObjectGraph.Proofs.Access.Atomicity
import ObjectGraph.Proofs.Access.Single
import ObjectGraph.Proofs.Object.Outcome
import ObjectGraph.Proofs.Record.Agreement

/-!
Questions about properties.  The last segment of a path is only looked at, but those before it are read, and what is
read from a growing record may be declared, filled or lengthened first.  So a question changes what reading the path
without its last segment changes, and nothing else.
-/

namespace ObjectGraph

open Op

/-! ### Entries of objects -/

namespace Heap
variable (G : ClassGraph) (H : Heap) (o : Handle .object)

/-- What an object has stored under a name. -/
def storedAt (name : String) : Except Error Value :=
  match H.storedEntry? o name with
  | some v => .ok v
  | none => .error (.unknownProperty name (G.nameOf (H.get o).cls))

/-- What a segment leads to if the class of an object has no accessor of its name: an entry, or something in one. -/
def entryAt (g : Segment) : Except Error Value :=
  match g.subscript with
  | .none => H.storedAt G o g.name
  | .index i =>
    if g.name.isEmpty then .error (.notIndexed (G.nameOf (H.get o).cls))
    else H.storedAt G o g.name >>= H.elementOf g.name i
  | .key key =>
    if g.name.isEmpty then H.entry (G.nameOf (H.get o).cls) key (.object o)
    else H.storedAt G o g.name >>= H.entryOf g.name key

/-- The type of an answer, if it is one and is not null. -/
def tyOfAnswer? : Except Error Value → Option Ty
  | .ok v => if v.isNull then none else some (H.typeOf v)
  | .error _ => none

/-- The type that an object has for a segment: the one that its accessors declare, or else that of the entry which
the segment leads to. -/
def ownTy (g : Segment) : Except Error (Option Ty) :=
  match G.descriptor? (H.get o).cls g.name, g.subscript with
  | some d, .none => .ok d.ty?
  | some d, .index _ => .ok d.elementTy?
  | some _, .key _ => .ok (some .any)
  | none, _ => (G.keyed? (H.get o).cls g.name).map fun k? =>
    match k? with
    | some k => some k.valueTy
    | none => H.tyOfAnswer? (H.entryAt G o g)

end Heap

namespace Resolver
variable {G : ClassGraph} {r : Resolver} {s : State G} {o : Handle .object} {t : Value} {g : Segment} {name : String}

/-- What is made of an entry, if there is one. -/
theorem outcome_read_storedEntry {s₁ : State G} {k : Value → Op G Value} (f : Heap → Value → Except Error Value)
    (hheap : s₁.heap = s.heap) (hk : ∀ v, outcome (k v) s₁ = (f s₁.heap v, s₁.heap)) :
    outcome (Op.read (fun H => H.storedEntry? o name) >>= fun v? =>
        match v? with
        | some v => k v
        | none => throw (unreadable (G := G) false (s.heap.get o).cls name)) s₁ =
      (s.heap.storedAt G o name >>= f s.heap, s.heap) := by
  rw [outcome_of_run_eq (run_bind_of_ok (Op.run_read s₁ _)), hheap, Heap.storedAt]
  cases s.heap.storedEntry? o name with
  | some v => exact (hk v).trans (congrArg (fun H => (f H v, H)) hheap)
  | none => exact (outcome_of_run (run_throw s₁ _)).trans (congrArg (_, ·) hheap)

/-- Without an accessor of the name, reading looks at the entries. -/
theorem outcome_readSegment_of_no_accessor (hd : G.descriptor? (s.heap.get o).cls g.name = none)
    (hk : G.keyed? (s.heap.get o).cls g.name = .ok none) :
    outcome (r.readSegment (.object o) g) s = (s.heap.entryAt G o g, s.heap) := by
  obtain ⟨name, sub⟩ := g
  obtain ⟨s₁, hheap₁, hds⟩ := run_descriptors r (s.heap.get o).cls s
  obtain ⟨s₂, hheap₂, hkeyed⟩ := run_keyed_eq r (s.heap.get o).cls name s₁
  have hheap := hheap₂.trans hheap₁
  have hclass {α : Type} (k : ClassId → Op G α) :
      outcome (classOf o >>= k) s = outcome (k (s.heap.get o).cls) s :=
    outcome_of_run_eq (run_bind_of_ok (Op.run_read s _))
  rw [ClassGraph.descriptor?] at hd
  rw [hk] at hkeyed
  cases sub with
  | none =>
    change outcome (r.readObject o name) s = (s.heap.storedAt G o name, s.heap)
    rw [readObject, hclass, outcome_of_run_eq (run_bind_of_ok hds), hd]
    refine (outcome_read_storedEntry (fun _ => pure) hheap₁ fun v => outcome_of_run (run_pure s₁ v)).trans ?_
    rw [bind_pure]
  | index i =>
    change outcome (r.readObjectElement o name i) s = _
    rw [readObjectElement, hclass, Heap.entryAt]
    dsimp only
    split
    · exact outcome_of_run (run_throw s _)
    · rw [outcome_of_run_eq (run_bind_of_ok hds), hd]
      dsimp only
      rw [outcome_of_run_eq (run_bind_of_ok hkeyed)]
      exact outcome_read_storedEntry (fun H => H.elementOf name i) hheap fun v => outcome_of_run (run_tryRead s₂ _)
  | key key =>
    change outcome (r.readObjectEntry o name key) s = _
    rw [readObjectEntry, hclass, Heap.entryAt]
    dsimp only
    split
    · exact outcome_of_run (run_tryRead s _)
    · rw [outcome_of_run_eq (run_bind_of_ok hds), hd]
      dsimp only [Option.bind_none]
      rw [outcome_of_run_eq (run_bind_of_ok hkeyed)]
      exact outcome_read_storedEntry (fun H => H.entryOf name key) hheap fun v => outcome_of_run (run_tryRead s₂ _)

theorem outcome_typeByValue (r : Resolver) (t : Value) (g : Segment) (s : State G) :
    outcome (r.typeByValue t g) s =
      (.ok ((outcome (r.readSegment t g) s).2.tyOfAnswer? (outcome (r.readSegment t g) s).1),
        (outcome (r.readSegment t g) s).2) := by
  rw [typeByValue, outcome_of_run_eq (run_bind_of_ok (run_attempt s _))]
  rcases hrun : ExceptT.run (r.readSegment t g : Op G Value) s with ⟨e | v, s₁⟩ <;>
    rw [outcome_of_run hrun]
  · exact outcome_of_run (run_pure s₁ _)
  · cases hv : v.isNull <;> simp only [Heap.tyOfAnswer?, hv] <;> rfl

theorem outcome_objectTy (r : Resolver) (o : Handle .object) (g : Segment) (s : State G) :
    outcome (r.objectTy o g) s = (s.heap.ownTy G o g, s.heap) := by
  obtain ⟨s₁, hheap₁, hds⟩ := run_descriptors r (s.heap.get o).cls s
  obtain ⟨s₂, hheap₂, hkeyed⟩ := run_keyed_eq r (s.heap.get o).cls g.name s₁
  have hheap := hheap₂.trans hheap₁
  rw [objectTy, classOf, outcome_of_run_eq (run_bind_of_ok (Op.run_read s _)),
    outcome_of_run_eq (run_bind_of_ok hds), Heap.ownTy, ClassGraph.descriptor?]
  cases hd : findDescriptor? (G.descriptors (s.heap.get o).cls) g.name with
  | some d => cases g.subscript <;> exact (outcome_of_run (run_pure s₁ _)).trans (congrArg (_, ·) hheap₁)
  | none =>
    dsimp only
    cases hk : G.keyed? (s.heap.get o).cls g.name with
    | error e =>
      rw [hk] at hkeyed
      exact (outcome_of_run (run_bind_of_error hkeyed)).trans (congrArg (_, ·) hheap)
    | ok k? =>
      rw [hk] at hkeyed
      rw [outcome_of_run_eq (run_bind_of_ok hkeyed)]
      cases k? with
      | some k => exact (outcome_of_run (run_pure s₂ _)).trans (congrArg (_, ·) hheap)
      | none =>
        have hentry := outcome_readSegment_of_no_accessor (r := r) (s := s₂) (g := g) (o := o)
          (by rw [hheap, ClassGraph.descriptor?, hd]) (by rw [hheap, hk])
        refine (outcome_typeByValue r (.object o) g s₂).trans ?_
        rw [hentry, hheap]
        rfl

/-! ### Looking at a segment -/

/-- Reading from a map changes nothing. -/
theorem asks_readSegment_map (r : Resolver) (m : Handle .map) (g : Segment) :
    Asks (r.readSegment (.map m) g : Op G Value) := by
  unfold readSegment
  split
  · exact .read _
  · exact .ite (.tryRead _) (.tryRead _)
  · exact .ite (.tryRead _) (.tryRead _)

theorem asks_segmentTy (r : Resolver) (t : Value) (g : Segment) : Asks (r.segmentTy t g : Op G (Option Ty)) := by
  cases t with
  | record h => exact .bind (.read _) fun p? => .pure _
  | map m =>
    intro s
    have htype := congrArg Prod.snd (outcome_typeByValue r (.map m) g s)
    exact htype.trans (asks_readSegment_map r m g s)
  | object o => exact fun s => congrArg Prod.snd (outcome_objectTy r o g s)
  | _ => exact .pure _

theorem asks_segmentReadable (r : Resolver) (t : Value) (g : Segment) : Asks (r.segmentReadable t g : Op G Bool) := by
  cases t with
  | record h =>
    refine .bind (.read _) fun record => ?_
    split
    · exact .read _
    · exact .pure _
    · exact .ite (.pure _) (asks_objectReadable _ _ _)
  | object o => exact asks_objectReadable r o g
  | _ => exact .pure _

theorem asks_segmentWriteable (r : Resolver) (t : Value) (g : Segment) :
    Asks (r.segmentWriteable t g : Op G Bool) := by
  cases t with
  | record h =>
    refine .bind (.read _) fun record => ?_
    split
    · exact .read _
    · exact .read _
    · exact .ite (.pure _) (asks_objectWriteable _ _ _)
  | object o => exact asks_objectWriteable r o g
  | _ => exact .pure _

end Resolver

/-- A question about the property at a path. -/
inductive Question
  | readable
  | writeable
  | ty
  | descriptor

namespace Question
variable {G : ClassGraph} {r : Resolver} {s : State G} {t : Value} {path : String} {p : Path}

open Resolver

/-- Asks a question, and leaves the answer alone. -/
def ask (r : Resolver) (t : Value) (path : String) : Question → Op G Unit
  | .readable => do let _ ← r.isReadable t path
  | .writeable => do let _ ← r.isWriteable t path
  | .ty => do let _ ← r.propertyTy t path
  | .descriptor => do let _ ← r.propertyDescriptor? t path

/-- A question looks for the owner of the property, and then changes nothing. -/
theorem heap_ask (q : Question) : (outcome (q.ask r t path) s).2 = (outcome (r.owner t path) s).2 := by
  cases q with
  | readable =>
    refine (Asks.heap_bind fun _ => .pure ()).trans ((Asks.heap_bind fun a => ?_).trans rfl)
    split
    · exact asks_segmentReadable r _ _
    · exact .pure false
  | writeable =>
    refine (Asks.heap_bind fun _ => .pure ()).trans ((Asks.heap_bind fun a => ?_).trans rfl)
    split
    · exact asks_segmentWriteable r _ _
    · exact .pure false
  | ty => exact (Asks.heap_bind fun _ => .pure ()).trans (Asks.heap_bind fun a => asks_segmentTy r a.1 a.2)
  | descriptor =>
    refine (Asks.heap_bind fun _ => .pure ()).trans (Asks.heap_bind fun a => ?_)
    dsimp only
    split
    · exact .bind (.read _) fun c => .bind (asks_descriptors r c) fun ds => .pure _
    · exact .pure none

end Question

namespace Resolver
variable {G : ClassGraph} {r : Resolver} {s : State G} {t : Value} {path : String} {p : Path}

/-! ### The way to the last segment -/

/-- What is changed on the way does not depend on how it is named. -/
theorem heap_walk (full full' : String) (passed passed' gs : List Segment) (t : Value) (s : State G) :
    (outcome (r.walk full passed t gs) s).2 = (outcome (r.walk full' passed' t gs) s).2 := by
  induction gs generalizing passed passed' t s with
  | nil => rfl
  | cons g gs ih =>
    cases ht : t.isNull with
    | true => rw [outcome_of_run (run_walk_cons_of_null ht), outcome_of_run (run_walk_cons_of_null ht)]
    | false =>
      rw [walk_cons ht, walk_cons ht]
      rcases hg : ExceptT.run (r.readSegment t g : Op G Value) s with ⟨e | u, s₁⟩
      · rw [outcome_of_run (run_bind_of_error hg), outcome_of_run (run_bind_of_error hg)]
      · rw [outcome_of_run_eq (run_bind_of_ok hg), outcome_of_run_eq (run_bind_of_ok hg)]
        exact ih _ _ u s₁

theorem heap_owner (hparse : Path.parse path = .ok p) (ht : t ≠ .null) :
    (outcome (r.owner t path) s).2 = (outcome (r.walk path [] t p.parents) s).2 := by
  rw [outcome_of_run_eq (run_owner hparse ht)]
  exact Asks.heap_bind fun u => .ite (.throw _) (.pure _)

/-- To look for the owner is to read the path without its last segment. -/
theorem heap_owner_eq_read (hparse : Path.parse path = .ok p) (hsize : 2 ≤ p.size) :
    (outcome (r.owner t path) s).2 = (outcome (r.read t (p.textOfFirst (p.size - 1))) s).2 := by
  by_cases ht : t = .null
  · subst ht
    rfl
  · have hfirst := run_read_first (r := r) (s := s) hparse (n := p.size - 1) (by omega) ht
    have hparents : p.segments.take (p.size - 1) = p.parents := List.dropLast_eq_take.symm
    rw [heap_owner hparse ht, outcome_of_run_eq hfirst, hparents]
    exact heap_walk _ _ _ _ _ _ _

end Resolver

/-! ### Segments that are read without making anything -/

theorem ClassGraph.heap_defaultValue {G : ClassGraph} {t : Ty} {H : Heap} (h : (G.defaultValue t H).1 = .null) :
    (G.defaultValue t H).2 = H := by
  cases t with
  | primitive p => rfl
  | object c =>
    simp only [defaultValue] at h ⊢
    cases hc : G.instantiate c H with
    | error e => rfl
    | ok made =>
      rw [hc] at h
      cases h
  | list | map | array | record => cases h
  | _ => rfl

/-- Whether an operation leaves all cells as they are, and the whole state if it succeeds. -/
def Op.Spares {G : ClassGraph} (x : Op G Value) (s : State G) : Prop :=
  ∃ res s', ExceptT.run x s = (res, s') ∧ s.heap.OnlyAdds s'.heap ∧ ∀ u, res = .ok u → s' = s

theorem Op.Spares.of_run {G : ClassGraph} {x : Op G Value} {s : State G} {res : Except Error Value}
    (h : ExceptT.run x s = (res, s)) : x.Spares s := ⟨res, s, h, .refl s.heap, fun _ _ => rfl⟩

theorem Op.Spares.of_looks {G : ClassGraph} {x : Op G Value} {s : State G} (h : Looks x s fun _ => True) :
    x.Spares s := by
  obtain ⟨res, hrun, -⟩ := h
  exact .of_run hrun

theorem Op.Spares.of_error {G : ClassGraph} {x : Op G Value} {s s' : State G} {e : Error}
    (h : ExceptT.run x s = (.error e, s')) (hadds : s.heap.OnlyAdds s'.heap) : x.Spares s :=
  ⟨.error e, s', h, hadds, fun _ hu => by cases hu⟩

namespace GrowingRecord

/-- Whether there is nothing to be made in a growing record before a segment of it is read.  By its name, that is so
if it holds something, or has nothing that it is to be filled with, as if it is not declared; with a subscript, if the
property holds something with room for an index; and in a restricted schema, if it is not declared. -/
inductive IsSettled (G : ClassGraph) (g : GrowingRecord) (H : Heap) : Segment → Prop
  | held {name : String} (h : g.stored name H ≠ .null) : IsSettled G g H ⟨name, .none⟩
  | unfilled {name : String} (h : ∀ p, g.property? name H = some p → (G.defaultValue p.ty H).1 = .null) :
    IsSettled G g H ⟨name, .none⟩
  | element {name : String} {p : Property} {v : Value} {i : Nat} (h : g.Holds H name p v)
    (hi : ∀ items, H.items? v = some items → i < items.length) : IsSettled G g H ⟨name, .index i⟩
  | entry {name : String} {p : Property} {v : Value} {key : String} (h : g.Holds H name p v) :
    IsSettled G g H ⟨name, .key key⟩
  | closed {name : String} {sub : Subscript} (h : g.property? name H = none)
    (hclosed : (H.get g.schema).isRestricted = true) : IsSettled G g H ⟨name, sub⟩

variable {G : ClassGraph} {g : GrowingRecord} {s : State G} {name key : String} {i : Nat}

theorem run_read_of_held (h : g.stored name s.heap ≠ .null) :
    ExceptT.run (g.read name : Op G Value) s = (.ok (g.stored name s.heap), s) := by
  simp only [GrowingRecord.read, run_change, Value.isNull_eq_false_iff.mpr h, Bool.false_eq_true, if_false]

/-- What holds nothing, and is not filled either, is read as null. -/
theorem run_read_of_unfilled (h : ∀ p, g.property? name s.heap = some p → (G.defaultValue p.ty s.heap).1 = .null) :
    ∃ v, ExceptT.run (g.read name : Op G Value) s = (.ok v, s) := by
  by_cases hheld : g.stored name s.heap = .null
  · refine ⟨.null, ?_⟩
    simp only [GrowingRecord.read, run_change, hheld, Value.isNull_iff.mpr rfl, if_true]
    cases hp : g.property? name s.heap with
    | none => rfl
    | some p =>
      have hnull := h p hp
      simp only [hnull, Value.isNull_iff.mpr rfl, if_true, ClassGraph.heap_defaultValue hnull]
  · exact ⟨_, run_read_of_held hheld⟩

/-- What is not declared in a restricted schema is not declared by being written. -/
theorem run_write_of_closed (v : Value) (h : g.property? name s.heap = none)
    (hclosed : (s.heap.get g.schema).isRestricted = true) :
    ExceptT.run (g.write name v : Op G Unit) s = (.error (.restrictedSchema (s.heap.get g.schema).name name), s) := by
  rw [GrowingRecord.write, run_bind_of_ok (Op.run_read s _), h]
  dsimp only
  rw [run_bind_of_ok (Op.run_read s _)]
  refine run_bind_of_error ?_
  rw [declare, run_tryWrite, Schema.add_of_restricted hclosed]
  rfl

theorem property?_congr {H H' : Heap} (h : ∀ {k : CellKind} (j : Handle k), H'.get j = H.get j) :
    g.property? name H' = g.property? name H := by
  simp only [property?, values, Heap.stored?, h]
  rfl

/-- No container is made in a property that cannot be declared. -/
theorem run_container_of_closed (blank : Heap → Value × Heap) (hadds : s.heap.OnlyAdds (blank s.heap).2)
    (hsame : ∀ {k : CellKind} (j : Handle k), (blank s.heap).2.get j = s.heap.get j)
    (h : g.property? name s.heap = none) (hclosed : (s.heap.get g.schema).isRestricted = true) :
    ∃ e s', ExceptT.run (g.container name blank : Op G (Property × Value)) s = (.error e, s') ∧
      s.heap.OnlyAdds s'.heap := by
  let s₁ : State G := { s with heap := (blank s.heap).2 }
  have hwrite := run_write_of_closed (s := s₁) (blank s.heap).1 ((property?_congr hsame).trans h)
    (hsame g.schema ▸ hclosed)
  refine ⟨.restrictedSchema (s₁.heap.get g.schema).name name, s₁, ?_, hadds⟩
  rw [container, run_bind_of_ok (Op.run_read s _), h]
  simp only [Option.isNone_none, if_true]
  rw [run_bind_of_ok (run_change s blank)]
  exact run_bind_of_error hwrite

namespace IsSettled

theorem spares_read (h : g.IsSettled G s.heap ⟨name, .none⟩) : (g.read name : Op G Value).Spares s := by
  cases h with
  | held hheld => exact .of_run (run_read_of_held hheld)
  | unfilled hnull =>
    obtain ⟨v, hrun⟩ := run_read_of_unfilled hnull
    exact .of_run hrun
  | closed hnone _ =>
    obtain ⟨v, hrun⟩ := run_read_of_unfilled (G := G) (s := s) fun p hp => by cases hnone.symm.trans hp
    exact .of_run hrun

theorem spares_readElement (h : g.IsSettled G s.heap ⟨name, .index i⟩) :
    (g.readElement name i : Op G Value).Spares s := by
  cases h with
  | element hholds hi => exact .of_run (hholds.run_readElement hi)
  | closed hnone hclosed =>
    obtain ⟨e, s', hrun, hadds⟩ := run_container_of_closed (G := G) (fun H => H.newList [])
      (s.heap.onlyAdds_alloc (k := .list) []) (fun j => s.heap.get_alloc_default .list j) hnone hclosed
    exact .of_error (run_bind_of_error (run_bind_of_error hrun)) hadds

theorem spares_readEntry (h : g.IsSettled G s.heap ⟨name, .key key⟩) :
    (g.readEntry name key : Op G Value).Spares s := by
  cases h with
  | entry hholds => exact .of_run hholds.run_readEntry
  | closed hnone hclosed =>
    obtain ⟨e, s', hrun, hadds⟩ := run_container_of_closed (G := G) (fun H => H.newMap .empty)
      (s.heap.onlyAdds_alloc (k := .map) .empty) (fun j => s.heap.get_alloc_default .map j) hnone hclosed
    exact .of_error (run_bind_of_error (run_bind_of_error hrun)) hadds

end IsSettled

end GrowingRecord

namespace Heap
variable (G : ClassGraph) (H : Heap)

/-- Whether a segment of a value can be read without making anything: it is none of an object, nor of an adapter, and
there is nothing to be made for it in a growing record. -/
def Settled (g : Segment) : Value → Prop
  | .object _ => False
  | .record h =>
    match H.get h with
    | .fixed .. => True
    | .growing S store => (GrowingRecord.ofStore h S store).IsSettled G H g
    | .adapter .. => False
  | _ => True

end Heap

namespace Resolver
variable {G : ClassGraph} {r : Resolver} {s : State G} {t : Value} {path : String} {p : Path} {g : Segment}

theorem spares_record {h : Handle .record} {record : Record} {k : Record → Op G Value}
    (hcell : s.heap.get h = record) (hk : (k record).Spares s) : (Op.read (fun H => H.get h) >>= k).Spares s := by
  obtain ⟨res, s', hrun, hrest⟩ := hk
  refine ⟨res, s', ?_, hrest⟩
  rw [run_bind_of_ok (Op.run_read s _), hcell, hrun]

theorem spares_readSegment_record {h : Handle .record} (hsettled : s.heap.Settled G g (.record h)) :
    (r.readSegment (.record h) g).Spares s := by
  obtain ⟨name, sub⟩ := g
  rw [Heap.Settled] at hsettled
  cases hcell : s.heap.get h with
  | fixed S d => cases sub <;> exact spares_record hcell (.of_run (Op.run_tryRead s _))
  | growing S store =>
    rw [hcell] at hsettled
    cases sub with
    | none => exact spares_record hcell hsettled.spares_read
    | index i => exact spares_record hcell hsettled.spares_readElement
    | key key => exact spares_record hcell hsettled.spares_readEntry
  | adapter S o r' =>
    rw [hcell] at hsettled
    exact hsettled.elim

theorem spares_readSegment (hsettled : s.heap.Settled G g t) : (r.readSegment t g).Spares s := by
  obtain ⟨name, sub⟩ := g
  have htryRead (f : Heap → Except Error Value) : Looks (Op.tryRead f : Op G Value) s fun _ => True :=
    .tryRead fun _ _ => trivial
  cases t with
  | record h => exact spares_readSegment_record hsettled
  | object o => exact hsettled.elim
  | null => cases sub <;> exact .of_looks (.throw _)
  | map m =>
    cases sub with
    | none => exact .of_looks (.read trivial)
    | index i => exact .of_looks (.ite (htryRead _) (htryRead _))
    | key key => exact .of_looks (.ite (htryRead _) (htryRead _))
  | _ =>
    cases sub with
    | none => exact .of_looks (looks_unknown name _)
    | index i => exact .of_looks (.ite (htryRead _) (looks_unknown name _))
    | key key => exact .of_looks (.ite (htryRead _) (looks_unknown name _))

/-- Whether segments can be followed, as far as they lead, without making anything. -/
def Settled (r : Resolver) (s : State G) : Value → List Segment → Prop
  | _, [] => True
  | t, g :: gs =>
    s.heap.Settled G g t ∧ ∀ u, ExceptT.run (r.readSegment t g) s = (.ok u, s) → r.Settled s u gs

theorem onlyAdds_walk {full : String} {passed gs : List Segment} (h : r.Settled s t gs) :
    s.heap.OnlyAdds (outcome (r.walk full passed t gs) s).2 := by
  induction gs generalizing passed t with
  | nil => exact .refl s.heap
  | cons g gs ih =>
    obtain ⟨hsettled, hrest⟩ := h
    cases ht : t.isNull with
    | true =>
      rw [outcome_of_run (run_walk_cons_of_null ht)]
      exact .refl s.heap
    | false =>
      obtain ⟨res, s', hrun, hadds, hsame⟩ := spares_readSegment (r := r) hsettled
      rw [walk_cons ht]
      cases res with
      | error e =>
        rw [outcome_of_run (run_bind_of_error hrun)]
        exact hadds
      | ok u =>
        obtain rfl := hsame u rfl
        rw [outcome_of_run_eq (run_bind_of_ok hrun)]
        exact ih (hrest u hrun)

end Resolver

namespace Question
variable {G : ClassGraph}

open Resolver

/-- A question changes what reading the path without its last segment changes, and nothing else: nothing at all for
null, for a text that is no path and for a path of one segment.  All cells that there were are left as they are if the
segments before the last one can be followed without making anything in a growing record. -/
theorem changes_what_reading_does (r : Resolver) (s : State G) (t : Value) (path : String) (q : Question) :
    (t = .null ∨ (∀ p, Path.parse path = .ok p → p.size = 1) → (outcome (q.ask r t path) s).2 = s.heap) ∧
    ∀ p, Path.parse path = .ok p → 2 ≤ p.size →
      (outcome (q.ask r t path) s).2 = (outcome (r.read t (p.textOfFirst (p.size - 1))) s).2 ∧
      (r.Settled s t p.parents → s.heap.OnlyAdds (outcome (q.ask r t path) s).2) := by
  rw [heap_ask]
  refine ⟨fun h => ?_, fun p hparse hsize => ⟨heap_owner_eq_read hparse hsize, fun hsettled => ?_⟩⟩
  · by_cases ht : t = .null
    · subst ht
      rfl
    · cases hparse : Path.parse path with
      | error e => rw [outcome_of_run (run_owner_of_parse_error hparse ht)]
      | ok p =>
        have hsize : p.segments.length = 1 := (h.resolve_left ht) p hparse
        obtain ⟨g, hg⟩ := List.length_eq_one_iff.mp hsize
        rw [outcome_of_run (run_owner_single hparse hg ht)]
  · by_cases ht : t = .null
    · subst ht
      exact .refl s.heap
    · rw [heap_owner hparse ht]
      exact onlyAdds_walk hsettled

/-- A property that is not declared is asked for without being declared. -/
theorem changes_what_reading_does_undeclared :
    oneGrowing.heap.OnlyAdds (outcome (readable.ask ⟨0⟩ (.record ⟨0⟩) "a.b") oneGrowing).2 := by
  have hparse : Path.parse "a.b" = .ok ⟨[⟨"a", .none⟩, ⟨"b", .none⟩], by simp⟩ := rfl
  refine ((changes_what_reading_does ⟨0⟩ oneGrowing (.record ⟨0⟩) "a.b" .readable).2 _ hparse (by decide)).2 ⟨?_, ?_⟩
  · exact .unfilled fun p hp => by cases hp
  · exact fun u _ => trivial

/-- To ask whether there is something in an element may declare a property, and make a list with the element. -/
theorem changes_what_is_asked_for :
    (oneGrowing.heap.get (⟨0⟩ : Handle .schema)).declares "xs" = false ∧
    ((outcome (isReadable ⟨0⟩ (.record ⟨0⟩) "xs[2].y") oneGrowing).2.get (⟨0⟩ : Handle .schema)).declares "xs" = true ∧
    ((outcome (isReadable ⟨0⟩ (.record ⟨0⟩) "xs[2].y") oneGrowing).2.get (⟨0⟩ : Handle .list)).length = 3 := by
  decide +kernel

end Question

end ObjectGraph
