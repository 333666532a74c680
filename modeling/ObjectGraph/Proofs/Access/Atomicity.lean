import ObjectGraph.Access.Question
import ObjectGraph.Proofs.Access.Composition
import ObjectGraph.Proofs.Access.Tree
import ObjectGraph.Proofs.Heap

/-!
Failed writes into graphs of maps, lists, arrays and fixed records, in which any containers may be shared.  To
follow a path in such a graph only looks at it, and leads to a part of it again; so whatever goes wrong goes wrong
before the one change that a write makes.
-/

namespace ObjectGraph

theorem Ty.isScalar_zero (t : Ty) : t.zero.isScalar = true := by
  cases t with
  | primitive p => cases p <;> rfl
  | _ => rfl

/-! ### Operations that look, and operations that fail without a trace -/

namespace Op
variable {G : ClassGraph} {α β : Type} {s s' : State G} {x : Op G α} {k : α → Op G β} {Q : α → Prop} {R : β → Prop}

/-- Whether an operation leaves the state as it is, and what is known of its answer, if it has one. -/
def Looks (x : Op G α) (s : State G) (Q : α → Prop) : Prop :=
  ∃ res, ExceptT.run x s = (res, s) ∧ ∀ a, res = .ok a → Q a

/-- Whether an operation leaves the state as it is if it fails. -/
def Atomic (x : Op G α) (s : State G) : Prop := ∀ e s', ExceptT.run x s = (.error e, s') → s' = s

namespace Looks

theorem pure {a : α} (h : Q a) : Looks (Pure.pure a : Op G α) s Q :=
  ⟨.ok a, run_pure s a, fun _ heq => by cases heq; exact h⟩

theorem throw (e : Error) : Looks (MonadExcept.throw e : Op G α) s Q := ⟨.error e, run_throw s e, nofun⟩

theorem read {f : Heap → α} (h : Q (f s.heap)) : Looks (Op.read f : Op G α) s Q :=
  ⟨_, run_read s f, fun _ heq => by cases heq; exact h⟩

theorem tryRead {f : Heap → Except Error α} (h : ∀ a, f s.heap = .ok a → Q a) : Looks (Op.tryRead f : Op G α) s Q :=
  ⟨_, run_tryRead s f, h⟩

theorem bind (hx : Looks x s Q) (hk : ∀ a, Q a → Looks (k a) s R) : Looks (x >>= k) s R := by
  obtain ⟨res, hrun, hanswer⟩ := hx
  cases res with
  | error e => exact ⟨.error e, run_bind_of_error hrun, nofun⟩
  | ok a =>
    obtain ⟨res', hrun', hanswer'⟩ := hk a (hanswer a rfl)
    exact ⟨res', (run_bind_of_ok hrun).trans hrun', hanswer'⟩

theorem ite {c : Prop} [Decidable c] {y : Op G α} (hx : Looks x s Q) (hy : Looks y s Q) :
    Looks (if c then x else y) s Q := by
  split
  · exact hx
  · exact hy

theorem attempt (hx : Looks x s Q) : Looks (Op.attempt x) s fun res => ∀ a, res = .ok a → Q a := by
  obtain ⟨res, hrun, hanswer⟩ := hx
  refine ⟨.ok res, ?_, fun _ heq => by cases heq; exact hanswer⟩
  rw [run_attempt, hrun]

theorem atomic_bind (hx : Looks x s Q) (hk : ∀ a, Q a → Atomic (k a) s) : Atomic (x >>= k) s := by
  obtain ⟨res, hrun, hanswer⟩ := hx
  intro e s' hfailed
  cases res with
  | error e' =>
    rw [run_bind_of_error hrun] at hfailed
    cases hfailed
    rfl
  | ok a =>
    rw [run_bind_of_ok hrun] at hfailed
    exact hk a (hanswer a rfl) e s' hfailed

theorem atomic (hx : Looks x s Q) : Atomic x s := by
  obtain ⟨res, hrun, -⟩ := hx
  intro e s' hfailed
  cases hrun.symm.trans hfailed
  rfl

end Looks

theorem atomic_tryWrite (f : Heap → Except Error Heap) : Atomic (Op.tryWrite f : Op G Unit) s := by
  intro e s' hfailed
  rw [run_tryWrite] at hfailed
  split at hfailed <;> cases hfailed
  rfl

theorem Atomic.ite {c : Prop} [Decidable c] {y : Op G α} (hx : Atomic x s) (hy : Atomic y s) :
    Atomic (if c then x else y) s := by
  split
  · exact hx
  · exact hy

theorem atomic_throw (e : Error) : Atomic (throw e : Op G α) s := (Looks.throw (Q := fun _ => True) e).atomic

theorem atomic_write (f : Heap → Heap) : Atomic (Op.write f : Op G Unit) s := by
  intro e s' hfailed
  cases hfailed

end Op

/-! ### Plain graphs -/

namespace Heap
variable {H H' : Heap} {u v w : Value} {property key : String} {i : Nat}

/-- Whether a value is a scalar, a map, a list, an array, or a fixed record of the heap. -/
def IsPlain (H : Heap) : Value → Prop
  | .object _ => False
  | .record h => H.Has h ∧ ∃ S d, H.get h = .fixed S d
  | _ => True

/-- Whether a value and all that it holds, directly or through others, are plain. -/
def Plain (H : Heap) (v : Value) : Prop := ∀ u, H.Reaches v u → H.IsPlain u

theorem IsPlain.of_onlyAdds (h : H.IsPlain v) (hadds : H.OnlyAdds H') : H'.IsPlain v := by
  cases v with
  | object o => exact h
  | record r =>
    obtain ⟨hhas, S, d, hcell⟩ := h
    exact ⟨hadds.has hhas, S, d, (hadds.same hhas).trans hcell⟩
  | _ => trivial

theorem Plain.isPlain (h : H.Plain v) : H.IsPlain v := h v .refl

theorem Plain.of_mem (h : H.Plain v) (hu : u ∈ H.held v) : H.Plain u := fun _ hw => h _ (.head hu hw)

theorem plain_of_isScalar (h : v.isScalar = true) : H.Plain v := by
  intro u hu
  obtain rfl | ⟨w, hw, -⟩ := hu.cases_head
  · cases v <;> trivial
  · rw [Spans.held_of_scalar h] at hw
    cases hw

theorem plain_null : H.Plain .null := plain_of_isScalar rfl

/-! ### Elements and entries -/

theorem mem_held_of_items? {items : List Value} (h : H.items? v = some items) (hu : u ∈ items) : u ∈ H.held v := by
  cases v <;> cases h <;> exact hu

theorem plain_element (h : H.Plain v) (hw : H.element property i v = .ok w) : H.Plain w := by
  unfold element at hw
  split at hw
  · cases hw
  · rename_i items hitems
    split at hw
    · rename_i u hu
      cases hw
      exact h.of_mem (mem_held_of_items? hitems (List.mem_of_getElem? hu))
    · cases hw

theorem plain_elementOf (h : H.Plain v) (hw : H.elementOf property i v = .ok w) : H.Plain w := by
  obtain ⟨c, hc, hw⟩ := bind_eq_ok.mp hw
  unfold Value.subscripted at hc
  split at hc <;> cases hc
  exact plain_element h hw

/-- What a dictionary answers is null, or one of the values in it. -/
theorem plain_get? {d : Dict Value} (h : ∀ u ∈ d.entries.map Prod.snd, H.Plain u) (key : String) :
    H.Plain ((d.get? key).getD .null) := by
  cases hkey : d.get? key with
  | none => exact plain_null
  | some u => exact h u (List.mem_map.mpr ⟨_, Dict.mem_of_get? hkey, rfl⟩)

theorem plain_entry (h : H.Plain v) (hw : H.entry property key v = .ok w) : H.Plain w := by
  obtain ⟨d, hd, hw⟩ := bind_eq_ok.mp hw
  cases hw
  cases v with
  | map m =>
    cases hd
    exact plain_get? (fun _ hu => h.of_mem hu) key
  | object o => exact absurd h.isPlain id
  | _ => cases hd

theorem plain_entryOf (h : H.Plain v) (hw : H.entryOf property key v = .ok w) : H.Plain w := by
  obtain ⟨c, hc, hw⟩ := bind_eq_ok.mp hw
  unfold Value.subscripted at hc
  split at hc <;> cases hc
  exact plain_entry h hw

theorem plain_mapEntry {m : Handle .map} (h : H.Plain (.map m)) (name : String) :
    H.Plain (Resolver.mapEntry m name H) := plain_get? (fun _ hu => h.of_mem hu) name

/-- What a fixed record shows is a scalar, or one of the values in it. -/
theorem plain_of_read {r : Handle .record} {S : Handle .schema} {T : Schema} {d : Dict Value} {name : String}
    (h : H.Plain (.record r)) (hcell : H.get r = .fixed S d) (hw : FixedRecord.read T d name = .ok w) :
    H.Plain w := by
  obtain ⟨p, -, hw⟩ := bind_eq_ok.mp hw
  cases hw
  have hheld : H.held (.record r) = d.entries.map Prod.snd := by rw [held, hcell]
  split
  · exact plain_of_isScalar (Ty.isScalar_zero p.ty)
  · exact plain_get? (fun _ hu => h.of_mem (hheld ▸ hu)) name

end Heap

namespace Resolver
variable {G : ClassGraph} {r : Resolver} {s : State G} {t v : Value} {g : Segment}

/-! ### Looking at a plain graph -/

theorem looks_unknown {α : Type} {Q : α → Prop} (name : String) (t : Value) :
    Op.Looks (unknown name t : Op G α) s Q := .bind (.read (Q := fun _ => True) trivial) fun _ _ => .throw _

/-- What is done with a record of a plain graph is what is done with a fixed one. -/
theorem looks_record {j : Handle .record} {k : Record → Op G Value} (h : s.heap.Plain (.record j))
    (hk : ∀ S d, s.heap.get j = .fixed S d → Op.Looks (k (.fixed S d)) s s.heap.Plain) :
    Op.Looks (Op.read (fun H => H.get j) >>= k) s s.heap.Plain := by
  obtain ⟨-, S, d, hcell⟩ := h.isPlain
  refine .bind (.read (Q := (· = .fixed S d)) hcell) ?_
  rintro _ rfl
  exact hk S d hcell

theorem looks_readName (h : s.heap.Plain t) (name : String) : Op.Looks (r.readName t name) s s.heap.Plain := by
  cases t with
  | null => exact .throw _
  | object o => exact absurd h.isPlain id
  | record j => exact looks_record h fun S d hcell => .tryRead fun _ => Heap.plain_of_read h hcell
  | map m => exact .read (Heap.plain_mapEntry h name)
  | _ => exact looks_unknown name _

theorem looks_readElement (h : s.heap.Plain t) (name : String) (i : Nat) :
    Op.Looks (r.readElement t name i) s s.heap.Plain := by
  cases t with
  | null => exact .throw _
  | object o => exact absurd h.isPlain id
  | record j =>
    refine looks_record h fun S d hcell => .tryRead fun w hw => ?_
    obtain ⟨c, hc, hw⟩ := bind_eq_ok.mp hw
    exact Heap.plain_elementOf (Heap.plain_of_read h hcell hc) hw
  | map m =>
    refine .ite (.tryRead fun _ => Heap.plain_element h) (.tryRead fun _ hw => ?_)
    exact Heap.plain_elementOf (Heap.plain_mapEntry h name) hw
  | _ => exact .ite (.tryRead fun _ => Heap.plain_element h) (looks_unknown name _)

theorem looks_readEntry (h : s.heap.Plain t) (name key : String) :
    Op.Looks (r.readEntry t name key) s s.heap.Plain := by
  cases t with
  | null => exact .throw _
  | object o => exact absurd h.isPlain id
  | record j =>
    refine looks_record h fun S d hcell => .tryRead fun w hw => ?_
    obtain ⟨c, hc, hw⟩ := bind_eq_ok.mp hw
    exact Heap.plain_entryOf (Heap.plain_of_read h hcell hc) hw
  | map m =>
    refine .ite (.tryRead fun _ => Heap.plain_entry h) (.tryRead fun _ hw => ?_)
    exact Heap.plain_entryOf (Heap.plain_mapEntry h name) hw
  | _ => exact .ite (.tryRead fun _ => Heap.plain_entry h) (looks_unknown name _)

theorem looks_readSegment (h : s.heap.Plain t) (g : Segment) : Op.Looks (r.readSegment t g) s s.heap.Plain := by
  unfold readSegment
  split
  · exact looks_readName h _
  · exact looks_readElement h _ _
  · exact looks_readEntry h _ _

/-- A path stays in the graph, so it is followed without a change. -/
theorem looks_walk (h : s.heap.Plain t) (full : String) (passed gs : List Segment) :
    Op.Looks (r.walk full passed t gs) s s.heap.Plain := by
  induction gs generalizing passed t with
  | nil => exact .pure h
  | cons g gs ih =>
    rw [walk]
    exact .ite (.throw _) ((looks_readSegment h g).bind fun u hu => ih hu _)

theorem looks_owner (h : s.heap.Plain t) (path : String) :
    Op.Looks (r.owner t path) s fun a => s.heap.Plain a.1 := by
  unfold owner
  refine .ite (.throw _) (.bind (.tryRead (Q := fun _ => True) fun _ _ => trivial) fun p _ => ?_)
  exact (looks_walk h _ _ _).bind fun u hu => .ite (.throw _) (.pure hu)

/-- The type of a property is asked without a change. -/
theorem looks_segmentTy (h : s.heap.Plain t) (g : Segment) :
    Op.Looks (r.segmentTy t g) s fun _ => True := by
  cases t with
  | object o => exact absurd h.isPlain id
  | record j => exact .bind (.read (Q := fun _ => True) trivial) fun _ _ => .pure trivial
  | map m =>
    refine (looks_readSegment h g).attempt.bind fun res _ => ?_
    cases res with
    | ok u => exact .ite (.pure trivial) (.read trivial)
    | error e => exact .pure trivial
  | _ => exact .pure trivial

theorem looks_propertyTy (h : s.heap.Plain t) (path : String) :
    Op.Looks (r.propertyTy t path) s fun _ => True :=
  (looks_owner h path).bind fun a ha => looks_segmentTy ha a.2

/-! ### Writing into a plain value -/

theorem atomic_record {j : Handle .record} {k : Record → Op G Unit} (h : s.heap.IsPlain (.record j))
    (hk : ∀ S d, Op.Atomic (k (.fixed S d)) s) : Op.Atomic (Op.read (fun H => H.get j) >>= k) s := by
  obtain ⟨-, S, d, hcell⟩ := h
  refine Op.Looks.atomic_bind (.read (Q := (· = .fixed S d)) hcell) ?_
  rintro _ rfl
  exact hk S d

theorem atomic_unknown (name : String) (t : Value) : Op.Atomic (unknown name t : Op G Unit) s :=
  (looks_unknown (Q := fun _ => True) name t).atomic

theorem atomic_writeName (h : s.heap.IsPlain t) (name : String) (v : Value) :
    Op.Atomic (r.writeName t name v) s := by
  cases t with
  | null => exact Op.atomic_throw _
  | object o => exact absurd h id
  | record j => exact atomic_record h fun _ _ => Op.atomic_tryWrite _
  | map m => exact Op.atomic_write _
  | _ => exact atomic_unknown name _

theorem atomic_writeElement (h : s.heap.IsPlain t) (name : String) (i : Nat) (v : Value) :
    Op.Atomic (r.writeElement t name i v) s := by
  cases t with
  | null => exact Op.atomic_throw _
  | object o => exact absurd h id
  | record j => exact atomic_record h fun _ _ => Op.atomic_tryWrite _
  | map m => exact .ite (Op.atomic_tryWrite _) (Op.atomic_tryWrite _)
  | _ => exact .ite (Op.atomic_tryWrite _) (atomic_unknown name _)

theorem atomic_writeEntry (h : s.heap.IsPlain t) (name key : String) (v : Value) :
    Op.Atomic (r.writeEntry t name key v) s := by
  cases t with
  | null => exact Op.atomic_throw _
  | object o => exact absurd h id
  | record j => exact atomic_record h fun _ _ => Op.atomic_tryWrite _
  | map m => exact .ite (Op.atomic_tryWrite _) (Op.atomic_tryWrite _)
  | _ => exact .ite (Op.atomic_tryWrite _) (atomic_unknown name _)

/-- A write into a plain value makes one change, or fails before it. -/
theorem atomic_writeSegment (h : s.heap.IsPlain t) (g : Segment) (v : Value) :
    Op.Atomic (r.writeSegment t g v) s := by
  unfold writeSegment
  split
  · exact atomic_writeName h _ v
  · exact atomic_writeElement h _ _ v
  · exact atomic_writeEntry h _ _ v

theorem atomic_write (h : s.heap.Plain t) (path : String) (v : Value) : Op.Atomic (r.write t path v) s :=
  (looks_owner h path).atomic_bind fun a ha => atomic_writeSegment ha.isPlain a.2 v

end Resolver

end ObjectGraph
