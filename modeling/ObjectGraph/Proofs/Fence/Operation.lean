import ObjectGraph.Proofs.Fence.Creation

/-!
Operations behind a fence.  Whether or not an operation fails, nothing inside leads outside after it; and if it
succeeds, something is known of its answer.
-/

namespace ObjectGraph.Fence
variable {F : Fence} {G : ClassGraph} {α β : Type} {s : State G} {x y : Op G α} {Q : α → Prop} {R : β → Prop}

/-- Whether a fence still encloses the heap after an operation, also after a failed one, and what is known of the
answer, if there is one. -/
structure Keeps (F : Fence) (s : State G) (x : Op G α) (Q : α → Prop) : Prop where
  encloses : F.Encloses G (ExceptT.run x s).2.heap
  answer : ∀ {a}, (ExceptT.run x s).1 = .ok a → Q a

namespace Keeps

theorem of_run {t : State G} (hx : F.Keeps t x Q) (hrun : ExceptT.run y s = ExceptT.run x t) : F.Keeps s y Q where
  encloses := hrun ▸ hx.encloses
  answer ha := hx.answer (hrun ▸ ha)

theorem bind {k : α → Op G β} (hx : F.Keeps s x Q)
    (hk : ∀ {a t}, F.Encloses G t.heap → Q a → F.Keeps t (k a) R) : F.Keeps s (x >>= k) R := by
  obtain ⟨hencloses, hanswer⟩ := hx
  rcases hrun : ExceptT.run x s with ⟨_ | a, t⟩
  · rw [hrun] at hencloses
    have hbind : ExceptT.run (x >>= k) s = _ := Op.run_bind_of_error hrun
    exact ⟨hbind ▸ hencloses, fun ha => by rw [hbind] at ha; cases ha⟩
  · rw [hrun] at hencloses hanswer
    exact (hk hencloses (hanswer rfl)).of_run (Op.run_bind_of_ok hrun)

theorem ite {c : Prop} [Decidable c] (hx : F.Keeps s x Q) (hy : F.Keeps s y Q) :
    F.Keeps s (if c then x else y) Q := by
  split
  · exact hx
  · exact hy

/-- What is read is known exactly. -/
theorem read {f : Heap → α} {k : α → Op G β} (h : F.Keeps s (k (f s.heap)) R) : F.Keeps s (Op.read f >>= k) R :=
  h.of_run (Op.run_bind_of_ok (Op.run_read s f))

end Keeps

namespace Encloses
variable (h : F.Encloses G s.heap)
include h

theorem keeps_pure {a : α} (ha : Q a) : F.Keeps s (pure a) Q := ⟨h, fun heq => by cases heq; exact ha⟩

theorem keeps_throw {e : Error} : F.Keeps s (throw e : Op G α) Q := ⟨h, nofun⟩

theorem keeps_read {f : Heap → α} (ha : Q (f s.heap)) : F.Keeps s (Op.read f) Q :=
  ⟨h, fun heq => by cases heq; exact ha⟩

theorem keeps_tryRead {f : Heap → Except Error α} (hf : ∀ {a}, f s.heap = .ok a → Q a) : F.Keeps s (Op.tryRead f) Q :=
  ⟨h, hf⟩

theorem keeps_tryChange {f : Heap → Except Error (α × Heap)}
    (hf : ∀ {a H}, f s.heap = .ok (a, H) → F.Encloses G H ∧ Q a) : F.Keeps s (Op.tryChange f) Q := by
  rcases hheap : f s.heap with e | ⟨a, H⟩
  · have hrun := Op.run_tryChange_of_error s hheap
    exact ⟨hrun ▸ h, fun ha => by rw [hrun] at ha; cases ha⟩
  · obtain ⟨hH, ha⟩ := hf hheap
    have hrun := Op.run_tryChange_of_ok s hheap
    exact ⟨hrun ▸ hH, fun heq => by rw [hrun] at heq; cases heq; exact ha⟩

theorem keeps_tryWrite {f : Heap → Except Error Heap} (hf : ∀ {H}, f s.heap = .ok H → F.Encloses G H) :
    F.Keeps s (Op.tryWrite f : Op G Unit) fun _ => True := by
  refine h.keeps_tryChange fun {_ H} hchange => ⟨?_, trivial⟩
  cases hheap : f s.heap with
  | error e =>
    rw [hheap] at hchange
    cases hchange
  | ok H =>
    rw [hheap] at hchange
    cases hchange
    exact hf hheap

/-- What is asked of the cache of a resolver is answered without a change. -/
theorem keeps_of_heap {t : State G} {res : Except Error α} (hheap : t.heap = s.heap) (hrun : ExceptT.run x s = (res, t))
    (hres : ∀ {a}, res = .ok a → Q a) : F.Keeps s x Q where
  encloses := by rwa [hrun, hheap]
  answer ha := hres (by rwa [hrun] at ha)

end Encloses

theorem keeps_change {f : Heap → α × Heap} (h : F.Encloses G (f s.heap).2) (ha : Q (f s.heap).1) :
    F.Keeps s (Op.change f) Q := ⟨h, fun heq => by cases heq; exact ha⟩

theorem keeps_write {f : Heap → Heap} (h : F.Encloses G (f s.heap)) :
    F.Keeps s (Op.write f : Op G Unit) fun _ => True := keeps_change h trivial

end ObjectGraph.Fence
