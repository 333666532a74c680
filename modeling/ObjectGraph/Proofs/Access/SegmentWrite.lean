import ObjectGraph.Proofs.Access.SegmentRead

/-!
What one segment of a path writes in a tree: it stores at the last of its steps, in the container that
the others lead to, or fails and changes nothing.
-/

namespace ObjectGraph

namespace Heap
variable {G : ClassGraph} {H H' : Heap} {t u c v : Value} {as steps : List Step} {name k : String} {i : Nat}

/-- Whether one heap is another one with a value stored at the last step, in what the others lead to. -/
def StoredAt (G : ClassGraph) (H : Heap) (t : Value) (steps : List Step) (v : Value) (H' : Heap) : Prop :=
  ∃ before st c old w, steps = before ++ [st] ∧ H.follow? t before = some c ∧ H.slot? c st = some old ∧
    H.Stores G c v w ∧ H' = H.setSlot c st w

theorem StoredAt.after (as : List Step) (h : H.StoredAt G u steps v H') (hu : H.follow? t as = some u) :
    H.StoredAt G t (as ++ steps) v H' := by
  obtain ⟨before, st, c, old, w, rfl, hbefore, hrest⟩ := h
  refine ⟨as ++ before, st, c, old, w, (List.append_assoc ..).symm, ?_, hrest⟩
  rw [follow?_append, hu]
  exact hbefore

theorem storedAt_single (st : Step) {old w : Value} (hold : H.slot? c st = some old) (hw : H.Stores G c v w) :
    H.StoredAt G c [st] v (H.setSlot c st w) :=
  ⟨[], st, c, old, w, rfl, rfl, hold, hw, rfl⟩

theorem replaceAt_eq_ok {w : Value} {items items' : List Value} (h : replaceAt name i w items = .ok items') :
    (∃ old, items[i]? = some old) ∧ items' = items.set i w := by
  unfold replaceAt at h
  split at h
  · rename_i hi
    cases h
    exact ⟨⟨items[i], List.getElem?_eq_getElem hi⟩, rfl⟩
  · cases h

theorem storedAt_of_setElement (h : H.setElement G name i v .any c = .ok H') : H.StoredAt G c [.index i] v H' := by
  cases c with
  | list l =>
    simp only [setElement, coerce_any] at h
    cases hr : replaceAt name i v (H.get l) with
    | error e =>
      simp only [bind, Except.bind, hr] at h
      cases h
    | ok items =>
      simp only [bind, Except.bind, hr, pure, Except.pure] at h
      obtain ⟨⟨old, hold⟩, rfl⟩ := replaceAt_eq_ok hr
      cases h
      exact storedAt_single (.index i) hold rfl
  | array a =>
    simp only [setElement] at h
    cases hc : H.coerce G (H.get a).component name v with
    | error e =>
      simp only [bind, Except.bind, hc] at h
      cases h
    | ok w =>
      cases hr : replaceAt name i w (H.get a).items with
      | error e =>
        simp only [bind, Except.bind, hc, hr] at h
        cases h
      | ok items =>
        simp only [bind, Except.bind, hc, hr, pure, Except.pure] at h
        obtain ⟨⟨old, hold⟩, rfl⟩ := replaceAt_eq_ok hr
        cases h
        exact storedAt_single (.index i) hold fun _ => coerce_of_property hc
  | _ => cases h

theorem storedAt_of_setEntry (hp : c.isPlain = true) (h : H.setEntry name k v c = .ok H') :
    H.StoredAt G c [.key k] v H' := by
  cases c with
  | map m =>
    cases h
    exact storedAt_single (.key k) rfl rfl
  | object o => cases hp
  | _ => cases h

theorem setElementOf_of_ne {elementTy : Ty} (hc : c ≠ .null) :
    H.setElementOf G name i v elementTy c = H.setElement G name i v elementTy c := by
  cases c <;> first | rfl | exact absurd rfl hc

theorem setEntryOf_of_ne (hc : c ≠ .null) : H.setEntryOf name k v c = H.setEntry name k v c := by
  cases c <;> first | rfl | exact absurd rfl hc

theorem storedAt_of_setElementOf (h : H.setElementOf G name i v .any c = .ok H') :
    H.StoredAt G c [.index i] v H' := by
  have hne : c ≠ .null := by
    rintro rfl
    cases h
  rw [setElementOf_of_ne hne] at h
  exact storedAt_of_setElement h

theorem storedAt_of_setEntryOf (hp : c.isPlain = true) (h : H.setEntryOf name k v c = .ok H') :
    H.StoredAt G c [.key k] v H' := by
  have hne : c ≠ .null := by
    rintro rfl
    cases h
  rw [setEntryOf_of_ne hne] at h
  exact storedAt_of_setEntry hp h

end Heap

/-! ### Writes to the state -/

namespace Op
variable {G : ClassGraph} {s : State G} {t u v : Value} {as steps : List Step} {x : Op G Unit}

/-- An operation stores a value where steps lead, or fails and changes nothing. -/
def WritesAt (x : Op G Unit) (s : State G) (t : Value) (steps : List Step) (v : Value) : Prop :=
  (∃ e, ExceptT.run x s = (.error e, s)) ∨
    ∃ H, s.heap.StoredAt G t steps v H ∧ ExceptT.run x s = (.ok (), { s with heap := H })

namespace WritesAt

theorem tryWrite {f : Heap → Except Error Heap} (h : ∀ H, f s.heap = .ok H → s.heap.StoredAt G t steps v H) :
    WritesAt (Op.tryWrite f) s t steps v := by
  have hrun := run_tryWrite (s := s) f
  cases hf : f s.heap with
  | error e =>
    rw [hf] at hrun
    exact Or.inl ⟨e, hrun⟩
  | ok H =>
    rw [hf] at hrun
    exact Or.inr ⟨H, h H hf, hrun⟩

theorem after (h : WritesAt x s u steps v) (hu : s.heap.follow? t as = some u) :
    WritesAt x s t (as ++ steps) v := by
  rcases h with herror | ⟨H, hH, hrun⟩
  · exact Or.inl herror
  · exact Or.inr ⟨H, hH.after as hu, hrun⟩

end WritesAt

end Op

/-! ### Writing a segment -/

namespace Resolver
variable {G : ClassGraph} {r : Resolver} {s : State G} {t v : Value} {cs : List Value} {name k : String} {i : Nat}
  {g : Segment}

theorem writesAt_writeName (hp : t.isPlain = true) : Op.WritesAt (r.writeName t name v) s t [.key name] v := by
  cases t with
  | map m => exact Or.inr ⟨_, Heap.storedAt_single (.key name) rfl rfl, rfl⟩
  | object o => cases hp
  | record h => cases hp
  | _ => exact Or.inl ⟨_, rfl⟩

theorem writeElement_nameless (hp : t.isPlain = true) (ht : t ≠ .null) :
    (r.writeElement t "" i v : Op G Unit) = Op.tryWrite fun H => H.setElement G (H.targetName G t) i v .any t := by
  cases t <;> first | rfl | exact absurd rfl ht | cases hp

theorem writeEntry_nameless (hp : t.isPlain = true) (ht : t ≠ .null) :
    (r.writeEntry t "" k v : Op G Unit) = Op.tryWrite fun H => H.setEntry (H.targetName G t) k v t := by
  cases t <;> first | rfl | exact absurd rfl ht | cases hp

theorem writesAt_writeElement_nameless (hp : t.isPlain = true) :
    Op.WritesAt (r.writeElement t "" i v) s t [.index i] v := by
  by_cases ht : t = .null
  · subst ht
    exact Or.inl ⟨_, rfl⟩
  · rw [writeElement_nameless hp ht]
    exact Op.WritesAt.tryWrite fun _ => Heap.storedAt_of_setElement

theorem writesAt_writeEntry_nameless (hp : t.isPlain = true) :
    Op.WritesAt (r.writeEntry t "" k v) s t [.key k] v := by
  by_cases ht : t = .null
  · subst ht
    exact Or.inl ⟨_, rfl⟩
  · rw [writeEntry_nameless hp ht]
    exact Op.WritesAt.tryWrite fun _ => Heap.storedAt_of_setEntry hp

theorem writesAt_writeElement (hp : t.isPlain = true) (hname : name ≠ "") :
    Op.WritesAt (r.writeElement t name i v) s t [.key name, .index i] v := by
  have hempty := isEmpty_of_ne hname
  cases t with
  | map m =>
    simp only [writeElement, hempty, Bool.false_eq_true, if_false]
    exact Op.WritesAt.tryWrite fun H hH => (Heap.storedAt_of_setElementOf hH).after [.key name] rfl
  | null => exact Or.inl ⟨_, rfl⟩
  | object o => cases hp
  | record h => cases hp
  | _ =>
    simp only [writeElement, hempty, Bool.false_eq_true, if_false]
    exact Or.inl ⟨_, rfl⟩

theorem writesAt_writeEntry (hp : t.isPlain = true) (hname : name ≠ "")
    (hentries : ∀ u, s.heap.slot? t (.key name) = some u → u.isPlain = true) :
    Op.WritesAt (r.writeEntry t name k v) s t [.key name, .key k] v := by
  have hempty := isEmpty_of_ne hname
  cases t with
  | map m =>
    have hplain : (mapEntry m name s.heap).isPlain = true := hentries _ rfl
    simp only [writeEntry, hempty, Bool.false_eq_true, if_false]
    exact Op.WritesAt.tryWrite fun H hH => (Heap.storedAt_of_setEntryOf hplain hH).after [.key name] rfl
  | null => exact Or.inl ⟨_, rfl⟩
  | object o => cases hp
  | record h => cases hp
  | _ =>
    simp only [writeEntry, hempty, Bool.false_eq_true, if_false]
    exact Or.inl ⟨_, rfl⟩

/-- Writing a segment in a tree is storing at its steps. -/
theorem writesAt_writeSegment (hspans : s.heap.Spans t cs) (hg : g.HasStep) :
    Op.WritesAt (r.writeSegment t g v) s t g.steps v := by
  have hp := hspans.isPlain
  obtain ⟨name, sub⟩ := g
  by_cases hname : name = ""
  · subst hname
    cases sub with
    | none => exact absurd rfl (hg rfl)
    | index i => exact writesAt_writeElement_nameless hp
    | key k => exact writesAt_writeEntry_nameless hp
  · simp only [Segment.steps, if_neg hname]
    cases sub with
    | none => exact writesAt_writeName hp
    | index i => exact writesAt_writeElement hp hname
    | key k =>
      refine writesAt_writeEntry hp hname fun u hu => ?_
      obtain ⟨ds, hds, -⟩ := hspans.slot? hu
      exact hds.isPlain

end Resolver

end ObjectGraph
