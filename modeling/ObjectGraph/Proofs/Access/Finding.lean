import ObjectGraph.Proofs.Access.Composition
import ObjectGraph.Proofs.Access.Conformity
import ObjectGraph.Proofs.Record.Furnishing

/-!
What segments find in a graph without objects.  A segment that is read with an answer, null apart, either finds it, and
then nothing is changed, or it is one of a growing record, which makes what is answered.
-/

namespace ObjectGraph

open Op

namespace Heap

/-- Whether a segment of a value that is no object leads to another one without anything being made. -/
inductive Finds (H : Heap) : Value → Segment → Value → Prop
  | growing {h : Handle .record} {S : Handle .schema} {store : Store} {seg : Segment} {u : Value}
      (hcell : H.get h = .growing S store) (hu : (GrowingRecord.ofStore h S store).Finds H seg u) :
      Finds H (.record h) seg u
  | fixed {h : Handle .record} {S : Handle .schema} {d : Dict Value} {name : String} {sub : Subscript} {c u : Value}
      (hcell : H.get h = .fixed S d) (hread : FixedRecord.read (H.get S) d name = .ok c) (hu : H.Yields c sub u) :
      Finds H (.record h) ⟨name, sub⟩ u
  | map {m : Handle .map} {name : String} {sub : Subscript} {c u : Value} (hget : (H.get m).get? name = some c)
      (hname : sub ≠ .none → name ≠ "") (hu : H.Yields c sub u) : Finds H (.map m) ⟨name, sub⟩ u
  | own {t : Value} {sub : Subscript} {u : Value} (ht : t.isPlain = true) (hsub : sub ≠ .none) (hu : H.Yields t sub u) :
      Finds H t ⟨"", sub⟩ u

/-- Whether a value is no object, nor an adapter of one; a growing record has all that belongs to it. -/
def Objectless (H : Heap) : Value → Prop
  | .object _ => False
  | .record h =>
    match H.get h with
    | .fixed .. => True
    | .growing S store => (GrowingRecord.ofStore h S store).IsIn H
    | .adapter .. => False
  | _ => True

variable {H : Heap} {c u : Value} {name : String} {sub : Subscript}

theorem objectless_fixed {h : Handle .record} {S : Handle .schema} {d : Dict Value} (hcell : H.get h = .fixed S d) :
    H.Objectless (.record h) := by
  rw [Objectless, hcell]
  trivial

theorem objectless_growing {h : Handle .record} {S : Handle .schema} {store : Store}
    (hcell : H.get h = .growing S store) : H.Objectless (.record h) ↔ (GrowingRecord.ofStore h S store).IsIn H := by
  rw [Objectless, hcell]

theorem not_objectless_adapter {h : Handle .record} {S : Handle .schema} {o : Handle .object} {r : Resolver}
    (hcell : H.get h = .adapter S o r) : ¬ H.Objectless (.record h) := by
  rw [Objectless, hcell]
  exact id

/-- What a subscript makes of a value that may be missing. -/
def subscripted (H : Heap) (name : String) (sub : Subscript) (c : Value) : Except Error Value :=
  match sub with
  | .none => .ok c
  | .index i => H.elementOf name i c
  | .key key => H.entryOf name key c

namespace Yields

theorem ne_null (h : H.Yields c sub u) (hsub : sub ≠ .none) : c ≠ .null := by
  rintro rfl
  cases h with
  | itself => exact hsub rfl
  | element hc _ => cases hc
  | entry hc _ => cases hc

theorem of_null (h : H.Yields .null sub u) : u = .null := by
  by_cases hsub : sub = .none
  · subst hsub
    cases h
    rfl
  · exact absurd rfl (h.ne_null hsub)

theorem subscripted_eq (h : H.Yields c sub u) : H.subscripted name sub c = .ok u := by
  cases h with
  | itself => rfl
  | element hc hi => exact (elementOf_of_ne (Yields.element hc hi |>.ne_null nofun)).trans (element_of_items hc hi)
  | entry hc hk =>
    refine (entryOf_of_ne (Yields.entry hc hk |>.ne_null nofun)).trans ?_
    rw [Heap.entry, entries, hc]
    exact congrArg (fun v => Except.ok (Option.getD v .null)) hk

theorem of_subscripted (h : H.subscripted name sub c = .ok u) (hu : u ≠ .null) : H.Yields c sub u := by
  cases sub with
  | none =>
    cases h
    exact .itself
  | index i =>
    by_cases hc : c = .null
    · rw [hc] at h
      cases h
    · exact .of_element ((elementOf_of_ne hc).symm.trans h)
  | key key =>
    by_cases hc : c = .null
    · rw [hc] at h
      cases h
    · exact .of_entry ((entryOf_of_ne hc).symm.trans h) hu

end Yields

namespace Vacant
variable {h : Handle .record} {S : Handle .schema} {store : Store} {t : Value} {seg : Segment}

theorem property?_eq (ht : H.Vacant (.record h)) (hcell : H.get h = .growing S store) (name : String) :
    (GrowingRecord.ofStore h S store).property? name H = none := by
  obtain ⟨-, _, title, hcell', -, hblank⟩ := ht
  cases hcell.symm.trans hcell'
  rw [GrowingRecord.property?, show H.get (GrowingRecord.ofStore h S (.own .empty)).schema = .blank title from hblank]
  rfl

theorem stored_eq (ht : H.Vacant (.record h)) (hcell : H.get h = .growing S store) (name : String) :
    (GrowingRecord.ofStore h S store).stored name H = .null := by
  obtain ⟨-, _, -, hcell', -⟩ := ht
  cases hcell.symm.trans hcell'
  have hvalues := GrowingRecord.values_of_cell (g := .ofStore h S (.own .empty)) rfl hcell
  rw [GrowingRecord.stored, hvalues]
  rfl

theorem objectless (ht : H.Vacant t) (hobject : ¬ t.IsObject) : H.Objectless t := by
  cases t with
  | object o => exact hobject ⟨o, rfl⟩
  | record h =>
    obtain ⟨hh, S, _, hcell, hS, -⟩ := ht
    exact (objectless_growing hcell).mpr (GrowingRecord.isIn_ofStore hcell hh hS nofun).1
  | _ => trivial

theorem not_finds (ht : H.Vacant t) : ¬ H.Finds t seg u := by
  intro h
  cases h with
  | growing hcell hu => exact hu.ne_null (ht.stored_eq hcell _)
  | fixed hcell hread hu =>
    obtain ⟨-, _, _, hcell', -⟩ := ht
    cases hcell.symm.trans hcell'
  | @map m =>
    rename_i hget hname hu
    rw [show H.get m = .empty from ht] at hget
    cases hget
  | own ht' hsub hu => exact hsub (Yields.of_vacant ht hu)

end Vacant

end Heap

namespace Resolver
variable {G : ClassGraph} {r : Resolver} {s s₁ : State G} {t u : Value} {seg : Segment} {name : String}
  {sub : Subscript}

theorem run_readSegment_growing {h : Handle .record} {S : Handle .schema} {store : Store}
    (hcell : s.heap.get h = .growing S store) : ExceptT.run (r.readSegment (.record h) seg : Op G Value) s =
      ExceptT.run ((GrowingRecord.ofStore h S store).readSegment seg : Op G Value) s := by
  obtain ⟨name, sub⟩ := seg
  cases sub with
  | none =>
    change ExceptT.run (Record.read h name) s = _
    rw [Record.read, run_bind_of_ok (Op.run_read s _), hcell]
    rfl
  | index i =>
    change ExceptT.run (Record.readElement h name i) s = _
    rw [Record.readElement, run_bind_of_ok (Op.run_read s _), hcell]
    rfl
  | key key =>
    change ExceptT.run (Record.readEntry h name key) s = _
    rw [Record.readEntry, run_bind_of_ok (Op.run_read s _), hcell]
    rfl

theorem run_readSegment_fixed {h : Handle .record} {S : Handle .schema} {d : Dict Value}
    (hcell : s.heap.get h = .fixed S d) : ExceptT.run (r.readSegment (.record h) ⟨name, sub⟩ : Op G Value) s =
      (FixedRecord.read (s.heap.get S) d name >>= s.heap.subscripted name sub, s) := by
  cases sub with
  | none =>
    change ExceptT.run (Record.read h name) s = _
    rw [Record.read, run_bind_of_ok (Op.run_read s _), hcell]
    exact congrArg (·, s) (bind_pure _).symm
  | index i =>
    change ExceptT.run (Record.readElement h name i) s = _
    rw [Record.readElement, run_bind_of_ok (Op.run_read s _), hcell]
    rfl
  | key key =>
    change ExceptT.run (Record.readEntry h name key) s = _
    rw [Record.readEntry, run_bind_of_ok (Op.run_read s _), hcell]
    rfl

theorem run_readSegment_map {m : Handle .map} (hname : sub ≠ .none → name ≠ "") :
    ExceptT.run (r.readSegment (.map m) ⟨name, sub⟩ : Op G Value) s =
      (s.heap.subscripted name sub (mapEntry m name s.heap), s) := by
  cases sub with
  | none => rfl
  | index i =>
    change ExceptT.run (r.readElement (.map m) name i) s = _
    rw [readElement_map (hname nofun), Op.run_tryRead]
    rfl
  | key key =>
    change ExceptT.run (r.readEntry (.map m) name key) s = _
    rw [readEntry_map (hname nofun), Op.run_tryRead]
    rfl

theorem run_readSegment_own (ht : t.isPlain = true) (hnull : t ≠ .null) (hsub : sub ≠ .none) :
    ExceptT.run (r.readSegment t ⟨"", sub⟩ : Op G Value) s =
      (s.heap.subscripted (s.heap.targetName G t) sub t, s) := by
  cases sub with
  | none => exact absurd rfl hsub
  | index i =>
    change ExceptT.run (r.readElement t "" i) s = _
    rw [readElement_nameless ht hnull, Op.run_tryRead]
    exact congrArg (·, s) (Heap.elementOf_of_ne hnull).symm
  | key key =>
    change ExceptT.run (r.readEntry t "" key) s = _
    rw [readEntry_nameless ht hnull, Op.run_tryRead]
    exact congrArg (·, s) (Heap.entryOf_of_ne hnull).symm

/-- A list, an array or a scalar is read only with a subscript and without a name. -/
theorem readSegment_nameless (ht : t.isNameless = true) (hname : sub ≠ .none → name ≠ "") :
    (r.readSegment t ⟨name, sub⟩ : Op G Value) = unknown name t := by
  cases sub with
  | none => exact readName_of_isNameless ht
  | index i => exact readElement_of_isNameless ht (hname nofun)
  | key key => exact readEntry_of_isNameless ht (hname nofun)

/-- What a segment finds is what it reads. -/
theorem run_readSegment_of_finds (h : s.heap.Finds t seg u) :
    ExceptT.run (r.readSegment t seg : Op G Value) s = (.ok u, s) := by
  cases h with
  | growing hcell hu => rw [run_readSegment_growing hcell, hu.run_readSegment]
  | fixed hcell hread hu =>
    rw [run_readSegment_fixed hcell, hread]
    exact congrArg (·, s) hu.subscripted_eq
  | map hget hname hu =>
    rw [run_readSegment_map hname, mapEntry, hget]
    exact congrArg (·, s) hu.subscripted_eq
  | own ht hsub hu => rw [run_readSegment_own ht (hu.ne_null hsub) hsub, hu.subscripted_eq]

theorem finds_or_furnishes (ht : s.heap.Objectless t)
    (hrun : ExceptT.run (r.readSegment t seg : Op G Value) s = (.ok u, s₁)) (hu : u ≠ .null) :
    (s.heap.Finds t seg u ∧ s₁ = s) ∨ ∃ h S store, t = .record h ∧ s.heap.get h = .growing S store ∧
      (GrowingRecord.ofStore h S store).Furnishes seg u s.heap s₁.heap := by
  obtain ⟨name, sub⟩ := seg
  by_cases hown : name = "" ∧ sub ≠ .none ∧ t.isPlain = true ∧ t ≠ .null
  · obtain ⟨rfl, hsub, hp, hnull⟩ := hown
    rw [run_readSegment_own hp hnull hsub] at hrun
    obtain ⟨hanswer, rfl⟩ := Prod.mk.inj hrun
    exact .inl ⟨.own hp hsub (.of_subscripted hanswer hu), rfl⟩
  have hname (hp : t.isPlain = true) (hnull : t ≠ .null) (hsub : sub ≠ .none) : name ≠ "" := fun h =>
    hown ⟨h, hsub, hp, hnull⟩
  cases t with
  | null => cases sub <;> cases hrun
  | object o => exact ht.elim
  | map m =>
    rw [run_readSegment_map (hname rfl nofun)] at hrun
    obtain ⟨hanswer, rfl⟩ := Prod.mk.inj hrun
    have hyields := Heap.Yields.of_subscripted hanswer hu
    unfold mapEntry at hyields
    cases hget : (s.heap.get m).get? name with
    | none =>
      rw [hget] at hyields
      exact absurd hyields.of_null hu
    | some c =>
      rw [hget] at hyields
      exact .inl ⟨.map hget (hname rfl nofun) hyields, rfl⟩
  | record h =>
    cases hcell : s.heap.get h with
    | fixed S d =>
      rw [run_readSegment_fixed hcell] at hrun
      obtain ⟨hanswer, rfl⟩ := Prod.mk.inj hrun
      obtain ⟨c, hread, hanswer⟩ := bind_eq_ok.mp hanswer
      exact .inl ⟨.fixed hcell hread (.of_subscripted hanswer hu), rfl⟩
    | growing S store =>
      rw [run_readSegment_growing hcell] at hrun
      rcases ((Heap.objectless_growing hcell).mp ht).finds_or_furnishes hrun hu with ⟨hfinds, hsame⟩ | hfurnishes
      · exact .inl ⟨.growing hcell hfinds, hsame⟩
      · exact .inr ⟨h, S, store, rfl, hcell, hfurnishes⟩
    | adapter S o r' => exact absurd ht (Heap.not_objectless_adapter hcell)
  | _ =>
    rw [readSegment_nameless rfl (hname rfl nofun)] at hrun
    cases hrun

/-- Nothing but null is read from a vacant value that is no object. -/
theorem null_of_vacant (ht : s.heap.Vacant t) (hobject : ¬ t.IsObject)
    (hrun : ExceptT.run (r.readSegment t seg : Op G Value) s = (.ok u, s₁)) :
    u = .null := by
  by_contra hu
  rcases finds_or_furnishes (ht.objectless hobject) hrun hu with ⟨hfinds, -⟩ | ⟨h, S, store, rfl, hcell, hfurnishes⟩
  · exact ht.not_finds hfinds
  · obtain ⟨p, hp⟩ := hfurnishes.declared
    cases (ht.property?_eq hcell seg.name).symm.trans hp

end Resolver

end ObjectGraph
