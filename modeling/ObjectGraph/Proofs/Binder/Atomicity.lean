import ObjectGraph.Proofs.Access.Atomicity
import ObjectGraph.Proofs.Convert.Growth

/-!
Failed writes of converted values.  A conversion makes new containers at most, and it comes before the one change that
a write into a plain graph makes; so when a write fails, every container that there was is as it was.
-/

namespace ObjectGraph

namespace Op
variable {G : ClassGraph} {α β : Type} {s : State G} {x : Op G α} {k : α → Op G β} {Q : α → Prop}

/-- Whether an operation makes new cells at most if it fails. -/
def AddsOnFailure (x : Op G α) (s : State G) : Prop :=
  ∀ e s', ExceptT.run x s = (.error e, s') → s.heap.OnlyAdds s'.heap ∧ s'.caches = s.caches

theorem Atomic.addsOnFailure (hx : Atomic x s) : AddsOnFailure x s := by
  intro e s' hfailed
  obtain rfl := hx e s' hfailed
  exact ⟨.refl _, rfl⟩

theorem Looks.bind_addsOnFailure (hx : Looks x s Q) (hk : ∀ a, Q a → AddsOnFailure (k a) s) :
    AddsOnFailure (x >>= k) s := by
  obtain ⟨res, hrun, hanswer⟩ := hx
  intro e s' hfailed
  cases res with
  | error e' =>
    rw [run_bind_of_error hrun] at hfailed
    cases hfailed
    exact ⟨.refl _, rfl⟩
  | ok a =>
    rw [run_bind_of_ok hrun] at hfailed
    exact hk a (hanswer a rfl) e s' hfailed

/-- What fails without a trace after new cells have been made leaves those at most. -/
theorem Grows.bind_addsOnFailure (hx : x.Grows) (hk : ∀ a s₁, s.heap.OnlyAdds s₁.heap → Atomic (k a) s₁) :
    AddsOnFailure (x >>= k) s := by
  obtain ⟨f, hf⟩ := hx
  obtain ⟨hrun, hadds, -⟩ := hf s
  intro e s' hfailed
  rcases hfs : f s.heap with ⟨e' | a, H⟩ <;> rw [hfs] at hrun hadds
  · rw [run_bind_of_error hrun] at hfailed
    cases hfailed
    exact ⟨hadds, rfl⟩
  · rw [run_bind_of_ok hrun] at hfailed
    obtain rfl := hk a _ hadds e s' hfailed
    exact ⟨hadds, rfl⟩

end Op

namespace Binder
variable {G : ClassGraph} {b : Binder} {s : State G} {t parent : Value} {path : String} {v : Value}

theorem looks_targetTy (h : s.heap.Plain t) (parent : Value) (path : String) :
    Op.Looks (b.targetTy t parent path) s fun _ => True := by
  unfold targetTy
  split
  · exact .pure trivial
  · exact (Resolver.looks_propertyTy h path).bind fun _ _ => .pure trivial

theorem addsOnFailure_writeConverted {convert : Op G Value} (hconvert : convert.Grows) (hparent : s.heap.IsPlain parent)
    (g : Segment) : Op.AddsOnFailure (convert >>= b.resolver.writeSegment parent g) s :=
  hconvert.bind_addsOnFailure fun w _ hadds => Resolver.atomic_writeSegment (hparent.of_onlyAdds hadds) g w

theorem addsOnFailure_setProperty (h : s.heap.Plain t) (path : String) (v : Value) :
    Op.AddsOnFailure (b.setProperty t path v) s := by
  unfold setProperty
  refine (Resolver.looks_owner h path).bind_addsOnFailure fun a ha => ?_
  refine (looks_targetTy h a.1 path).bind_addsOnFailure fun ty? _ => ?_
  cases ty? with
  | none => exact (Resolver.atomic_writeSegment ha.isPlain a.2 v).addsOnFailure
  | some ty => exact addsOnFailure_writeConverted (b.grows_convertInput v ty _) ha.isPlain a.2

theorem addsOnFailure_copyProperty (h : s.heap.Plain t) (path : String) (v : Value) :
    Op.AddsOnFailure (b.copyProperty t path v) s := by
  unfold copyProperty
  refine (Resolver.looks_owner h path).bind_addsOnFailure fun a ha => ?_
  refine (looks_targetTy h a.1 path).bind_addsOnFailure fun ty? _ => ?_
  cases ty? with
  | none => exact (Resolver.atomic_writeSegment ha.isPlain a.2 v).addsOnFailure
  | some ty => exact addsOnFailure_writeConverted (b.grows_convertFor v ty) ha.isPlain a.2

/-- A write into a graph of maps, lists, arrays and fixed records, however shared they are, that fails leaves the state
as it is; and if the value is converted on the way, every container that there was is still as it was. -/
theorem failed_write_leaves_graph (s : State G) (t : Value) (hplain : s.heap.Plain t) (path : String) (v : Value)
    (e : Error) (s' : State G) :
    (∀ r : Resolver, ExceptT.run (r.write t path v) s = (.error e, s') → s' = s) ∧
    ∀ b : Binder, ExceptT.run (b.setProperty t path v) s = (.error e, s') ∨
        ExceptT.run (b.copyProperty t path v) s = (.error e, s') →
      s.heap.OnlyAdds s'.heap ∧ s'.caches = s.caches := by
  refine ⟨fun r hfailed => Resolver.atomic_write hplain path v e s' hfailed, fun b hfailed => ?_⟩
  rcases hfailed with hfailed | hfailed
  · exact addsOnFailure_setProperty hplain path v e s' hfailed
  · exact addsOnFailure_copyProperty hplain path v e s' hfailed

/-- A map of a list in which a record with a number stands twice. -/
def twins : State .empty where
  heap := ⟨⟨#[[.record ⟨0⟩, .record ⟨0⟩]]⟩, .empty, ⟨#[Dict.empty.insert "rows" (.list ⟨0⟩)]⟩, .empty,
    ⟨#[.fixed ⟨0⟩ .empty]⟩, ⟨#[.ofProperties "Row" [⟨"n", .boxed (.int .w32), none⟩]]⟩⟩
  caches := .empty

theorem plain_twins : twins.heap.Plain (.map ⟨0⟩) := by
  intro u hu
  have hreached : u = .map ⟨0⟩ ∨ u = .list ⟨0⟩ ∨ u = .record ⟨0⟩ := by
    induction hu with
    | refl => exact .inl rfl
    | tail _ hstep ih =>
      rcases ih with rfl | rfl | rfl
      · exact .inr (.inl (List.mem_singleton.mp hstep))
      · rcases List.mem_cons.mp hstep with rfl | hstep
        · exact .inr (.inr rfl)
        · exact .inr (.inr (List.mem_singleton.mp hstep))
      · cases hstep
  rcases hreached with rfl | rfl | rfl
  · trivial
  · trivial
  · exact ⟨Nat.zero_lt_one, _, _, rfl⟩

/-- A binder with strict converters. -/
def unforgiving : Binder := ⟨⟨0⟩, (Registry.withConfig ⟨true, false, 0⟩ .empty).1⟩

theorem exists_run_write_twins :
    ∃ e s', ExceptT.run (unforgiving.resolver.write (.map ⟨0⟩) "rows[2].n" .null) twins = (.error e, s') := ⟨_, _, rfl⟩

theorem exists_run_setProperty_twins :
    ∃ e s', ExceptT.run (unforgiving.setProperty (.map ⟨0⟩) "rows[0].n" (.text "abc")) twins = (.error e, s') :=
  ⟨_, _, rfl⟩

/-- An index past the end, and a text that is no number, are refused behind shared containers. -/
theorem failed_write_leaves_graph_twins :
    (∃ e, ExceptT.run (unforgiving.resolver.write (.map ⟨0⟩) "rows[2].n" .null) twins = (.error e, twins)) ∧
    ∃ e s', ExceptT.run (unforgiving.setProperty (.map ⟨0⟩) "rows[0].n" (.text "abc")) twins = (.error e, s') ∧
      twins.heap.OnlyAdds s'.heap := by
  obtain ⟨e₁, s₁, hwrite⟩ := exists_run_write_twins
  obtain ⟨e₂, s₂, hset⟩ := exists_run_setProperty_twins
  have hsame := (failed_write_leaves_graph twins _ plain_twins "rows[2].n" .null e₁ s₁).1 _ hwrite
  have hkept := (failed_write_leaves_graph twins _ plain_twins "rows[0].n" (.text "abc") e₂ s₂).2 _ (.inl hset)
  exact ⟨⟨e₁, hsame ▸ hwrite⟩, e₂, s₂, hset, hkept.1⟩

end Binder

end ObjectGraph
