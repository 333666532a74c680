import ObjectGraph.Binder
import ObjectGraph.Proofs.Convert.Entries
import ObjectGraph.Proofs.Object.Failures

/-!
What a conversion does besides its answer.  Whatever converters a registry holds, a conversion makes new cells at
most, and if it fails, that does not say that a property is absent.
-/

namespace ObjectGraph

open NeverMissing

/-- Whether a computation makes new cells at most, and does not fail because a property is absent. -/
def Heap.Grows {α : Type} (H : Heap) : Except Error (α × Heap) → Prop
  | .ok (_, H') => H.OnlyAdds H'
  | .error e => e.isMissing = false

namespace Heap.Grows
variable {α β : Type} {H : Heap} {x : Except Error (α × Heap)}

theorem ok (a : α) : H.Grows (.ok (a, H)) := .refl H

theorem error {e : Error} (h : e.isMissing = false) : H.Grows (.error e : Except Error (α × Heap)) := h

/-- What computes on the new cells of another computation makes new cells at most, if that one does. -/
theorem bind {k : α × Heap → Except Error (β × Heap)} (hx : H.Grows x) (hk : ∀ r : α × Heap, r.2.Grows (k r)) :
    H.Grows (x >>= k) := by
  cases x with
  | error e => exact hx
  | ok r =>
    have hfirst : H.OnlyAdds r.2 := hx
    have hnext := hk r
    change H.Grows (k r)
    cases hr : k r with
    | error e =>
      rw [hr] at hnext
      exact hnext
    | ok r' =>
      rw [hr] at hnext
      exact hfirst.trans hnext

theorem map {y : Except Error α} (hy : NeverMissing y) : H.Grows (y.map fun a => (a, H)) := by
  cases y with
  | error e => exact hy e rfl
  | ok a => exact ok a

theorem onlyAdds {a : α} {H' : Heap} (hx : H.Grows x) (h : x = .ok (a, H')) : H.OnlyAdds H' := by
  subst h
  exact hx

theorem neverMissing (hx : H.Grows x) : NeverMissing x := by
  rintro e rfl
  exact hx

end Heap.Grows

/-! ### Converters -/

/-- Whether a conversion makes new cells at most. -/
def Conversion.Grows (k : Conversion) : Prop := ∀ (v : Value) (H : Heap), H.Grows (k v H)

namespace Converter
variable {G : ClassGraph} {H : Heap} {t : Ty} {v : Value} {element : Conversion}

theorem neverMissing_toPrimitive {n : Number} {p : Primitive} {outOfRange notNumeric : Error}
    (hrange : outOfRange.isMissing = false) (hnumeric : notNumeric.isMissing = false) :
    NeverMissing (n.toPrimitive outOfRange notNumeric p) := by
  unfold Number.toPrimitive
  split
  · exact .ok _
  · dsimp only
    split
    · exact .error hrange
    · exact .ok _
  · split
    · exact .error hrange
    · split
      · split
        · exact .ok _
        · exact .error hrange
      · exact .error hnumeric

theorem neverMissing_scalar (k : Converter) : NeverMissing (scalar G H t v k) := by
  cases k with
  | number p =>
    simp only [scalar]
    split
    · exact .error rfl
    · exact neverMissing_toPrimitive rfl rfl
  | wide =>
    simp only [scalar]
    split
    · exact .error rfl
    · split
      · exact .ok _
      · exact .error rfl
  | boolean =>
    simp only [scalar]
    split
    · exact .ok _
    · exact .ok _
    · split
      · exact .ok _
      · exact .error rfl
  | url =>
    simp only [scalar]
    split
    · exact .ok _
    · split
      · exact .ok _
      · exact .error rfl
    · exact .error rfl
  | path =>
    simp only [scalar]
    split
    · exact .ok _
    · exact .ok _
    · split
      · exact .ok _
      · exact .error rfl
    · exact .error rfl
  | array => exact .ok v
  | _ =>
    simp only [scalar]
    split <;> first | exact .ok _ | exact .error rfl

theorem grows_convertAll (helement : element.Grows) (H : Heap) (vs : List Value) :
    H.Grows (convertAll element H vs) := by
  induction vs generalizing H with
  | nil => exact .ok []
  | cons v vs ih => exact (helement v H).bind fun r => (ih r.2).bind fun r' => .ok (r.1 :: r'.1)

theorem grows_convert (helement : element.Grows) (k : Converter) : Conversion.Grows (k.convert G element t) := by
  intro v H
  by_cases hk : k = .array
  · subst hk
    exact (grows_convertAll helement H _).bind fun r => r.2.onlyAdds_alloc (k := .array) _
  · rw [convert_eq_scalar hk]
    exact .map (neverMissing_scalar k)

end Converter

theorem ConverterEntry.grows_apply {G : ClassGraph} {element : Conversion} (helement : element.Grows) (t : Ty)
    (e : ConverterEntry) : Conversion.Grows (e.apply G element t) := by
  intro v H
  have hconvert := Converter.grows_convert (G := G) (t := t) helement e.converter v H
  unfold apply
  split
  · split
    · exact .ok _
    · exact .error rfl
  · split
    · rename_i hok
      rwa [hok] at hconvert
    · exact .ok _
    · rename_i herror _
      rwa [herror] at hconvert

/-! ### Registries -/

namespace Registry
variable {G : ClassGraph}

theorem grows_convertWith {element : Conversion} (helement : element.Grows) (R : Registry) (t : Ty) :
    Conversion.Grows (R.convertWith G element t) := by
  intro v H
  unfold convertWith
  split
  · exact .ok v
  · split
    · exact .map Heap.neverMissing_coerce
    · split
      · exact ConverterEntry.grows_apply helement t _ v H
      · exact .map Heap.neverMissing_coerce

/-- An array is converted by converting its elements. -/
theorem grows_convert (R : Registry) (t : Ty) : Conversion.Grows (R.convert G t) := by
  induction t with
  | array c ih => exact grows_convertWith ih R (.array c)
  | _ => exact grows_convertWith (fun v H => .ok v) R _

theorem grows_convertText (R : Registry) (t : Ty) (text : String) (H : Heap) : H.Grows (R.convertText G t text H) := by
  unfold convertText
  split
  · exact ConverterEntry.grows_apply (R.grows_convert _) t _ _ H
  · exact .ok _

theorem grows_convertTexts (R : Registry) (t : Ty) (texts : List String) (H : Heap) :
    H.Grows (R.convertTexts G t texts H) :=
  (Converter.grows_convertAll (fun _ H => R.grows_convertText _ _ H) H _).bind fun r =>
    r.2.onlyAdds_alloc (k := .array) _

end Registry

/-! ### Conversions in a state -/

/-- Whether an operation works on the heap alone, and makes new cells at most. -/
def Op.Grows {G : ClassGraph} {α : Type} (x : Op G α) : Prop := ∃ f : Heap → Except Error α × Heap, ∀ s : State G,
  ExceptT.run x s = ((f s.heap).1, { s with heap := (f s.heap).2 }) ∧ s.heap.OnlyAdds (f s.heap).2 ∧
    NeverMissing (f s.heap).1

namespace Op.Grows
variable {G : ClassGraph} {α β : Type} {x : Op G α} {s t : State G}

theorem read (f : Heap → α) : Op.Grows (Op.read f : Op G α) :=
  ⟨fun H => (.ok (f H), H), fun s => ⟨rfl, .refl s.heap, .ok _⟩⟩

theorem pure (a : α) : Op.Grows (Pure.pure a : Op G α) := read fun _ => a

theorem change {f : Heap → α × Heap} (hf : ∀ H : Heap, H.OnlyAdds (f H).2) : Op.Grows (Op.change f : Op G α) :=
  ⟨fun H => (.ok (f H).1, (f H).2), fun s => ⟨rfl, hf s.heap, .ok _⟩⟩

theorem tryChange {f : Heap → Except Error (α × Heap)} (hf : ∀ H : Heap, H.Grows (f H)) :
    Op.Grows (Op.tryChange f : Op G α) := by
  refine ⟨fun H => match f H with | .ok (a, H') => (.ok a, H') | .error e => (.error e, H), fun s => ?_⟩
  cases h : f s.heap with
  | error e =>
    dsimp only
    rw [h]
    exact ⟨run_tryChange_of_error s h, .refl _, .error ((hf s.heap).neverMissing e h)⟩
  | ok r =>
    dsimp only
    rw [h]
    exact ⟨run_tryChange_of_ok s h, (hf s.heap).onlyAdds h, .ok _⟩

theorem bind {k : α → Op G β} (hx : x.Grows) (hk : ∀ a, (k a).Grows) : (x >>= k).Grows := by
  obtain ⟨f, hf⟩ := hx
  choose g hg using hk
  refine ⟨fun H => match f H with | (.ok a, H') => g a H' | (.error e, H') => (.error e, H'), fun s => ?_⟩
  obtain ⟨hrun, hadds, hmissing⟩ := hf s
  rcases h : f s.heap with ⟨e | a, H⟩ <;> rw [h] at hrun hadds hmissing <;> dsimp only <;> rw [h]
  · exact ⟨run_bind_of_error hrun, hadds, .error (hmissing e rfl)⟩
  · obtain ⟨hrun', hadds', hmissing'⟩ := hg a { s with heap := H }
    exact ⟨(run_bind_of_ok hrun).trans hrun', hadds.trans hadds', hmissing'⟩

/-- Such an operation changes no caches, and these make no difference to it. -/
theorem run_of_heap {r : Except Error α} {s' : State G} (hx : x.Grows) (hheap : t.heap = s.heap)
    (hrun : ExceptT.run x s = (r, s')) :
    ExceptT.run x t = (r, { t with heap := s'.heap }) ∧ s.heap.OnlyAdds s'.heap ∧ NeverMissing r := by
  obtain ⟨f, hf⟩ := hx
  obtain ⟨hs, hadds, hmissing⟩ := hf s
  cases hs.symm.trans hrun
  rw [(hf t).1, hheap]
  exact ⟨rfl, hadds, hmissing⟩

end Op.Grows

namespace Binder
variable {G : ClassGraph} (b : Binder) (v : Value) (t : Ty)

theorem grows_convert : Op.Grows (b.convert v t : Op G Value) :=
  .tryChange fun H => b.registry.grows_convert t v H

theorem grows_convertFor : Op.Grows (b.convertFor v t : Op G Value) := by
  unfold convertFor
  split
  · exact Op.Grows.pure Value.null
  · exact b.grows_convert v t

theorem grows_convertInput (isWhole : Bool) : Op.Grows (b.convertInput v t isWhole : Op G Value) := by
  unfold convertInput
  refine Op.Grows.bind (.read _) fun items => ?_
  split
  · split
    · exact .tryChange fun H => b.registry.grows_convertTexts t _ H
    · exact .tryChange fun H => b.registry.grows_convertText t _ H
  · split
    · exact Op.Grows.bind (.change fun H => H.onlyAdds_alloc (k := .list) _) fun list => b.grows_convert list t
    · exact b.grows_convert _ t
  · exact b.grows_convertFor v t

end Binder

end ObjectGraph
