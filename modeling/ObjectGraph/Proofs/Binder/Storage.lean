import ObjectGraph.Proofs.Binder.Write
import ObjectGraph.Proofs.Convert.Growth
import ObjectGraph.Proofs.Object.Access

/-!
Converting writes to the entries of an object.  An entry has no declared type, but one that holds a value is taken
to be of the type of that value, so that what is written next is converted to it.
-/

namespace ObjectGraph

/-- Values other than null have a type of their own. -/
theorem Heap.typeOf_ne_any {H : Heap} {v : Value} (hv : v ≠ .null) : H.typeOf v ≠ .any := by
  cases v <;> first | exact absurd rfl hv | nofun

namespace Resolver
variable {G : ClassGraph} {r : Resolver} {s s' : State G} {t : Value} {o : Handle .object} {d : Dict Value}
  {name : String} {v : Value} {H : Heap}

theorem run_typeByValue_of_ok {g : Segment} (h : ExceptT.run (r.readSegment t g) s = (.ok v, s')) :
    ExceptT.run (r.typeByValue t g) s = (.ok (if v.isNull then none else some (s'.heap.typeOf v)), s') := by
  rw [typeByValue, Op.run_attempt_bind h]
  dsimp only
  split <;> rfl

theorem run_typeByValue_of_error {g : Segment} {e : Error}
    (h : ExceptT.run (r.readSegment t g) s = (.error e, s')) :
    ExceptT.run (r.typeByValue t g) s = (.ok none, s') := by
  rw [typeByValue, Op.run_attempt_bind h, Op.run_pure]

/-- Whether a name of an object is one of its entries only: the object has entries, and its class has no accessor
of the name. -/
structure IsEntry (G : ClassGraph) (H : Heap) (o : Handle .object) (d : Dict Value) (name : String) : Prop where
  hasCell : H.Has o
  storage : (H.get o).storage = some d
  simple : Path.IsSimple name
  descriptor : G.descriptor? (H.get o).cls name = none
  keyed : G.keyed? (H.get o).cls name = .ok none

namespace IsEntry

theorem onlyAdds (h : IsEntry G s.heap o d name) (hadds : s.heap.OnlyAdds H) : IsEntry G H o d name := by
  have hcell := hadds.same h.hasCell
  exact ⟨hadds.has h.hasCell, hcell.symm ▸ h.storage, h.simple, hcell.symm ▸ h.descriptor, hcell.symm ▸ h.keyed⟩

theorem run_owner (h : IsEntry G H o d name) (s : State G) :
    ExceptT.run (r.owner (.object o) name : Op G (Value × Segment)) s = (.ok (.object o, ⟨name, .none⟩), s) :=
  run_owner_of_isSimple h.simple nofun

theorem run_readObject (h : IsEntry G s.heap o d name) : ∃ s₁ : State G, s₁.heap = s.heap ∧
    ExceptT.run (r.readObject o name) s = (.ok ((d.get? name).getD .null), s₁) := by
  obtain ⟨s₁, hheap, hds⟩ := run_descriptors r (s.heap.get o).cls s
  refine ⟨s₁, hheap, ?_⟩
  have hd := h.descriptor
  rw [ClassGraph.descriptor?] at hd
  rw [readObject, classOf, Op.run_bind_of_ok (Op.run_read s _), Op.run_bind_of_ok hds, hd]
  dsimp only [Option.bind_none]
  rw [Op.run_bind_of_ok (Op.run_read s₁ _), hheap, Heap.storedEntry?, h.storage]
  rfl

theorem run_read (h : IsEntry G s.heap o d name) : ∃ s₁ : State G,
    ExceptT.run (r.read (.object o) name) s = (.ok ((d.get? name).getD .null), s₁) := by
  obtain ⟨s₁, -, hread⟩ := run_readObject (r := r) h
  have ht : Value.object o ≠ .null := nofun
  exact ⟨s₁, (run_read_of_isSimple h.simple ht).trans hread⟩

/-- An object with other entries. -/
def stored (H : Heap) (o : Handle .object) (d : Dict Value) : Heap := H.set o { H.get o with storage := some d }

theorem run_writeObject (h : IsEntry G s.heap o d name) (v : Value) : ∃ s₁ : State G,
    s₁.heap = stored s.heap o (d.insert name v) ∧ ExceptT.run (r.writeObject o name v) s = (.ok (), s₁) := by
  obtain ⟨s₁, hheap, hds⟩ := run_descriptors r (s.heap.get o).cls s
  refine ⟨{ s₁ with heap := stored s.heap o (d.insert name v) }, rfl, ?_⟩
  have hd := h.descriptor
  rw [ClassGraph.descriptor?] at hd
  rw [writeObject, classOf, Op.run_bind_of_ok (Op.run_read s _), Op.run_bind_of_ok hds, hd]
  dsimp only [Option.bind_none]
  have hset : s.heap.setEntry name name v (.object o) = .ok (stored s.heap o (d.insert name v)) := by
    rw [Heap.setEntry, Heap.entries, Heap.entries?, h.storage]
    rfl
  rw [Op.run_bind_of_ok (Op.run_read s₁ _), hheap, Heap.storedEntry?, h.storage, Option.map_some, Option.isSome_some,
    if_pos rfl, Op.run_tryWrite, hheap, hset]

/-- An entry counts as one of the type of what it holds. -/
theorem run_objectTy (h : IsEntry G s.heap o d name) : ∃ s₁ : State G, s₁.heap = s.heap ∧
    ExceptT.run (r.objectTy o ⟨name, .none⟩) s =
      (.ok (if ((d.get? name).getD .null).isNull then none
        else some (s.heap.typeOf ((d.get? name).getD .null))), s₁) := by
  obtain ⟨s₁, hheap₁, hds⟩ := run_descriptors r (s.heap.get o).cls s
  obtain ⟨s₂, hheap₂, hkeyed⟩ := run_keyed_eq r (s.heap.get o).cls name s₁
  obtain ⟨s₃, hheap₃, hread⟩ := run_readObject (r := r) (s := s₂) ((hheap₂.trans hheap₁).symm ▸ h)
  have hheap := hheap₃.trans (hheap₂.trans hheap₁)
  refine ⟨s₃, hheap, ?_⟩
  have hd := h.descriptor
  rw [ClassGraph.descriptor?] at hd
  rw [h.keyed] at hkeyed
  rw [objectTy, classOf, Op.run_bind_of_ok (Op.run_read s _), Op.run_bind_of_ok hds, hd]
  dsimp only
  rw [Op.run_bind_of_ok hkeyed]
  exact hheap ▸ run_typeByValue_of_ok hread

end IsEntry

end Resolver

namespace Binder

open Resolver IsEntry

variable {G : ClassGraph} {b : Binder} {s s₁ : State G} {o : Handle .object} {d : Dict Value} {name : String}
  {v w old : Value} {x : Op G Unit} {made : Op G Value}

/-- What a converting write makes of a value for a slot that holds an old value and has no type of its own. -/
def adapted (H : Heap) (old v : Value) (convert : Ty → Op G Value) : Op G Value :=
  if old.isNull then pure v else convert (H.typeOf old)

/-- Whether a write succeeds, and the value is read back after it. -/
def Stores (b : Binder) (s : State G) (target : Value) (name : String) (v : Value) (x : Op G Unit) : Prop :=
  ∃ s₁ s₂, ExceptT.run x s = (.ok (), s₁) ∧ ExceptT.run (b.resolver.read target name) s₁ = (.ok v, s₂)

/-- Whether a write to an entry of an object stores there what an operation makes, and fails without storing anything
if that fails. -/
structure Follows (b : Binder) (s : State G) (o : Handle .object) (d : Dict Value) (name : String) (x : Op G Unit)
    (made : Op G Value) : Prop where
  ok : ∀ w t, ExceptT.run made s = (.ok w, t) → s.heap.OnlyAdds t.heap ∧ ∃ s₁ s₂, ExceptT.run x s = (.ok (), s₁) ∧
    s₁.heap = stored t.heap o (d.insert name w) ∧ ExceptT.run (b.resolver.read (.object o) name) s₁ = (.ok w, s₂)
  error : ∀ e t, ExceptT.run made s = (.error e, t) → s.heap.OnlyAdds t.heap ∧ ∃ s₁, ExceptT.run x s = (.error e, s₁) ∧
    s₁.heap = t.heap

theorem Follows.stores_iff (h : b.Follows s o d name x made) :
    b.Stores s (.object o) name v x ↔ ∃ t, ExceptT.run made s = (.ok v, t) := by
  constructor
  · rintro ⟨s₁, s₂, hrun, hread⟩
    rcases hmade : ExceptT.run made s with ⟨e | w, t⟩
    · obtain ⟨-, s₁', hfailed, -⟩ := h.error e t hmade
      cases hrun.symm.trans hfailed
    · obtain ⟨-, s₁', s₂', hrun', -, hread'⟩ := h.ok w t hmade
      cases hrun.symm.trans hrun'
      cases hread.symm.trans hread'
      exact ⟨t, rfl⟩
  · rintro ⟨t, hmade⟩
    obtain ⟨-, s₁, s₂, hrun, -, hread⟩ := h.ok v t hmade
    exact ⟨s₁, s₂, hrun, hread⟩

theorem isPrimitive_typeOf {H : Heap} : (H.typeOf v).isPrimitive = false := by
  cases v <;> rfl

/-! ### Writing to an entry -/

theorem run_targetTy_entry (h : IsEntry G s.heap o d name) : ∃ s₁ : State G, s₁.heap = s.heap ∧
    ExceptT.run (b.targetTy (.object o) (.object o) name) s =
      (.ok (if ((d.get? name).getD .null).isNull then none
        else some (s.heap.typeOf ((d.get? name).getD .null))), s₁) := by
  obtain ⟨s₁, hheap, hty⟩ := run_objectTy (r := b.resolver) h
  refine ⟨s₁, hheap, ?_⟩
  have hpath : ExceptT.run (b.resolver.propertyTy (.object o) name : Op G (Option Ty)) s = _ :=
    (Op.run_bind_of_ok (h.run_owner s)).trans hty
  simp only [targetTy]
  rw [Op.run_bind_of_ok hpath, Op.run_pure]
  split
  · rfl
  · rename_i hnull
    have hany := Heap.typeOf_ne_any (H := s.heap) fun hv => hnull (Value.isNull_iff.mpr hv)
    rw [Option.filter_some, if_pos (decide_eq_true hany)]

theorem run_setProperty_entry (h : IsEntry G s.heap o d name) (v : Value) : ∃ s₁ : State G, s₁.heap = s.heap ∧
    ExceptT.run (b.setProperty (.object o) name v) s =
      ExceptT.run (adapted s.heap ((d.get? name).getD .null) v (fun t => b.convertInput v t true) >>= fun w =>
        b.resolver.writeObject o name w) s₁ := by
  obtain ⟨s₁, hheap, hty⟩ := run_targetTy_entry (b := b) h
  refine ⟨s₁, hheap, ?_⟩
  rw [setProperty, Op.run_bind_of_ok (h.run_owner s)]
  dsimp only
  rw [Op.run_bind_of_ok hty, adapted, decide_eq_true rfl]
  cases ((d.get? name).getD .null).isNull with
  | true =>
    rw [if_pos rfl, if_pos rfl, Op.run_bind_of_ok (Op.run_pure s₁ v)]
    dsimp only
    rfl
  | false =>
    rw [if_neg Bool.false_ne_true, if_neg Bool.false_ne_true]
    rfl

theorem run_copyProperty_entry (h : IsEntry G s.heap o d name) (v : Value) : ∃ s₁ : State G, s₁.heap = s.heap ∧
    ExceptT.run (b.copyProperty (.object o) name v) s =
      ExceptT.run (adapted s.heap ((d.get? name).getD .null) v (fun t => b.convertFor v t) >>= fun w =>
        b.resolver.writeObject o name w) s₁ := by
  obtain ⟨s₁, hheap, hty⟩ := run_targetTy_entry (b := b) h
  refine ⟨s₁, hheap, ?_⟩
  rw [copyProperty, Op.run_bind_of_ok (h.run_owner s)]
  dsimp only
  rw [Op.run_bind_of_ok hty, adapted]
  cases ((d.get? name).getD .null).isNull with
  | true =>
    rw [if_pos rfl, if_pos rfl]
    rfl
  | false =>
    rw [if_neg Bool.false_ne_true, if_neg Bool.false_ne_true]
    rfl

theorem grows_adapted {H : Heap} {convert : Ty → Op G Value} (hconvert : ∀ t, (convert t).Grows) :
    (adapted H old v convert).Grows := by
  unfold adapted
  split
  · exact .pure v
  · exact hconvert _

/-- Making new cells disturbs no entries, so what has been made is stored. -/
theorem follows_of_run (h : IsEntry G s.heap o d name) (hmade : made.Grows) (hheap : s₁.heap = s.heap)
    (hrun : ExceptT.run x s = ExceptT.run (made >>= fun w => b.resolver.writeObject o name w) s₁) :
    b.Follows s o d name x made where
  ok w t hw := by
    obtain ⟨hw₁, hadds, -⟩ := hmade.run_of_heap hheap hw
    have hentry := h.onlyAdds hadds
    obtain ⟨s₂, hstored, hwrite⟩ := run_writeObject (r := b.resolver) (s := { s₁ with heap := t.heap }) hentry w
    have hself : s₂.heap.get o = { t.heap.get o with storage := some (d.insert name w) } := by
      rw [hstored]
      exact t.heap.get_set_self (k := .object) o _
    have hentry' : IsEntry G s₂.heap o (d.insert name w) name := by
      refine ⟨hstored ▸ Heap.has_set hentry.hasCell, ?_, h.simple, ?_, ?_⟩ <;> rw [hself]
      · exact hentry.descriptor
      · exact hentry.keyed
    obtain ⟨s₃, hread⟩ := hentry'.run_read (r := b.resolver)
    rw [Dict.get?_insert, if_pos rfl, Option.getD_some] at hread
    refine ⟨hadds, s₂, s₃, ?_, hstored, hread⟩
    rw [hrun, Op.run_bind_of_ok hw₁, hwrite]
  error e t he := by
    obtain ⟨he₁, hadds, -⟩ := hmade.run_of_heap hheap he
    exact ⟨hadds, _, hrun.trans (Op.run_bind_of_error he₁), rfl⟩

theorem follows_setProperty (h : IsEntry G s.heap o d name) (v : Value) :
    b.Follows s o d name (b.setProperty (.object o) name v)
      (adapted s.heap ((d.get? name).getD .null) v fun t => b.convertInput v t true) := by
  obtain ⟨s₁, hheap, hrun⟩ := run_setProperty_entry (b := b) h v
  exact follows_of_run h (grows_adapted fun t => b.grows_convertInput v t true) hheap hrun

theorem follows_copyProperty (h : IsEntry G s.heap o d name) (v : Value) :
    b.Follows s o d name (b.copyProperty (.object o) name v)
      (adapted s.heap ((d.get? name).getD .null) v fun t => b.convertFor v t) := by
  obtain ⟨s₁, hheap, hrun⟩ := run_copyProperty_entry (b := b) h v
  exact follows_of_run h (grows_adapted fun t => b.grows_convertFor v t) hheap hrun

/-! ### What is read back -/

/-- The entries of a plain map have no types. -/
theorem stores_map (hname : Path.IsSimple name) (m : Handle .map) (v : Value) :
    b.Stores s (.map m) name v (b.setProperty (.map m) name v) ∧
      b.Stores s (.map m) name v (b.copyProperty (.map m) name v) := by
  have ht : Value.map m ≠ .null := nofun
  let s₁ : State G := { s with heap := s.heap.set m ((s.heap.get m).insert name v) }
  have howner : ExceptT.run (b.resolver.owner (.map m) name : Op G (Value × Segment)) s = _ :=
    run_owner_of_isSimple hname ht
  have hread : ExceptT.run (b.resolver.read (.map m) name : Op G Value) s₁ = (.ok v, s₁) := by
    rw [run_read_of_isSimple hname ht, readName, Op.run_read, mapEntry, s.heap.get_set_self (k := .map) m,
      Dict.get?_insert, if_pos rfl, Option.getD_some]
  refine ⟨⟨s₁, s₁, ?_, hread⟩, ⟨s₁, s₁, ?_, hread⟩⟩
  · rw [setProperty, Op.run_bind_of_ok howner]
    rfl
  · rw [copyProperty, Op.run_bind_of_ok howner]
    rfl

theorem run_adapted_of_null {H : Heap} {convert : Ty → Op G Value} (hold : old = .null) :
    ExceptT.run (adapted H old v convert) s = (.ok v, s) := by
  rw [adapted, if_pos (Value.isNull_iff.mpr hold), Op.run_pure]

theorem run_adapted_of_ne_null {H : Heap} {convert : Ty → Op G Value} (hold : old ≠ .null) :
    adapted H old v convert = convert (H.typeOf old) := by
  rw [adapted, if_neg fun h => hold (Value.isNull_iff.mp h)]

theorem follows_setProperty_of_ne_null (h : IsEntry G s.heap o d name) (hold : (d.get? name).getD .null = old)
    (hne : old ≠ .null) (v : Value) :
    b.Follows s o d name (b.setProperty (.object o) name v) (b.convertInput v (s.heap.typeOf old) true) := by
  have hset := follows_setProperty (b := b) h v
  rwa [hold, run_adapted_of_ne_null hne] at hset

theorem follows_copyProperty_of_ne_null (h : IsEntry G s.heap o d name) (hold : (d.get? name).getD .null = old)
    (hne : old ≠ .null) (v : Value) :
    b.Follows s o d name (b.copyProperty (.object o) name v) (b.convertFor v (s.heap.typeOf old)) := by
  have hcopy := follows_copyProperty (b := b) h v
  rwa [hold, run_adapted_of_ne_null hne] at hcopy

/-- A value that fits the type that it is converted to is not changed. -/
theorem run_convertFor_of_fits {t : Ty} (hfits : s.heap.Fits G t v) :
    ExceptT.run (b.convertFor v t) s = (.ok v, s) := by
  by_cases hv : v = .null
  · subst hv
    have ht : t.isPrimitive = false := Bool.eq_false_iff.mpr fun ht => hfits.ne_null ht rfl
    rw [convertFor, ht]
    rfl
  · obtain ⟨w, hw, hconvert⟩ := b.registry.convert_of_accepts hv hfits.accepted
    cases hfits.coerce.symm.trans hw
    rw [convertFor, Value.isNull_eq_false_iff.mpr hv]
    exact Op.run_tryChange_of_ok s hconvert

theorem run_convertFor_null {H : Heap} : ExceptT.run (b.convertFor .null (H.typeOf old)) s = (.ok .null, s) :=
  run_convertFor_of_fits (Heap.fits_null isPrimitive_typeOf)

/-- A value of the type that it is converted to is not changed. -/
theorem run_convertFor_of_typeOf (h : s.heap.typeOf v = s.heap.typeOf old) :
    ExceptT.run (b.convertFor v (s.heap.typeOf old)) s = (.ok v, s) :=
  run_convertFor_of_fits (h ▸ s.heap.fits_typeOf v)

/-- A converting write stores a value as it is in an entry that holds nothing, and so does each write of null and
each write to a plain map.  An entry that holds a value takes what is written next for one of the type of that
value: another value is read back only if the conversion to that type gives it back, what the conversion gives is
stored instead of it, and if the conversion fails, so does the write, and nothing is stored. -/
theorem setProperty_of_isEntry (b : Binder) (s : State G) (o : Handle .object) (d : Dict Value) (name : String)
    (h : IsEntry G s.heap o d name) (old : Value) (hold : (d.get? name).getD .null = old) (v : Value) :
    (old = .null ∨ v = .null → b.Stores s (.object o) name v (b.setProperty (.object o) name v) ∧
      b.Stores s (.object o) name v (b.copyProperty (.object o) name v)) ∧
    (s.heap.typeOf v = s.heap.typeOf old → b.Stores s (.object o) name v (b.copyProperty (.object o) name v)) ∧
    (old ≠ .null →
      (b.Stores s (.object o) name v (b.setProperty (.object o) name v) ↔
        ∃ t, ExceptT.run (b.convertInput v (s.heap.typeOf old) true) s = (.ok v, t)) ∧
      (b.Stores s (.object o) name v (b.copyProperty (.object o) name v) ↔
        ∃ t, ExceptT.run (b.convertFor v (s.heap.typeOf old)) s = (.ok v, t)) ∧
      b.Follows s o d name (b.setProperty (.object o) name v) (b.convertInput v (s.heap.typeOf old) true) ∧
      b.Follows s o d name (b.copyProperty (.object o) name v) (b.convertFor v (s.heap.typeOf old))) ∧
    ∀ m : Handle .map, b.Stores s (.map m) name v (b.setProperty (.map m) name v) ∧
      b.Stores s (.map m) name v (b.copyProperty (.map m) name v) := by
  refine ⟨fun hnull => ?_, fun hty => ?_, fun hne => ?_, fun m => stores_map h.simple m v⟩
  · by_cases hold' : old = .null
    · exact ⟨(follows_setProperty h v).stores_iff.mpr ⟨s, run_adapted_of_null (hold.trans hold')⟩,
        (follows_copyProperty h v).stores_iff.mpr ⟨s, run_adapted_of_null (hold.trans hold')⟩⟩
    · obtain rfl := hnull.resolve_left hold'
      have hinput : ExceptT.run (b.convertInput .null (s.heap.typeOf old) true) s = (.ok .null, s) := by
        simp only [convertInput]
        rw [Op.run_bind_of_ok (Op.run_read s _)]
        exact run_convertFor_null
      exact ⟨(follows_setProperty_of_ne_null h hold hold' .null).stores_iff.mpr ⟨s, hinput⟩,
        (follows_copyProperty_of_ne_null h hold hold' .null).stores_iff.mpr ⟨s, run_convertFor_null⟩⟩
  · by_cases hold' : old = .null
    · exact (follows_copyProperty h v).stores_iff.mpr ⟨s, run_adapted_of_null (hold.trans hold')⟩
    · exact (follows_copyProperty_of_ne_null h hold hold' v).stores_iff.mpr ⟨s, run_convertFor_of_typeOf hty⟩
  · have hset := follows_setProperty_of_ne_null (b := b) h hold hne v
    have hcopy := follows_copyProperty_of_ne_null (b := b) h hold hne v
    exact ⟨hset.stores_iff, hcopy.stores_iff, hset, hcopy⟩

/-! ### A text where there is a number -/

/-- A class of objects that have entries only. -/
def bags : ClassGraph :=
  (ClassGraph.empty.define? ⟨"Bag", true, false, none, [], [], true, false, [], true⟩).getD .empty

/-- A number. -/
def three : Value := .int .w32 ⟨3, by decide⟩

/-- An object with a number in one entry. -/
def bag : State bags :=
  ⟨⟨.empty, .empty, .empty, ⟨#[⟨0, .empty, some (Dict.empty.insert "n" three)⟩]⟩, .empty, .empty⟩, .empty⟩

theorem isEntry_bag : IsEntry bags bag.heap ⟨0⟩ (Dict.empty.insert "n" three) "n" where
  hasCell := Nat.zero_lt_one
  storage := rfl
  simple := by decide
  descriptor := by
    have hnone : (bags.descriptor? 0 "n").isNone = true := by decide +kernel
    exact Option.isNone_iff_eq_none.mp hnone
  keyed := by
    have hkeyed : (bags.keyed? 0 "n").toOption.any Option.isNone = true := by decide +kernel
    change bags.keyed? 0 "n" = .ok none
    cases h : bags.keyed? 0 "n" with
    | error e =>
      rw [h] at hkeyed
      cases hkeyed
    | ok k =>
      rw [h] at hkeyed
      rw [Option.isNone_iff_eq_none.mp hkeyed]

/-- A binder with the converters of a configuration. -/
def ofConfig (config : RegistryConfig) : Binder := ⟨⟨0⟩, (Registry.withConfig config .empty).1⟩

theorem lookup?_lenient : (ofConfig .standard).registry.lookup? (.boxed (.int .w32)) =
    some ⟨.number (.int .w32), some (.int .w32 ⟨0, by decide⟩)⟩ := rfl

theorem lookup?_strict : (ofConfig ⟨true, false, 0⟩).registry.lookup? (.boxed (.int .w32)) =
    some ⟨.number (.int .w32), none⟩ := rfl

/-- A text in place of a number is stored as the number to fall back to, or is refused if there is none. -/
theorem setProperty_of_isEntry_text :
    (∃ s₁ s₂, ExceptT.run ((ofConfig .standard).setProperty (.object ⟨0⟩) "n" (.text "abc")) bag = (.ok (), s₁) ∧
      ExceptT.run ((ofConfig .standard).resolver.read (.object ⟨0⟩) "n") s₁ =
        (.ok (.int .w32 ⟨0, by decide⟩), s₂)) ∧
    ∃ e s₁, ExceptT.run ((ofConfig ⟨true, false, 0⟩).copyProperty (.object ⟨0⟩) "n" (.text "abc")) bag =
      (.error e, s₁) := by
  have hne : three ≠ .null := nofun
  have htext : Value.text "abc" ≠ .null := nofun
  refine ⟨?_, ?_⟩
  · have hset := follows_setProperty_of_ne_null (b := ofConfig .standard) isEntry_bag rfl hne (.text "abc")
    have hconvert : (ofConfig .standard).registry.convertText bags (bag.heap.typeOf three) "abc" bag.heap =
        .ok (.int .w32 ⟨0, by decide⟩, bag.heap) := by
      have hlookup : (ofConfig .standard).registry.lookup? (bag.heap.typeOf three) = _ := lookup?_lenient
      rw [Registry.convertText, hlookup]
      exact ConverterEntry.apply_of_fallback rfl htext
    obtain ⟨-, s₁, s₂, hrun, -, hread⟩ := hset.ok _ _ (run_convertInput_text rfl hconvert)
    exact ⟨s₁, s₂, hrun, hread⟩
  · have hcopy := follows_copyProperty_of_ne_null (b := ofConfig ⟨true, false, 0⟩) isEntry_bag rfl hne (.text "abc")
    have hlookup : (ofConfig ⟨true, false, 0⟩).registry.lookup? (bag.heap.typeOf three) = _ := lookup?_strict
    have hany := Heap.typeOf_ne_any (H := bag.heap) hne
    have hconvert := Registry.convert_of_lookup? (G := bags) (H := bag.heap) (v := .text "abc") hany hlookup
      (Or.inr rfl)
    rw [ConverterEntry.apply_of_strict rfl htext] at hconvert
    obtain ⟨-, s₁, hrun, -⟩ := hcopy.error _ _ (Op.run_tryChange_of_error bag hconvert)
    exact ⟨_, s₁, hrun⟩

/-- A number takes the place of a number. -/
theorem setProperty_of_isEntry_number : ∃ v, v ≠ .null ∧
    (ofConfig .standard).Stores bag (.object ⟨0⟩) "n" v ((ofConfig .standard).copyProperty (.object ⟨0⟩) "n" v) :=
  ⟨three, nofun, (setProperty_of_isEntry (ofConfig .standard) bag ⟨0⟩ _ "n" isEntry_bag three rfl three).2.1 rfl⟩

end Binder

end ObjectGraph
