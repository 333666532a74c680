import ObjectGraph.Proofs.Record.Fixed
import ObjectGraph.Proofs.Record.Furnishing
import ObjectGraph.Proofs.Value.Assignability

/-!
Writes of values that have been widened before.  A record takes what a slot of the declared type would hold after a
write just as it takes the value itself: it makes the same of both, also where the elements of an array are of a
narrower type than is declared.
-/

namespace ObjectGraph

open Op

/-- Whether a value is what a slot holds after another one, which is not null, has been written to it; the slot is of a
type that does not take all values. -/
structure Heap.Widens (G : ClassGraph) (H : Heap) (t : Ty) (v w : Value) : Prop where
  stored : ∀ name, H.coerce G t name v = .ok w
  ne_null : v ≠ .null
  ne_any : t ≠ .any

namespace Heap.Widens
variable {G : ClassGraph} {H H' : Heap} {t u : Ty} {v w c : Value} {name : String} {i : Nat}

theorem again (h : H.Widens G t v w) (name : String) : H.coerce G t name w = .ok w :=
  (fits_of_coerce (h.stored name)).coerce

theorem later (h : H.Widens G t v w) (htypes : H.KeepsTypes H') (hv : H.Live v) : H'.Widens G t v w :=
  ⟨fun name => (coerce_congr (htypes.typeOf hv)).trans (h.stored name), h.ne_null, h.ne_any⟩

theorem coerce_eq (h : H.Widens G t v w) (name : String) : H.coerce G t name w = H.coerce G t name v :=
  (h.again name).trans (h.stored name).symm

/-- A slot that holds less makes the same of both as well. -/
theorem coerce_eq_of_assigns (h : H.Widens G t v w) (hu : G.Assigns t u) (name : String) :
    H.coerce G u name w = H.coerce G u name v := by
  cases hu with
  | any => exact absurd rfl h.ne_any
  | self => exact h.coerce_eq name
  | _ =>
    rcases coerce_cases (h.stored name) (Value.isNull_eq_false_iff.mpr h.ne_null) with
      ⟨p, hp, -⟩ | ⟨ht, -⟩ | ⟨-, -, -, rfl⟩
    · cases hp
    · cases ht
    · rfl

theorem setElement_eq (h : H.Widens G t v w) (hc : ∀ a, c = .array a → G.Assigns t (H.get a).component) :
    H.setElement G name i w t c = H.setElement G name i v t c := by
  cases c with
  | list l => simp only [setElement, h.coerce_eq name]
  | array a => simp only [setElement, h.coerce_eq_of_assigns (hc a rfl) name]
  | _ => rfl

end Heap.Widens

/-- A value that an array property accepts is an array of the elements that the property is to have. -/
theorem Property.assigns_component {G : ClassGraph} {H : Heap} {p : Property} {a : Handle .array}
    (hcontent : p.content ≠ none → p.ty = .list ∨ p.ty = .map) (hany : p.elementTy ≠ .any)
    (h : H.accepts G p.ty (.array a) = true) : G.Assigns p.elementTy (H.get a).component := by
  obtain ⟨name, ty, content⟩ := p
  cases ty with
  | array t => exact ClassGraph.assignable_iff.mp h
  | any =>
    cases content with
    | none => exact absurd rfl hany
    | some t => rcases hcontent nofun with h | h <;> cases h
  | _ => cases h

namespace FixedRecord
variable {G : ClassGraph} {H : Heap} {S : Schema} {d : Dict Value} {name key : String} {p : Property} {v w : Value}
  {i : Nat}

theorem write_eq (hp : S.property? name = some p) (h : H.Widens G p.ty v w) :
    write G H S d name w = write G H S d name v := by
  simp only [write, Schema.declared, hp, bind, Except.bind, h.coerce_eq name]

theorem writeElement_eq (hp : S.property? name = some p) (h : H.Widens G p.elementTy v w)
    (hc : ∀ a, read S d name = .ok (.array a) → G.Assigns p.elementTy (H.get a).component) :
    writeElement G H S d name i w = writeElement G H S d name i v := by
  simp only [writeElement, Schema.declared, hp, bind, Except.bind]
  cases hread : read S d name with
  | error e => rfl
  | ok c =>
    simp only [Heap.setElementOf, Value.subscripted]
    split
    · rfl
    · exact h.setElement_eq fun a ha => hc a (ha ▸ hread)

theorem writeEntry_eq (hp : S.property? name = some p) (h : H.Widens G p.elementTy v w) :
    writeEntry G H S d name key w = writeEntry G H S d name key v := by
  simp only [writeEntry, Schema.declared, hp, bind, Except.bind, h.coerce_eq name]

end FixedRecord

namespace GrowingRecord
variable {G : ClassGraph} {g : GrowingRecord} {s s₁ : State G} {H H' : Heap} {name key : String} {p q : Property}
  {v w c : Value} {i : Nat}

theorem Readies.keepsTypes (h : g.Readies name H H') : H.KeepsTypes H' where
  has := h.has
  component hh := congrArg TypedArray.component (h.same (k := .array) nofun hh id)
  cls hh := congrArg Object.cls (h.same (k := .object) nofun hh id)

theorem run_write_eq (hp : g.property? name s.heap = some p) (h : s.heap.Widens G p.ty v w) :
    ExceptT.run (g.write name w : Op G Unit) s = ExceptT.run (g.write name v) s := by
  rw [run_write_of_property hp, run_write_of_property hp, h.coerce_eq name]

/-- A longer copy of an array is accepted where the array is. -/
theorem Holds.accepts_of_run_lengthened {t : Ty} (h : g.Holds s.heap name p c)
    (hc : ∀ a, c = .array a → s.heap.accepts G t (.array a) = true) {c' : Value}
    (hrun : ExceptT.run (g.lengthened name i : Op G (Property × Value)) s = (.ok (q, c'), s₁)) :
    q = p ∧ ∀ a, c' = .array a → s₁.heap.accepts G t (.array a) = true := by
  by_cases hrange : ∀ items, s.heap.items? c = some items → i < items.length
  · have hsame := hrun.symm.trans (h.run_lengthened hrange)
    split at hsame <;> cases hsame
    exact ⟨rfl, hc⟩
  · push Not at hrange
    obtain ⟨items, hitems, hi⟩ := hrange
    cases c with
    | list l =>
      obtain ⟨H, hlengthened, -⟩ := h.run_lengthened_list (G := G) i
      cases hrun.symm.trans hlengthened
      exact ⟨rfl, nofun⟩
    | array a =>
      cases hitems
      obtain ⟨A, K, hA⟩ : ∃ A K, (s.heap.get a).grown G (i + 1) s.heap = (A, K) := ⟨_, _, rfl⟩
      cases hrun.symm.trans (h.run_lengthened_array hi hA)
      refine ⟨rfl, ?_⟩
      rintro _ ⟨⟩
      have hcell : (g.store name (.array (K.next .array)) (K.alloc .array A).2).get (K.next .array) = A :=
        (get_store_of_not_owns id).trans (K.get_alloc_self (k := .array) A)
      refine Heap.accepts_of_component (hc a rfl) ((congrArg TypedArray.component hcell).trans ?_)
      exact congrArg (fun B => B.1.component) hA.symm
    | _ => cases hitems

theorem Opened.accepts {p : Property} (h : g.Opened name p c s s₁)
    (hheld : ∀ a, g.Holds s.heap name p (.array a) → s.heap.accepts G p.ty (.array a) = true) {a : Handle .array}
    (hc : c = .array a) : s₁.heap.accepts G p.ty (.array a) = true := by
  cases h with
  | held h => exact hheld a (hc ▸ h)
  | made _ harray =>
    rw [(harray a hc).2]
    exact G.assignable_self _

section
variable (hin : g.IsIn s.heap) (hp : g.property? name s.heap = some p)
include hin hp

theorem IsIn.lengthened_of_run
    (hheld : ∀ a, g.Holds s.heap name p (.array a) → s.heap.accepts G p.ty (.array a) = true)
    (hrun : ExceptT.run (g.lengthened name i : Op G (Property × Value)) s = (.ok (q, c), s₁)) :
    q = p ∧ s.heap.KeepsTypes s₁.heap ∧ ∀ a, c = .array a → s₁.heap.accepts G p.ty (.array a) = true := by
  obtain ⟨_, _, hlengthened, hreadies⟩ := readies_lengthened (G := G) hin name i
  cases hrun.symm.trans hlengthened
  obtain ⟨p', c', s₀, -, hholds, hopened, hunique, hagain⟩ := hin.opened_of_lengthened hrun
  obtain rfl := hunique p hp
  obtain ⟨hq, haccepts⟩ := hholds.accepts_of_run_lengthened (fun _ => hopened.accepts hheld) hagain
  exact ⟨hq, hreadies.keepsTypes, haccepts⟩

theorem IsIn.keyed_of_run (hrun : ExceptT.run (g.keyed name : Op G (Property × Value)) s = (.ok (q, c), s₁)) :
    q = p ∧ s.heap.KeepsTypes s₁.heap := by
  obtain ⟨_, _, hkeyed, hreadies⟩ := readies_keyed (G := G) hin name
  cases hrun.symm.trans hkeyed
  obtain ⟨p', c', s₀, -, hholds, -, hunique, hagain⟩ := hin.opened_of_keyed hrun
  obtain rfl := hunique p hp
  have hsame := hagain.symm.trans hholds.run_keyed
  split at hsame <;> cases hsame
  exact ⟨rfl, hreadies.keepsTypes⟩

variable (hv : s.heap.Live v) (h : s.heap.Widens G p.elementTy v w)
include hv h

theorem IsIn.run_writeElement_eq (hcontent : p.content ≠ none → p.ty = .list ∨ p.ty = .map)
    (hheld : ∀ a, g.Holds s.heap name p (.array a) → s.heap.accepts G p.ty (.array a) = true) :
    ExceptT.run (g.writeElement name i w : Op G Unit) s = ExceptT.run (g.writeElement name i v) s := by
  rcases hrun : ExceptT.run (g.lengthened name i : Op G (Property × Value)) s with ⟨e | ⟨q, c⟩, s₁⟩
  · rw [writeElement, writeElement, run_bind_of_error hrun, run_bind_of_error hrun]
  · obtain ⟨rfl, htypes, haccepts⟩ := hin.lengthened_of_run hp hheld hrun
    have hset : s₁.heap.setElement G name i w q.elementTy c = s₁.heap.setElement G name i v q.elementTy c :=
      (h.later htypes hv).setElement_eq fun a ha => Property.assigns_component hcontent h.ne_any (haccepts a ha)
    rw [writeElement, writeElement, run_bind_of_ok hrun, run_bind_of_ok hrun, run_tryWrite, run_tryWrite, hset]

theorem IsIn.run_writeEntry_eq :
    ExceptT.run (g.writeEntry name key w : Op G Unit) s = ExceptT.run (g.writeEntry name key v) s := by
  rcases hrun : ExceptT.run (g.keyed name : Op G (Property × Value)) s with ⟨e | ⟨q, c⟩, s₁⟩
  · rw [writeEntry, writeEntry, run_bind_of_error hrun, run_bind_of_error hrun]
  · obtain ⟨rfl, htypes⟩ := hin.keyed_of_run hp hrun
    have hcoerce := (h.later htypes hv).coerce_eq name
    have hread : (Op.tryRead fun H => H.coerce G q.elementTy name w : Op G Value).run s₁ =
        (Op.tryRead fun H => H.coerce G q.elementTy name v : Op G Value).run s₁ := by
      rw [Op.run_tryRead, Op.run_tryRead, hcoerce]
    rw [writeEntry, writeEntry, run_bind_of_ok hrun, run_bind_of_ok hrun]
    exact run_bind_congr hread

end

end GrowingRecord

end ObjectGraph
