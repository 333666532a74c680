import ObjectGraph.Binder
import ObjectGraph.Proofs.Access.Rereading
import ObjectGraph.Proofs.Convert.Entries
import ObjectGraph.Proofs.Record.Widening

/-!
Converting writes of values that need no conversion.  To find the type to convert to, the path is followed a second
time, and then the value is widened to that type before it is written; neither makes a difference where the type takes
the value, or where there is none.
-/

namespace ObjectGraph

open Op

namespace Record.Accords
variable {G : ClassGraph} {H : Heap} {h : Handle .record} {S : Handle .schema} {name : String} {p : Property}
  {a : Handle .array}

theorem accepts_fixed {d : Dict Value} (haccords : Accords G H h) (hcell : H.get h = .fixed S d)
    (hp : property? h name H = some p) (ha : FixedRecord.read (H.get S) d name = .ok (.array a)) :
    H.accepts G p.ty (.array a) = true := by
  have hget := (FixedRecord.read_eq_ok ha).resolve_right nofun
  exact haccords.accepted (by rw [Heap.stored?, hcell]) hp hget nofun

theorem accepts_growing {store : Store} (haccords : Accords G H h) (hcell : H.get h = .growing S store)
    (ha : (GrowingRecord.ofStore h S store).Holds H name p (.array a)) : H.accepts G p.ty (.array a) = true := by
  refine haccords.accepted (Heap.stored?_growing hcell) ((Heap.property?_growing hcell name).trans ha.property) ?_ nofun
  rw [← ha.stored]
  exact GrowingRecord.get?_of_stored (ha.stored ▸ ha.ne_null)

end Record.Accords

namespace Resolver
variable {G : ClassGraph} {r : Resolver} {s : State G} {h : Handle .record} {seg : Segment} {p : Property} {v w : Value}

/-- The type that a property gives to what a segment with its name leads to. -/
def slotTy (p : Property) (seg : Segment) : Ty := if seg.subscript = .none then p.ty else p.elementTy

theorem run_segmentTy_record : ExceptT.run (r.segmentTy (.record h) seg : Op G (Option Ty)) s =
    (.ok ((Record.property? h seg.name s.heap).map fun p => slotTy p seg), s) := rfl

section
variable (haccords : Record.Accords G s.heap h) (hp : Record.property? h seg.name s.heap = some p)
  (hw : s.heap.Widens G (slotTy p seg) v w)
include haccords hp hw

theorem run_writeSegment_fixed_eq {S : Handle .schema} {d : Dict Value} (hcell : s.heap.get h = .fixed S d) :
    ExceptT.run (r.writeSegment (.record h) seg w : Op G Unit) s =
      ExceptT.run (r.writeSegment (.record h) seg v) s := by
  obtain ⟨name, sub⟩ := seg
  have hp' : (s.heap.get S).property? name = some p := by
    rwa [Record.property?, hcell, Heap.schemaOf, hcell] at hp
  cases sub with
  | none =>
    change ExceptT.run (Record.write h name w) s = ExceptT.run (Record.write h name v) s
    simp only [Record.write, run_bind_of_ok (Op.run_read s _), hcell, run_tryWrite, FixedRecord.write_eq hp' hw]
  | index i =>
    have hassigns (a : Handle .array) (ha : FixedRecord.read (s.heap.get S) d name = .ok (.array a)) :=
      Property.assigns_component (haccords.content hp) hw.ne_any (haccords.accepts_fixed hcell hp ha)
    change ExceptT.run (Record.writeElement h name i w) s = ExceptT.run (Record.writeElement h name i v) s
    simp only [Record.writeElement, run_bind_of_ok (Op.run_read s _), hcell, run_tryWrite,
      FixedRecord.writeElement_eq hp' hw hassigns]
  | key key =>
    change ExceptT.run (Record.writeEntry h name key w) s = ExceptT.run (Record.writeEntry h name key v) s
    simp only [Record.writeEntry, run_bind_of_ok (Op.run_read s _), hcell, run_tryWrite,
      FixedRecord.writeEntry_eq hp' hw]

theorem run_writeSegment_growing_eq {S : Handle .schema} {store : Store} (hcell : s.heap.get h = .growing S store)
    (hin : (GrowingRecord.ofStore h S store).IsIn s.heap) (hv : s.heap.Live v) :
    ExceptT.run (r.writeSegment (.record h) seg w : Op G Unit) s =
      ExceptT.run (r.writeSegment (.record h) seg v) s := by
  obtain ⟨name, sub⟩ := seg
  have hp' := (Heap.property?_growing hcell name).symm.trans hp
  cases sub with
  | none =>
    change ExceptT.run (Record.write h name w) s = ExceptT.run (Record.write h name v) s
    simp only [Record.write, run_bind_of_ok (Op.run_read s _), hcell]
    exact GrowingRecord.run_write_eq hp' hw
  | index i =>
    change ExceptT.run (Record.writeElement h name i w) s = ExceptT.run (Record.writeElement h name i v) s
    simp only [Record.writeElement, run_bind_of_ok (Op.run_read s _), hcell]
    exact hin.run_writeElement_eq hp' hv hw (haccords.content hp) fun _ => haccords.accepts_growing hcell
  | key key =>
    change ExceptT.run (Record.writeEntry h name key w) s = ExceptT.run (Record.writeEntry h name key v) s
    simp only [Record.writeEntry, run_bind_of_ok (Op.run_read s _), hcell]
    exact hin.run_writeEntry_eq hp' hv hw

end

/-- A record that stores what it declares is written with a value that has been widened as with the value itself. -/
theorem run_writeSegment_eq (ht : s.heap.Orderly G (.record h)) (hp : Record.property? h seg.name s.heap = some p)
    (hv : s.heap.Live v) (hw : s.heap.Widens G (slotTy p seg) v w) :
    ExceptT.run (r.writeSegment (.record h) seg w : Op G Unit) s =
      ExceptT.run (r.writeSegment (.record h) seg v) s := by
  obtain ⟨-, haccords⟩ := ht _ .refl
  cases hcell : s.heap.get h with
  | fixed S d => exact run_writeSegment_fixed_eq haccords hp hw hcell
  | growing S store => exact run_writeSegment_growing_eq haccords hp hw hcell (ht.isIn hcell) hv
  | adapter S o r' => exact absurd hcell ht.not_adapter

end Resolver

namespace Binder
variable {G : ClassGraph} {b : Binder} {s s₁ : State G} {t u v w : Value} {path : String} {seg : Segment} {ty : Ty}

theorem run_targetTy_of_owner {ty? : Option Ty}
    (howner : ExceptT.run (b.resolver.owner t path : Op G (Value × Segment)) s = (.ok (u, seg), s))
    (hty : ExceptT.run (b.resolver.segmentTy u seg : Op G (Option Ty)) s = (.ok ty?, s)) (hmap : ∀ m, u ≠ .map m) :
    ExceptT.run (b.targetTy t u path : Op G (Option Ty)) s = (.ok (ty?.filter (· ≠ .any)), s) := by
  have hpath : ExceptT.run (b.resolver.propertyTy t path : Op G (Option Ty)) s = (.ok ty?, s) :=
    (run_bind_of_ok howner).trans hty
  have heq : (b.targetTy t u path : Op G (Option Ty)) =
      b.resolver.propertyTy t path >>= fun ty? => pure (ty?.filter (· ≠ .any)) := by
    cases u <;> first | rfl | exact absurd rfl (hmap _)
  rw [heq, run_bind_of_ok hpath]
  rfl

theorem run_copyProperty_of_error {e : Error}
    (howner : ExceptT.run (b.resolver.owner t path : Op G (Value × Segment)) s = (.error e, s₁)) :
    ExceptT.run (b.copyProperty t path v : Op G Unit) s = ExceptT.run (b.resolver.write t path v) s := by
  rw [copyProperty, Resolver.write, run_bind_of_error howner, run_bind_of_error howner]

section
variable (howner : ExceptT.run (b.resolver.owner t path : Op G (Value × Segment)) s = (.ok (u, seg), s₁))
include howner

theorem run_copyProperty_of_none (hty : ExceptT.run (b.targetTy t u path : Op G (Option Ty)) s₁ = (.ok none, s₁)) :
    ExceptT.run (b.copyProperty t path v : Op G Unit) s = ExceptT.run (b.resolver.write t path v) s := by
  rw [copyProperty, Resolver.write, run_bind_of_ok howner, run_bind_of_ok howner]
  dsimp only
  rw [run_bind_of_ok hty]
  rfl

theorem run_copyProperty_of_some (hty : ExceptT.run (b.targetTy t u path : Op G (Option Ty)) s₁ = (.ok (some ty), s₁))
    (hw : ExceptT.run (b.convertFor v ty : Op G Value) s₁ = (.ok w, s₁)) :
    ExceptT.run (b.copyProperty t path v : Op G Unit) s = ExceptT.run (b.resolver.writeSegment u seg w) s₁ := by
  rw [copyProperty, run_bind_of_ok howner]
  dsimp only
  rw [run_bind_of_ok hty]
  dsimp only
  rw [run_bind_of_ok hw]

end

/-- A value that the type of a property accepts is converted to what a plain write makes of it. -/
theorem run_copyProperty_record {h : Handle .record} {p : Property}
    (howner : ExceptT.run (b.resolver.owner t path : Op G (Value × Segment)) s = (.ok (.record h, seg), s))
    (hrecord : s.heap.Orderly G (.record h)) (hp : Record.property? h seg.name s.heap = some p)
    (hany : Resolver.slotTy p seg ≠ .any) (hv : v ≠ .null) (hlive : s.heap.Live v)
    (haccepts : s.heap.accepts G (Resolver.slotTy p seg) v = true) :
    ExceptT.run (b.copyProperty t path v : Op G Unit) s = ExceptT.run (b.resolver.write t path v) s := by
  obtain ⟨w, hw, hconvert⟩ := b.registry.convert_of_accepts hv haccepts
  have hwidens : s.heap.Widens G (Resolver.slotTy p seg) v w := ⟨fun _ => Heap.coerce_of_property hw, hv, hany⟩
  have hty := run_targetTy_of_owner howner Resolver.run_segmentTy_record nofun
  rw [hp, Option.map_some, Option.filter_some, if_pos (by simp [hany])] at hty
  have hfor : ExceptT.run (b.convertFor v (Resolver.slotTy p seg) : Op G Value) s = (.ok w, s) := by
    rw [convertFor, Value.isNull_eq_false_iff.mpr hv]
    exact Op.run_tryChange_of_ok s hconvert
  rw [run_copyProperty_of_some howner hty hfor, Resolver.run_writeSegment_eq hrecord hp hlive hwidens, Resolver.write,
    run_bind_of_ok howner]

/-- A growing record with an array of numbers is orderly. -/
theorem orderly_counters : Resolver.counters.heap.Orderly .empty (.record ⟨0⟩) := by
  have harray : Resolver.counters.heap.Orderly .empty (.array ⟨0⟩) := by
    intro u hu
    rcases hu.cases_head with rfl | ⟨w, hw, hu⟩
    · exact ⟨Nat.zero_lt_one, trivial⟩
    · obtain rfl := List.mem_singleton.mp hw
      exact Heap.orderly_of_isScalar rfl u hu
  have hproperty {name : String} {p : Property} (hp : Record.property? ⟨0⟩ name Resolver.counters.heap = some p) :
      p = ⟨"counts", .array (.primitive (.int .w32)), none⟩ := by
    have hdeclared : (Schema.ofProperties "Row" [⟨"counts", .array (.primitive (.int .w32)), none⟩]).property? name =
        some p := by
      change GrowingRecord.property? ⟨⟨0⟩, ⟨0⟩, none⟩ name Resolver.counters.heap = some p at hp
      rw [GrowingRecord.property?] at hp
      split at hp
      · cases hp
        assumption
      · cases hp
    rw [Schema.property?_ofProperties] at hdeclared
    exact List.mem_singleton.mp (List.mem_of_find?_eq_some hdeclared)
  intro u hu
  rcases hu.cases_head with rfl | ⟨w, hw, hu⟩
  · refine ⟨Nat.zero_lt_one, ⟨Nat.zero_lt_one, fun hp hcontent => ?_, fun {d name p v} hd hp hv _ => ?_⟩⟩
    · exact absurd (congrArg Property.content (hproperty hp)) hcontent
    · cases hd
      rw [hproperty hp]
      obtain rfl := List.mem_singleton.mp (List.mem_map_of_mem (f := Prod.snd) (Dict.mem_of_get? hv))
      rfl
  · obtain rfl := List.mem_singleton.mp hw
    exact harray u hu

end Binder

end ObjectGraph
