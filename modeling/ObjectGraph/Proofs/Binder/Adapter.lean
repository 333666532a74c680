import ObjectGraph.Proofs.Access.Adapter
import ObjectGraph.Proofs.Access.Asking
import ObjectGraph.Proofs.Binder.Storage
import ObjectGraph.Proofs.Class.Introspection
import ObjectGraph.Proofs.Object.Questions
import ObjectGraph.Proofs.Record.Schema

/-!
What is reported about an adapter, and what a binder writes through it.  Where a path has two or more segments, all is
as for its object.  Of a single segment an adapter is asked by the name alone, and the types come from its own schema,
which knows neither keyed accessors nor entries; so a value is converted alike only where the two types agree.
-/

namespace ObjectGraph

open Op

/-! ### Answers by the name alone -/

namespace ClassGraph
variable {G : ClassGraph} {c : ClassId} {g : Segment}

theorem descriptor?_empty (G : ClassGraph) (c : ClassId) : G.descriptor? c "" = none := G.findDescriptor?_empty c

theorem answersReadable_empty (G : ClassGraph) (c : ClassId) (sub : Subscript) :
    G.answersReadable c ⟨"", sub⟩ = false := by
  rw [answersReadable, G.descriptor?_empty]
  rfl

theorem answersWriteable_empty (G : ClassGraph) (c : ClassId) (sub : Subscript) :
    G.answersWriteable c ⟨"", sub⟩ = false := by
  rw [answersWriteable, G.descriptor?_empty]
  rfl

/-- Whether a segment is said to be read exactly if its name alone is.  That is not so for an index if only the elements
have a getter. -/
def readsByName (G : ClassGraph) (c : ClassId) (g : Segment) : Bool :=
  match G.descriptor? c g.name, g.subscript with
  | some d, .index _ => d.read.isSome || d.readElement.isNone
  | _, _ => true

/-- Whether a segment is said to be written exactly if its name alone is.  That is not so for an index if there is no
setter of the whole, but one of the elements or a getter of the whole; and for a key if the whole has only one of a
getter and a setter. -/
def writesByName (G : ClassGraph) (c : ClassId) (g : Segment) : Bool :=
  match G.descriptor? c g.name, g.subscript with
  | some d, .index _ => d.write.isSome || d.writeElement.isNone && d.read.isNone
  | some d, .key _ => d.read.isSome == d.write.isSome
  | _, _ => true

theorem readsByName_iff :
    G.readsByName c g = true ↔ G.answersReadable c g = G.answersReadable c ⟨g.name, .none⟩ := by
  unfold readsByName answersReadable
  cases G.descriptor? c g.name with
  | none => simp
  | some d =>
    cases g.subscript <;> cases hr : d.read <;> cases he : d.readElement <;> simp [Descriptor.isReadable, hr, he]

theorem writesByName_iff :
    G.writesByName c g = true ↔ G.answersWriteable c g = G.answersWriteable c ⟨g.name, .none⟩ := by
  unfold writesByName answersWriteable
  cases G.descriptor? c g.name with
  | none => simp
  | some d =>
    cases g.subscript <;> cases hr : d.read <;> cases hw : d.write <;> cases he : d.writeElement <;>
      simp [Descriptor.isWriteable, hw, he]

end ClassGraph

/-- Where the name alone is asked for, which is refused if it is empty, the answer is the one for the segment exactly
if the name is not empty or the answers are the same. -/
theorem named_eq_iff {name : String} {isKeyed whole part : Bool} (hwhole : name = "" → whole = false)
    (hpart : name = "" → part = false) :
    (!name.isEmpty && (isKeyed || whole)) = (isKeyed || part) ↔ if isKeyed then name ≠ "" else part = whole := by
  by_cases hname : name = ""
  · simp [hwhole hname, hpart hname, hname]
  · have hnonempty : name.isEmpty = false := by simpa using hname
    cases isKeyed <;> simp [hnonempty, hname, eq_comm]

/-! ### The schema of an adapter -/

theorem findDescriptor?_reverse {ds : List Descriptor} (h : (ds.map Descriptor.name).Nodup) (name : String) :
    findDescriptor? ds.reverse name = findDescriptor? ds name := by
  have hreverse : (ds.reverse.map Descriptor.name).Nodup := by
    rw [List.map_reverse]
    exact List.nodup_reverse.mpr h
  refine Option.ext fun d => ?_
  rw [findDescriptor?_eq_some hreverse, findDescriptor?_eq_some h, List.mem_reverse]

/-- Whether a schema has the properties of a class and no others, each with the types that its accessors declare. -/
def Schema.Shows (S : Schema) (G : ClassGraph) (c : ClassId) : Prop :=
  ∀ name, S.property? name = (G.descriptor? c name).map Record.adapted

/-- The type that is shown for a segment: for a name any is shown if no accessor of the whole declares one, and with a
subscript the type of the elements. -/
def ClassGraph.shownTy? (G : ClassGraph) (c : ClassId) (g : Segment) : Option Ty :=
  (G.descriptor? c g.name).map fun d => if g.subscript = .none then d.ty?.getD .any else (Record.adapted d).elementTy

/-- Whether a value for a segment is converted to the type that is shown just as to the object's own, where no type
counts as any. -/
def Heap.SharesTy (G : ClassGraph) (H : Heap) (o : Handle .object) (g : Segment) : Prop :=
  (H.ownTy G o g).map (Option.filter (· ≠ .any)) = .ok ((G.shownTy? (H.get o).cls g).filter (· ≠ .any))

/-- A type that the accessors of the whole declare is the object's own, and is shown. -/
theorem Heap.ownTy_eq_shownTy? {G : ClassGraph} {H : Heap} {o : Handle .object} {g : Segment} {d : Descriptor} {t : Ty}
    (hd : G.descriptor? (H.get o).cls g.name = some d) (ht : d.ty? = some t) (hg : g.subscript = .none) :
    H.ownTy G o g = .ok (G.shownTy? (H.get o).cls g) := by
  rw [ownTy, ClassGraph.shownTy?, hd, hg]
  simp [ht]

theorem Heap.sharesTy_of_eq {G : ClassGraph} {H : Heap} {o : Handle .object} {g : Segment}
    (h : H.ownTy G o g = .ok (G.shownTy? (H.get o).cls g)) : H.SharesTy G o g := by
  rw [SharesTy, h]
  rfl

/-- A new adapter shows the class of its object. -/
theorem Record.run_newAdapter {G : ClassGraph} (r : Resolver) {o : Handle .object} {s : State G} (ho : s.heap.Has o) :
    ∃ w S s', ExceptT.run (newAdapter r o : Op G (Handle .record)) s = (.ok w, s') ∧ s.heap.OnlyAdds s'.heap ∧
      s'.heap.get w = .adapter S o r ∧ (s'.heap.get S).Shows G (s'.heap.get o).cls := by
  obtain ⟨s₁, hheap, hds⟩ := Resolver.run_descriptors r (s.heap.get o).cls s
  let T := (Schema.ofProperties (G.nameOf (s.heap.get o).cls) ((G.descriptors (s.heap.get o).cls).map adapted)).restrict
    true
  let j := (s₁.heap.alloc .schema T).1
  let H := (s₁.heap.alloc .schema T).2
  have hschema : H.get j = T := s₁.heap.get_alloc_self (k := .schema) T
  have hadds : s.heap.OnlyAdds H := hheap ▸ s₁.heap.onlyAdds_alloc (k := .schema) T
  have hadds' : H.OnlyAdds (H.alloc .record (.adapter j o r)).2 := H.onlyAdds_alloc (k := .record) _
  refine ⟨_, j, { s₁ with heap := (H.alloc .record (.adapter j o r)).2 }, ?_, hadds.trans hadds',
    H.get_alloc_self (k := .record) _, fun name => ?_⟩
  · rw [newAdapter, Resolver.classOf, Op.run_bind_of_ok (Op.run_read s _), Op.run_bind_of_ok hds]
    rfl
  · have hnodup := G.nodup_descriptors (s.heap.get o).cls
    change ((H.alloc .record (.adapter j o r)).2.get j).property? name =
      (G.descriptor? ((H.alloc .record (.adapter j o r)).2.get o).cls name).map adapted
    rw [hadds'.same (Heap.has_alloc (k := .schema) T), hschema, hadds'.same (hadds.has ho), hadds.same ho]
    change (Schema.ofProperties _ _).property? name = _
    rw [Schema.property?_ofProperties, ← List.map_reverse, List.find?_map]
    exact congrArg _ (findDescriptor?_reverse hnodup name)

namespace Resolver
variable {G : ClassGraph} {r r' : Resolver} {s : State G} {w : Handle .record} {o : Handle .object}
  {S : Handle .schema} {path : String} {p : Path} {g : Segment} {v : Value} {α : Type}

/-- Whether an operation has the same outcome for an adapter as for its object. -/
def Alike (s : State G) (w : Handle .record) (o : Handle .object) (x : Value → Op G α) : Prop :=
  outcome (x (.record w)) s = outcome (x (.object o)) s

theorem storage_eq_none (h : s.heap.isKeyed (.object o) = false) : (s.heap.get o).storage = none := by
  simpa [Heap.isKeyed, Heap.entries?] using h

theorem outcome_objectReadable (r : Resolver) (o : Handle .object) (g : Segment) (s : State G) :
    outcome (r.objectReadable o g) s =
      (.ok (s.heap.isKeyed (.object o) || G.answersReadable (s.heap.get o).cls g), s.heap) := by
  refine Prod.ext ?_ (asks_objectReadable r o g s)
  cases hkeyed : s.heap.isKeyed (.object o) with
  | false =>
    obtain ⟨s₁, hrun⟩ := run_objectReadable (r := r) (storage_eq_none hkeyed) rfl g
    rw [outcome_of_run hrun, Bool.false_or]
  | true =>
    rw [objectReadable, outcome_of_run_eq (run_bind_of_ok (Op.run_read s _)), hkeyed, if_pos rfl]
    rfl

theorem outcome_objectWriteable (r : Resolver) (o : Handle .object) (g : Segment) (s : State G) :
    outcome (r.objectWriteable o g) s =
      (.ok (s.heap.isKeyed (.object o) || G.answersWriteable (s.heap.get o).cls g), s.heap) := by
  refine Prod.ext ?_ (asks_objectWriteable r o g s)
  cases hkeyed : s.heap.isKeyed (.object o) with
  | false =>
    obtain ⟨s₁, hrun⟩ := run_objectWriteable (r := r) (storage_eq_none hkeyed) rfl g
    rw [outcome_of_run hrun, Bool.false_or]
  | true =>
    rw [objectWriteable, outcome_of_run_eq (run_bind_of_ok (Op.run_read s _)), hkeyed, if_pos rfl]
    rfl

section Single
variable (hcell : s.heap.get w = .adapter S o r')
include hcell

theorem outcome_recordReadable (name : String) :
    outcome (recordReadable w name) s = (.ok (!name.isEmpty &&
      (s.heap.isKeyed (.object o) || G.answersReadable (s.heap.get o).cls ⟨name, .none⟩)), s.heap) := by
  rw [recordReadable, outcome_of_run_eq (run_bind_of_ok (Op.run_read s _)), hcell]
  cases hname : name.isEmpty with
  | true => rfl
  | false => exact outcome_objectReadable r' o ⟨name, .none⟩ s

theorem outcome_recordWriteable (name : String) :
    outcome (recordWriteable w name) s = (.ok (!name.isEmpty &&
      (s.heap.isKeyed (.object o) || G.answersWriteable (s.heap.get o).cls ⟨name, .none⟩)), s.heap) := by
  rw [recordWriteable, outcome_of_run_eq (run_bind_of_ok (Op.run_read s _)), hcell]
  cases hname : name.isEmpty with
  | true => rfl
  | false => exact outcome_objectWriteable r' o ⟨name, .none⟩ s

variable (r) (hparse : Path.parse path = .ok p) (hg : p.segments = [g])
include hparse hg

theorem alike_isReadable_iff : Alike s w o (r.isReadable · path) ↔
    if s.heap.isKeyed (.object o) then g.name ≠ "" else G.readsByName (s.heap.get o).cls g = true := by
  have hempty (sub : Subscript) (hname : g.name = "") : G.answersReadable (s.heap.get o).cls ⟨g.name, sub⟩ = false :=
    hname ▸ G.answersReadable_empty _ sub
  rw [Alike, outcome_of_run_eq (run_isReadable_single (t := .record w) hparse hg nofun),
    outcome_of_run_eq (run_isReadable_single (t := .object o) hparse hg nofun)]
  change outcome (recordReadable w g.name) s = outcome (r.objectReadable o g) s ↔ _
  rw [outcome_recordReadable hcell, outcome_objectReadable, Prod.mk.injEq, and_iff_left rfl, Except.ok.injEq,
    named_eq_iff (hempty .none) (hempty g.subscript), ClassGraph.readsByName_iff]

theorem alike_isWriteable_iff : Alike s w o (r.isWriteable · path) ↔
    if s.heap.isKeyed (.object o) then g.name ≠ "" else G.writesByName (s.heap.get o).cls g = true := by
  have hempty (sub : Subscript) (hname : g.name = "") : G.answersWriteable (s.heap.get o).cls ⟨g.name, sub⟩ = false :=
    hname ▸ G.answersWriteable_empty _ sub
  rw [Alike, outcome_of_run_eq (run_isWriteable_single (t := .record w) hparse hg nofun),
    outcome_of_run_eq (run_isWriteable_single (t := .object o) hparse hg nofun)]
  change outcome (recordWriteable w g.name) s = outcome (r.objectWriteable o g) s ↔ _
  rw [outcome_recordWriteable hcell, outcome_objectWriteable, Prod.mk.injEq, and_iff_left rfl, Except.ok.injEq,
    named_eq_iff (hempty .none) (hempty g.subscript), ClassGraph.writesByName_iff]

theorem outcome_propertyTy_adapter (hshows : (s.heap.get S).Shows G (s.heap.get o).cls) :
    outcome (r.propertyTy (.record w) path) s = (.ok (G.shownTy? (s.heap.get o).cls g), s.heap) := by
  have ht : Value.record w ≠ .null := by simp
  rw [propertyTy, outcome_of_run_eq (run_bind_of_ok (run_owner_single hparse hg ht))]
  have hproperty : Record.property? w g.name s.heap = (G.descriptor? (s.heap.get o).cls g.name).map Record.adapted := by
    rw [Record.property?, Heap.schemaOf, hcell]
    exact hshows g.name
  change outcome (Op.read (Record.property? w g.name) >>= fun p? => pure (p?.map _)) s = _
  rw [outcome_of_run_eq (run_bind_of_ok (Op.run_read s _)), hproperty, Option.map_map]
  rfl

omit hcell in
theorem outcome_propertyTy_object :
    outcome (r.propertyTy (.object o) path) s = (s.heap.ownTy G o g, s.heap) := by
  have ht : Value.object o ≠ .null := by simp
  rw [propertyTy, outcome_of_run_eq (run_bind_of_ok (run_owner_single hparse hg ht))]
  exact outcome_objectTy r o g s

theorem alike_propertyTy_iff (hshows : (s.heap.get S).Shows G (s.heap.get o).cls) :
    Alike s w o (r.propertyTy · path) ↔ s.heap.ownTy G o g = .ok (G.shownTy? (s.heap.get o).cls g) := by
  rw [Alike, outcome_propertyTy_adapter r hcell hparse hg hshows, outcome_propertyTy_object r hparse hg, Prod.mk.injEq,
    and_iff_left rfl, eq_comm]

end Single

end Resolver

namespace Binder
variable {G : ClassGraph} {b : Binder} {r' : Resolver} {s : State G} {w : Handle .record} {o : Handle .object}
  {S : Handle .schema} {path : String} {p : Path} {g : Segment} {H : Heap} (v : Value)

open Resolver

/-! ### Converting writes -/

theorem alike_of_coincide {α : Type} {x : Value → Op G α} (h : Coincide s.heap (x (.record w)) (x (.object o))) :
    Alike s w o x := (h s s rfl (.refl _)).1

section Long
variable (hcell : H.get w = .adapter S o r') (hlong : ∀ p, Path.parse path = .ok p → 2 ≤ p.size)
include hcell hlong

theorem coincide_propertyTy_adapter (r : Resolver) :
    Coincide H (r.propertyTy (.record w) path : Op G (Option Ty)) (r.propertyTy (.object o) path) :=
  .bind (coincide_owner_adapter r hcell hlong) fun a => coincide_segmentTy r r a.1 a.2

theorem coincide_isReadable_adapter (r : Resolver) :
    Coincide H (r.isReadable (.record w) path : Op G Bool) (r.isReadable (.object o) path) := by
  refine .bind (.attempt (coincide_owner_adapter r hcell hlong)) fun a => ?_
  split
  · exact coincide_segmentReadable r r _ _
  · exact .pure false

theorem coincide_isWriteable_adapter (r : Resolver) :
    Coincide H (r.isWriteable (.record w) path : Op G Bool) (r.isWriteable (.object o) path) := by
  refine .bind (.attempt (coincide_owner_adapter r hcell hlong)) fun a => ?_
  split
  · exact coincide_segmentWriteable r r _ _
  · exact .pure false

theorem coincide_targetTy_adapter (parent : Value) :
    Coincide H (b.targetTy (.record w) parent path : Op G (Option Ty)) (b.targetTy (.object o) parent path) := by
  unfold targetTy
  split
  · exact .pure none
  · exact .bind (coincide_propertyTy_adapter hcell hlong b.resolver) fun t? => .pure _

theorem coincide_setProperty_adapter :
    Coincide H (b.setProperty (.record w) path v : Op G Unit) (b.setProperty (.object o) path v) := by
  refine .bind (coincide_owner_adapter b.resolver hcell hlong) fun a =>
    .bind (coincide_targetTy_adapter hcell hlong a.1) fun t? => ?_
  cases t? with
  | none => exact coincide_writeSegment _ _ a.1 v a.2
  | some t => exact .bind (.of_grows (b.grows_convertInput v t _)) fun u => coincide_writeSegment _ _ a.1 u a.2

theorem coincide_copyProperty_adapter :
    Coincide H (b.copyProperty (.record w) path v : Op G Unit) (b.copyProperty (.object o) path v) := by
  refine .bind (coincide_owner_adapter b.resolver hcell hlong) fun a =>
    .bind (coincide_targetTy_adapter hcell hlong a.1) fun t? => ?_
  cases t? with
  | none => exact .bind (.pure v) fun u => coincide_writeSegment _ _ a.1 u a.2
  | some t => exact .bind (.of_grows (b.grows_convertFor v t)) fun u => coincide_writeSegment _ _ a.1 u a.2

end Long

section Single
variable (hcell : s.heap.get w = .adapter S o r') (hshows : (s.heap.get S).Shows G (s.heap.get o).cls)
  (hparse : Path.parse path = .ok p) (hg : p.segments = [g])
include hparse hg

theorem outcome_targetTy_object : outcome (b.targetTy (.object o) (.object o) path) s =
    ((s.heap.ownTy G o g).map (Option.filter (· ≠ .any)), s.heap) := by
  obtain ⟨s₁, hheap, hrun⟩ := run_of_outcome (outcome_propertyTy_object (s := s) (o := o) b.resolver hparse hg)
  change outcome (b.resolver.propertyTy (.object o) path >>= fun t? => pure (t?.filter (· ≠ .any))) s = _
  cases howned : s.heap.ownTy G o g with
  | error e =>
    rw [howned] at hrun
    rw [outcome_of_run (run_bind_of_error hrun), hheap]
    rfl
  | ok t? =>
    rw [howned] at hrun
    rw [outcome_of_run_eq (run_bind_of_ok hrun), ← hheap]
    exact outcome_of_run (run_pure s₁ _)

include hcell hshows

theorem outcome_targetTy_adapter : outcome (b.targetTy (.record w) (.record w) path) s =
    (.ok ((G.shownTy? (s.heap.get o).cls g).filter (· ≠ .any)), s.heap) := by
  obtain ⟨s₁, hheap, hrun⟩ := run_of_outcome (outcome_propertyTy_adapter b.resolver hcell hparse hg hshows)
  change outcome (b.resolver.propertyTy (.record w) path >>= fun t? => pure (t?.filter (· ≠ .any))) s = _
  rw [outcome_of_run_eq (run_bind_of_ok hrun), ← hheap]
  exact outcome_of_run (run_pure s₁ _)

/-- Where the types agree, the rest of a write is done alike in any state with the same heap. -/
theorem alike_of_types {x : Value → Op G Unit} {k : Value → Option Ty → Op G Unit}
    (htypes : s.heap.SharesTy G o g)
    (hx : ∀ t : Value, t ≠ .null → ExceptT.run (x t) s = ExceptT.run (b.targetTy t t path >>= k t) s)
    (hk : ∀ t?, Coincide s.heap (k (.record w) t?) (k (.object o) t?)) : Alike s w o x := by
  have hadapter := outcome_targetTy_adapter (b := b) hcell hshows hparse hg
  have hobject := outcome_targetTy_object (b := b) (s := s) (o := o) hparse hg
  have hsame : (s.heap.ownTy G o g).map (Option.filter (· ≠ .any)) = _ := htypes
  rw [Alike, outcome_of_run_eq (hx (.record w) nofun), outcome_of_run_eq (hx (.object o) nofun)]
  -- Asking for the type leaves the heap as it is, so what comes after it begins in the one that the adapter is in.
  refine outcome_bind_congr (by rw [hadapter, hobject, hsame]) fun t? s₁ t₁ hran hheap => ?_
  have hkept : s₁.heap = s.heap := (Prod.mk.inj (hran.symm.trans hadapter)).2
  exact (hk t? s₁ t₁ hheap (hkept ▸ .refl s.heap)).1

theorem alike_setProperty (htypes : s.heap.SharesTy G o g) :
    Alike s w o (b.setProperty · path v) := by
  have hsimple := Path.isSimple_of_parse hparse (hg ▸ List.mem_singleton_self g)
  refine alike_of_types (b := b) hcell hshows hparse hg htypes
    (fun t ht => run_bind_of_ok (run_owner_single hparse hg ht)) fun t? => ?_
  cases t? with
  | none => exact coincide_writeSegment_adapter b.resolver v hcell hsimple
  | some t =>
    exact .bind (.of_grows (b.grows_convertInput v t _)) fun u =>
      coincide_writeSegment_adapter b.resolver u hcell hsimple

theorem alike_copyProperty (htypes : s.heap.SharesTy G o g) :
    Alike s w o (b.copyProperty · path v) := by
  have hsimple := Path.isSimple_of_parse hparse (hg ▸ List.mem_singleton_self g)
  refine alike_of_types (b := b) hcell hshows hparse hg htypes
    (fun t ht => run_bind_of_ok (run_owner_single hparse hg ht)) fun t? => ?_
  cases t? with
  | none => exact .bind (.pure v) fun u => coincide_writeSegment_adapter b.resolver u hcell hsimple
  | some t =>
    exact .bind (.of_grows (b.grows_convertFor v t)) fun u =>
      coincide_writeSegment_adapter b.resolver u hcell hsimple

end Single

/-- Whether all that is asked about a path, and all that is written at it, is for an adapter as for its object. -/
structure ReportsAlike (b : Binder) (s : State G) (w : Handle .record) (o : Handle .object) (path : String)
    (v : Value) : Prop where
  isReadable : Alike s w o (b.resolver.isReadable · path)
  isWriteable : Alike s w o (b.resolver.isWriteable · path)
  propertyTy : Alike s w o (b.resolver.propertyTy · path)
  setProperty : Alike s w o (b.setProperty · path v)
  copyProperty : Alike s w o (b.copyProperty · path v)

/-- An object with a number in an entry, and an adapter of it. -/
def shownBag : State bags := (ExceptT.run (Record.newAdapter ⟨0⟩ ⟨0⟩ : Op bags (Handle .record)) bag).2

end Binder

end ObjectGraph
