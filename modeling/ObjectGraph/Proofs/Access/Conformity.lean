import Mathlib.Logic.Relation
import ObjectGraph.Proofs.Fence.Resolver

/-!
Arrays in graphs without objects, which a program reads and writes by paths.  A slot may be of a wider type than the
array in it, and others may hold the array as well; but each element that is written is checked against the array
itself, and what grows is a copy.  So arrays that hold only what their components accept keep doing so, and no array
ever changes its length.
-/

namespace ObjectGraph

/-- Whether a value is an object. -/
def Value.IsObject (v : Value) : Prop := ∃ o, v = .object o

/-- Whether no cell but an object holds an object, no type of a component or a property is one of objects, and each
array holds only values that its component accepts. -/
structure Heap.Conforming (G : ClassGraph) (H : Heap) : Prop where
  held : ∀ {v}, ¬ v.IsObject → ∀ w ∈ H.held v, ¬ w.IsObject
  component : ∀ a : Handle .array, (H.get a).component.hasObjects = false
  declared : ∀ (S : Handle .schema) {name p}, (H.get S).property? name = some p → p.ty.hasObjects = false
  arrays : ∀ a : Handle .array, H.Conforms G (H.get a)

namespace Fence
variable {F : Fence} {G : ClassGraph} {H H' : Heap} {v : Value} {t : Ty}

/-- The fence that keeps out objects alone, from a heap on. -/
def aroundObjects (H : Heap) : Fence := ⟨H, false, fun _ => False, False.elim⟩

theorem inside_aroundObjects : (aroundObjects H).Inside v ↔ ¬ v.IsObject := by
  cases v with
  | array a => exact iff_of_true id nofun
  | object o => exact iff_of_false nofun fun h => h ⟨o, rfl⟩
  | _ => exact iff_of_true trivial nofun

theorem admits_aroundObjects : (aroundObjects H).Admits t ↔ t.hasObjects = false := or_iff_right nofun

/-- Only the arrays of the heap at the start make a difference to what the fence keeps out later. -/
theorem encloses_aroundObjects : (aroundObjects H).Encloses G H' ↔ H'.Conforming G ∧
    ∀ a : Handle .array, H.Has a → H'.Has a ∧ (H.get a).SameShape (H'.get a) := by
  constructor
  · intro h
    refine ⟨⟨fun hv w hw => ?_, fun a => ?_, fun S name p hp => ?_, h.conforms.resolve_left nofun⟩, fun a ha => ?_⟩
    · exact inside_aroundObjects.mp (h.held (inside_aroundObjects.mpr hv) w hw)
    · exact admits_aroundObjects.mp (h.component a)
    · exact admits_aroundObjects.mp (h.declared hp)
    · exact ⟨(h.kept ha).1, (h.kept ha).2.1⟩
  · rintro ⟨h, hkept⟩
    refine ⟨fun hv w hw => ?_, fun a => ?_, fun {S name p} hp => ?_, Or.inr h.arrays, fun {a} ha => ?_, nofun⟩
    · exact inside_aroundObjects.mpr (h.held (inside_aroundObjects.mp hv) w hw)
    · exact admits_aroundObjects.mpr (h.component a)
    · exact admits_aroundObjects.mpr (h.declared S hp)
    · exact ⟨(hkept a ha).1, (hkept a ha).2, False.elim⟩

theorem encloses_self (h : H.Conforming G) : (aroundObjects H).Encloses G H :=
  encloses_aroundObjects.mpr ⟨h, fun _ ha => ⟨ha, .refl _⟩⟩

end Fence

namespace Resolver
open Fence Relation
variable {G : ClassGraph} {H : Heap} {s s' : State G}

/-- What a program does next without objects: it reads or writes a path or a single segment of one, or it makes new
containers, whose arrays hold what their components accept. -/
inductive ValueStep : State G → State G → Prop
  | read {s : State G} (r : Resolver) {t : Value} (path : String) (ht : ¬ t.IsObject) :
      ValueStep s (ExceptT.run (r.read t path) s).2
  | write {s : State G} (r : Resolver) {t v : Value} (path : String) (ht : ¬ t.IsObject) (hv : ¬ v.IsObject) :
      ValueStep s (ExceptT.run (r.write t path v : Op G Unit) s).2
  | readSegment {s : State G} (r : Resolver) {t : Value} (g : Segment) (ht : ¬ t.IsObject) :
      ValueStep s (ExceptT.run (r.readSegment t g) s).2
  | writeSegment {s : State G} (r : Resolver) {t v : Value} (g : Segment) (ht : ¬ t.IsObject) (hv : ¬ v.IsObject) :
      ValueStep s (ExceptT.run (r.writeSegment t g v : Op G Unit) s).2
  | make {s : State G} {H : Heap} (hadds : s.heap.OnlyAdds H) (hH : H.Conforming G) : ValueStep s { s with heap := H }

theorem ValueStep.encloses (hstep : ValueStep s s') (h : (aroundObjects H).Encloses G s.heap) :
    (aroundObjects H).Encloses G s'.heap := by
  cases hstep with
  | read r path ht => exact (keeps_read h (inside_aroundObjects.mpr ht) path).encloses
  | write r path ht hv =>
    exact (keeps_write h (inside_aroundObjects.mpr ht) path (inside_aroundObjects.mpr hv)).encloses
  | readSegment r g ht => exact (keeps_readSegment h (inside_aroundObjects.mpr ht) g).encloses
  | writeSegment r g ht hv =>
    exact (keeps_writeSegment h (inside_aroundObjects.mpr ht) g (inside_aroundObjects.mpr hv)).encloses
  | make hadds hH =>
    refine encloses_aroundObjects.mpr ⟨hH, fun a ha => ?_⟩
    obtain ⟨hhas, hshape⟩ := (encloses_aroundObjects.mp h).2 a ha
    exact ⟨hadds.has hhas, hadds.same (k := .array) hhas ▸ hshape⟩

theorem encloses_of_run (hrun : ReflTransGen ValueStep s s') (h : (aroundObjects H).Encloses G s.heap) :
    (aroundObjects H).Encloses G s'.heap := by
  induction hrun with
  | refl => exact h
  | tail _ hstep ih => exact hstep.encloses ih

/-- However a program reads and writes a graph without objects, whether its calls succeed or fail, each array holds only
values that its component accepts, also those arrays that are made on the way, and the arrays that were there keep their
components and lengths.  No path that is read leads to an object, so that the program may go on with what it gets. -/
theorem arrays_stay_conforming (hs : s.heap.Conforming G) (hrun : ReflTransGen ValueStep s s') :
    s'.heap.Conforming G ∧
    (∀ a : Handle .array, s.heap.Has a → s'.heap.Has a ∧ (s.heap.get a).SameShape (s'.heap.get a)) ∧
    ∀ (r : Resolver) (t v : Value) (path : String) (s'' : State G), ¬ t.IsObject →
      ExceptT.run (r.read t path) s' = (.ok v, s'') → ¬ v.IsObject := by
  have hencloses := encloses_of_run hrun (encloses_self hs)
  obtain ⟨hconforming, hkept⟩ := encloses_aroundObjects.mp hencloses
  refine ⟨hconforming, hkept, fun r t v path s'' ht hread => ?_⟩
  have hanswer := (keeps_read (r := r) hencloses (inside_aroundObjects.mpr ht) path).answer (congrArg Prod.fst hread)
  exact inside_aroundObjects.mp hanswer

theorem conforming_empty : Heap.empty.Conforming G where
  held {v} _ w hw := by
    cases v <;> cases hw
  component _ := rfl
  declared _ _ _ hp := by cases hp
  arrays _ := List.forall_mem_nil _

/-- A growing record with an array of one number. -/
def counters : State .empty :=
  let H := (Heap.empty.newArray (.primitive (.int .w32)) [.int .w32 ⟨7, by decide⟩]).2
  let H := (H.alloc .schema (.ofProperties "Row" [⟨"counts", .array (.primitive (.int .w32)), none⟩])).2
  ⟨(H.alloc .record (.growing ⟨0⟩ (.own (Dict.empty.insert "counts" (.array ⟨0⟩))))).2, .empty⟩

theorem conforming_counters : counters.heap.Conforming .empty := by
  have hconforms : Heap.empty.Conforms .empty ⟨.primitive (.int .w32), [.int .w32 ⟨7, by decide⟩]⟩ :=
    List.forall_mem_singleton.mpr rfl
  have hitems : ∀ v ∈ [Value.int .w32 ⟨7, by decide⟩], (aroundObjects Heap.empty).Inside v :=
    List.forall_mem_singleton.mpr trivial
  obtain ⟨harray, hinside⟩ :=
    (encloses_self (G := .empty) conforming_empty).newArray hitems (Or.inr rfl) (Or.inr hconforms)
  have hschema := harray.newSchema (T := .ofProperties "Row" [⟨"counts", .array (.primitive (.int .w32)), none⟩])
    fun {name p} hp => by
      rw [Schema.property?_ofProperties] at hp
      obtain rfl := List.mem_singleton.mp (List.mem_of_find?_eq_some hp)
      exact Or.inr rfl
  have hvalues : (aroundObjects Heap.empty).HoldsRecord
      (.growing ⟨0⟩ (.own (Dict.empty.insert "counts" (.array ⟨0⟩)))) := holds_empty.insert hinside
  exact (encloses_aroundObjects.mp (hschema.newRecord hvalues)).1

/-- A text is refused, and a number makes a longer array take the place of the first one. -/
theorem arrays_stay_conforming_counters : ∃ s' : State .empty,
    ExceptT.run (writeSegment ⟨0⟩ (.record ⟨0⟩) ⟨"counts", .index 2⟩ (.int .w16 ⟨5, by decide⟩))
      (ExceptT.run (writeSegment ⟨0⟩ (.record ⟨0⟩) ⟨"counts", .index 0⟩ (.text "five") : Op .empty Unit) counters).2 =
        (.ok (), s') ∧
    (s'.heap.get (⟨1⟩ : Handle .array)).items.length = 3 ∧
    s'.heap.Conforms .empty (s'.heap.get (⟨1⟩ : Handle .array)) ∧
    (counters.heap.get (⟨0⟩ : Handle .array)).SameShape (s'.heap.get (⟨0⟩ : Handle .array)) := by
  have hrefused : ValueStep counters _ :=
    .writeSegment ⟨0⟩ (t := .record ⟨0⟩) ⟨"counts", .index 0⟩ (v := .text "five") nofun nofun
  have hrun := (ReflTransGen.single hrefused).tail (.writeSegment ⟨0⟩ (t := .record ⟨0⟩) ⟨"counts", .index 2⟩
    (v := .int .w16 ⟨5, by decide⟩) nofun nofun)
  obtain ⟨hconforming, hkept, -⟩ := arrays_stay_conforming conforming_counters hrun
  exact ⟨_, rfl, rfl, hconforming.arrays _, (hkept ⟨0⟩ Nat.zero_lt_one).2⟩

end Resolver

end ObjectGraph
