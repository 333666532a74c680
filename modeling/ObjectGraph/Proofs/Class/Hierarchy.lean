import Mathlib.Logic.Relation
import ObjectGraph.Class.Lookup

/-!
The graph of classes as relations: the walks up the graph find exactly what chains of parents and of interfaces
lead to.  A class refers only to earlier ones, so each walk is followed by induction on the class.
-/

namespace ObjectGraph.ClassGraph
open Relation
variable {G : ClassGraph} {c d e i j : ClassId} {m : Method}

/-- Whether a class extends another one by itself. -/
def Extends (G : ClassGraph) (c d : ClassId) : Prop := d ∈ (G.get c).parent

/-- Whether a class implements an interface by itself.  What a class implements counts as an interface. -/
def Implements (G : ClassGraph) (c i : ClassId) : Prop := i ∈ (G.get c).interfaces

/-- Whether a class extends or implements another one by itself. -/
def Derives (G : ClassGraph) (c d : ClassId) : Prop := G.Extends c d ∨ G.Implements c d

/-! ### One step up -/

theorem parent?_eq_some_iff {p : {p : ClassId // p < c}} : G.parent? c = some p ↔ G.Extends c p.1 := by
  rw [parent?, Option.map_eq_some_iff]
  constructor
  · rintro ⟨⟨q, hq⟩, -, rfl⟩
    exact hq
  · exact fun h => ⟨⟨p.1, h⟩, Option.mem_attach _ _, rfl⟩

theorem mem_interfaces_iff {i : {i : ClassId // i < c}} : i ∈ G.interfaces c ↔ G.Implements c i.1 := by
  rw [interfaces, List.mem_map]
  constructor
  · rintro ⟨⟨j, hj⟩, -, rfl⟩
    exact hj
  · exact fun h => ⟨⟨i.1, h⟩, List.mem_attach _ _, rfl⟩

theorem Extends.lt (h : G.Extends c d) : d < c := (G.ordered c).1 d h

theorem Implements.lt (h : G.Implements c i) : i < c := (G.ordered c).2 i h

theorem Derives.lt (h : G.Derives c d) : d < c := h.elim Extends.lt Implements.lt

theorem any_parent? (f : ClassId → Bool) :
    ((G.parent? c).any fun p => f p.1) = true ↔ ∃ p, G.Extends c p ∧ f p = true := by
  rw [Option.any_eq_true]
  constructor
  · rintro ⟨p, hp, hf⟩
    exact ⟨p.1, parent?_eq_some_iff.mp hp, hf⟩
  · rintro ⟨p, hp, hf⟩
    exact ⟨⟨p, hp.lt⟩, parent?_eq_some_iff.mpr hp, hf⟩

theorem any_interfaces (f : ClassId → Bool) :
    ((G.interfaces c).any fun i => f i.1) = true ↔ ∃ i, G.Implements c i ∧ f i = true := by
  rw [List.any_eq_true]
  constructor
  · rintro ⟨i, hi, hf⟩
    exact ⟨i.1, mem_interfaces_iff.mp hi, hf⟩
  · rintro ⟨i, hi, hf⟩
    exact ⟨⟨i, hi.lt⟩, mem_interfaces_iff.mpr hi, hf⟩

/-! ### Walks up -/

theorem mem_ancestors_iff : d ∈ G.ancestors c ↔ ReflTransGen G.Extends c d := by
  induction c using Nat.strongRecOn with
  | _ c ih =>
    rw [ancestors, ReflTransGen.cases_head_iff]
    cases hp : G.parent? c with
    | none =>
      have hroot (p : ClassId) : ¬ G.Extends c p := fun h => by
        rw [parent?_eq_some_iff (p := ⟨p, h.lt⟩) |>.mpr h] at hp
        cases hp
      simp [hroot, eq_comm]
    | some p =>
      have hparent := parent?_eq_some_iff.mp hp
      rw [List.mem_cons, ih p.1 p.2, eq_comm]
      refine or_congr_right ⟨fun h => ⟨p.1, hparent, h⟩, ?_⟩
      rintro ⟨q, hq, h⟩
      cases Option.some.inj (hq.symm.trans hparent)
      exact h

theorem any_ancestors {f : ClassId → Bool} :
    (G.ancestors c).any f = true ↔ ∃ d, ReflTransGen G.Extends c d ∧ f d = true := by
  rw [List.any_eq_true]
  exact exists_congr fun _ => and_congr_left fun _ => mem_ancestors_iff

/-- One step of the walk from a class to what it extends or implements. -/
theorem isSubclass_step : G.isSubclass c d = true ↔ c = d ∨ ∃ e, G.Derives c e ∧ G.isSubclass e d = true := by
  rw [isSubclass, Bool.or_eq_true, Bool.or_eq_true, beq_iff_eq, any_parent? (G.isSubclass · d),
    any_interfaces (G.isSubclass · d), or_assoc, ← exists_or]
  exact or_congr_right (exists_congr fun _ => or_and_right.symm)

theorem isSubclass_iff : G.isSubclass c d = true ↔ ReflTransGen G.Derives c d := by
  induction c using Nat.strongRecOn with
  | _ c ih =>
    rw [isSubclass_step, ReflTransGen.cases_head_iff]
    exact or_congr_right (exists_congr fun e => and_congr_right fun he => ih e he.lt)

theorem interfaceDeclares_iff :
    G.interfaceDeclares i m = true ↔ ∃ j, ReflTransGen G.Implements i j ∧ G.declaresPublicly j m = true := by
  induction i using Nat.strongRecOn with
  | _ i ih =>
    rw [interfaceDeclares, Bool.or_eq_true, any_interfaces (G.interfaceDeclares · m)]
    constructor
    · rintro (h | ⟨k, hk, h⟩)
      · exact ⟨i, .refl, h⟩
      · obtain ⟨j, hkj, h⟩ := (ih k hk.lt).mp h
        exact ⟨j, .head hk hkj, h⟩
    · rintro ⟨j, hij, h⟩
      obtain rfl | ⟨k, hk, hkj⟩ := hij.cases_head
      · exact .inl h
      · exact .inr ⟨k, hk, (ih k hk.lt).mpr ⟨j, hkj, h⟩⟩

theorem any_interfaceDeclares : ((G.interfaces c).any fun i => G.interfaceDeclares i.1 m) = true ↔
    ∃ i, TransGen G.Implements c i ∧ G.declaresPublicly i m = true := by
  rw [any_interfaces (G.interfaceDeclares · m)]
  constructor
  · rintro ⟨i, hi, h⟩
    obtain ⟨j, hij, h⟩ := interfaceDeclares_iff.mp h
    exact ⟨j, .head' hi hij, h⟩
  · rintro ⟨j, hj, h⟩
    obtain ⟨i, hi, hij⟩ := TransGen.head'_iff.mp hj
    exact ⟨i, hi, interfaceDeclares_iff.mpr ⟨j, hij, h⟩⟩

end ObjectGraph.ClassGraph
