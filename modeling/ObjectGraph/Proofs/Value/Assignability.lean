import ObjectGraph.Proofs.Class.Hierarchy
import ObjectGraph.Proofs.Value.Fitting

/-!
Assignability of types.  The check of two types finds exactly what follows from the chains of classes by nesting
in arrays, so it is a preorder; and what it allows holds of values, which are checked on their own.
-/

namespace ObjectGraph

namespace ClassGraph
variable {G : ClassGraph} {a b c : Ty}

/-- Why a slot of one type can hold all values of another. -/
inductive Assigns (G : ClassGraph) : Ty → Ty → Prop
  | any (b : Ty) : G.Assigns .any b
  | self (a : Ty) : G.Assigns a a
  | array {a b : Ty} (h : G.Assigns a b) : G.Assigns (.array a) (.array b)
  | object {c d : ClassId} (h : Relation.ReflTransGen G.Derives d c) : G.Assigns (.object c) (.object d)

theorem assignable_iff : G.assignable a b = true ↔ G.Assigns a b := by
  constructor
  · intro h
    fun_induction G.assignable a b with
    | case1 => exact .any _
    | case2 a b ih => exact .array (ih h)
    | case3 c d => exact .object (isSubclass_iff.mp h)
    | case4 a b =>
      obtain rfl := eq_of_beq h
      exact .self a
  · intro h
    induction h with
    | any => rfl
    | self a => exact G.assignable_self a
    | array _ ih => exact ih
    | object h => exact isSubclass_iff.mpr h

theorem Assigns.trans (h : G.Assigns a b) (h' : G.Assigns b c) : G.Assigns a c := by
  induction h generalizing c with
  | any => exact .any c
  | self => exact h'
  | array h ih =>
    cases h' with
    | self => exact .array h
    | array h' => exact .array (ih h')
  | object h =>
    cases h' with
    | self => exact .object h
    | object h' => exact .object (h'.trans h)

end ClassGraph

namespace Heap
variable {G : ClassGraph} {H : Heap} {a b : Ty} {v : Value}

/-- What a type accepts, each type that is assignable from it accepts as well. -/
theorem accepts_of_assigns (h : G.Assigns a b) (hv : H.accepts G b v = true) : H.accepts G a v = true := by
  cases h with
  | any => cases v <;> rfl
  | self => exact hv
  | array h =>
    cases v with
    | null => rfl
    | array e => exact ClassGraph.assignable_iff.mpr (h.trans (ClassGraph.assignable_iff.mp hv))
    | _ => cases hv
  | object h =>
    cases v with
    | null => rfl
    | object o => exact ClassGraph.isSubclass_iff.mpr ((ClassGraph.isSubclass_iff.mp hv).trans h)
    | _ => cases hv

/-- Assignability is reflexive and transitive for all types and classes, and a type accepts on each heap the values
that a type accepts from which it is assignable. -/
theorem assignable_preorder_accepts (G : ClassGraph) :
    (∀ t, G.assignable t t = true) ∧
    (∀ a b c, G.assignable a b = true → G.assignable b c = true → G.assignable a c = true) ∧
    ∀ (H : Heap) a b v, G.assignable a b = true → H.accepts G b v = true → H.accepts G a v = true := by
  refine ⟨G.assignable_self, fun a b c hab hbc => ?_, fun H a b v hab hv => ?_⟩
  · have htrans := (ClassGraph.assignable_iff.mp hab).trans (ClassGraph.assignable_iff.mp hbc)
    exact ClassGraph.assignable_iff.mpr htrans
  · exact accepts_of_assigns (ClassGraph.assignable_iff.mp hab) hv

/-- An interface, a class that implements it, and a class that extends that one. -/
def lineage : ClassGraph :=
  let classes : List Class := [
    ⟨"Named", true, true, none, [], [], false, false, [], false⟩,
    ⟨"Person", true, false, none, [0], [], true, false, [], false⟩,
    ⟨"Employee", true, false, some 1, [], [], true, false, [], false⟩]
  classes.foldl (fun G c => (G.define? c).getD G) .empty

/-- An array of arrays of the last class. -/
def crews : Heap := { Heap.empty with arrays := ⟨#[⟨.array (.object 2), []⟩]⟩ }

/-- Arrays of arrays are accepted along the parent and the interface. -/
theorem assignable_preorder_accepts_crews :
    lineage.assignable (.array (.array (.object 0))) (.array (.array (.object 2))) = true ∧
    crews.accepts lineage (.array (.array (.object 0))) (.array ⟨0⟩) = true := by
  have hinterface : lineage.assignable (.array (.array (.object 0))) (.array (.array (.object 1))) = true := by
    decide +kernel
  have hparent : lineage.assignable (.array (.array (.object 1))) (.array (.array (.object 2))) = true := by
    decide +kernel
  obtain ⟨hself, htrans, hsound⟩ := assignable_preorder_accepts lineage
  have hboth := htrans _ _ _ hinterface hparent
  exact ⟨hboth, hsound crews _ _ _ hboth (hself (.array (.object 2)))⟩

end Heap

end ObjectGraph
