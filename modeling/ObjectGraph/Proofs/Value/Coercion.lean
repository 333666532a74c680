import ObjectGraph.Value.Typing

/-!
What a slot holds after a value has been written to it: the value itself, or a scalar that it was
widened to.  The name of the slot only shows in failures.
-/

namespace ObjectGraph

/-- Whether a value names no cell of the heap. -/
def Value.isScalar : Value → Bool
  | list _ | array _ | map _ | object _ | record _ => false
  | _ => true

theorem Value.isScalar_of_widen? {p : Primitive} {v w : Value} (h : v.widen? p = some w) : w.isScalar = true := by
  unfold widen? at h
  split at h
  case h_3 =>
    split at h
    · obtain ⟨n, -, rfl⟩ := Option.map_eq_some_iff.mp h
      rfl
    · cases h
  all_goals
    first
    | cases h; done
    | cases h; rfl
    | split at h <;> cases h; rfl

theorem Value.isScalar_of_widenInteger? {v w : Value} (h : v.widenInteger? = some w) : w.isScalar = true := by
  unfold widenInteger? at h
  split at h
  · obtain ⟨n, -, rfl⟩ := Option.map_eq_some_iff.mp h
    rfl
  · cases h
    rfl
  · cases h

namespace Heap
variable {G : ClassGraph} {H : Heap} {t : Ty} {property property' : String} {v w : Value}

/-- What a slot of a type holds after a value that is not null has been written to it, if it takes the value. -/
def widened? (G : ClassGraph) (H : Heap) (t : Ty) (v : Value) : Option Value :=
  match t with
  | .primitive p | .boxed p => v.widen? p
  | .wide => v.widenInteger?
  | _ => if H.accepts G t v then some v else none

theorem coerce_null : H.coerce G t property .null =
    if t.isPrimitive then .error (.nullForPrimitive property (G.typeName t)) else .ok .null := rfl

theorem coerce_eq (hv : v.isNull = false) : H.coerce G t property v =
    match H.widened? G t v with
    | some w => .ok w
    | none =>
      .error (.conversion (H.typeName G v) (G.typeName t)
        ("property " ++ Error.quoted property ++ " does not accept this value")) := by
  simp only [coerce, hv, Bool.false_eq_true, if_false]
  rfl

theorem coerce_eq_ok_iff (hv : v.isNull = false) :
    H.coerce G t property v = .ok w ↔ H.widened? G t v = some w := by
  rw [coerce_eq hv]
  cases H.widened? G t v with
  | none =>
    constructor
    · intro h
      cases h
    · intro h
      cases h
  | some u =>
    constructor
    · intro h
      cases h
      rfl
    · intro h
      cases h
      rfl

/-- A slot of another name holds the same. -/
theorem coerce_of_property (h : H.coerce G t property v = .ok w) : H.coerce G t property' v = .ok w := by
  cases hv : v.isNull with
  | true =>
    cases v <;> cases hv
    rw [coerce_null] at h ⊢
    cases ht : t.isPrimitive with
    | true =>
      rw [ht] at h
      cases h
    | false =>
      rw [ht] at h
      exact h
  | false =>
    rw [coerce_eq_ok_iff hv] at h ⊢
    exact h

theorem coerce_any : H.coerce G .any property v = .ok v := by
  cases v <;> rfl

/-- A value is stored as it is or as a scalar. -/
theorem eq_or_isScalar_of_coerce (h : H.coerce G t property v = .ok w) : w = v ∨ w.isScalar = true := by
  cases hv : v.isNull with
  | true =>
    cases v <;> cases hv
    rw [coerce_null] at h
    split at h
    · cases h
    · cases h
      exact Or.inl rfl
  | false =>
    rw [coerce_eq_ok_iff hv] at h
    unfold widened? at h
    split at h
    · exact Or.inr (Value.isScalar_of_widen? h)
    · exact Or.inr (Value.isScalar_of_widen? h)
    · exact Or.inr (Value.isScalar_of_widenInteger? h)
    · split at h
      · cases h
        exact Or.inl rfl
      · cases h

end Heap

end ObjectGraph
