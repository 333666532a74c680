import ObjectGraph.Proofs.Heap
import ObjectGraph.Proofs.Operation
import ObjectGraph.Proofs.Value.Coercion

/-!
Values that a slot holds as they are.  A value fits a type if the type accepts it without widening it: a
scalar is of the very kind of the type.  What a write stores fits, and what fits is stored as it is.
-/

namespace ObjectGraph

/-- Whether the values of a type, null apart, are scalars of one kind. -/
def Ty.isScalar : Ty → Bool
  | .primitive _ | .boxed _ | .wide | .text | .date | .time | .dateTime | .url | .path => true
  | _ => false

/-- The type that the scalars of a type have by themselves. -/
def Ty.kind : Ty → Ty
  | .primitive p => .boxed p
  | t => t

theorem ClassGraph.isSubclass_self (G : ClassGraph) (c : ClassId) : G.isSubclass c c = true := by
  unfold isSubclass
  simp

/-- A slot of a type can hold the values of the type itself. -/
theorem ClassGraph.assignable_self (G : ClassGraph) (t : Ty) : G.assignable t t = true := by
  induction t with
  | array c ih => exact ih
  | object c => exact G.isSubclass_self c
  | any => rfl
  | _ => simp [assignable]

namespace Value
variable {p : Primitive} {v w : Value}

theorem primitive?_of_widen? (h : v.widen? p = some w) : w.primitive? = some p := by
  unfold widen? at h
  split at h
  case h_3 =>
    split at h
    · obtain ⟨n, -, rfl⟩ := Option.map_eq_some_iff.mp h
      rfl
    · cases h
  all_goals
    first
    | cases h; done
    | cases h; rfl
    | split at h <;> cases h; rfl

/-- A scalar of a primitive is not changed by widening it to the same one. -/
theorem widen?_self (h : v.primitive? = some p) : v.widen? p = some v := by
  cases v with
  | int s n =>
    cases h
    simp [widen?, Signed.widen]
  | _ => cases h <;> rfl

theorem exists_widen?_of_widensTo {q : Primitive} (hq : v.primitive? = some q) (h : q.widensTo p = true) :
    ∃ w, v.widen? p = some w := by
  cases v with
  | char c =>
    cases hq
    cases p with
    | int s =>
      have hbits : 32 ≤ s.bits := of_decide_eq_true h
      have hfits : FitsBits s.bits c.toNat := by
        refine FitsBits.mono hbits ?_
        have hvalid : c.toNat < 0xd800 ∨ 0xdfff < c.toNat ∧ c.toNat < 0x110000 := c.valid
        have hpow : Nat.pow 2 (32 - 1) = 0x80000000 := rfl
        simp only [FitsBits, hpow]
        omega
      simp [widen?, hbits, Signed.ofInt?_of_fits hfits]
    | _ => cases h
  | int s n =>
    cases hq
    cases p with
    | int t =>
      have hbits : s.bits < t.bits := of_decide_eq_true h
      exact ⟨_, dif_pos (Nat.le_of_lt hbits)⟩
    | single => simp [widen?, of_decide_eq_true h]
    | double => simp [widen?, of_decide_eq_true h]
    | _ => cases h
  | single x =>
    cases hq
    cases p <;> first | exact ⟨_, rfl⟩ | cases h
  | _ => cases hq <;> cases p <;> cases h

theorem exists_widenInteger?_of_isInteger {q : Primitive} (hq : v.primitive? = some q) (h : q.isInteger = true) :
    ∃ w, v.widenInteger? = some w := by
  cases v with
  | int s n =>
    have hfits : FitsBits 128 n.toInt := n.fits.mono (by cases s <;> decide)
    simp [widenInteger?, Signed.ofInt?_of_fits hfits]
  | _ => cases hq <;> cases h

theorem exists_wide_of_widenInteger? (h : v.widenInteger? = some w) : ∃ n, w = .wide n := by
  unfold widenInteger? at h
  split at h
  · obtain ⟨n, -, rfl⟩ := Option.map_eq_some_iff.mp h
    exact ⟨n, rfl⟩
  · cases h
    exact ⟨_, rfl⟩
  · cases h

theorem primitive?_zero (p : Primitive) : p.zero.primitive? = some p := by
  cases p <;> rfl

theorem ne_null_of_primitive? (h : v.primitive? = some p) : v ≠ .null := by
  rintro rfl
  cases h

end Value

namespace Heap
variable {G : ClassGraph} {H H' : Heap} {t : Ty} {p : Primitive} {property : String} {v w : Value}

/-- Whether a slot of a type holds a value as it is. -/
structure Fits (G : ClassGraph) (H : Heap) (t : Ty) (v : Value) : Prop where
  accepted : H.accepts G t v = true
  exact : t.isScalar = true → v ≠ .null → H.typeOf v = t.kind

theorem typeOf_of_primitive? (h : v.primitive? = some p) : H.typeOf v = .boxed p := by
  cases v <;> cases h <;> rfl

theorem primitive?_of_typeOf (h : H.typeOf v = .boxed p) : v.primitive? = some p := by
  cases v <;> cases h <;> rfl

theorem fits_of_primitive? (ht : t.primitive? = some p) (h : v.primitive? = some p) : H.Fits G t v where
  accepted := by
    cases t <;> cases ht <;> cases v <;> cases h <;> simp [accepts, Value.primitive?]
  exact _ _ := by
    rw [typeOf_of_primitive? h]
    cases t <;> cases ht <;> rfl

theorem fits_null (h : t.isPrimitive = false) : H.Fits G t .null where
  accepted := by
    cases t <;> cases h <;> rfl
  exact _ hne := absurd rfl hne

theorem fits_zero : H.Fits G t t.zero := by
  cases t with
  | primitive p => exact fits_of_primitive? rfl (Value.primitive?_zero p)
  | _ => exact fits_null rfl

/-- A primitive slot never holds null. -/
theorem Fits.ne_null (h : H.Fits G t v) (ht : t.isPrimitive = true) : v ≠ .null := by
  rintro rfl
  have := h.accepted
  cases t <;> cases ht <;> cases this

theorem fits_wide (n : Signed 128) : H.Fits G .wide (.wide n) := ⟨rfl, fun _ _ => rfl⟩

/-- A value that a type accepts fits if the type has no scalars to widen. -/
theorem fits_of_accepts (h : H.accepts G t v = true) (hp : t.primitive? = none) (hw : t ≠ .wide) : H.Fits G t v := by
  refine ⟨h, fun ht hv => ?_⟩
  cases t <;> cases hp <;> cases ht <;> cases v <;> first | rfl | exact absurd rfl hw | exact absurd rfl hv | cases h

theorem fits_any (v : Value) : H.Fits G .any v := ⟨by cases v <;> rfl, nofun⟩

theorem fits_newArray (c : Ty) (items : List Value) :
    (H.newArray c items).2.Fits G (.array c) (H.newArray c items).1 := by
  refine fits_of_accepts ?_ rfl nofun
  have hcomponent := congrArg TypedArray.component (get_alloc_self (k := .array) H ⟨c, items⟩)
  simp only [newArray, accepts, hcomponent, ClassGraph.assignable_self]

/-- A scalar of the kind of a type fits the type. -/
theorem fits_of_typeOf (ht : t.isScalar = true) (h : H.typeOf v = t.kind) : H.Fits G t v := by
  cases t with
  | primitive p => exact fits_of_primitive? rfl (primitive?_of_typeOf h)
  | boxed p => exact fits_of_primitive? rfl (primitive?_of_typeOf h)
  | wide =>
    cases v with
    | wide n => exact fits_wide n
    | _ => cases h
  | _ =>
    cases ht <;> cases v with
    | null => cases h
    | _ => cases h <;> exact fits_of_accepts rfl rfl nofun

/-- A value fits its own type. -/
theorem fits_typeOf (H : Heap) (v : Value) : H.Fits G (H.typeOf v) v := by
  cases v with
  | null => exact fits_null rfl
  | list l => exact fits_of_accepts rfl rfl nofun
  | array a => exact fits_of_accepts (G.assignable_self _) rfl nofun
  | map m => exact fits_of_accepts rfl rfl nofun
  | object o => exact fits_of_accepts (G.isSubclass_self _) rfl nofun
  | record h => exact fits_of_accepts rfl rfl nofun
  | _ => exact fits_of_typeOf rfl rfl

/-- How a value that is not null comes to be stored: widened, or as it is. -/
theorem coerce_cases (h : H.coerce G t property v = .ok w) (hv : v.isNull = false) :
    (∃ p, t.primitive? = some p ∧ v.widen? p = some w) ∨ (t = .wide ∧ v.widenInteger? = some w) ∨
      (t.primitive? = none ∧ t ≠ .wide ∧ H.accepts G t v = true ∧ w = v) := by
  rw [coerce_eq_ok_iff hv] at h
  have haccepts (ht : (if H.accepts G t v then some v else none) = some w) : H.accepts G t v = true ∧ w = v := by
    split at ht <;> cases ht
    exact ⟨‹_›, rfl⟩
  cases t with
  | primitive p => exact .inl ⟨p, rfl, h⟩
  | boxed p => exact .inl ⟨p, rfl, h⟩
  | wide => exact .inr (.inl ⟨rfl, h⟩)
  | _ => exact .inr (.inr ⟨rfl, nofun, haccepts h⟩)

/-- What is stored fits. -/
theorem fits_of_coerce (h : H.coerce G t property v = .ok w) : H.Fits G t w := by
  cases hv : v.isNull with
  | true =>
    obtain rfl := Value.isNull_iff.mp hv
    rw [coerce_null] at h
    split at h
    · cases h
    · cases h
      exact fits_null (by simpa using ‹¬ t.isPrimitive = true›)
  | false =>
    rcases coerce_cases h hv with ⟨p, hp, hw⟩ | ⟨rfl, hw⟩ | ⟨hp, hwide, haccepts, rfl⟩
    · exact fits_of_primitive? hp (Value.primitive?_of_widen? hw)
    · obtain ⟨n, rfl⟩ := Value.exists_wide_of_widenInteger? hw
      exact fits_wide n
    · exact fits_of_accepts haccepts hp hwide

/-- Only null is stored as null. -/
theorem ne_null_of_coerce (h : H.coerce G t property v = .ok w) (hv : v.isNull = false) : w ≠ .null := by
  rcases coerce_cases h hv with ⟨p, -, hw⟩ | ⟨-, hw⟩ | ⟨-, -, -, rfl⟩
  · exact Value.ne_null_of_primitive? (Value.primitive?_of_widen? hw)
  · obtain ⟨n, rfl⟩ := Value.exists_wide_of_widenInteger? hw
    nofun
  · exact Value.isNull_eq_false_iff.mp hv

/-- A list, an array, a map, an object or a record is stored as it is. -/
theorem eq_of_coerce_of_not_isScalar (h : H.coerce G t property v = .ok w) (hv : v.isScalar = false) : w = v := by
  have hnull : v.isNull = false := by cases v <;> first | rfl | cases hv
  rcases coerce_cases h hnull with ⟨p, -, hw⟩ | ⟨-, hw⟩ | ⟨-, -, -, rfl⟩
  · cases v <;> cases hv <;> cases p <;> cases hw
  · cases v <;> cases hv <;> cases hw
  · rfl

/-- A value that is not null is stored, as it is or widened, where it is accepted. -/
theorem exists_coerce_of_accepts (h : H.accepts G t v = true) (hv : v ≠ .null) :
    ∃ w, H.coerce G t property v = .ok w := by
  have hprimitive {p : Primitive} (h : (v.primitive?.any fun q => q == p || q.widensTo p) = true) :
      ∃ w, v.widen? p = some w := by
    obtain ⟨q, hq, hp⟩ := (Option.any_eq_true ..).mp h
    rcases Bool.or_eq_true_iff.mp hp with heq | hwidens
    · exact ⟨v, Value.widen?_self (eq_of_beq heq ▸ hq)⟩
    · exact Value.exists_widen?_of_widensTo hq hwidens
  have hinteger (h : v.primitive?.any Primitive.isInteger = true) : ∃ w, v.widenInteger? = some w := by
    obtain ⟨q, hq, hinteger⟩ := (Option.any_eq_true ..).mp h
    exact Value.exists_widenInteger?_of_isInteger hq hinteger
  suffices hw : ∃ w, H.widened? G t v = some w by
    obtain ⟨w, hw⟩ := hw
    exact ⟨w, (coerce_eq_ok_iff (Value.isNull_eq_false_iff.mpr hv)).mpr hw⟩
  cases t with
  | primitive p => cases v <;> exact hprimitive h
  | boxed p => cases v <;> first | exact hprimitive h | exact absurd rfl hv
  | wide => cases v <;> first | exact hinteger h | exact ⟨_, rfl⟩ | exact absurd rfl hv
  | _ => exact ⟨v, if_pos h⟩

/-- What fits is stored as it is. -/
theorem Fits.coerce (h : H.Fits G t v) : H.coerce G t property v = .ok v := by
  cases hv : v.isNull with
  | true =>
    obtain rfl := Value.isNull_iff.mp hv
    rw [coerce_null, if_neg fun ht => h.ne_null ht rfl]
  | false =>
    rw [coerce_eq_ok_iff hv]
    have hkind (ht : t.isScalar = true) := h.exact ht (Value.isNull_eq_false_iff.mp hv)
    cases t with
    | primitive p => exact Value.widen?_self (primitive?_of_typeOf (hkind rfl))
    | boxed p => exact Value.widen?_self (primitive?_of_typeOf (hkind rfl))
    | wide =>
      have := hkind rfl
      cases v <;> first | rfl | cases this
    | _ => exact if_pos h.accepted

/-! ### Fitting on a later heap -/

theorem accepts_congr (h : H'.typeOf v = H.typeOf v) : H'.accepts G t v = H.accepts G t v := by
  cases v with
  | array a =>
    have hcomponent : (H'.get a).component = (H.get a).component := Ty.array.inj h
    cases t <;> simp only [accepts, hcomponent]
  | object o =>
    have hcls : (H'.get o).cls = (H.get o).cls := Ty.object.inj h
    cases t <;> simp only [accepts, hcls]
  | _ => cases t <;> rfl

theorem coerce_congr (h : H'.typeOf v = H.typeOf v) : H'.coerce G t property v = H.coerce G t property v := by
  simp only [coerce, typeName, accepts_congr h, h]

theorem Fits.congr (h : H.Fits G t v) (htype : H'.typeOf v = H.typeOf v) : H'.Fits G t v where
  accepted := (accepts_congr htype).trans h.accepted
  exact ht hv := htype.trans (h.exact ht hv)

/-- A value keeps its type on a later heap. -/
theorem KeepsTypes.typeOf (h : H.KeepsTypes H') (hv : H.Live v) : H'.typeOf v = H.typeOf v := by
  cases v with
  | array a => exact congrArg Ty.array (h.component hv)
  | object o => exact congrArg Ty.object (h.cls hv)
  | _ => rfl

theorem KeepsTypes.fits (h : H.KeepsTypes H') (hv : H.Live v) (hfits : H.Fits G t v) : H'.Fits G t v :=
  hfits.congr (h.typeOf hv)

/-- What is stored of a value that names a cell, if it is a handle, does so too. -/
theorem live_of_coerce (h : H.coerce G t property v = .ok w) (hv : H.Live v) : H.Live w := by
  rcases eq_or_isScalar_of_coerce h with rfl | hw
  · exact hv
  · cases w <;> trivial

/-- Arrays of the same component are accepted by the same types. -/
theorem accepts_of_component {a b : Handle .array} (h : H.accepts G t (.array a) = true)
    (hcomponent : (H'.get b).component = (H.get a).component) : H'.accepts G t (.array b) = true := by
  cases t <;> simp only [accepts, hcomponent] at h ⊢ <;> exact h

/-- Arrays of the same component fit the same types. -/
theorem Fits.of_component {a b : Handle .array} (h : H.Fits G t (.array a))
    (hcomponent : (H'.get b).component = (H.get a).component) : H'.Fits G t (.array b) := by
  have hscalar (ht : t.isScalar = true) : False := by
    have := h.exact ht nofun
    cases t <;> cases ht <;> cases this
  exact ⟨accepts_of_component h.accepted hcomponent, fun ht => (hscalar ht).elim⟩

end Heap

end ObjectGraph
