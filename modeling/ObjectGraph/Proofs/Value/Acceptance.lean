import ObjectGraph.Proofs.Value.Fitting

/-!
The check of a value against a type and the conversion of the value to what a slot of the type holds, which are
tables of their own.  They allow the same values; a converted value is a fixed point of the conversion, and among
integers it is the same number.
-/

namespace ObjectGraph

/-- Whether the values of a type, null apart, are integers. -/
def Ty.isInteger : Ty → Bool
  | .primitive p | .boxed p => p.isInteger
  | .wide => true
  | _ => false

theorem IntSize.eq_or_bits_lt {a b : IntSize} (h : a.bits ≤ b.bits) : a = b ∨ a.bits < b.bits := by
  revert h
  cases a <;> cases b <;> decide

/-- The integer that a value stands for; a character stands for its code point. -/
def Value.integer? : Value → Option Int
  | .char c => some c.toNat
  | v => v.toInt?

namespace Value
variable {p : Primitive} {s : IntSize} {v w : Value}

theorem ne_null_of_toInt? {n : Int} (h : v.toInt? = some n) : v ≠ .null := by
  rintro rfl
  cases h

theorem toInt?_of_widen? (h : v.widen? (.int s) = some w) : ∃ n, v.integer? = some n ∧ w.toInt? = some n := by
  cases v with
  | char c =>
    simp only [widen?] at h
    split at h
    · obtain ⟨n, hn, rfl⟩ := Option.map_eq_some_iff.mp h
      exact ⟨c.toNat, rfl, congrArg some (Signed.toInt_of_ofInt? hn)⟩
    · cases h
  | int t n =>
    simp only [widen?] at h
    split at h <;> cases h
    exact ⟨n.toInt, rfl, rfl⟩
  | _ => cases h

theorem toInt?_of_widenInteger? (h : v.widenInteger? = some w) : ∃ n, v.integer? = some n ∧ w.toInt? = some n := by
  cases v with
  | int t n =>
    obtain ⟨m, hm, rfl⟩ := Option.map_eq_some_iff.mp h
    exact ⟨n.toInt, rfl, congrArg some (Signed.toInt_of_ofInt? hm)⟩
  | wide n =>
    cases h
    exact ⟨n.toInt, rfl, rfl⟩
  | _ => cases h

/-- A value is only widened to its own primitive or to one that its own widens to. -/
theorem any_primitive?_of_widen? (h : v.widen? p = some w) :
    (v.primitive?.any fun q => q == p || q.widensTo p) = true := by
  cases v with
  | char c =>
    cases p with
    | int s =>
      simp only [widen?] at h
      split at h
      · simpa [primitive?, Primitive.widensTo] using ‹32 ≤ s.bits›
      · cases h
    | char => simp [primitive?]
    | _ => cases h
  | int t n =>
    cases p with
    | int s =>
      simp only [widen?] at h
      split at h
      case isTrue hbits =>
        rcases IntSize.eq_or_bits_lt hbits with rfl | hlt
        · simp [primitive?]
        · simp [primitive?, Primitive.widensTo, hlt]
      · cases h
    | single =>
      simp only [widen?] at h
      split at h
      · simpa [primitive?, Primitive.widensTo] using ‹t.bits ≤ 16›
      · cases h
    | double =>
      simp only [widen?] at h
      split at h
      · simpa [primitive?, Primitive.widensTo] using ‹t.bits ≤ 32›
      · cases h
    | _ => cases h
  | bool b => cases p <;> first | rfl | cases h
  | single x => cases p <;> first | rfl | cases h
  | double x => cases p <;> first | rfl | cases h
  | _ => cases p <;> cases h

theorem isInteger_of_widenInteger? (h : v.widenInteger? = some w) :
    v.primitive?.any Primitive.isInteger = true ∨ ∃ n, v = .wide n := by
  cases v with
  | int s n => exact Or.inl rfl
  | wide n => exact Or.inr ⟨n, rfl⟩
  | _ => cases h

end Value

namespace Heap
variable {G : ClassGraph} {H : Heap} {t : Ty} {p : Primitive} {property : String} {v w : Value}

/-- What is stored was accepted. -/
theorem accepts_of_coerce (h : H.coerce G t property v = .ok w) : H.accepts G t v = true := by
  cases hv : v.isNull with
  | true =>
    obtain rfl := Value.isNull_iff.mp hv
    rw [coerce_null] at h
    split at h
    · cases h
    · cases h
      exact (fits_null (by simpa using ‹¬ t.isPrimitive = true›)).accepted
  | false =>
    have hne : v ≠ .null := Value.isNull_eq_false_iff.mp hv
    rcases coerce_cases h hv with ⟨p, hp, hw⟩ | ⟨rfl, hw⟩ | ⟨-, -, haccepts, -⟩
    · have hany := Value.any_primitive?_of_widen? hw
      cases t <;> cases hp <;> cases v <;> first | exact hany | exact absurd rfl hne
    · rcases Value.isInteger_of_widenInteger? hw with hany | ⟨n, rfl⟩
      · cases v <;> first | exact hany | exact absurd rfl hne | rfl
      · rfl
    · exact haccepts

theorem accepts_iff_coerce : H.accepts G t v = true ↔ ∃ w, H.coerce G t property v = .ok w := by
  constructor
  · intro h
    by_cases hv : v = .null
    · subst hv
      have ht : t.isPrimitive = false := by
        cases t <;> first | rfl | cases h
      exact ⟨.null, by simp only [coerce_null, ht, Bool.false_eq_true, if_false]⟩
    · exact exists_coerce_of_accepts h hv
  · rintro ⟨w, h⟩
    exact accepts_of_coerce h

/-- A slot for integers holds the integer that was written to it. -/
theorem toInt?_of_coerce (ht : t.isInteger = true) (h : H.coerce G t property v = .ok w) (hv : v ≠ .null) :
    ∃ n, v.integer? = some n ∧ w.toInt? = some n := by
  rcases coerce_cases h (Value.isNull_eq_false_iff.mpr hv) with ⟨p, hp, hw⟩ | ⟨-, hw⟩ | ⟨hp, hwide, -, -⟩
  · have hinteger : p.isInteger = true := by
      cases t <;> cases hp <;> exact ht
    cases p with
    | int s => exact Value.toInt?_of_widen? hw
    | _ => cases hinteger
  · exact Value.toInt?_of_widenInteger? hw
  · cases t <;> cases hp <;> first | exact absurd rfl hwide | cases ht

theorem exactly_eq_ok_iff :
    H.exactly G p v = .ok w ↔ v ≠ .null ∧ H.coerce G (.primitive p) property v = .ok w := by
  have hwiden : H.exactly G p v = .ok w ↔ v.widen? p = some w := by
    unfold exactly
    cases v.widen? p with
    | none => exact ⟨nofun, nofun⟩
    | some u =>
      constructor
      · intro h
        cases h
        rfl
      · intro h
        cases h
        rfl
  rw [hwiden]
  constructor
  · intro h
    have hv : v ≠ .null := by
      rintro rfl
      cases p <;> cases h
    exact ⟨hv, (coerce_eq_ok_iff (Value.isNull_eq_false_iff.mpr hv)).mpr h⟩
  · rintro ⟨hv, h⟩
    exact (coerce_eq_ok_iff (Value.isNull_eq_false_iff.mpr hv)).mp h

/-! ### Arrays -/

/-- Whether an array holds only values that its component accepts. -/
def Conforms (G : ClassGraph) (H : Heap) (a : TypedArray) : Prop := ∀ v ∈ a.items, H.accepts G a.component v = true

/-- Of all types only two accept a text. -/
theorem accepts_text_iff {text : String} : H.accepts G t (.text text) = true ↔ t = .any ∨ t = .text := by
  constructor
  · intro h
    cases t <;> first | exact Or.inl rfl | exact Or.inr rfl | cases h
  · rintro (rfl | rfl) <;> rfl

/-! ### Agreement -/

/-- The check, the conversion and the exact reading of primitives agree.  A type accepts a value exactly if each slot
of the type converts it; what the slot holds then is accepted, is converted to itself and, in a slot for integers, is
the same integer.  A value is read as a primitive exactly if it is there and a slot of the primitive accepts it, and
then as what the slot would hold. -/
theorem accepts_agrees_with_coerce (G : ClassGraph) (H : Heap) (v : Value) :
    (∀ t property, H.accepts G t v = true ↔ ∃ w, H.coerce G t property v = .ok w) ∧
    (∀ t property w, H.coerce G t property v = .ok w →
      H.accepts G t w = true ∧ (∀ property', H.coerce G t property' w = .ok w) ∧
      (t.isInteger = true → v ≠ .null → ∃ n, v.integer? = some n ∧ w.toInt? = some n)) ∧
    ∀ p, ((∃ w, H.exactly G p v = .ok w) ↔ v ≠ .null ∧ H.accepts G (.primitive p) v = true) ∧
      ∀ w property, H.exactly G p v = .ok w → H.coerce G (.primitive p) property v = .ok w := by
  refine ⟨fun t property => accepts_iff_coerce, fun t property w h => ?_, fun p => ⟨?_, fun w property h => ?_⟩⟩
  · have hfits := fits_of_coerce h
    exact ⟨hfits.accepted, fun property' => hfits.coerce, fun ht hv => toInt?_of_coerce ht h hv⟩
  · have hprimitive : H.accepts G (.primitive p) v = true ↔ ∃ w, H.coerce G (.primitive p) "" v = .ok w :=
      accepts_iff_coerce
    rw [hprimitive, ← exists_and_left]
    exact exists_congr fun w => exactly_eq_ok_iff
  · exact (exactly_eq_ok_iff.mp h).2

/-- A character that a slot for integers accepts is held as its code point, and read as the same integer. -/
theorem accepts_agrees_with_coerce_character :
    ∃ w, Heap.empty.coerce .empty (.boxed (.int .w32)) "code" (.char 'A') = .ok w ∧ w.toInt? = some 65 ∧
      ∃ u, Heap.empty.exactly .empty (.int .w32) (.char 'A') = .ok u := by
  obtain ⟨haccepts, hcoerce, hexactly⟩ := accepts_agrees_with_coerce .empty Heap.empty (.char 'A')
  obtain ⟨w, hw⟩ := (haccepts (.boxed (.int .w32)) "code").mp rfl
  obtain ⟨n, hn, hint⟩ := (hcoerce _ _ _ hw).2.2 rfl nofun
  cases hn
  exact ⟨w, hw, hint, (hexactly (.int .w32)).1.mpr ⟨nofun, rfl⟩⟩

end Heap

end ObjectGraph
