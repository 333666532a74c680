import ObjectGraph.Proofs.Convert.Wording
import ObjectGraph.Proofs.Value.Acceptance

/-!
Conversions of integers.  An integer is widened, or else taken to a type by the converter of the type, and a text is
read first; each of these ways gives the same integer, or fails if the type does not have it.
-/

namespace ObjectGraph

/-- The number of bits of the integers of a type. -/
def Ty.bits : Ty → Nat
  | .primitive (.int s) | .boxed (.int s) => s.bits
  | .wide => 128
  | _ => 0

variable {G : ClassGraph} {H : Heap} {t : Ty} {n : Int} {v w : Value} {k : Converter}

/-- What a type holds of an integer has its bits. -/
theorem Heap.fitsBits_of_typeOf (ht : t.isInteger = true) (h : H.typeOf w = t.kind) (hw : w.toInt? = some n) :
    FitsBits t.bits n := by
  have hint {s : IntSize} (h : H.typeOf w = .boxed (.int s)) : FitsBits s.bits n := by
    cases w with
    | int s' i =>
      cases h
      cases hw
      exact i.fits
    | _ => cases h
  cases t with
  | primitive p => cases p <;> first | exact hint h | cases ht
  | boxed p => cases p <;> first | exact hint h | cases ht
  | wide =>
    cases w with
    | wide i =>
      cases hw
      exact i.fits
    | _ => cases h
  | _ => cases ht

namespace Converter

theorem number?_of_toInt? (hv : v.toInt? = some n) (hn : FitsBits 128 n) : number? v = some (.whole ⟨n, hn⟩) := by
  cases v with
  | int s i =>
    cases hv
    rw [number?, Signed.ofInt?_of_fits hn]
    rfl
  | wide i =>
    cases hv
    rfl
  | _ => cases hv

end Converter

/-- Whether a conversion of what stands for an integer gives exactly the integer, as a value of the very kind of the
type, and fails with a cause if the type does not have the integer. -/
structure Registry.IsExact (G : ClassGraph) (R : Registry) (t : Ty) (v : Value) (n : Int) (H : Heap) : Prop where
  exact : FitsBits t.bits n → ∃ w, R.convert G t v H = .ok (w, H) ∧ w.toInt? = some n ∧ H.typeOf w = t.kind
  refused : ¬ FitsBits t.bits n → R.convert G t v H =
    .error (.conversion (H.typeName G v) (G.typeName t) (Error.quoted (H.display G v) ++ " is out of range"))

namespace Converter

/-- The converter of a type of integers takes a whole number to the integer of the type, if there is one. -/
theorem scalar_whole (ht : t.isInteger = true) (hk : Registry.standard? t = some k) {i : Signed 128}
    (hv : number? v = some (.whole i)) :
    (FitsBits t.bits i.toInt → ∃ w, scalar G H t v k = .ok w ∧ w.toInt? = some i.toInt ∧ H.typeOf w = t.kind) ∧
    (¬ FitsBits t.bits i.toInt →
      scalar G H t v k = .error (failure G H v t (Error.quoted (H.display G v) ++ " is out of range"))) := by
  have hint (s : IntSize) :
      (FitsBits s.bits i.toInt → ∃ w, scalar G H t v (.number (.int s)) = .ok w ∧ w.toInt? = some i.toInt ∧
        H.typeOf w = .boxed (.int s)) ∧
      (¬ FitsBits s.bits i.toInt → scalar G H t v (.number (.int s)) =
        .error (failure G H v t (Error.quoted (H.display G v) ++ " is out of range"))) := by
    simp only [scalar, hv, Number.toPrimitive, Number.whole?]
    constructor
    · intro hfits
      rw [Signed.ofInt?_of_fits hfits]
      exact ⟨_, rfl, rfl, rfl⟩
    · intro hfits
      rw [Signed.ofInt?_of_not_fits hfits]
  cases t with
  | primitive p =>
    cases p with
    | int s =>
      cases hk
      exact hint s
    | _ => cases ht
  | boxed p =>
    cases p with
    | int s =>
      cases hk
      exact hint s
    | _ => cases ht
  | wide =>
    cases hk
    simp only [scalar, hv, Number.whole?]
    exact ⟨fun _ => ⟨_, rfl, rfl, rfl⟩, fun hfits => absurd i.fits hfits⟩
  | _ => cases ht

end Converter

namespace Registry

theorem isScalar_of_isInteger (ht : t.isInteger = true) : t.isScalar = true := by
  cases t <;> first | rfl | cases ht

theorem isArray_of_isInteger (ht : t.isInteger = true) : t.isArray = false := by
  cases t <;> first | rfl | cases ht

/-- A value that the type does not accept is converted by the entry of the type. -/
theorem isExact_of_number (config : RegistryConfig) (hstrict : config.isStrict = true) (H₀ : Heap)
    (ht : t.isInteger = true) (hne : v ≠ .null) (hrefused : H.accepts G t v = false) {i : Signed 128}
    (hv : Converter.number? v = some (.whole i)) : (withConfig config H₀).1.IsExact G t v i.toInt H := by
  obtain ⟨k, hk⟩ := exists_standard? (isScalar_of_isInteger ht)
  have hscalar := Converter.scalar_whole (G := G) (H := H) ht hk hv
  have hconvert := convert_of_refused config H₀ hk (isArray_of_isInteger ht) hne hrefused
  constructor
  · intro hfits
    obtain ⟨w, hw, hint, htype⟩ := hscalar.1 hfits
    exact ⟨w, by rw [hconvert, hw], hint, htype⟩
  · intro hfits
    rw [hconvert, hscalar.2 hfits, hstrict]
    rfl

/-- A value that the type accepts is widened, and the type then has the integer. -/
theorem isExact_of_accepts (R : Registry) (ht : t.isInteger = true) (haccepts : H.accepts G t v = true)
    (hv : v.toInt? = some n) : R.IsExact G t v n H := by
  have hne := Value.ne_null_of_toInt? hv
  obtain ⟨w, hw, hconvert⟩ := R.convert_of_accepts hne haccepts
  obtain ⟨m, hm, hint⟩ := Heap.toInt?_of_coerce ht hw hne
  have hmn : m = n := by
    cases v <;> cases hv <;> cases hm <;> rfl
  rw [hmn] at hint
  have htype := (Heap.fits_of_coerce hw).exact (isScalar_of_isInteger ht)
    (Heap.ne_null_of_coerce hw (Value.isNull_eq_false_iff.mpr hne))
  exact ⟨fun _ => ⟨w, hconvert, hint, htype⟩, fun hfits => absurd (Heap.fitsBits_of_typeOf ht htype hint) hfits⟩

/-- Under a strict policy an integer of any size, and any numeral of it with blanks around, is converted to a type of
integers exactly, or the conversion fails: it gives the integer itself if the type has it, and nothing else if not. -/
theorem integer_conversion_exact (config : RegistryConfig) (hstrict : config.isStrict = true) (H₀ H : Heap) (t : Ty)
    (ht : t.isInteger = true) (n : Int) (hn : FitsBits 128 n) :
    (∀ v : Value, v.toInt? = some n → (withConfig config H₀).1.IsExact G t v n H) ∧
    ∀ (text : String) (cs : List Char), Numeral.Denotes cs n → Pads cs text.toList →
      (withConfig config H₀).1.IsExact G t (.text text) n H := by
  constructor
  · intro v hv
    cases haccepts : H.accepts G t v with
    | true => exact isExact_of_accepts _ ht haccepts hv
    | false =>
      have hne : v ≠ .null := by
        rintro rfl
        cases hv
      exact isExact_of_number config hstrict H₀ ht hne haccepts (Converter.number?_of_toInt? hv hn)
  · intro text cs hcs htext
    have hrefused : H.accepts G t (.text text) = false := by
      cases t <;> first | rfl | cases ht
    have hne : Value.text text ≠ .null := nofun
    exact isExact_of_number config hstrict H₀ ht hne hrefused (Converter.readNumber?_of_denotes hcs htext hn)

/-- One more than the greatest number of eight bits is refused by bytes, from a number and from its numeral, and kept
by numbers of sixteen bits. -/
theorem integer_conversion_exact_byte :
    let R := (withConfig ⟨true, false, 0⟩ .empty).1
    R.IsExact .empty (.primitive (.int .w8)) (.wide ⟨128, by decide⟩) 128 .empty ∧
    R.IsExact .empty (.primitive (.int .w8)) (.text " +0128 ") 128 .empty ∧
    R.IsExact .empty (.boxed (.int .w16)) (.text " +0128 ") 128 .empty ∧
    ¬ FitsBits (Ty.primitive (.int .w8)).bits 128 ∧ FitsBits (Ty.boxed (.int .w16)).bits 128 := by
  have hnumeral : Numeral.Denotes ('+' :: ['0', '1', '2', '8']) 128 := .plus nofun (List.all_eq_true.mp rfl)
  have htext : Pads ('+' :: ['0', '1', '2', '8']) " +0128 ".toList := ⟨[' '], [' '], by decide, by decide, rfl⟩
  obtain ⟨hvalue, hbyte⟩ := integer_conversion_exact (G := .empty) ⟨true, false, 0⟩ rfl .empty .empty
    (.primitive (.int .w8)) rfl 128 (by decide)
  obtain ⟨-, hshort⟩ := integer_conversion_exact (G := .empty) ⟨true, false, 0⟩ rfl .empty .empty
    (.boxed (.int .w16)) rfl 128 (by decide)
  exact ⟨hvalue _ rfl, hbyte _ _ hnumeral htext, hshort _ _ hnumeral htext, by decide, by decide⟩

end Registry

end ObjectGraph
