import ObjectGraph.Proofs.Convert.Entries
import ObjectGraph.Proofs.Text.Numeral

/-!
Texts of values, and values of texts.  Booleans, characters, integers and texts are written so that the converter
of their type reads them back, whatever its policy; no default is ever used on the way.
-/

namespace ObjectGraph

/-- Whether the texts of the scalars of a type say which scalar it was. -/
def Ty.isWorded : Ty → Bool
  | .primitive p | .boxed p => !p.isFloat
  | .wide | .text => true
  | _ => false

namespace Ty
variable {t : Ty}

theorem isScalar_of_isWorded (h : t.isWorded = true) : t.isScalar = true := by
  cases t <;> first | rfl | cases h

theorem isArray_of_isWorded (h : t.isWorded = true) : t.isArray = false := by
  cases t <;> first | rfl | cases h

end Ty

variable {G : ClassGraph} {H : Heap} {t : Ty} {k : Converter} {v w : Value} {config : RegistryConfig} {H₀ : Heap}

/-- The display of a value that holds no others is its text. -/
theorem Heap.display_of_isScalar (h : v.isScalar = true) : H.display G v = v.scalarText := by
  cases v <;> first | rfl | cases h

theorem Heap.isScalar_of_typeOf (ht : t.isScalar = true) (h : H.typeOf v = t.kind) : v.isScalar = true := by
  cases v <;> first | rfl | (cases t <;> cases ht <;> cases h)

theorem Heap.ne_null_of_typeOf (ht : t.isScalar = true) (h : H.typeOf v = t.kind) : v ≠ .null := by
  rintro rfl
  cases t <;> cases ht <;> cases h

/-! ### From texts -/

namespace Converter

theorem readNumber?_of_denotes {cs : List Char} {text : String} {n : Int} (h : Numeral.Denotes cs n)
    (htext : Pads cs text.toList) (hn : FitsBits 128 n) : readNumber? text = some (.whole ⟨n, hn⟩) := by
  rw [readNumber?, trimBlanks_of_pads (Numeral.isTight_of_denotes h) htext, Numeral.readSigned?_of_denotes h,
    Option.bind_some, Signed.ofInt?_of_fits hn]

theorem readNumber?_ofInt {n : Int} (h : FitsBits 128 n) : readNumber? (Numeral.ofInt n) = some (.whole ⟨n, h⟩) :=
  readNumber?_of_denotes (Numeral.denotes_ofInt n) (pads_self _) h

theorem scalar_scalarText_of_primitive {p : Primitive} (hp : p.isFloat = false) (hv : H.typeOf v = .boxed p)
    (target : Ty) : scalar G H target (.text v.scalarText) (Registry.ofPrimitive p) = .ok v := by
  have hdisplay (s : String) : H.display G (.text s) = s := rfl
  cases v with
  | bool b =>
    cases hv
    have hread : boolean? (trimBlanks (Value.bool b).scalarText.toList) = some b := by cases b <;> decide +kernel
    simp only [scalar, Registry.ofPrimitive, Value.asBool?, Value.asInt64?, Value.toInt?, Option.bind_none, hdisplay,
      hread]
  | char c =>
    cases hv
    have hhead : (String.singleton c).toList.head? = some c := by simp
    simp only [scalar, Registry.ofPrimitive, Value.scalarText, Value.asChar?, hdisplay, hhead]
  | int s n =>
    cases hv
    have hnumber := readNumber?_ofInt (n.fits.mono (b := 128) (by cases s <;> decide))
    simp only [scalar, Registry.ofPrimitive, Value.scalarText, number?, hnumber, Number.toPrimitive, Number.whole?,
      Signed.ofInt?_of_fits n.fits]
  | single x =>
    cases hv
    cases hp
  | double x =>
    cases hv
    cases hp
  | _ => cases hv

/-- A text of a scalar is converted to the scalar. -/
theorem scalar_scalarText (hk : Registry.standard? t = some k) (ht : t.isWorded = true) (hv : H.typeOf v = t.kind)
    (target : Ty) : scalar G H target (.text v.scalarText) k = .ok v := by
  have hfloat {p : Primitive} (h : (!p.isFloat) = true) : p.isFloat = false := by simpa using h
  cases t with
  | primitive p =>
    cases hk
    exact scalar_scalarText_of_primitive (hfloat ht) hv target
  | boxed p =>
    cases hk
    exact scalar_scalarText_of_primitive (hfloat ht) hv target
  | wide =>
    cases hk
    cases v with
    | wide n => simp only [scalar, number?, Value.scalarText, readNumber?_ofInt n.fits, Number.whole?]
    | _ => cases hv
  | text =>
    cases hk
    cases v with
    | text s => rfl
    | _ => cases hv
  | _ => cases ht

end Converter

namespace Registry

/-- The entry of a scalar type reads the text of a scalar. -/
theorem convertText_scalarText (ht : t.isWorded = true) (hv : H.typeOf v = t.kind) :
    (withConfig config H₀).1.convertText G t v.scalarText H = .ok (v, H) := by
  obtain ⟨k, hk⟩ := exists_standard? (Ty.isScalar_of_isWorded ht)
  obtain ⟨e, he, rfl, -⟩ := exists_lookup? config H₀ hk
  have hscalar := Converter.scalar_scalarText (G := G) hk ht hv t
  rw [convertText, he]
  refine ConverterEntry.apply_of_convert nofun ?_
  rw [Converter.convert_eq_scalar (ne_array_of_standard? hk (Ty.isArray_of_isWorded ht)), hscalar]
  rfl

theorem accepts_text (ht : t.isWorded = true) (h : t ≠ .text) (s : String) : H.accepts G t (.text s) = false := by
  cases t <;> first | rfl | exact absurd rfl h | cases ht

/-- A text of a scalar is converted to the scalar. -/
theorem convert_scalarText (ht : t.isWorded = true) (hv : H.typeOf v = t.kind) :
    (withConfig config H₀).1.convert G t (.text v.scalarText) H = .ok (v, H) := by
  by_cases htext : t = .text
  · subst htext
    obtain ⟨w, hw, hconvert⟩ := (withConfig config H₀).1.convert_of_accepts (G := G) (H := H) (t := .text)
      (v := .text v.scalarText) nofun rfl
    cases v <;> cases hv
    cases hw
    exact hconvert
  · have hany : t ≠ .any := by
      rintro rfl
      cases ht
    obtain ⟨k, hk⟩ := exists_standard? (Ty.isScalar_of_isWorded ht)
    obtain ⟨e, he, -⟩ := exists_lookup? config H₀ hk
    have hread : (withConfig config H₀).1.convertText G t v.scalarText H = .ok (v, H) := convertText_scalarText ht hv
    rw [convertText, he] at hread
    exact (convert_of_lookup? hany he (Or.inr (accepts_text ht htext _))).trans hread

/-- A list of the texts of scalars is converted to a new array of the scalars. -/
theorem convert_listOfTexts {l : Handle .list} (ht : t.isWorded = true) {vs : List Value}
    (hvs : ∀ v ∈ vs, H.typeOf v = t.kind) (hl : H.get l = vs.map fun v => .text v.scalarText) :
    (withConfig config H₀).1.convert G (.array t) (.list l) H = .ok (H.newArray t vs) := by
  refine convert_list config H₀ (Ty.isScalar_of_isWorded ht) ?_
  rw [hl, List.forall₂_map_left_iff, List.forall₂_same]
  exact fun v hv => convert_scalarText ht (hvs v hv)

/-! ### To texts -/

/-- Any scalar is converted to its text. -/
theorem convert_toText (h : v.isScalar = true) (hv : v ≠ .null) :
    (withConfig config H₀).1.convert G .text v H = .ok (.text v.scalarText, H) := by
  by_cases hs : ∃ s, v = .text s
  · obtain ⟨s, rfl⟩ := hs
    obtain ⟨w, hw, hconvert⟩ := (withConfig config H₀).1.convert_of_accepts (G := G) (H := H) (t := .text)
      (v := .text s) nofun rfl
    cases hw
    exact hconvert
  · have hrefused : H.accepts G .text v = false := by
      cases v <;> first | rfl | exact absurd rfl hv | exact absurd ⟨_, rfl⟩ hs
    have hwritten : Converter.scalar G H .text v .text = .ok (.text v.scalarText) := by
      rw [← Heap.display_of_isScalar (G := G) (H := H) h, Converter.scalar]
      · exact hv
      · exact fun s hs' => hs ⟨s, hs'⟩
    rw [convert_of_refused config H₀ (k := .text) rfl rfl hv hrefused, hwritten]

theorem toTextWithin_of_items? (R : Registry) (depth : Nat) (hv : v ≠ .null) (h : H.items? v = none) :
    R.toTextWithin G (depth + 1) v H = (R.convert G .text v H).map fun r => (r.1.asText?, r.2) := by
  unfold toTextWithin
  split
  · exact absurd rfl hv
  · rw [h] at *
    contradiction
  · rw [h] at *
    contradiction
  · rfl

/-- The text of a scalar. -/
theorem toText_of_isScalar (h : v.isScalar = true) (hv : v ≠ .null) :
    (withConfig config H₀).1.toText G v H = .ok (some v.scalarText, H) := by
  have hitems : H.items? v = none := by cases v <;> first | rfl | cases h
  rw [toText, toTextWithin_of_items? _ _ hv hitems, convert_toText h hv]
  rfl

end Registry

end ObjectGraph
