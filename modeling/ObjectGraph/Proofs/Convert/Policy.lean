import ObjectGraph.Proofs.Convert.Soundness

/-!
Strict and lenient registries.  A lenient conversion gives what a strict one gives, and something else only
where the strict one fails: the default of the type, or, within an array, the default of the component in place
of each element that the strict one refuses.
-/

namespace ObjectGraph

namespace Registry
variable {G : ClassGraph} {H : Heap} {S L : Registry} {t c : Ty} {k : Converter} {d v w : Value}

/-- What the entry of a type falls back to, if it is lenient. -/
def default? (R : Registry) (t : Ty) : Option Value := (R.lookup? t).bind ConverterEntry.fallback

/-- Whether a strict and a lenient registry have the same converter for a type; the default is the lenient one's. -/
structure Agree (S L : Registry) (t : Ty) (k : Converter) (d : Value) : Prop where
  standard : standard? t = some k
  strict : S.lookup? t = some ⟨k, none⟩
  lenient : L.lookup? t = some ⟨k, some d⟩

theorem Agree.default? (h : Agree S L t k d) : L.default? t = some d := by
  rw [Registry.default?, h.lenient]
  rfl

theorem exists_agree {strict lenient : RegistryConfig} (hstrict : strict.isStrict = true)
    (hlenient : lenient.isStrict = false) (H₁ H₂ : Heap) (h : standard? t = some k) :
    ∃ d, Agree (withConfig strict H₁).1 (withConfig lenient H₂).1 t k d := by
  obtain ⟨⟨k₁, fallback₁⟩, hlookup₁, rfl, hpolicy₁⟩ := exists_lookup? strict H₁ h
  obtain ⟨⟨k₂, fallback₂⟩, hlookup₂, rfl, hpolicy₂⟩ := exists_lookup? lenient H₂ h
  rw [hstrict, ConverterEntry.isStrict, Option.isNone_iff_eq_none] at hpolicy₁
  rw [hlenient, ConverterEntry.isStrict, Option.isNone_eq_false_iff, Option.isSome_iff_exists] at hpolicy₂
  obtain ⟨d, hd⟩ := hpolicy₂
  subst hpolicy₁ hd
  exact ⟨d, h, hlookup₁, hlookup₂⟩

/-! ### One value -/

/-- A value is widened, or the entries decide: both by their converter, unless there is no value. -/
theorem Agree.convert_cases (h : Agree S L t k d) (H : Heap) (v : Value) :
    (H.accepts G t v = true ∧ ∃ w, S.convert G t v H = .ok (w, H) ∧ L.convert G t v H = .ok (w, H)) ∨
    (v = .null ∧ (∃ e, S.convert G t v H = .error e) ∧ L.convert G t v H = .ok (d, H)) ∨
    (v ≠ .null ∧ H.accepts G t v = false ∧ S.convert G t v H = k.convert G (S.elementConversion G t) t v H ∧
      L.convert G t v H = .ok ((k.convert G (L.elementConversion G t) t v H).toOption.getD (d, H))) := by
  have hany := ne_any_of_standard? h.standard
  by_cases hv : v = .null
  · subst hv
    have hstrict := convert_of_lookup? (G := G) (H := H) hany h.strict (Or.inl rfl)
    have hlenient := convert_of_lookup? (G := G) (H := H) hany h.lenient (Or.inl rfl)
    exact Or.inr (Or.inl ⟨rfl, ⟨_, hstrict.trans (ConverterEntry.apply_null_of_strict rfl)⟩,
      hlenient.trans (ConverterEntry.apply_null_of_fallback rfl)⟩)
  · cases haccepts : H.accepts G t v with
    | true =>
      obtain ⟨w, hw, hstrict⟩ := S.convert_of_accepts hv haccepts
      obtain ⟨w', hw', hlenient⟩ := L.convert_of_accepts hv haccepts
      obtain rfl : w = w' := Except.ok.inj (hw.symm.trans hw')
      exact Or.inl ⟨rfl, w, hstrict, hlenient⟩
    | false =>
      have hstrict := convert_of_lookup? hany h.strict (Or.inr haccepts)
      have hlenient := convert_of_lookup? hany h.lenient (Or.inr haccepts)
      exact Or.inr (Or.inr ⟨hv, rfl, hstrict.trans (ConverterEntry.apply_of_strict rfl hv),
        hlenient.trans (ConverterEntry.apply_of_fallback rfl hv)⟩)

/-- A lenient conversion never fails. -/
theorem Agree.exists_convert (h : Agree S L t k d) (H : Heap) (v : Value) : ∃ r, L.convert G t v H = .ok r := by
  rcases h.convert_cases H v with ⟨-, w, -, hlenient⟩ | ⟨-, -, hlenient⟩ | ⟨-, -, -, hlenient⟩
  · exact ⟨_, hlenient⟩
  · exact ⟨_, hlenient⟩
  · exact ⟨_, hlenient⟩

theorem Agree.convert_null (h : Agree S L t k d) {e : Error} (he : S.convert G t .null H = .error e) :
    L.convert G t .null H = .ok (d, H) := by
  rcases h.convert_cases (G := G) H .null with ⟨-, w, hstrict, -⟩ | ⟨-, -, hlenient⟩ | ⟨hv, -⟩
  · cases hstrict.symm.trans he
  · exact hlenient
  · exact absurd rfl hv

/-- What a strict conversion gives, or else a default. -/
def relaxed (G : ClassGraph) (S : Registry) (t : Ty) (d : Value) (H : Heap) (v : Value) : Value :=
  match S.convert G t v H with
  | .ok (w, _) => w
  | .error _ => d

theorem relaxed_of_ok {H' : Heap} (h : S.convert G t v H = .ok (w, H')) : S.relaxed G t d H v = w := by
  rw [relaxed, h]

theorem relaxed_of_error {e : Error} (h : S.convert G t v H = .error e) : S.relaxed G t d H v = d := by
  rw [relaxed, h]

/-- A conversion to a scalar makes nothing new, and a lenient one only adds the default. -/
theorem Agree.convert_scalar (h : Agree S L t k d) (ht : t.isArray = false) (v : Value) :
    L.convert G t v H = .ok (S.relaxed G t d H v, H) ∧ ∀ {w H'}, S.convert G t v H = .ok (w, H') → H' = H := by
  have hk := ne_array_of_standard? h.standard ht
  rcases h.convert_cases (G := G) H v with
    ⟨-, w, hstrict, hlenient⟩ | ⟨-, ⟨e, hstrict⟩, hlenient⟩ | ⟨-, -, hstrict, hlenient⟩
  · refine ⟨by rw [relaxed_of_ok hstrict, hlenient], fun hw => ?_⟩
    cases hstrict.symm.trans hw
    rfl
  · refine ⟨by rw [relaxed_of_error hstrict, hlenient], fun hw => ?_⟩
    cases hstrict.symm.trans hw
  · rw [Converter.convert_congr hk (S.elementConversion G t), ← hstrict] at hlenient
    refine ⟨?_, fun hw => (Converter.convert_eq_ok hk (hstrict.symm.trans hw)).2⟩
    cases hresult : S.convert G t v H with
    | error e => rw [relaxed_of_error hresult, hlenient, hresult]; rfl
    | ok r =>
      obtain ⟨w, H'⟩ := r
      obtain ⟨-, rfl⟩ := Converter.convert_eq_ok hk (hstrict.symm.trans hresult)
      rw [relaxed_of_ok hresult, hlenient, hresult]
      rfl

/-! ### Elements -/

/-- Where no element is refused, nothing is relaxed. -/
theorem Agree.convertAll_strict {vs ws : List Value} {H' : Heap} (h : Agree S L c k d) (hc : c.isArray = false)
    (hall : Converter.convertAll (S.convert G c) H vs = .ok (ws, H')) :
    ws = vs.map (S.relaxed G c d H) ∧ H' = H := by
  induction vs generalizing ws H' with
  | nil =>
    cases hall
    exact ⟨rfl, rfl⟩
  | cons v vs ih =>
    obtain ⟨⟨w, H₁⟩, hw, hrest⟩ := bind_eq_ok.mp hall
    obtain rfl := (h.convert_scalar hc v).2 hw
    obtain ⟨⟨ws', H₂⟩, hws, hanswer⟩ := bind_eq_ok.mp hrest
    obtain ⟨rfl, rfl⟩ := ih hws
    cases hanswer
    exact ⟨by rw [List.map_cons, relaxed_of_ok hw], rfl⟩

/-- An array is made of the relaxed elements, and if the strict conversion makes one it is the same. -/
theorem Agree.convert_array {k' : Converter} {d' : Value} (h : Agree S L (.array c) k d) (hc : Agree S L c k' d')
    (hscalar : c.isArray = false) (hv : v ≠ .null) (haccepts : H.accepts G (.array c) v = false) :
    L.convert G (.array c) v H = .ok (H.newArray c ((Converter.elements H v).map (S.relaxed G c d' H))) ∧
      ∀ {r}, S.convert G (.array c) v H = .ok r →
        r = H.newArray c ((Converter.elements H v).map (S.relaxed G c d' H)) := by
  obtain ⟨-, rfl⟩ := isScalar_of_standard? h.standard
  have hmake (element : Conversion) : Converter.convert G element (.array c) .array v H =
      Converter.convertAll element H (Converter.elements H v) >>= fun r => .ok (r.2.newArray c r.1) := rfl
  rcases h.convert_cases (G := G) H v with ⟨haccepted, -⟩ | ⟨hnull, -⟩ | ⟨-, -, hstrict, hlenient⟩
  · rw [haccepts] at haccepted
    cases haccepted
  · exact absurd hnull hv
  · rw [hmake] at hstrict hlenient
    -- The lenient registry never gets to the default of the array: none of its elements fails.
    refine ⟨?_, fun hr => ?_⟩
    · have hall : Converter.convertAll (L.elementConversion G (.array c)) H (Converter.elements H v) = _ :=
        Converter.convertAll_eq_ok (List.forall₂_map_right_iff.mpr
          (List.forall₂_same.mpr fun u _ => (hc.convert_scalar hscalar u).1))
      rw [hlenient, hall]
      rfl
    · obtain ⟨⟨ws, H'⟩, hall, hanswer⟩ := bind_eq_ok.mp (hstrict.symm.trans hr)
      obtain ⟨rfl, rfl⟩ := hc.convertAll_strict hscalar hall
      exact (Except.ok.inj hanswer).symm

theorem Agree.convert_array_of_ok {k' : Converter} {d' : Value} (h : Agree S L (.array c) k d) (hc : Agree S L c k' d')
    (hscalar : c.isArray = false) {r : Value × Heap} (hr : S.convert G (.array c) v H = .ok r) :
    L.convert G (.array c) v H = .ok r := by
  rcases h.convert_cases (G := G) H v with ⟨-, w, hstrict, hlenient⟩ | ⟨-, ⟨e, hstrict⟩, -⟩ | ⟨hv, haccepts, -⟩
  · rw [hlenient, ← hstrict, hr]
  · cases hstrict.symm.trans hr
  · obtain ⟨hlenient, hsame⟩ := h.convert_array hc hscalar hv haccepts
    rw [hlenient, hsame hr]

/-! ### The registries of two configurations -/

end Registry

end ObjectGraph
