import ObjectGraph.Proofs.Convert.Policy
import ObjectGraph.Proofs.Value.Acceptance

/-!
Where the answers of a conversion come from, with the converters that a configuration sets up.  A conversion answers
the value itself, a scalar, or a new array of scalars; and only where there is no value, what the type falls back to.
Of what types fall back to, only arrays are containers.  Each of these has been made for its type alone.
-/

namespace ObjectGraph

namespace Heap
variable {G : ClassGraph} {H H' : Heap} {t : Ty} {v : Value}

/-- What fits a type of scalars names no cell. -/
theorem Fits.isScalar (h : H.Fits G t v) (ht : t.isScalar = true) : v.isScalar = true := by
  by_cases hv : v = .null
  · subst hv
    rfl
  · have hkind := h.exact ht hv
    cases v <;> first | rfl | (cases t <;> cases ht <;> cases hkind)

/-- What fits a type of scalars does so on any heap. -/
theorem Fits.of_isScalar (h : H.Fits G t v) (ht : t.isScalar = true) : H'.Fits G t v := by
  refine h.congr ?_
  have hv := h.isScalar ht
  cases v <;> first | rfl | cases hv

theorem live_of_isScalar (hv : v.isScalar = true) : H.Live v := by
  cases v <;> trivial

/-- Only what is there and accepted is not left to a converter. -/
theorem accepted_or_refused (H : Heap) (t : Ty) (v : Value) :
    (v ≠ .null ∧ H.accepts G t v = true) ∨ (v = .null ∨ H.accepts G t v = false) := by
  by_cases hv : v = .null
  · exact Or.inr (Or.inl hv)
  · cases haccepts : H.accepts G t v with
    | true => exact Or.inl ⟨hv, rfl⟩
    | false => exact Or.inr (Or.inr rfl)

end Heap

namespace Converter
variable {element : Conversion} {H H' : Heap} {vs ws : List Value}

theorem exists_convertAll (helement : ∀ v H, ∃ r, element v H = .ok r) (H : Heap) (vs : List Value) :
    ∃ r, convertAll element H vs = .ok r := by
  induction vs generalizing H with
  | nil => exact ⟨_, rfl⟩
  | cons v vs ih =>
    obtain ⟨⟨w, H₁⟩, hw⟩ := helement v H
    obtain ⟨⟨ws, H₂⟩, hws⟩ := ih H₁
    refine ⟨(w :: ws, H₂), bind_eq_ok.mpr ⟨_, hw, ?_⟩⟩
    exact bind_eq_ok.mpr ⟨_, hws, rfl⟩

/-- What each conversion of an element keeps is kept by all of them, and what holds for each answer holds for all. -/
theorem keeps_convertAll {I : Heap → Prop} {Q : Value → Prop}
    (helement : ∀ {v w : Value} {H H' : Heap}, I H → element v H = .ok (w, H') → I H' ∧ Q w) (h : I H)
    (hall : convertAll element H vs = .ok (ws, H')) : I H' ∧ ∀ w ∈ ws, Q w := by
  induction vs generalizing H ws with
  | nil =>
    cases hall
    exact ⟨h, List.forall_mem_nil _⟩
  | cons v vs ih =>
    obtain ⟨⟨w, H₁⟩, hw, hrest⟩ := bind_eq_ok.mp hall
    obtain ⟨⟨ws', H₂⟩, hws, hanswer⟩ := bind_eq_ok.mp hrest
    cases hanswer
    obtain ⟨hfirst, hQ⟩ := helement h hw
    obtain ⟨hlast, hQs⟩ := ih hfirst hws
    exact ⟨hlast, List.forall_mem_cons.mpr ⟨hQ, hQs⟩⟩

end Converter

namespace Registry
variable {G : ClassGraph} {H H' H₀ : Heap} {R : Registry} {config : RegistryConfig} {e : ConverterEntry} {t c : Ty}
  {v w : Value} {element : Conversion}

/-- Without an entry a conversion stores the value as a slot does. -/
theorem coerce_of_convert (ht : t ≠ .any) (hlookup : R.lookup? t = none) (h : R.convert G t v H = .ok (w, H')) :
    H' = H ∧ H.coerce G t "value" v = .ok w := by
  rw [convert_eq, convertWith, if_neg ht, hlookup] at h
  split at h <;> exact coerce_of_map_eq_ok h

/-! ### Conversions to scalars -/

theorem isScalar_or_array_of_standard? {k : Converter} (h : standard? t = some k) :
    t.isScalar = true ∨ ∃ c, t = .array c ∧ c.isScalar = true := by
  cases t with
  | array c => exact Or.inr ⟨c, rfl, (isScalar_of_standard? h).1⟩
  | _ => first | exact Or.inl rfl | cases h

/-- An entry of a type of scalars is sound on any heap. -/
theorem sound_of_isScalar (hlookup : (withConfig config H₀).1.lookup? t = some e) (ht : t.isScalar = true) :
    e.Sound G H t := by
  have hsound := sound_withConfig (G := G) config H₀ t e hlookup
  refine ⟨hsound.makes, fun hw => ?_⟩
  have hfits := (hsound.fallback hw).1
  exact ⟨hfits.of_isScalar ht, Heap.live_of_isScalar (hfits.isScalar ht)⟩

/-- An entry of a type of scalars gives a scalar and makes nothing. -/
theorem apply_eq_ok_of_isScalar (he : (withConfig config H₀).1.lookup? t = some e) (ht : t.isScalar = true)
    (h : e.apply G element t v H = .ok (w, H')) : H' = H ∧ w.isScalar = true := by
  obtain ⟨k, hk⟩ := exists_standard? ht
  obtain ⟨e', he', hconverter, -⟩ := exists_lookup? config H₀ hk
  cases he.symm.trans he'
  have hscalars : e.converter ≠ .array :=
    hconverter ▸ ne_array_of_standard? hk (by cases t <;> first | rfl | cases ht)
  refine ⟨?_, ((sound_of_isScalar he ht).apply h).1.isScalar ht⟩
  unfold ConverterEntry.apply at h
  split at h
  · split at h <;> cases h
    rfl
  · split at h
    · cases h
      exact (Converter.convert_eq_ok hscalars ‹_›).2
    · cases h
      rfl
    · cases h

/-- A conversion to a type of scalars answers a scalar and makes nothing. -/
theorem convert_eq_ok_of_isScalar (ht : t.isScalar = true)
    (h : (withConfig config H₀).1.convert G t v H = .ok (w, H')) : H' = H ∧ w.isScalar = true := by
  obtain ⟨k, hk⟩ := exists_standard? ht
  obtain ⟨e, he, -⟩ := exists_lookup? config H₀ hk
  rcases H.accepted_or_refused (G := G) t v with ⟨hv, haccepts⟩ | hrefused
  · obtain ⟨w', hw', hconvert⟩ := (withConfig config H₀).1.convert_of_accepts hv haccepts
    cases hconvert.symm.trans h
    exact ⟨rfl, (Heap.fits_of_coerce hw').isScalar ht⟩
  · rw [convert_of_lookup? (ne_any_of_standard? hk) he hrefused] at h
    exact apply_eq_ok_of_isScalar he ht h

theorem convertAll_eq_ok_of_isScalar (hc : c.isScalar = true) {vs ws : List Value}
    (h : Converter.convertAll ((withConfig config H₀).1.convert G c) H vs = .ok (ws, H')) :
    H' = H ∧ ∀ w ∈ ws, w.isScalar = true := by
  refine Converter.keeps_convertAll (I := fun K => K = H) (fun hK hw => ?_) rfl h
  obtain ⟨rfl, hscalar⟩ := convert_eq_ok_of_isScalar hc hw
  exact ⟨hK, hscalar⟩

/-! ### Conversions to arrays -/

/-- A lenient registry converts any value to a type that has an entry. -/
theorem exists_convert_of_lenient (H₀ : Heap) (hlenient : config.isStrict = false) {k : Converter}
    (ht : standard? t = some k) (v : Value) (H : Heap) : ∃ r, (withConfig config H₀).1.convert G t v H = .ok r := by
  have hstrict : (⟨true, false, 0⟩ : RegistryConfig).isStrict = true := rfl
  obtain ⟨d, hagree⟩ := exists_agree hstrict hlenient H₀ H₀ ht
  exact hagree.exists_convert H v

/-- The entry of an array gives for what is there what the converter of arrays makes, and never the array to fall back
to: a lenient registry converts each element, so that there is an array to give. -/
theorem apply_array_eq_ok {r : Value × Heap} (hlookup : (withConfig config H₀).1.lookup? (.array c) = some e)
    (hv : v ≠ .null)
    (h : e.apply G ((withConfig config H₀).1.elementConversion G (.array c)) (.array c) v H = .ok r) :
    c.isScalar = true ∧
      Converter.convert G ((withConfig config H₀).1.convert G c) (.array c) .array v H = .ok r := by
  obtain ⟨hstandard, hstrict⟩ := standard?_of_lookup? hlookup
  obtain ⟨hc, harray⟩ := isScalar_of_standard? hstandard
  refine ⟨hc, ?_⟩
  cases hfallback : e.fallback with
  | none =>
    rw [ConverterEntry.apply_of_strict hfallback hv, harray] at h
    exact h
  | some d =>
    have hlenient : config.isStrict = false := by
      rw [← hstrict, ConverterEntry.isStrict, hfallback]
      rfl
    obtain ⟨k, hk⟩ := exists_standard? hc
    obtain ⟨all, hall⟩ := Converter.exists_convertAll
      (fun v K => exists_convert_of_lenient (G := G) H₀ hlenient hk v K) H (Converter.elements H v)
    have hmade : Converter.convert G ((withConfig config H₀).1.elementConversion G (.array c)) (.array c) .array v H =
        .ok (all.2.newArray c all.1) := bind_eq_ok.mpr ⟨all, hall, rfl⟩
    rw [← harray] at hmade
    cases (ConverterEntry.apply_of_convert hv hmade).symm.trans h
    exact harray ▸ hmade

/-- A value that is there and is no such array is converted by the converter of arrays. -/
theorem convert_array_eq_ok {r : Value × Heap} (hv : v ≠ .null) (haccepts : H.accepts G (.array c) v = false)
    (h : (withConfig config H₀).1.convert G (.array c) v H = .ok r) : c.isScalar = true ∧
      Converter.convert G ((withConfig config H₀).1.convert G c) (.array c) .array v H = .ok r := by
  have hany : Ty.array c ≠ .any := nofun
  cases hlookup : (withConfig config H₀).1.lookup? (.array c) with
  | none =>
    obtain ⟨w, H'⟩ := r
    rw [Heap.accepts_of_coerce (coerce_of_convert hany hlookup h).2] at haccepts
    cases haccepts
  | some e =>
    rw [convert_of_lookup? hany hlookup (Or.inr haccepts)] at h
    exact apply_array_eq_ok hlookup hv h

/-! ### Conversions in general -/

/-- Null is converted to the same on any heap: to nothing but null, or to what the type falls back to. -/
theorem convert_null (R : Registry) (t : Ty) : (∃ e, ∀ H, R.convert G t .null H = .error e) ∨
    ∃ w, (∀ H, R.convert G t .null H = .ok (w, H)) ∧ (w = .null ∨ R.default? t = some w) := by
  by_cases ht : t = .any
  · subst ht
    exact Or.inr ⟨.null, fun _ => rfl, Or.inl rfl⟩
  · simp only [convert_eq, convertWith_null ht, default?]
    cases R.lookup? t with
    | none =>
      simp only [Heap.coerce_null]
      cases t.isPrimitive with
      | true => exact Or.inl ⟨_, fun _ => rfl⟩
      | false => exact Or.inr ⟨.null, fun _ => rfl, Or.inl rfl⟩
    | some e =>
      cases hfallback : e.fallback with
      | none => exact Or.inl ⟨_, fun _ => ConverterEntry.apply_null_of_strict hfallback⟩
      | some w =>
        refine Or.inr ⟨w, fun _ => ConverterEntry.apply_null_of_fallback hfallback, Or.inr ?_⟩
        rw [Option.bind_some, hfallback]

/-- An entry gives a scalar or a new array of scalars; or there is no value, and it gives what the type falls back
to. -/
theorem apply_origin (he : (withConfig config H₀).1.lookup? t = some e)
    (h : e.apply G ((withConfig config H₀).1.elementConversion G t) t v H = .ok (w, H')) :
    (H' = H ∧ w.isScalar = true) ∨ (v = .null ∧ H' = H ∧ (withConfig config H₀).1.default? t = some w) ∨
    ∃ c ws, (w, H') = H.newArray c ws ∧ ∀ x ∈ ws, x.isScalar = true := by
  rcases isScalar_or_array_of_standard? (standard?_of_lookup? he).1 with ht | ⟨c, rfl, hc⟩
  · exact Or.inl (apply_eq_ok_of_isScalar he ht h)
  · by_cases hv : v = .null
    · subst hv
      cases hfallback : e.fallback with
      | none => cases (ConverterEntry.apply_null_of_strict hfallback).symm.trans h
      | some d =>
        cases (ConverterEntry.apply_null_of_fallback hfallback).symm.trans h
        exact Or.inr (Or.inl ⟨rfl, rfl, Option.bind_eq_some_iff.mpr ⟨e, he, hfallback⟩⟩)
    · obtain ⟨-, hmade⟩ := apply_array_eq_ok he hv h
      obtain ⟨⟨ws, H₁⟩, hall, hnew⟩ := bind_eq_ok.mp hmade
      obtain ⟨rfl, hscalars⟩ := convertAll_eq_ok_of_isScalar hc hall
      exact Or.inr (Or.inr ⟨c, ws, (Except.ok.inj hnew).symm, hscalars⟩)

/-- A conversion answers the value itself, a scalar or a new array of scalars; or there is no value, and it answers
what the type falls back to. -/
theorem convert_origin (h : (withConfig config H₀).1.convert G t v H = .ok (w, H')) :
    (H' = H ∧ (w = v ∨ w.isScalar = true)) ∨
    (v = .null ∧ H' = H ∧ (withConfig config H₀).1.default? t = some w) ∨
    ∃ c ws, (w, H') = H.newArray c ws ∧ ∀ x ∈ ws, x.isScalar = true := by
  by_cases hany : t = .any
  · subst hany
    cases h
    exact Or.inl ⟨rfl, Or.inl rfl⟩
  · rcases H.accepted_or_refused (G := G) t v with ⟨hv, haccepts⟩ | hrefused
    · obtain ⟨w', hw', hconvert⟩ := (withConfig config H₀).1.convert_of_accepts hv haccepts
      cases hconvert.symm.trans h
      exact Or.inl ⟨rfl, Heap.eq_or_isScalar_of_coerce hw'⟩
    · cases hlookup : (withConfig config H₀).1.lookup? t with
      | none =>
        obtain ⟨rfl, hcoerce⟩ := coerce_of_convert hany hlookup h
        exact Or.inl ⟨rfl, Heap.eq_or_isScalar_of_coerce hcoerce⟩
      | some e =>
        rw [convert_of_lookup? hany hlookup hrefused] at h
        exact (apply_origin hlookup h).imp_left fun ⟨hheap, hscalar⟩ => ⟨hheap, Or.inr hscalar⟩

/-- A text is converted to a scalar or to a new array of scalars. -/
theorem convertText_origin {text : String} (h : (withConfig config H₀).1.convertText G t text H = .ok (w, H')) :
    (H' = H ∧ w.isScalar = true) ∨ ∃ c ws, (w, H') = H.newArray c ws ∧ ∀ x ∈ ws, x.isScalar = true := by
  unfold convertText at h
  split at h
  · rcases apply_origin ‹_› h with hscalar | ⟨hnull, -⟩ | hnew
    · exact Or.inl hscalar
    · cases hnull
    · exact Or.inr hnew
  · cases h
    exact Or.inl ⟨rfl, rfl⟩

/-! ### What types fall back to -/

theorem default?_put (R : Registry) (t : Ty) (e : ConverterEntry) (u : Ty) :
    (R.put t e).default? u = if u = t then e.fallback else R.default? u := by
  rw [default?, default?, lookup?_put]
  split <;> rfl

theorem isScalar_of_mem_scalarEntries (config : RegistryConfig) :
    ∀ entry ∈ scalarEntries config, ∀ w, entry.2.fallback = some w → w.isScalar = true := by
  have hzero (p : Primitive) : p.zero.isScalar = true := by cases p <;> rfl
  have hfallback {v w : Value} (hv : v.isScalar = true) (hw : (if config.isStrict then none else some v) = some w) :
      w.isScalar = true := by
    split at hw <;> cases hw
    exact hv
  intro entry hentry w hw
  rcases List.mem_append.mp hentry with hmem | hmem
  · obtain ⟨p, -, hp⟩ := List.mem_flatMap.mp hmem
    rcases List.mem_cons.mp hp with rfl | hp
    · refine hfallback ?_ hw
      split
      · rfl
      · exact hzero p
    · obtain rfl := List.mem_singleton.mp hp
      exact hfallback (hzero p) hw
  · obtain ⟨⟨t, k⟩, -, rfl⟩ := List.mem_map.mp hmem
    exact hfallback rfl hw

/-- Whether the containers that types fall back to are new arrays of a length, none for two types, whose elements have
never been written. -/
structure FallsBack (length : Nat) (H₀ : Heap) (R : Registry) (H : Heap) : Prop where
  later : H₀.OnlyAdds H
  origin : ∀ {t w}, R.default? t = some w → w.isScalar = true ∨
    ∃ c a, t = .array c ∧ w = .array a ∧ ¬ H₀.Has a ∧ H.Has a ∧ H.get a = .filled c length
  distinct : ∀ {t u a}, R.default? t = some (.array a) → R.default? u = some (.array a) → t = u

theorem FallsBack.has {length : Nat} {a : Handle .array} (h : FallsBack length H₀ R H)
    (ha : R.default? t = some (.array a)) : H.Has a := by
  rcases h.origin ha with hscalar | ⟨c, a', -, ha', -, hhas, -⟩
  · cases hscalar
  · cases ha'
    exact hhas

theorem FallsBack.putArray {fallback : Option Value} {length : Nat} (h : FallsBack length H₀ R H) (c : Ty)
    (hfallback : ∀ {w}, fallback = some w → w = .array (H.next .array)) :
    FallsBack length H₀ (R.put (.array c) ⟨.array, fallback⟩) (H.alloc .array (.filled c length)).2 := by
  have hadds := H.onlyAdds_alloc (k := .array) (.filled c length)
  have hnew : ¬ H.Has (H.next .array) := Nat.lt_irrefl _
  refine ⟨h.later.trans hadds, fun {t w} hw => ?_, fun {t u a} ht hu => ?_⟩
  · rw [default?_put] at hw
    split at hw
    · obtain rfl := hfallback hw
      refine Or.inr ⟨c, _, ‹_›, rfl, fun hold => hnew (h.later.has hold), Heap.has_alloc (k := .array) _, ?_⟩
      exact H.get_alloc_self (k := .array) _
    · refine (h.origin hw).imp_right ?_
      rintro ⟨c', a, ht, hw, hfresh, hhas, hcell⟩
      exact ⟨c', a, ht, hw, hfresh, hadds.has hhas, (hadds.same (k := .array) hhas).trans hcell⟩
  · rw [default?_put] at ht hu
    split at ht <;> split at hu
    · exact ‹t = _›.trans ‹u = _›.symm
    · cases hfallback ht
      exact absurd (h.has hu) hnew
    · cases hfallback hu
      exact absurd (h.has ht) hnew
    · exact h.distinct ht hu

theorem FallsBack.putArrays (h : FallsBack config.arrayLength H₀ R H) (ts : List Ty) :
    FallsBack config.arrayLength H₀ (putArrays config R H ts).1 (putArrays config R H ts).2 := by
  induction ts generalizing R H with
  | nil => exact h
  | cons c ts ih =>
    refine ih (h.putArray c fun {w} hw => ?_)
    split at hw <;> cases hw
    rfl

theorem isScalar_of_default?_putAll {entries : List (Ty × ConverterEntry)}
    (hentries : ∀ entry ∈ entries, ∀ w, entry.2.fallback = some w → w.isScalar = true)
    (h : (entries.foldl (fun R (t, e) => R.put t e) empty).default? t = some w) : w.isScalar = true := by
  obtain ⟨e, he, hfallback⟩ := Option.bind_eq_some_iff.mp h
  rcases lookup?_putAll he with hmem | hnone
  · exact hentries _ hmem w hfallback
  · cases hnone

/-- Before the arrays are put, types fall back to scalars. -/
theorem fallsBack_scalarEntries (config : RegistryConfig) (H₀ : Heap) : FallsBack config.arrayLength H₀
    ((scalarEntries config).foldl (fun R (t, e) => R.put t e) empty) H₀ where
  later := .refl H₀
  origin hw := Or.inl (isScalar_of_default?_putAll (isScalar_of_mem_scalarEntries config) hw)
  distinct ha := by cases isScalar_of_default?_putAll (isScalar_of_mem_scalarEntries config) ha

theorem fallsBack_withConfig (config : RegistryConfig) (H₀ : Heap) :
    FallsBack config.arrayLength H₀ (withConfig config H₀).1 (withConfig config H₀).2 :=
  (fallsBack_scalarEntries config H₀).putArrays components

/-- A strict registry falls back to nothing. -/
theorem default?_of_strict (hstrict : config.isStrict = true) : (withConfig config H₀).1.default? t = none := by
  rw [default?]
  cases hlookup : (withConfig config H₀).1.lookup? t with
  | none => rfl
  | some e =>
    have he := (standard?_of_lookup? hlookup).2
    rw [hstrict, ConverterEntry.isStrict, Option.isNone_iff_eq_none] at he
    exact he

end Registry

end ObjectGraph
