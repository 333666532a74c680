import ObjectGraph.Proofs.Convert.Entries

/-!
Conversions with the converters that a configuration sets up.  Whatever is converted, and whether a converter
or a fallback gives the answer, the answer fits the type that was asked for.  So a second conversion finds
nothing to do.
-/

namespace ObjectGraph

namespace Converter
variable {G : ClassGraph} {H : Heap} {t u : Ty} {v w : Value}

/-- The type of the scalars that a converter makes. -/
def ty? : Converter → Option Ty
  | .number p => some (.boxed p)
  | .wide => some .wide
  | .boolean => some (.boxed .bool)
  | .character => some (.boxed .char)
  | .text => some .text
  | .temporal .date _ => some .date
  | .temporal .time _ => some .time
  | .temporal .dateTime _ => some .dateTime
  | .url => some .url
  | .path => some .path
  | .array => none

theorem primitive?_of_toPrimitive {n : Number} {p : Primitive} {outOfRange notNumeric : Error}
    (h : n.toPrimitive outOfRange notNumeric p = .ok w) : w.primitive? = some p := by
  cases p with
  | double =>
    cases h
    rfl
  | single =>
    simp only [Number.toPrimitive] at h
    split at h <;> cases h
    rfl
  | int s =>
    simp only [Number.toPrimitive] at h
    split at h
    · cases h
    · split at h <;> cases h
      rfl
  | _ =>
    simp only [Number.toPrimitive] at h
    split at h <;> cases h

theorem typeOf_of_readTemporal? {patterns : List String} {text : String} {kind : TemporalKind}
    (h : readTemporal? kind patterns text = some w) (hk : (Converter.temporal kind patterns).ty? = some u) :
    H.typeOf w = u := by
  have hmap {α : Type} {made : α → Value} {read : Option α} (h : read.map made = some w)
      (hmade : ∀ a, H.typeOf (made a) = u) : H.typeOf w = u := by
    obtain ⟨a, -, rfl⟩ := Option.map_eq_some_iff.mp h
    exact hmade a
  unfold readTemporal? at h
  split at h
  case h_1 | h_2 | h_3 =>
    cases hk
    exact hmap h fun _ => rfl
  all_goals
    obtain ⟨_, -, hread⟩ := List.exists_of_findSome?_eq_some h
    cases hk
    exact hmap hread fun _ => rfl

theorem typeOf_of_temporal? {patterns : List String} {kind : TemporalKind} (h : temporal? kind patterns v = some w)
    (hk : (Converter.temporal kind patterns).ty? = some u) : H.typeOf w = u := by
  unfold temporal? at h
  split at h <;> first | exact typeOf_of_readTemporal? h hk | cases h <;> cases hk <;> rfl

theorem typeOf_of_scalar {k : Converter} (h : scalar G H t v k = .ok w) (hv : v ≠ .null) (hk : k.ty? = some u) :
    H.typeOf w = u := by
  cases k with
  | number p =>
    cases hk
    simp only [scalar] at h
    split at h
    · cases h
    · exact Heap.typeOf_of_primitive? (primitive?_of_toPrimitive h)
  | wide =>
    cases hk
    simp only [scalar] at h
    split at h
    · cases h
    · split at h <;> cases h
      rfl
  | boolean =>
    cases hk
    simp only [scalar] at h
    split at h
    · cases h
      rfl
    · cases h
      rfl
    · split at h <;> cases h
      rfl
  | character =>
    cases hk
    simp only [scalar] at h
    split at h <;> cases h <;> rfl
  | text =>
    cases hk
    simp only [scalar] at h
    split at h
    · exact absurd rfl hv
    · cases h
      rfl
    · cases h
      rfl
  | temporal kind patterns =>
    simp only [scalar] at h
    split at h
    · cases h
      exact typeOf_of_temporal? ‹_› hk
    · cases h
  | url =>
    cases hk
    simp only [scalar] at h
    split at h
    · cases h
      rfl
    · split at h <;> cases h
      rfl
    · cases h
  | path =>
    cases hk
    simp only [scalar] at h
    split at h
    · cases h
      rfl
    · cases h
      rfl
    · split at h <;> cases h
      rfl
    · cases h
  | array => cases hk

/-- A converter to scalars changes nothing else. -/
theorem convert_eq_ok {H' : Heap} {element : Conversion} {k : Converter} (hk : k ≠ .array)
    (h : k.convert G element t v H = .ok (w, H')) : scalar G H t v k = .ok w ∧ H' = H := by
  cases k with
  | array => exact absurd rfl hk
  | _ =>
    obtain ⟨_, hw, hanswer⟩ := bind_eq_ok.mp h
    cases hanswer
    exact ⟨hw, rfl⟩

end Converter

variable {G : ClassGraph} {H H' : Heap} {t : Ty} {v w : Value} {element : Conversion}

/-- Whether the entry of a type makes what fits the type, and falls back to what fits it. -/
structure ConverterEntry.Sound (G : ClassGraph) (H : Heap) (t : Ty) (e : ConverterEntry) : Prop where
  makes : (t.isScalar = true ∧ e.converter.ty? = some t.kind) ∨ ∃ c, t = .array c ∧ e.converter = .array
  fallback : ∀ {w}, e.fallback = some w → H.Fits G t w ∧ H.Live w

/-- Whether all entries of a registry are sound. -/
def Registry.Sound (G : ClassGraph) (H : Heap) (R : Registry) : Prop :=
  ∀ t e, R.lookup? t = some e → e.Sound G H t

/-! ### Conversions by an entry -/

namespace ConverterEntry
variable {e : ConverterEntry}

theorem Sound.later (he : e.Sound G H t) (h : H.KeepsTypes H') : e.Sound G H' t where
  makes := he.makes
  fallback hw := ⟨h.fits (he.fallback hw).2 (he.fallback hw).1, h.live (he.fallback hw).2⟩

/-- A converter makes what fits, and never null. -/
theorem Sound.convert (he : e.Sound G H t) (hv : v ≠ .null)
    (h : e.converter.convert G element t v H = .ok (w, H')) : H'.Fits G t w ∧ w ≠ .null := by
  rcases he.makes with ⟨hscalar, hk⟩ | ⟨c, rfl, hk⟩
  · have hne : e.converter ≠ .array := fun ha => by
      rw [ha] at hk
      cases hk
    obtain ⟨hw, rfl⟩ := Converter.convert_eq_ok hne h
    have hkind := Converter.typeOf_of_scalar hw hv hk
    refine ⟨Heap.fits_of_typeOf hscalar hkind, ?_⟩
    rintro rfl
    cases t <;> cases hscalar <;> cases hkind
  · rw [hk] at h
    obtain ⟨⟨vs, H₁⟩, -, hnew⟩ := bind_eq_ok.mp h
    have hnew : H₁.newArray c vs = (w, H') := Except.ok.inj hnew
    have hfits := Heap.fits_newArray (G := G) (H := H₁) c vs
    rw [hnew] at hfits
    refine ⟨hfits, ?_⟩
    rintro rfl
    cases congrArg Prod.fst hnew

/-- An entry gives what fits.  Null is only ever what it falls back to. -/
theorem Sound.apply (he : e.Sound G H t) (h : e.apply G element t v H = .ok (w, H')) :
    H'.Fits G t w ∧ (w = .null → H' = H ∧ e.fallback = some .null) := by
  have hfallback (hw : e.fallback = some w) : H.Fits G t w ∧ (w = .null → H = H ∧ e.fallback = some .null) :=
    ⟨(he.fallback hw).1, fun hnull => ⟨rfl, hnull ▸ hw⟩⟩
  unfold ConverterEntry.apply at h
  split at h
  · split at h
    · cases h
      exact hfallback ‹_›
    · cases h
  · rename_i hv
    split at h
    · cases h
      obtain ⟨hfits, hne⟩ := he.convert (Value.isNull_eq_false_iff.mp (Bool.eq_false_iff.mpr hv)) ‹_›
      exact ⟨hfits, fun hw => absurd hw hne⟩
    · cases h
      exact hfallback ‹_›
    · cases h

end ConverterEntry

/-! ### Conversions by a registry -/

namespace Registry
variable {R : Registry} {e : ConverterEntry}

/-- A value that fits is converted to itself. -/
theorem convertWith_of_fits (h : H.Fits G t v) (hv : v ≠ .null) :
    R.convertWith G element t v H = .ok (v, H) := by
  have hnull := Value.isNull_eq_false_iff.mpr hv
  unfold convertWith
  split
  · rfl
  · simp only [hnull, h.accepted, Bool.not_false, Bool.and_self, if_true, h.coerce]
    rfl

/-- Null is converted by the entry of the type, if there is one. -/
theorem convertWith_null (ht : t ≠ .any) : R.convertWith G element t .null H =
    match R.lookup? t with
    | some e => e.apply G element t .null H
    | none => (H.coerce G t "value" .null).map fun w => (w, H) := by
  unfold convertWith
  rw [if_neg ht]
  rfl

theorem coerce_of_map_eq_ok (h : (H.coerce G t "value" v).map (fun w => (w, H)) = .ok (w, H')) :
    H' = H ∧ H.coerce G t "value" v = .ok w := by
  cases hc : H.coerce G t "value" v with
  | error e =>
    rw [hc] at h
    cases h
  | ok w' =>
    rw [hc] at h
    cases h
    exact ⟨rfl, rfl⟩

/-- What a conversion gives fits, and is given back by a second one. -/
theorem Sound.convertWith (hR : R.Sound G H) (h : R.convertWith G element t v H = .ok (w, H')) :
    H'.Fits G t w ∧ R.convertWith G element t w H' = .ok (w, H') := by
  by_cases ht : t = .any
  · subst ht
    cases h
    exact ⟨Heap.fits_any v, rfl⟩
  have hagain (hfits : H'.Fits G t w) (hnull : w = .null → R.convertWith G element t .null H' = .ok (.null, H')) :
      H'.Fits G t w ∧ R.convertWith G element t w H' = .ok (w, H') := by
    refine ⟨hfits, ?_⟩
    by_cases hw : w = .null
    · rw [hw]
      exact hnull hw
    · exact convertWith_of_fits hfits hw
  have hfirst := h
  rw [Registry.convertWith, if_neg ht] at h
  split at h
  · rename_i hv
    obtain ⟨rfl, hc⟩ := coerce_of_map_eq_ok h
    rw [Bool.and_eq_true, Bool.not_eq_true'] at hv
    exact hagain (Heap.fits_of_coerce hc) fun hw => absurd hw (Heap.ne_null_of_coerce hc hv.1)
  · split at h
    · rename_i e he
      obtain ⟨hfits, hnull⟩ := (hR t e he).apply h
      refine hagain hfits fun hw => ?_
      obtain ⟨rfl, hfallback⟩ := hnull hw
      rw [convertWith_null ht, he]
      simp only [ConverterEntry.apply, hfallback, Value.isNull, if_true]
    · obtain ⟨rfl, hc⟩ := coerce_of_map_eq_ok h
      refine hagain (Heap.fits_of_coerce hc) fun hw => ?_
      -- Only null is stored as null, so the first conversion was one of null already.
      cases hv : v.isNull with
      | false => exact absurd hw (Heap.ne_null_of_coerce hc hv)
      | true =>
        obtain rfl := Value.isNull_iff.mp hv
        rwa [hw] at hfirst

/-! ### The registry of a configuration -/

theorem sound_empty : (empty : Registry).Sound G H := fun _ _ he => by cases he

theorem Sound.later (hR : R.Sound G H) (h : H.KeepsTypes H') : R.Sound G H' := fun t e he => (hR t e he).later h

theorem Sound.put (hR : R.Sound G H) (he : e.Sound G H t) : (R.put t e).Sound G H := by
  intro t' e' hlookup
  rw [lookup?_put] at hlookup
  split at hlookup
  · rename_i ht
    cases hlookup
    exact ht ▸ he
  · exact hR t' e' hlookup

theorem sound_putAll {entries : List (Ty × ConverterEntry)} (hR : R.Sound G H)
    (hentries : ∀ entry ∈ entries, entry.2.Sound G H entry.1) :
    (entries.foldl (fun R (t, e) => R.put t e) R).Sound G H := by
  intro t e hlookup
  rcases lookup?_putAll hlookup with hmem | hlookup
  · exact hentries (t, e) hmem
  · exact hR t e hlookup

theorem sound_scalarEntries (config : RegistryConfig) :
    ∀ entry ∈ scalarEntries config, entry.2.Sound G H entry.1 := by
  have hfallback {t : Ty} {v : Value} (hv : H.Fits G t v ∧ H.Live v) {w : Value}
      (hw : (if config.isStrict then none else some v) = some w) : H.Fits G t w ∧ H.Live w := by
    split at hw <;> cases hw
    exact hv
  have hzero (p : Primitive) : H.Live p.zero := by cases p <;> trivial
  have hmakes (p : Primitive) : (ofPrimitive p).ty? = some (.boxed p) := by cases p <;> rfl
  have hothers : ∀ entry ∈ others, entry.1.isScalar = true ∧ entry.2.ty? = some entry.1.kind := by decide
  have hnull : ∀ entry ∈ others, entry.1.isPrimitive = false := by decide
  intro entry hentry
  rcases List.mem_append.mp hentry with hmem | hmem
  · obtain ⟨p, -, hp⟩ := List.mem_flatMap.mp hmem
    rcases List.mem_cons.mp hp with rfl | hp
    · refine ⟨.inl ⟨rfl, hmakes p⟩, hfallback ?_⟩
      split
      · exact ⟨Heap.fits_null rfl, trivial⟩
      · exact ⟨Heap.fits_of_primitive? rfl (Value.primitive?_zero p), hzero p⟩
    · obtain rfl := List.mem_singleton.mp hp
      exact ⟨.inl ⟨rfl, hmakes p⟩, hfallback ⟨Heap.fits_of_primitive? rfl (Value.primitive?_zero p), hzero p⟩⟩
  · obtain ⟨⟨t, k⟩, htk, rfl⟩ := List.mem_map.mp hmem
    exact ⟨.inl (hothers _ htk), hfallback ⟨Heap.fits_null (hnull _ htk), trivial⟩⟩

/-- The arrays to fall back to are new ones of the right component. -/
theorem Sound.putArrays (hR : R.Sound G H) (config : RegistryConfig) (ts : List Ty) :
    (putArrays config R H ts).1.Sound G (putArrays config R H ts).2 := by
  induction ts generalizing R H with
  | nil => exact hR
  | cons t ts ih =>
    refine ih (Sound.put (hR.later (Heap.onlyAdds_alloc (k := .array) _ _).keepsTypes) ?_)
    refine ⟨.inr ⟨t, rfl, rfl⟩, fun {w} hw => ?_⟩
    dsimp only at hw
    split at hw
    · cases hw
    · cases hw
      exact ⟨Heap.fits_newArray t _, Heap.has_alloc (k := .array) _⟩

theorem sound_withConfig (config : RegistryConfig) (H : Heap) :
    (withConfig config H).1.Sound G (withConfig config H).2 := by
  unfold withConfig putDefaults
  exact (sound_putAll sound_empty (sound_scalarEntries config)).putArrays config components

/-- A conversion by the registry of a configuration, at any later time, gives a value that the type accepts;
a scalar that is not null is of the very kind of the type.  Converted again to the type, the value stays as
it is, so that a container is the same one, and nothing new is made. -/
theorem convert_sound_and_idempotent (config : RegistryConfig) (H₀ H : Heap)
    (hlater : (withConfig config H₀).2.KeepsTypes H)
    (h : (withConfig config H₀).1.convert G t v H = .ok (w, H')) :
    H'.accepts G t w = true ∧ (t.isScalar = true → w ≠ .null → H'.typeOf w = t.kind) ∧
      (withConfig config H₀).1.convert G t w H' = .ok (w, H') := by
  have hsound := (sound_withConfig (G := G) config H₀).later hlater
  have hway : ∃ element, convert G (withConfig config H₀).1 t = convertWith G (withConfig config H₀).1 element t := by
    cases t <;> exact ⟨_, rfl⟩
  obtain ⟨element, hway⟩ := hway
  rw [hway] at h ⊢
  obtain ⟨hfits, hagain⟩ := hsound.convertWith h
  exact ⟨hfits.accepted, hfits.exact, hagain⟩

/-- A boolean becomes an array of one number, which is converted to itself. -/
theorem convert_sound_and_idempotent_array : ∃ (a : Handle .array) (H : Heap),
    (withConfig .standard .empty).1.convert .empty (.array (.primitive (.int .w32))) (.bool true)
      (withConfig .standard .empty).2 = .ok (.array a, H) ∧
    H.accepts .empty (.array (.primitive (.int .w32))) (.array a) = true ∧
    (withConfig .standard .empty).1.convert .empty (.array (.primitive (.int .w32))) (.array a) H =
      .ok (.array a, H) := by
  have hrun : ∃ (a : Handle .array) (H : Heap),
      (withConfig .standard .empty).1.convert .empty (.array (.primitive (.int .w32))) (.bool true)
        (withConfig .standard .empty).2 = .ok (.array a, H) := ⟨_, _, rfl⟩
  obtain ⟨a, H, hrun⟩ := hrun
  obtain ⟨haccepts, -, hagain⟩ := convert_sound_and_idempotent .standard .empty _ (.refl _) hrun
  exact ⟨a, H, hrun, haccepts, hagain⟩

end Registry

end ObjectGraph
