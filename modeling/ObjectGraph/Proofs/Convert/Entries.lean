import Mathlib.Data.List.Forall2
import ObjectGraph.Convert.Registry
import ObjectGraph.Proofs.Value.Fitting

/-!
The entries that a configuration sets up: which types have one, and with which converter.  Every scalar type
has one, and so has every array of scalars.  A value that the type accepts is converted without its entry,
and any other value, null among them, by the entry alone.
-/

namespace ObjectGraph

/-- What a lenient entry of a type that is no array is set up to fall back to. -/
def RegistryConfig.fallback (config : RegistryConfig) : Ty → Value
  | .boxed p => if config.nullBoxed then .null else p.zero
  | t => t.zero

namespace Registry
variable {G : ClassGraph} {H : Heap} {R : Registry} {t u : Ty} {e : ConverterEntry} {k : Converter} {v w : Value}
  {config : RegistryConfig}

/-- The converter that a type has from the start, if it has one. -/
def standard? : Ty → Option Converter
  | .primitive p | .boxed p => some (ofPrimitive p)
  | .wide => some .wide
  | .text => some .text
  | .date => some (.temporal .date [])
  | .time => some (.temporal .time [])
  | .dateTime => some (.temporal .dateTime [])
  | .url => some .url
  | .path => some .path
  | .array c => if c.isScalar then some .array else none
  | _ => none

/-! ### Entries that are put into a registry -/

theorem lookup?_put (R : Registry) (t : Ty) (e : ConverterEntry) (u : Ty) :
    (R.put t e).lookup? u = if u = t then some e else R.lookup? u := Assoc.get?_insert R.entries t u e

theorem lookup?_putAll {entries : List (Ty × ConverterEntry)}
    (h : (entries.foldl (fun R (t, e) => R.put t e) R).lookup? u = some e) :
    (u, e) ∈ entries ∨ R.lookup? u = some e := by
  induction entries generalizing R with
  | nil => exact Or.inr h
  | cons entry entries ih =>
    rcases ih h with hmem | hput
    · exact Or.inl (List.mem_cons_of_mem _ hmem)
    · rw [lookup?_put] at hput
      split at hput
      · rename_i hu
        cases hput
        subst hu
        exact Or.inl List.mem_cons_self
      · exact Or.inr hput

-- A later entry may replace the one of a type, but none is taken away.
theorem isSome_lookup?_putAll {entries : List (Ty × ConverterEntry)}
    (h : u ∈ entries.map Prod.fst ∨ (R.lookup? u).isSome) :
    ((entries.foldl (fun R (t, e) => R.put t e) R).lookup? u).isSome := by
  induction entries generalizing R with
  | nil => simpa using h
  | cons entry entries ih =>
    refine ih ?_
    rw [lookup?_put]
    by_cases hu : u = entry.1
    · exact Or.inr (by rw [if_pos hu]; rfl)
    · rw [if_neg hu]
      rcases h with hmem | hsome
      · rw [List.map_cons, List.mem_cons] at hmem
        exact Or.inl (hmem.resolve_left hu)
      · exact Or.inr hsome

theorem lookup?_putArrays {ts : List Ty} (h : (putArrays config R H ts).1.lookup? u = some e) :
    (∃ c ∈ ts, u = .array c ∧ e.converter = .array ∧ e.isStrict = config.isStrict) ∨ R.lookup? u = some e := by
  induction ts generalizing R H with
  | nil => exact Or.inr h
  | cons c ts ih =>
    rcases ih h with ⟨c', hc', hu⟩ | hput
    · exact Or.inl ⟨c', List.mem_cons_of_mem _ hc', hu⟩
    · rw [lookup?_put] at hput
      split at hput
      · rename_i hu
        cases hput
        refine Or.inl ⟨c, List.mem_cons_self, hu, rfl, ?_⟩
        cases hstrict : config.isStrict <;> simp [ConverterEntry.isStrict]
      · exact Or.inr hput

theorem isSome_lookup?_putArrays {ts : List Ty} (h : (∃ c ∈ ts, u = .array c) ∨ (R.lookup? u).isSome) :
    ((putArrays config R H ts).1.lookup? u).isSome := by
  induction ts generalizing R H with
  | nil => simpa [putArrays] using h
  | cons c ts ih =>
    refine ih ?_
    rw [lookup?_put]
    by_cases hu : u = .array c
    · exact Or.inr (by rw [if_pos hu]; rfl)
    · rw [if_neg hu]
      rcases h with ⟨c', hc', hu'⟩ | hsome
      · rcases List.mem_cons.mp hc' with rfl | hc'
        · exact absurd hu' hu
        · exact Or.inl ⟨c', hc', hu'⟩
      · exact Or.inr hsome

/-! ### The entries of a configuration -/

theorem standard?_of_mem_scalarEntries (config : RegistryConfig) : ∀ entry ∈ scalarEntries config,
    standard? entry.1 = some entry.2.converter ∧ entry.2.isStrict = config.isStrict := by
  have hothers : ∀ entry ∈ others, standard? entry.1 = some entry.2 := by simp [others, standard?]
  have hpolicy (v : Value) : (if config.isStrict then none else some v).isNone = config.isStrict := by
    cases config.isStrict <;> rfl
  intro entry hentry
  rcases List.mem_append.mp hentry with hmem | hmem
  · obtain ⟨p, -, hp⟩ := List.mem_flatMap.mp hmem
    rcases List.mem_cons.mp hp with rfl | hp
    · exact ⟨rfl, hpolicy _⟩
    · obtain rfl := List.mem_singleton.mp hp
      exact ⟨rfl, hpolicy _⟩
  · obtain ⟨other, hother, rfl⟩ := List.mem_map.mp hmem
    exact ⟨hothers other hother, hpolicy _⟩

theorem fallback_of_mem_scalarEntries (config : RegistryConfig) : ∀ entry ∈ scalarEntries config,
    entry.2.fallback = if config.isStrict then none else some (config.fallback entry.1) := by
  have hothers : ∀ other ∈ others, config.fallback other.1 = .null := by simp [others, RegistryConfig.fallback, Ty.zero]
  intro entry hentry
  rcases List.mem_append.mp hentry with hmem | hmem
  · obtain ⟨p, -, hp⟩ := List.mem_flatMap.mp hmem
    rcases List.mem_cons.mp hp with rfl | hp
    · rfl
    · obtain rfl := List.mem_singleton.mp hp
      rfl
  · obtain ⟨other, hother, rfl⟩ := List.mem_map.mp hmem
    rw [hothers other hother]

/-- An entry that is none of an array falls back to what its type is set up with, if at all. -/
theorem fallback_of_lookup? (ht : t.isArray = false) (h : (withConfig config H).1.lookup? t = some e) :
    e.fallback = if config.isStrict then none else some (config.fallback t) := by
  rcases lookup?_putArrays h with ⟨c, -, rfl, -⟩ | hscalar
  · cases ht
  · rcases lookup?_putAll hscalar with hmem | hnone
    · exact fallback_of_mem_scalarEntries config (t, e) hmem
    · cases hnone

theorem isScalar_of_mem_components : ∀ c ∈ components, c.isScalar = true := by decide

theorem mem_components (h : t.isScalar = true) : t ∈ components := by
  cases t with
  | primitive p => cases p <;> first | decide | (rename_i s; cases s <;> decide)
  | boxed p => cases p <;> first | decide | (rename_i s; cases s <;> decide)
  | _ => first | decide | cases h

theorem mem_scalarEntries (config : RegistryConfig) (h : t.isScalar = true) :
    t ∈ (scalarEntries config).map Prod.fst := by
  have hkeys : (scalarEntries config).map Prod.fst =
      Primitive.all.flatMap (fun p => [.boxed p, .primitive p]) ++ others.map Prod.fst := by
    simp [scalarEntries, List.map_flatMap, Function.comp_def]
  have hsame : ∀ c ∈ components,
      c ∈ Primitive.all.flatMap (fun p => [.boxed p, .primitive p]) ++ others.map Prod.fst := by decide
  exact hkeys ▸ hsame t (mem_components h)

theorem standard?_of_lookup? (h : (withConfig config H).1.lookup? t = some e) :
    standard? t = some e.converter ∧ e.isStrict = config.isStrict := by
  rcases lookup?_putArrays h with ⟨c, hc, rfl, hconverter, hstrict⟩ | hscalar
  · rw [standard?, if_pos (isScalar_of_mem_components c hc), hconverter]
    exact ⟨rfl, hstrict⟩
  · rcases lookup?_putAll hscalar with hmem | hnone
    · exact standard?_of_mem_scalarEntries config (t, e) hmem
    · cases hnone

/-- Each type that has a converter from the start has an entry with it. -/
theorem exists_lookup? (config : RegistryConfig) (H : Heap) (h : standard? t = some k) :
    ∃ e, (withConfig config H).1.lookup? t = some e ∧ e.converter = k ∧ e.isStrict = config.isStrict := by
  have hkey : (∃ c ∈ components, t = .array c) ∨ t ∈ (scalarEntries config).map Prod.fst := by
    cases t with
    | array c =>
      rw [standard?] at h
      split at h
      · exact Or.inl ⟨c, mem_components ‹_›, rfl⟩
      · cases h
    | _ => first | exact Or.inr (mem_scalarEntries config rfl) | cases h
  have hsome : ((withConfig config H).1.lookup? t).isSome :=
    isSome_lookup?_putArrays (hkey.imp_right fun hmem => isSome_lookup?_putAll (Or.inl hmem))
  obtain ⟨e, he⟩ := Option.isSome_iff_exists.mp hsome
  obtain ⟨hconverter, hstrict⟩ := standard?_of_lookup? he
  rw [h] at hconverter
  exact ⟨e, he, (Option.some.inj hconverter).symm, hstrict⟩

/-! ### Conversions with and without an entry -/

theorem convert_eq (R : Registry) (t : Ty) : R.convert G t = R.convertWith G (R.elementConversion G t) t := by
  cases t <;> rfl

/-- A value that the type accepts is widened, whatever entry the type has. -/
theorem convert_of_accepts (R : Registry) (hv : v ≠ .null) (h : H.accepts G t v = true) :
    ∃ w, H.coerce G t "value" v = .ok w ∧ R.convert G t v H = .ok (w, H) := by
  obtain ⟨w, hw⟩ : ∃ w, H.coerce G t "value" v = .ok w := Heap.exists_coerce_of_accepts h hv
  refine ⟨w, hw, ?_⟩
  rw [convert_eq, convertWith]
  split
  · rename_i ht
    rw [ht, Heap.coerce_any] at hw
    cases hw
    rfl
  · rw [Value.isNull_eq_false_iff.mpr hv, h, Bool.not_false, Bool.and_self, if_pos rfl, hw]
    rfl

theorem convert_of_lookup? (ht : t ≠ .any) (hlookup : R.lookup? t = some e) (h : v = .null ∨ H.accepts G t v = false) :
    R.convert G t v H = e.apply G (R.elementConversion G t) t v H := by
  have hrefused : (!v.isNull && H.accepts G t v) = false := by
    rcases h with rfl | h
    · rfl
    · rw [h, Bool.and_false]
  rw [convert_eq, convertWith, if_neg ht, hrefused, if_neg Bool.false_ne_true, hlookup]

theorem exists_standard? (h : t.isScalar = true) : ∃ k, standard? t = some k := by
  cases t <;> first | exact ⟨_, rfl⟩ | cases h

theorem standard?_array (h : t.isScalar = true) : standard? (.array t) = some .array := by
  rw [standard?, if_pos h]

/-- Arrays that have a converter are arrays of scalars. -/
theorem isScalar_of_standard? {c : Ty} (h : standard? (.array c) = some k) : c.isScalar = true ∧ k = .array := by
  rw [standard?] at h
  split at h <;> cases h
  exact ⟨‹_›, rfl⟩

theorem ne_any_of_standard? (h : standard? t = some k) : t ≠ .any := by
  rintro rfl
  cases h

/-- Only arrays are made by the converter of arrays. -/
theorem ne_array_of_standard? (h : standard? t = some k) (ht : t.isArray = false) : k ≠ .array := by
  rintro rfl
  cases t with
  | primitive p => cases p <;> cases h
  | boxed p => cases p <;> cases h
  | array c => cases ht
  | _ => cases h

end Registry

namespace ConverterEntry
variable {G : ClassGraph} {H : Heap} {t : Ty} {e : ConverterEntry} {v w : Value} {element : Conversion}

theorem apply_null_of_strict (he : e.fallback = none) :
    e.apply G element t .null H = .error (.conversion "null" (G.typeName t) "no value specified") := by
  simp only [apply, Value.isNull, if_true, he]

theorem apply_of_strict (he : e.fallback = none) (hv : v ≠ .null) :
    e.apply G element t v H = e.converter.convert G element t v H := by
  rw [apply, if_neg (fun h => hv (Value.isNull_iff.mp h)), he]
  cases e.converter.convert G element t v H <;> rfl

theorem apply_null_of_fallback (he : e.fallback = some w) : e.apply G element t .null H = .ok (w, H) := by
  simp only [apply, Value.isNull, if_true, he]

theorem apply_of_fallback (he : e.fallback = some w) (hv : v ≠ .null) :
    e.apply G element t v H = .ok ((e.converter.convert G element t v H).toOption.getD (w, H)) := by
  rw [apply, if_neg (fun h => hv (Value.isNull_iff.mp h)), he]
  cases e.converter.convert G element t v H <;> rfl

/-- What a converter makes of a value is given whatever the entry falls back to. -/
theorem apply_of_convert {r : Value × Heap} (hv : v ≠ .null) (h : e.converter.convert G element t v H = .ok r) :
    e.apply G element t v H = .ok r := by
  rw [apply, if_neg (fun hnull => hv (Value.isNull_iff.mp hnull)), h]

end ConverterEntry

namespace Converter
variable {G : ClassGraph} {H : Heap} {t : Ty} {k : Converter} {v : Value} {element : Conversion}

theorem convert_eq_scalar (hk : k ≠ .array) :
    k.convert G element t v H = (scalar G H t v k).map fun w => (w, H) := by
  cases k with
  | array => exact absurd rfl hk
  | _ => rfl

/-- A converter to scalars converts no elements. -/
theorem convert_congr (hk : k ≠ .array) (element' : Conversion) :
    k.convert G element t v H = k.convert G element' t v H := by
  rw [convert_eq_scalar hk, convert_eq_scalar hk]

/-- Elements that are converted without making anything new are converted one by one. -/
theorem convertAll_eq_ok {vs ws : List Value} (h : List.Forall₂ (fun v w => element v H = .ok (w, H)) vs ws) :
    convertAll element H vs = .ok (ws, H) := by
  induction h with
  | nil => rfl
  | @cons v w vs ws hv _ ih =>
    rw [convertAll, hv]
    change (convertAll element H vs >>= _) = _
    rw [ih]
    rfl

theorem convert_array_eq {c : Ty} {ws : List Value} (h : convertAll element H (elements H v) = .ok (ws, H)) :
    Converter.convert G element (.array c) .array v H = .ok (H.newArray c ws) := by
  rw [Converter.convert, h]
  rfl

end Converter

/-- A value that a type does not accept is converted by the converter of the type, and only where this fails the
policy counts. -/
theorem Registry.convert_of_refused {G : ClassGraph} {H : Heap} {t : Ty} {k : Converter} {v : Value}
    (config : RegistryConfig) (H₀ : Heap) (hk : standard? t = some k) (ht : t.isArray = false) (hv : v ≠ .null)
    (h : H.accepts G t v = false) : (withConfig config H₀).1.convert G t v H =
      match Converter.scalar G H t v k with
      | .ok w => .ok (w, H)
      | .error err => if config.isStrict then .error err else .ok (config.fallback t, H) := by
  obtain ⟨e, he, rfl, -⟩ := exists_lookup? config H₀ hk
  have hfallback := fallback_of_lookup? ht he
  have hscalar : e.converter.convert G ((withConfig config H₀).1.elementConversion G t) t v H = _ :=
    Converter.convert_eq_scalar (ne_array_of_standard? hk ht)
  rw [convert_of_lookup? (ne_any_of_standard? hk) he (Or.inr h)]
  cases hstrict : config.isStrict with
  | true =>
    rw [hstrict, if_pos rfl] at hfallback
    rw [ConverterEntry.apply_of_strict hfallback hv, hscalar]
    cases Converter.scalar G H t v e.converter <;> rfl
  | false =>
    rw [hstrict, if_neg Bool.false_ne_true] at hfallback
    rw [ConverterEntry.apply_of_fallback hfallback hv, hscalar]
    cases Converter.scalar G H t v e.converter <;> rfl

/-- A list becomes a new array of what its elements are converted to. -/
theorem Registry.convert_list {G : ClassGraph} {H : Heap} {c : Ty} {l : Handle .list} {ws : List Value}
    (config : RegistryConfig) (H₀ : Heap) (hc : c.isScalar = true)
    (h : List.Forall₂ (fun v w => (withConfig config H₀).1.convert G c v H = .ok (w, H)) (H.get l) ws) :
    (withConfig config H₀).1.convert G (.array c) (.list l) H = .ok (H.newArray c ws) := by
  have hany : Ty.array c ≠ .any := nofun
  obtain ⟨e, he, harray, -⟩ := exists_lookup? config H₀ (standard?_array hc)
  rw [convert_of_lookup? hany he (Or.inr rfl)]
  refine ConverterEntry.apply_of_convert nofun ?_
  rw [harray]
  exact Converter.convert_array_eq (Converter.convertAll_eq_ok h)

end ObjectGraph
