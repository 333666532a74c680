import ObjectGraph.Proofs.Convert.Wording
import ObjectGraph.Proofs.Value.Acceptance

/-!
Conversions of integers to booleans.  An integer that fits in 64 bits is compared with zero, whatever the policy.
Of any other only the numeral is read, and this is no word for a boolean: a strict conversion fails, and a lenient
one gives what the entry falls back to, which is never true.
-/

namespace ObjectGraph

variable {G : ClassGraph} {H : Heap} {t : Ty} {n : Int} {v : Value} {cs : List Char} {b : Bool}
  {config : RegistryConfig} {H₀ : Heap}

/-! ### Numerals as words for booleans -/

namespace Converter

theorem lowered_of_denotes (h : Numeral.Denotes cs n) : lowered cs = cs := by
  have hsame : ∀ c ∈ cs, c.toLower = id c := by
    intro c hc
    rcases Numeral.isDigit_or_sign_of_denotes h c hc with hdigit | rfl | rfl
    · exact Numeral.toLower_of_isDigit hdigit
    · rfl
    · rfl
  rw [lowered, List.map_congr_left hsame, List.map_id]

/-- The only words for booleans that read as integers are a one and a zero. -/
theorem readSigned?_lowered (h : boolean? cs = some b) :
    Numeral.readSigned? (lowered cs) = none ∨ Numeral.readSigned? (lowered cs) = some (if b then 1 else 0) := by
  have htrue : ∀ s ∈ ["true", "yes", "y", "on", "1"],
      Numeral.readSigned? s.toList = none ∨ Numeral.readSigned? s.toList = some 1 := by decide
  have hfalse : ∀ s ∈ ["false", "no", "n", "off", "0"],
      Numeral.readSigned? s.toList = none ∨ Numeral.readSigned? s.toList = some 0 := by decide
  rw [← String.toList_ofList (l := lowered cs)]
  simp only [boolean?] at h
  split at h
  · rename_i hword
    cases h
    exact htrue _ (List.contains_iff_mem.mp hword)
  · split at h
    · rename_i hword
      cases h
      exact hfalse _ (List.contains_iff_mem.mp hword)
    · cases h

/-- A numeral that is a word for a boolean says whether its integer is zero. -/
theorem eq_of_boolean?_of_denotes (h : Numeral.Denotes cs n) (hb : boolean? cs = some b) : n = if b then 1 else 0 := by
  have hread := readSigned?_lowered hb
  rw [lowered_of_denotes h, Numeral.readSigned?_of_denotes h] at hread
  exact Option.some.inj (hread.resolve_left nofun)

theorem boolean?_of_not_fits (h : Numeral.Denotes cs n) (hn : ¬ FitsBits 64 n) : boolean? cs = none := by
  rw [Option.eq_none_iff_forall_ne_some]
  intro b hb
  rw [eq_of_boolean?_of_denotes h hb] at hn
  cases b <;> exact hn (by decide)

end Converter

/-! ### Integers by the number of their bits -/

namespace Value

theorem asBool?_of_toInt? (hv : v.toInt? = some n) : v.asBool? = none := by
  cases v <;> first | rfl | cases hv

theorem asInt64?_of_fits (hv : v.toInt? = some n) (hn : FitsBits 64 n) : v.asInt64? = some n := by
  rw [asInt64?, hv, Option.bind_some, Signed.ofInt?_of_fits hn]
  rfl

theorem asInt64?_of_not_fits (hv : v.toInt? = some n) (hn : ¬ FitsBits 64 n) : v.asInt64? = none := by
  rw [asInt64?, hv, Option.bind_some, Signed.ofInt?_of_not_fits hn]
  rfl

theorem fitsBits_of_int {s : IntSize} {i : Signed s.bits} (hv : (int s i).toInt? = some n) : FitsBits 64 n := by
  cases hv
  exact i.fits.mono (by cases s <;> decide)

/-- Only integers of 128 bits may not fit in 64 bits. -/
theorem exists_wide_of_not_fits (hv : v.toInt? = some n) (hn : ¬ FitsBits 64 n) :
    ∃ i : Signed 128, v = wide i ∧ i.toInt = n := by
  cases v with
  | int s i => exact absurd (fitsBits_of_int hv) hn
  | wide i => exact ⟨i, rfl, Option.some.inj hv⟩
  | _ => cases hv

end Value

namespace Converter

theorem scalar_boolean_of_fits (hv : v.toInt? = some n) (hn : FitsBits 64 n) (target : Ty) :
    scalar G H target v .boolean = .ok (.bool (n != 0)) := by
  simp only [scalar, Value.asBool?_of_toInt? hv, Value.asInt64?_of_fits hv hn]

/-- The failure of an integer that is read by its numeral. -/
def notBoolean (G : ClassGraph) (t : Ty) (n : Int) : Error :=
  .conversion "i128" (G.typeName t) (Error.quoted (Numeral.ofInt n) ++ " is not a boolean")

theorem scalar_boolean_of_not_fits (hv : v.toInt? = some n) (hn : ¬ FitsBits 64 n) (target : Ty) :
    scalar G H target v .boolean = .error (notBoolean G target n) := by
  have hbool := Value.asBool?_of_toInt? hv
  have hint := Value.asInt64?_of_not_fits hv hn
  obtain ⟨i, rfl, rfl⟩ := Value.exists_wide_of_not_fits hv hn
  have hnumeral := Numeral.denotes_ofInt i.toInt
  have htrim : trimBlanks (H.display G (.wide i)).toList = (Numeral.ofInt i.toInt).toList :=
    trimBlanks_of_pads (Numeral.isTight_of_denotes hnumeral) (pads_self _)
  simp only [scalar, hbool, hint, htrim, boolean?_of_not_fits hnumeral hn, String.ofList_toList]
  rfl

end Converter

/-! ### Conversions -/

namespace Registry

theorem standard?_of_bool (ht : t.primitive? = some .bool) : standard? t = some .boolean := by
  cases t <;> cases ht <;> rfl

theorem accepts_bool_of_toInt? (ht : t.primitive? = some .bool) (hv : v.toInt? = some n) : H.accepts G t v = false := by
  cases t <;> cases ht <;> cases v <;> first | rfl | cases hv

/-- An integer is converted to a boolean by the converter of booleans. -/
theorem convert_bool_of_toInt? (config : RegistryConfig) (H₀ : Heap) (ht : t.primitive? = some .bool)
    (hv : v.toInt? = some n) : (withConfig config H₀).1.convert G t v H =
      match Converter.scalar G H t v .boolean with
      | .ok w => .ok (w, H)
      | .error e => if config.isStrict then .error e else .ok (config.fallback t, H) := by
  have harray : t.isArray = false := by cases t <;> first | rfl | cases ht
  exact convert_of_refused config H₀ (standard?_of_bool ht) harray (Value.ne_null_of_toInt? hv)
    (accepts_bool_of_toInt? ht hv)

theorem convert_bool_of_fits (ht : t.primitive? = some .bool) (hv : v.toInt? = some n) (hn : FitsBits 64 n) :
    (withConfig config H₀).1.convert G t v H = .ok (.bool (n != 0), H) := by
  rw [convert_bool_of_toInt? config H₀ ht hv, Converter.scalar_boolean_of_fits hv hn]

theorem convert_bool_of_not_fits (ht : t.primitive? = some .bool) (hv : v.toInt? = some n) (hn : ¬ FitsBits 64 n) :
    (withConfig config H₀).1.convert G t v H =
      if config.isStrict then .error (Converter.notBoolean G t n) else .ok (config.fallback t, H) := by
  rw [convert_bool_of_toInt? config H₀ ht hv, Converter.scalar_boolean_of_not_fits hv hn]

theorem fallback_ne_true (config : RegistryConfig) (ht : t.primitive? = some .bool) :
    config.fallback t ≠ .bool true := by
  have hzero : Primitive.bool.zero ≠ .bool true := nofun
  cases t with
  | primitive p =>
    cases ht
    exact hzero
  | boxed p =>
    cases ht
    cases hnull : config.nullBoxed <;> simp [RegistryConfig.fallback, hnull, hzero]
  | _ => cases ht

/-- An integer is converted to a boolean, primitive or boxed, by comparison with zero exactly if it fits in 64 bits, as
all integers of the primitive sizes do.  Any other integer, though it is not zero, is refused by a strict registry and
replaced by the fallback of the type in a lenient one. -/
theorem boolean_of_integer_compares_with_zero (config : RegistryConfig) (H₀ H : Heap) (t : Ty)
    (ht : t.primitive? = some .bool) (v : Value) (n : Int) (hv : v.toInt? = some n) :
    ((withConfig config H₀).1.convert G t v H = .ok (.bool (n != 0), H) ↔ FitsBits 64 n) ∧
    (∀ s i, v = .int s i → FitsBits 64 n) ∧
    (¬ FitsBits 64 n → n ≠ 0 ∧ (withConfig config H₀).1.convert G t v H =
      if config.isStrict then .error (Converter.notBoolean G t n) else .ok (config.fallback t, H)) := by
  have hzero (hn : ¬ FitsBits 64 n) : n ≠ 0 := by
    rintro rfl
    exact hn (by decide)
  refine ⟨⟨fun hcompared => ?_, convert_bool_of_fits ht hv⟩, ?_,
    fun hn => ⟨hzero hn, convert_bool_of_not_fits ht hv hn⟩⟩
  · -- Beyond 64 bits the comparison with zero would be true, and nothing that is answered there is.
    by_contra hn
    rw [convert_bool_of_not_fits ht hv hn, bne_iff_ne.mpr (hzero hn)] at hcompared
    split at hcompared
    · cases hcompared
    · exact fallback_ne_true config ht (congrArg Prod.fst (Except.ok.inj hcompared))
  · rintro s i rfl
    exact Value.fitsBits_of_int hv

/-- The least byte is true, and the first integer beyond 64 bits is not. -/
theorem boolean_of_integer_compares_with_zero_at_bounds :
    let least : Value := .int .w8 ⟨-128, by decide⟩
    let beyond : Value := .wide ⟨9223372036854775808, by decide⟩
    (withConfig ⟨true, false, 0⟩ .empty).1.convert .empty (.primitive .bool) least .empty = .ok (.bool true, .empty) ∧
    (withConfig ⟨false, true, 0⟩ .empty).1.convert .empty (.boxed .bool) beyond .empty = .ok (.null, .empty) := by
  obtain ⟨hleast, hbyte, -⟩ := boolean_of_integer_compares_with_zero (G := .empty) ⟨true, false, 0⟩ .empty .empty
    (.primitive .bool) rfl (.int .w8 ⟨-128, by decide⟩) (-128) rfl
  obtain ⟨-, -, hbeyond⟩ := boolean_of_integer_compares_with_zero (G := .empty) ⟨false, true, 0⟩ .empty .empty
    (.boxed .bool) rfl (.wide ⟨9223372036854775808, by decide⟩) 9223372036854775808 rfl
  exact ⟨hleast.mpr (hbyte _ _ rfl), (hbeyond (by decide)).2⟩

/-- An integer of 128 bits that is not zero is converted to false, or is refused as no boolean. -/
theorem boolean_of_wide_is_not_compared :
    let beyond : Value := .wide ⟨9223372036854775808, by decide⟩
    beyond.toInt? = some 9223372036854775808 ∧
    (withConfig .standard .empty).1.convert .empty (.primitive .bool) beyond .empty = .ok (.bool false, .empty) ∧
    (withConfig ⟨true, false, 0⟩ .empty).1.convert .empty (.boxed .bool) beyond .empty =
      .error (Converter.notBoolean .empty (.boxed .bool) 9223372036854775808) :=
  ⟨rfl, convert_bool_of_not_fits rfl rfl (by decide), convert_bool_of_not_fits rfl rfl (by decide)⟩

end Registry

end ObjectGraph
