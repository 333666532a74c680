import ObjectGraph.Proofs.Binder.Conformity

/-!
Texts for a property of arrays of scalars.  They may be given as an array, as a list, or a single one by itself, and
are converted on three ways: one by one through the entry of the component, or as elements through the entry of the
array.  All of these come to the same outcome, under a strict and under a lenient registry.
-/

namespace ObjectGraph

theorem length_of_mapM {ε α β : Type} {f : α → Except ε β} {as : List α} {bs : List β}
    (h : as.mapM f = .ok bs) : bs.length = as.length := by
  induction as generalizing bs with
  | nil =>
    cases h
    rfl
  | cons a as ih =>
    rw [List.mapM_cons] at h
    obtain ⟨b, -, hrest⟩ := bind_eq_ok.mp h
    obtain ⟨bs', hbs, hanswer⟩ := bind_eq_ok.mp hrest
    cases hanswer
    rw [List.length_cons, List.length_cons, ih hbs]

namespace Converter
variable {G : ClassGraph} {element : Conversion} {f : String → Except Error Value}

/-- A converter to scalars looks at nothing but the text. -/
theorem scalar_text (H H' : Heap) (t : Ty) (text : String) (k : Converter) :
    scalar G H t (.text text) k = scalar G H' t (.text text) k := by
  have hdisplay : H.display G (.text text) = H'.display G (.text text) := rfl
  have hfailure : ∀ reason, failure G H (.text text) t reason = failure G H' (.text text) t reason := fun _ => rfl
  cases k <;> simp only [scalar, hdisplay, hfailure]

theorem convertAll_texts (helement : ∀ text H, element (.text text) H = (f text).map fun w => (w, H)) (H : Heap)
    (texts : List String) : convertAll element H (texts.map .text) = (texts.mapM f).map fun ws => (ws, H) := by
  induction texts with
  | nil => rfl
  | cons text texts ih =>
    rw [List.map_cons, convertAll, helement, List.mapM_cons]
    cases f text with
    | error e => rfl
    | ok w =>
      change (convertAll element H (texts.map .text) >>= _) = _
      rw [ih]
      cases texts.mapM f <;> rfl

end Converter

namespace Registry
variable {G : ClassGraph} {H H₀ : Heap} {R : Registry} {config : RegistryConfig} {c t : Ty} {text : String}
  {texts : List String} {l : Handle .list}

/-- What the entry of a type makes of a text. -/
def ofText (G : ClassGraph) (R : Registry) (t : Ty) (text : String) : Except Error Value :=
  (R.convertText G t text .empty).map Prod.fst

theorem convertText_of_isScalar (ht : t.isScalar = true) :
    (withConfig config H₀).1.convertText G t text H = ((withConfig config H₀).1.ofText G t text).map fun w => (w, H) := by
  obtain ⟨k, hk⟩ := exists_standard? ht
  obtain ⟨e, he, rfl, -⟩ := exists_lookup? config H₀ hk
  have hscalars := ne_array_of_standard? hk (by cases t <;> first | rfl | cases ht)
  have htext : Value.text text ≠ .null := nofun
  simp only [ofText, convertText, he]
  cases hfallback : e.fallback with
  | none =>
    rw [ConverterEntry.apply_of_strict hfallback htext, ConverterEntry.apply_of_strict hfallback htext,
      Converter.convert_eq_scalar hscalars, Converter.convert_eq_scalar hscalars, Converter.scalar_text H .empty]
    cases Converter.scalar G .empty t (.text text) e.converter <;> rfl
  | some w =>
    rw [ConverterEntry.apply_of_fallback hfallback htext, ConverterEntry.apply_of_fallback hfallback htext,
      Converter.convert_eq_scalar hscalars, Converter.convert_eq_scalar hscalars, Converter.scalar_text H .empty]
    cases Converter.scalar G .empty t (.text text) e.converter <;> rfl

/-- As an element a text is converted as it is by itself: only a text accepts texts, and its entry keeps them. -/
theorem convert_text_of_isScalar (ht : t.isScalar = true) :
    (withConfig config H₀).1.convert G t (.text text) H = (withConfig config H₀).1.convertText G t text H := by
  obtain ⟨k, hk⟩ := exists_standard? ht
  obtain ⟨e, he, -⟩ := exists_lookup? config H₀ hk
  by_cases htext : t = .text
  · subst htext
    have hword : Ty.text.isWorded = true := rfl
    exact (convert_scalarText (v := .text text) hword rfl).trans (convertText_scalarText (v := .text text) hword rfl).symm
  · have hrefused : H.accepts G t (.text text) = false := by
      cases t <;> first | rfl | exact absurd rfl htext | cases ht
    rw [convert_of_lookup? (ne_any_of_standard? hk) he (Or.inr hrefused), convertText, he]

theorem convertTexts_of_isScalar (hc : c.isScalar = true) :
    (withConfig config H₀).1.convertTexts G (.array c) texts H =
      (texts.mapM ((withConfig config H₀).1.ofText G c)).map (H.newArray c) := by
  have helement (text : String) (H : Heap) : (withConfig config H₀).1.convertText G c text H = _ :=
    convertText_of_isScalar hc
  change (Converter.convertAll _ H (texts.map .text) >>= _) = _
  rw [Converter.convertAll_texts helement]
  cases texts.mapM ((withConfig config H₀).1.ofText G c) <;> rfl

/-- A list of texts is converted as the texts are, also where a lenient array would have a default to fall back to. -/
theorem convert_textList (hc : c.isScalar = true) (hl : H.get l = texts.map .text) :
    (withConfig config H₀).1.convert G (.array c) (.list l) H =
      (texts.mapM ((withConfig config H₀).1.ofText G c)).map (H.newArray c) := by
  have hany : Ty.array c ≠ .any := nofun
  have hlist : Value.list l ≠ .null := nofun
  obtain ⟨e, he, harray, hstrict⟩ := exists_lookup? config H₀ (standard?_array hc)
  have helement (text : String) (H : Heap) : (withConfig config H₀).1.convert G c (.text text) H = _ :=
    (convert_text_of_isScalar hc).trans (convertText_of_isScalar hc)
  have hmade : Converter.convert G ((withConfig config H₀).1.convert G c) (.array c) .array (.list l) H =
      (texts.mapM ((withConfig config H₀).1.ofText G c)).map (H.newArray c) := by
    have helements : Converter.elements H (.list l) = texts.map .text := hl
    rw [Converter.convert, helements, Converter.convertAll_texts helement]
    cases texts.mapM ((withConfig config H₀).1.ofText G c) <;> rfl
  rw [convert_of_lookup? hany he (Or.inr rfl)]
  cases hresult : texts.mapM ((withConfig config H₀).1.ofText G c) with
  | ok ws =>
    rw [hresult, ← harray] at hmade
    exact ConverterEntry.apply_of_convert hlist hmade
  | error err =>
    rw [hresult, ← harray] at hmade
    cases hpolicy : config.isStrict with
    | true =>
      rw [hpolicy, ConverterEntry.isStrict, Option.isNone_iff_eq_none] at hstrict
      exact (ConverterEntry.apply_of_strict hstrict hlist).trans hmade
    | false =>
      -- A lenient registry converts every text, so there is no such failure.
      obtain ⟨k, hk⟩ := exists_standard? hc
      obtain ⟨r, hr⟩ := Converter.exists_convertAll
        (fun v K => exists_convert_of_lenient (G := G) H₀ hpolicy hk v K) H (texts.map .text)
      rw [Converter.convertAll_texts helement, hresult] at hr
      cases hr

end Registry

namespace Binder
variable {G : ClassGraph} {b : Binder} {config : RegistryConfig} {H₀ : Heap} {s : State G} {h : Handle .record}
  {S : Handle .schema} {d : Dict Value} {name : String} {p : Property} {c : Ty} {v : Value} {texts : List String}

/-- Whether a value gives some texts: as the elements of an array of texts, as the elements of a list, or as itself. -/
inductive Spells (H : Heap) (texts : List String) : Value → Prop
  | array {a : Handle .array} (h : H.get a = ⟨.text, texts.map .text⟩) : Spells H texts (.array a)
  | list {l : Handle .list} (h : H.get l = texts.map .text) : Spells H texts (.list l)
  | one {text : String} (h : texts = [text]) : Spells H texts (.text text)

theorem Spells.texts? {H : Heap} (h : Spells H texts v) :
    H.texts? v = some (texts.map .text) ∨ ∃ text, texts = [text] ∧ v = .text text := by
  cases h with
  | array h => exact Or.inl (by rw [Heap.texts?, h, if_pos rfl])
  | list h =>
    have hall : ((texts.map Value.text).all fun v => v.isNull || v.asText?.isSome) = true := by
      simp [Value.asText?]
    exact Or.inl (by rw [Heap.texts?, h, if_pos hall])
  | one h => exact Or.inr ⟨_, h, rfl⟩

/-- What a conversion answers, and the heap it leaves, that makes an array of elements where there are some. -/
def made (c : Ty) (K : Heap) : Except Error (List Value) → Except Error Value × Heap
  | .ok ws => (.ok (K.newArray c ws).1, (K.newArray c ws).2)
  | .error e => (.error e, K)

/-- On each of the ways, the outcome is that of the texts one by one. -/
theorem run_convertInput_spelled (hb : b.registry = (Registry.withConfig config H₀).1) (hc : c.isScalar = true)
    (hv : Spells s.heap texts v) : ∃ K, s.heap.OnlyAdds K ∧
      ExceptT.run (b.convertInput v (.array c) true : Op G Value) s =
        ((made c K (texts.mapM (b.registry.ofText G c))).1,
          { s with heap := (made c K (texts.mapM (b.registry.ofText G c))).2 }) := by
  rcases hv.texts? with htexts | ⟨text, rfl, rfl⟩
  · have hlist := s.heap.get_alloc_self (k := .list) (texts.map .text)
    have hconvert : (Registry.withConfig config H₀).1.convert G (.array c) _ _ = _ := Registry.convert_textList hc hlist
    rw [← hb] at hconvert
    refine ⟨_, s.heap.onlyAdds_alloc (k := .list) (texts.map .text), ?_⟩
    rw [run_convertInput_list htexts]
    cases hresult : texts.mapM (b.registry.ofText G c) with
    | ok ws =>
      rw [hresult] at hconvert
      exact Op.run_tryChange_of_ok _ hconvert
    | error e =>
      rw [hresult] at hconvert
      exact Op.run_tryChange_of_error _ hconvert
  · have hconvert : (Registry.withConfig config H₀).1.convertTexts G (.array c) [text] s.heap = _ :=
      Registry.convertTexts_of_isScalar hc
    rw [← hb] at hconvert
    refine ⟨_, .refl _, ?_⟩
    rw [run_convertInput_one]
    cases hresult : [text].mapM (b.registry.ofText G c) with
    | ok ws =>
      rw [hresult] at hconvert
      exact Op.run_tryChange_of_ok _ hconvert
    | error e =>
      rw [hresult] at hconvert
      exact Op.run_tryChange_of_error _ hconvert

/-- A new array of the component of a property is stored there. -/
theorem run_setProperty_made {K : Heap} {ws : List Value} (hname : Path.IsSimple name)
    (hcell : s.heap.get h = .fixed S d) (hrecord : s.heap.Has h) (hschema : s.heap.Has S)
    (hp : (s.heap.get S).property? name = some p) (hty : p.ty = .array c) (hadds : s.heap.OnlyAdds K)
    (hconvert : ExceptT.run (b.convertInput v (.array c) true : Op G Value) s =
      (.ok (K.newArray c ws).1, { s with heap := (K.newArray c ws).2 })) : ∃ s' a,
    ExceptT.run (b.setProperty (.record h) name v : Op G Unit) s = (.ok (), s') ∧
      ExceptT.run (Record.read h name : Op G Value) s' = (.ok (.array a), s') ∧ s'.heap.get a = ⟨c, ws⟩ := by
  have hany : p.ty ≠ .any := fun h => by cases hty.symm.trans h
  have hadds' := hadds.trans (K.onlyAdds_alloc (k := .array) ⟨c, ws⟩)
  have hcoerce : (K.newArray c ws).2.coerce G p.ty name (K.newArray c ws).1 = .ok (K.newArray c ws).1 := by
    rw [hty]
    exact (Heap.fits_newArray c ws).coerce
  refine ⟨_, K.next .array, run_setProperty_of_convertInput hname hcell hrecord hschema hp hany (hty ▸ hconvert)
    hadds' hcoerce, ?_, ?_⟩
  · obtain rfl := Schema.name_of_property? hp
    exact (run_read_stored hadds' hschema hp).trans (by rw [FixedRecord.shown_insert_self]; rfl)
  · have hkept : ((K.newArray c ws).2.set h (.fixed S (d.insert name (K.newArray c ws).1))).get (K.next .array) = _ :=
      (K.newArray c ws).2.get_set_of_kind_ne (k := .record) _ (by decide)
    exact hkept.trans (K.get_alloc_self (k := .array) ⟨c, ws⟩)

/-- Texts that are written to a property of arrays of scalars give one outcome, with the converters of any
configuration: that of converting them to the declared type one by one.  Whether they are given as an array of texts,
as a list of them, or, where there is only one, as itself, all fail with the same error, or each stores an array of
the declared component with the same elements, one for each text. -/
theorem setProperty_spellings_agree (config : RegistryConfig) (H₀ : Heap) (b : Binder)
    (hb : b.registry = (Registry.withConfig config H₀).1) (s : State G) (h : Handle .record) (S : Handle .schema)
    (d : Dict Value) (hcell : s.heap.get h = .fixed S d) (hrecord : s.heap.Has h) (hschema : s.heap.Has S)
    (name : String) (hname : Path.IsSimple name) (p : Property) (hp : (s.heap.schemaOf h).property? name = some p)
    (c : Ty) (hc : c.isScalar = true) (hty : p.ty = .array c) (texts : List String) :
    ∃ outcome : Except Error (List Value),
      b.registry.convertTexts G p.ty texts s.heap = outcome.map (s.heap.newArray c) ∧
      (∀ ws, outcome = .ok ws → ws.length = texts.length) ∧
      ∀ v, Spells s.heap texts v →
        match outcome with
        | .error e => ∃ s', ExceptT.run (b.setProperty (.record h) name v : Op G Unit) s = (.error e, s')
        | .ok ws => ∃ s' a, ExceptT.run (b.setProperty (.record h) name v : Op G Unit) s = (.ok (), s') ∧
            ExceptT.run (Record.read h name : Op G Value) s' = (.ok (.array a), s') ∧ s'.heap.get a = ⟨c, ws⟩ := by
  rw [schemaOf_of_cell hcell] at hp
  have hany : p.ty ≠ .any := fun h => by cases hty.symm.trans h
  refine ⟨texts.mapM (b.registry.ofText G c), ?_, fun ws hws => length_of_mapM hws, fun v hv => ?_⟩
  · rw [hty, hb]
    exact Registry.convertTexts_of_isScalar hc
  · obtain ⟨K, hadds, hconvert⟩ := run_convertInput_spelled hb hc hv
    cases hresult : texts.mapM (b.registry.ofText G c) with
    | ok ws =>
      rw [hresult] at hconvert
      exact run_setProperty_made hname hcell hrecord hschema hp hty hadds hconvert
    | error e =>
      rw [hresult] at hconvert
      refine ⟨{ s with heap := K }, ?_⟩
      rw [run_setProperty hname hcell hp hany, hty]
      exact Op.run_bind_of_error hconvert

/-- A record with a property of numbers, and a text in a list and in an array. -/
def numbered : State .empty :=
  let H := ((rowOf (.primitive (.int .w32))).heap.newList [.text "7"]).2
  ⟨(H.newArray .text [.text "7"]).2, .empty⟩

/-- On all three ways the text becomes the same number. -/
theorem setProperty_spellings_agree_number : ∃ (l : Handle .list) (a : Handle .array),
    ∀ v ∈ [Value.array a, .list l, .text "7"], Spells numbered.heap ["7"] v ∧ ∃ s' a',
      ExceptT.run ((ofConfig .standard).setProperty (.record ⟨0⟩) "a" v) numbered = (.ok (), s') ∧
      ExceptT.run (Record.read ⟨0⟩ "a" : Op .empty Value) s' = (.ok (.array a'), s') ∧
      s'.heap.get a' = ⟨.primitive (.int .w32), [.int .w32 ⟨7, by decide⟩]⟩ := by
  have hrecord : numbered.heap.Has (⟨0⟩ : Handle .record) := Nat.zero_lt_one
  have hschema : numbered.heap.Has (⟨0⟩ : Handle .schema) := Nat.zero_lt_one
  have hname : Path.IsSimple "a" := by decide
  obtain ⟨outcome, htexts, -, hall⟩ := setProperty_spellings_agree .standard .empty (ofConfig .standard) rfl numbered
    ⟨0⟩ ⟨0⟩ .empty rfl hrecord hschema "a" hname ⟨"a", .array (.primitive (.int .w32)), none⟩ rfl
    (.primitive (.int .w32)) rfl rfl ["7"]
  obtain rfl : outcome = .ok [.int .w32 ⟨7, by decide⟩] := by
    have hword : (ofConfig .standard).registry.convertText .empty (.primitive (.int .w32)) "7" numbered.heap =
        .ok (.int .w32 ⟨7, by decide⟩, numbered.heap) :=
      Registry.convertText_scalarText (v := .int .w32 ⟨7, by decide⟩) rfl rfl
    rw [Registry.convertTexts_singleton, hword] at htexts
    cases outcome with
    | error e => cases htexts
    | ok ws =>
      have harray := congrArg (fun r => r.2.get (numbered.heap.next .array)) (Except.ok.inj htexts)
      exact congrArg (fun a : TypedArray => Except.ok a.items) harray.symm
  have hspells : ∀ v ∈ [Value.array ((rowOf (.primitive (.int .w32))).heap.next .array),
      .list ((rowOf (.primitive (.int .w32))).heap.next .list), .text "7"], Spells numbered.heap ["7"] v := by
    intro v hv
    rcases List.mem_cons.mp hv with rfl | hv
    · exact .array rfl
    · rcases List.mem_cons.mp hv with rfl | hv
      · exact .list rfl
      · obtain rfl := List.mem_singleton.mp hv
        exact .one rfl
  exact ⟨_, _, fun v hv => ⟨hspells v hv, hall v (hspells v hv)⟩⟩

end Binder

end ObjectGraph
