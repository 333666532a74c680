import ObjectGraph.Proofs.Binder.Storage
import ObjectGraph.Proofs.Convert.Origin
import ObjectGraph.Proofs.Fence.Heap

/-!
The arrays that converting writes of texts build.  A slot looks at the component of an array and not at its elements,
so it rests with the conversions to make elements that the component accepts.  Each converter does so; but one text
for an array whose component has no converter becomes its element as it is.
-/

namespace ObjectGraph

/-! ### What conversions make -/

namespace Registry
variable {G : ClassGraph} {H H' : Heap} {R : Registry} {t c : Ty} {w : Value} {text : String} {config : RegistryConfig}
  {H₀ : Heap} {l : Handle .list}

/-- What a text is converted to is there. -/
theorem live_of_convertText (h : (withConfig config H₀).1.convertText G t text H = .ok (w, H')) : H'.Live w := by
  rcases convertText_origin h with ⟨-, hw⟩ | ⟨c, ws, hnew, -⟩
  · exact Heap.live_of_isScalar hw
  · cases hnew
    exact Heap.has_alloc (k := .array) _

/-- Without an entry the text itself is the answer. -/
theorem convertText_of_lookup?_none (ht : R.lookup? t = none) : R.convertText G t text H = .ok (.text text, H) := by
  rw [convertText, ht]

/-- A text for an array is converted to its one element. -/
theorem convertTexts_singleton : R.convertTexts G (.array c) [text] H =
    R.convertText G c text H >>= fun r => .ok (r.2.newArray c [r.1]) := by
  change (R.convertText G c text H >>= fun r => Except.ok ([r.1], r.2)) >>= _ = _
  cases R.convertText G c text H <;> rfl

/-- What a text is converted to is accepted exactly if the type has an entry, or takes any value. -/
theorem accepts_convertText_iff (hlater : (withConfig config H₀).2.KeepsTypes H)
    (h : (withConfig config H₀).1.convertText G t text H = .ok (w, H')) :
    H'.accepts G t w = true ↔ t = .any ∨ ((withConfig config H₀).1.lookup? t).isSome := by
  cases ht : (withConfig config H₀).1.lookup? t with
  | some e =>
    have hsound := (sound_withConfig (G := G) config H₀).later hlater
    rw [convertText, ht] at h
    exact iff_of_true ((hsound t e ht).apply h).1.accepted (Or.inr rfl)
  | none =>
    rw [convertText_of_lookup?_none ht] at h
    cases h
    refine Heap.accepts_text_iff.trans (or_congr_right ⟨?_, fun h => by cases h⟩)
    rintro rfl
    obtain ⟨e, he, -⟩ := exists_lookup? config H₀ (t := .text) rfl
    cases ht.symm.trans he

/-- A list becomes a new array of what fits the component. -/
theorem exists_newArray_of_convert (hlater : (withConfig config H₀).2.KeepsTypes H)
    (h : (withConfig config H₀).1.convert G (.array c) (.list l) H = .ok (w, H')) :
    ∃ ws, (w, H') = H.newArray c ws ∧ ∀ x ∈ ws, H.Fits G c x ∧ H.Live x := by
  have hnull : Value.list l ≠ .null := nofun
  obtain ⟨hc, hmade⟩ := convert_array_eq_ok hnull rfl h
  obtain ⟨⟨ws, H₁⟩, hall, hnew⟩ := bind_eq_ok.mp hmade
  have hfits : H₁ = H ∧ ∀ x ∈ ws, H.Fits G c x := by
    refine Converter.keeps_convertAll (I := fun K => K = H) (fun {u x K K'} hK hx => ?_) rfl hall
    subst hK
    refine ⟨(convert_eq_ok_of_isScalar hc hx).1, ?_⟩
    rw [convert_eq] at hx
    exact (((sound_withConfig config H₀).later hlater).convertWith hx).1.of_isScalar hc
  obtain ⟨rfl, hfits⟩ := hfits
  refine ⟨ws, (Except.ok.inj hnew).symm, fun x hx => ⟨hfits x hx, ?_⟩⟩
  exact Heap.live_of_isScalar ((hfits x hx).isScalar hc)

end Registry

/-! ### What a converting write stores -/

namespace Binder
variable {G : ClassGraph} {b : Binder} {config : RegistryConfig} {H₀ H : Heap} {s s' t : State G} {h : Handle .record}
  {S : Handle .schema} {d : Dict Value} {name : String} {p : Property} {c : Ty} {v w : Value}

/-- Whether a value is a text, a list of texts or an array of texts. -/
def IsText (H : Heap) (v : Value) : Prop := (∃ text, v = .text text) ∨ (H.texts? v).isSome

/-- Whether a text that becomes an element of an array of a component is converted, or needs no conversion. -/
def Converts (R : Registry) (c : Ty) (v : Value) : Prop :=
  (∃ text, v = .text text) → c = .any ∨ (R.lookup? c).isSome

theorem conforms_newArray {ws : List Value} (hlive : ∀ x ∈ ws, H.Live x) :
    Heap.Conforms G (H.newArray c ws).2 ⟨c, ws⟩ ↔ ∀ x ∈ ws, H.accepts G c x = true := by
  have hlater := (H.onlyAdds_alloc (k := .array) ⟨c, ws⟩).keepsTypes
  have hsame : ∀ x ∈ ws, (H.newArray c ws).2.accepts G c x = H.accepts G c x :=
    fun x hx => Heap.accepts_congr (hlater.typeOf (hlive x hx))
  exact forall₂_congr fun x hx => by rw [← hsame x hx]

/-- A text for an array is converted to an array of one element. -/
theorem run_convertInput_one {text : String} :
    ExceptT.run (b.convertInput (.text text) (.array c) true : Op G Value) s =
      ExceptT.run (Op.tryChange (b.registry.convertTexts G (.array c) [text])) s := by
  rw [convertInput, Op.run_bind_of_ok (Op.run_read s _)]
  rfl

/-- Texts for an array become a new array, which conforms exactly if each of them is converted. -/
theorem convertInput_array (hb : b.registry = (Registry.withConfig config H₀).1)
    (hlater : (Registry.withConfig config H₀).2.KeepsTypes s.heap) (hv : IsText s.heap v)
    (hrun : ExceptT.run (b.convertInput v (.array c) true) s = (.ok w, t)) :
    ∃ a : Handle .array, w = .array a ∧ (t.heap.get a).component = c ∧
      (Heap.Conforms G t.heap (t.heap.get a) ↔ Converts b.registry c v) := by
  suffices hmade : ∃ (H : Heap) (ws : List Value), (w, t.heap) = H.newArray c ws ∧ (∀ x ∈ ws, H.Live x) ∧
      ((∀ x ∈ ws, H.accepts G c x = true) ↔ Converts b.registry c v) by
    obtain ⟨H, ws, hnew, hlive, haccepts⟩ := hmade
    obtain ⟨rfl, hheap⟩ := Prod.mk.inj hnew
    have hcell := H.get_alloc_self (k := .array) ⟨c, ws⟩
    refine ⟨_, rfl, ?_⟩
    rw [hheap]
    refine ⟨congrArg TypedArray.component hcell, ?_⟩
    exact hcell.symm ▸ (conforms_newArray hlive).trans haccepts
  rcases hv with ⟨text, rfl⟩ | hsome
  · rw [run_convertInput_one] at hrun
    obtain ⟨H', hmade, rfl⟩ := Op.run_tryChange_eq_ok.mp hrun
    rw [Registry.convertTexts_singleton] at hmade
    obtain ⟨⟨u, H⟩, hu, hnew⟩ := bind_eq_ok.mp hmade
    rw [hb] at hu
    refine ⟨H, [u], (Except.ok.inj hnew).symm, List.forall_mem_singleton.mpr (Registry.live_of_convertText hu), ?_⟩
    rw [List.forall_mem_singleton, Registry.accepts_convertText_iff hlater hu, ← hb]
    exact ⟨fun h _ => h, fun h => h ⟨text, rfl⟩⟩
  · obtain ⟨items, hitems⟩ := Option.isSome_iff_exists.mp hsome
    have htext : ¬ ∃ text, v = .text text := by
      rintro ⟨text, rfl⟩
      cases hitems
    have hadds := s.heap.onlyAdds_alloc (k := .list) items
    rw [run_convertInput_list hitems] at hrun
    obtain ⟨H', hmade, rfl⟩ := Op.run_tryChange_eq_ok.mp hrun
    rw [hb] at hmade
    obtain ⟨ws, hnew, hws⟩ := Registry.exists_newArray_of_convert (hlater.trans hadds.keepsTypes) hmade
    refine ⟨_, ws, hnew, fun x hx => (hws x hx).2, iff_of_true (fun x hx => (hws x hx).1.accepted) ?_⟩
    exact fun h => absurd h htext

theorem conforms_set_record {r : Record} {a : TypedArray} :
    Heap.Conforms G (H.set h r) a ↔ Heap.Conforms G H a := by
  have hsame := (H.puts_set (k := .record) h r).typeOf (by decide) (by decide)
  exact forall₂_congr fun x _ => by rw [Heap.accepts_congr (hsame x)]

/-- A converting write of a text, a list of texts or an array of texts to a property of arrays, if it succeeds, stores a
new array of the declared component.  The component accepts each element, unless one text was written and the component
neither takes any value nor has a converter; then the text is an element that is not accepted. -/
theorem setProperty_conforms (config : RegistryConfig) (H₀ : Heap) (b : Binder)
    (hb : b.registry = (Registry.withConfig config H₀).1) (s s' : State G)
    (hlater : (Registry.withConfig config H₀).2.KeepsTypes s.heap) (h : Handle .record) (S : Handle .schema)
    (d : Dict Value) (hcell : s.heap.get h = .fixed S d) (hrecord : s.heap.Has h) (hschema : s.heap.Has S)
    (name : String) (hname : Path.IsSimple name) (p : Property) (hp : (s.heap.schemaOf h).property? name = some p)
    (c : Ty) (hty : p.ty = .array c) (v : Value) (hv : IsText s.heap v)
    (hrun : ExceptT.run (b.setProperty (.record h) name v : Op G Unit) s = (.ok (), s')) :
    ∃ a : Handle .array, ExceptT.run (Record.read h name : Op G Value) s' = (.ok (.array a), s') ∧
      (s'.heap.get a).component = c ∧
      (Heap.Conforms G s'.heap (s'.heap.get a) ↔ Converts b.registry c v) := by
  rw [schemaOf_of_cell hcell] at hp
  have hany : p.ty ≠ .any := fun h => by cases hty.symm.trans h
  have hwide : p.ty ≠ .wide := fun h => by cases hty.symm.trans h
  have hrun' := hrun
  rw [run_setProperty hname hcell hp hany] at hrun'
  obtain ⟨w, t, hw, -⟩ := Op.run_bind_eq_ok.mp hrun'
  obtain ⟨hw', hadds, -⟩ := (b.grows_convertInput v p.ty true).run_of_heap (t := s) rfl hw
  rw [hty] at hw hw'
  obtain ⟨a, rfl, hcomponent, hconforms⟩ := convertInput_array hb hlater hv hw
  have hfits : t.heap.Fits G p.ty (.array a) := by
    refine Heap.fits_of_accepts ?_ (by rw [hty]; rfl) hwide
    rw [hty, Heap.accepts, hcomponent]
    exact G.assignable_self c
  have hset := run_setProperty_of_convertInput hname hcell hrecord hschema hp hany (hty ▸ hw') hadds hfits.coerce
  cases hset.symm.trans hrun
  have hkept : (t.heap.set h (.fixed S (d.insert name (.array a)))).get a = t.heap.get a :=
    t.heap.get_set_of_kind_ne (k := .record) _ (by decide)
  refine ⟨a, ?_, ?_, ?_⟩
  · obtain rfl := Schema.name_of_property? hp
    have hshown : FixedRecord.shown (d.insert p.name (.array a)) p = .array a := FixedRecord.shown_insert_self
    exact (run_read_stored hadds hschema hp).trans (by rw [hshown])
  · exact (congrArg TypedArray.component hkept).trans hcomponent
  · dsimp only
    rw [hkept]
    exact conforms_set_record.trans hconforms

/-- The arrays to fall back to, and a record with a property of arrays. -/
def rowOf (c : Ty) : State .empty :=
  let H := (Registry.withConfig .standard .empty).2
  let H := (H.alloc .schema (.ofProperties "Row" [⟨"a", .array c, none⟩])).2
  ⟨(H.alloc .record (.fixed ⟨0⟩ .empty)).2, .empty⟩

theorem run_setProperty_rowOf {text : String} {K : Heap}
    (hw : (ofConfig .standard).registry.convertText .empty c text (rowOf c).heap = .ok (w, K))
    (hadds : (rowOf c).heap.OnlyAdds K) :
    ExceptT.run ((ofConfig .standard).setProperty (.record ⟨0⟩) "a" (.text text)) (rowOf c) =
      (.ok (), ⟨(K.newArray c [w]).2.set (⟨0⟩ : Handle .record)
        (.fixed ⟨0⟩ (Dict.empty.insert "a" (K.newArray c [w]).1)), .empty⟩) := by
  have hname : Path.IsSimple "a" := by decide
  have hrecord : (rowOf c).heap.Has (⟨0⟩ : Handle .record) := Nat.zero_lt_one
  have hschema : (rowOf c).heap.Has (⟨0⟩ : Handle .schema) := Nat.zero_lt_one
  have hmade : (ofConfig .standard).registry.convertTexts .empty (.array c) [text] (rowOf c).heap =
      .ok (K.newArray c [w]) := by
    rw [Registry.convertTexts_singleton, hw]
    rfl
  have hinput : ExceptT.run ((ofConfig .standard).convertInput (.text text) (.array c) true) (rowOf c) = _ :=
    run_convertInput_one.trans (Op.run_tryChange_of_ok _ hmade)
  exact run_setProperty_of_convertInput (p := ⟨"a", .array c, none⟩) hname rfl hrecord hschema rfl nofun hinput
    (hadds.trans (K.onlyAdds_alloc (k := .array) _)) (Heap.fits_newArray c [w]).coerce

/-- A text becomes an array of texts. -/
theorem setProperty_conforms_text : ∃ (s' : State .empty) (a : Handle .array),
    ExceptT.run ((ofConfig .standard).setProperty (.record ⟨0⟩) "a" (.text "x")) (rowOf .text) = (.ok (), s') ∧
    ExceptT.run (Record.read ⟨0⟩ "a" : Op .empty Value) s' = (.ok (.array a), s') ∧
    Heap.Conforms .empty s'.heap (s'.heap.get a) := by
  have hrecord : (rowOf .text).heap.Has (⟨0⟩ : Handle .record) := Nat.zero_lt_one
  have hschema : (rowOf .text).heap.Has (⟨0⟩ : Handle .schema) := Nat.zero_lt_one
  have hlater : (Registry.withConfig .standard .empty).2.KeepsTypes (rowOf .text).heap :=
    ((Heap.onlyAdds_alloc (k := .schema) _ _).trans (Heap.onlyAdds_alloc (k := .record) _ _)).keepsTypes
  have hw : (ofConfig .standard).registry.convertText .empty .text "x" (rowOf .text).heap =
      .ok (.text "x", (rowOf .text).heap) :=
    Registry.convertText_scalarText (v := .text "x") rfl rfl
  have hrun := run_setProperty_rowOf hw (.refl _)
  have hname : Path.IsSimple "a" := by decide
  obtain ⟨a, hread, -, hconforms⟩ := setProperty_conforms .standard .empty (ofConfig .standard) rfl (rowOf .text) _
    hlater ⟨0⟩ ⟨0⟩ .empty rfl hrecord hschema "a" hname ⟨"a", .array .text, none⟩ rfl .text rfl (.text "x")
    (Or.inl ⟨"x", rfl⟩) hrun
  exact ⟨_, a, hrun, hread, hconforms.mpr fun _ => Or.inr rfl⟩

/-- A text for an array of lists, which have no converter, is stored in it although it is no list. -/
theorem setProperty_text_for_lists : ∃ (s' : State .empty) (a : Handle .array),
    ((rowOf .list).heap.schemaOf ⟨0⟩).property? "a" = some ⟨"a", .array .list, none⟩ ∧
    ExceptT.run ((ofConfig .standard).setProperty (.record ⟨0⟩) "a" (.text "abc")) (rowOf .list) = (.ok (), s') ∧
    ExceptT.run (Record.read ⟨0⟩ "a" : Op .empty Value) s' = (.ok (.array a), s') ∧
    s'.heap.get a = ⟨.list, [.text "abc"]⟩ ∧ ¬ Heap.Conforms .empty s'.heap (s'.heap.get a) := by
  have hw : (ofConfig .standard).registry.convertText .empty .list "abc" (rowOf .list).heap =
      .ok (.text "abc", (rowOf .list).heap) :=
    Registry.convertText_of_lookup?_none rfl
  refine ⟨_, (rowOf .list).heap.next .array, rfl, run_setProperty_rowOf hw (.refl _), rfl, rfl, fun hconforms => ?_⟩
  cases hconforms (.text "abc") List.mem_cons_self

end Binder

end ObjectGraph
