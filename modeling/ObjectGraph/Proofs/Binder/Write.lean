import ObjectGraph.Binder
import ObjectGraph.Proofs.Access.Single
import ObjectGraph.Proofs.Convert.Wording
import ObjectGraph.Proofs.Record.Fixed

/-!
Converting writes to a property of a fixed record.  What is written is converted to the declared type first, and
only then stored.  A value that the property takes as it is, is stored as a plain write stores it; but lists of
texts and arrays of texts are taken for many texts, of which a property that is no array gets the first.
-/

namespace ObjectGraph

/-- Whether values of two heaps are the same one, or arrays of the same elements. -/
def Heap.Copies (H H' : Heap) (v w : Value) : Prop :=
  w = v ∨ ∃ a a' : Handle .array, v = .array a ∧ w = .array a' ∧ H'.get a' = H.get a

namespace Heap.Copies
variable {H H' : Heap} {v w : Value}

theorem refl (H H' : Heap) (v : Value) : H.Copies H' v v := Or.inl rfl

theorem ne_null (h : H.Copies H' v w) (hv : v ≠ .null) : w ≠ .null := by
  rcases h with rfl | ⟨a, a', -, rfl, -⟩
  · exact hv
  · nofun

/-- Writing records changes no arrays. -/
theorem set_iff {r : Handle .record} {a a' : Record} : (H.set r a).Copies (H'.set r a') v w ↔ H.Copies H' v w := by
  have hsame (H : Heap) (a : Record) (i : Handle .array) : (H.set r a).get i = H.get i :=
    H.get_set_of_kind_ne (k := .record) a nofun
  simp only [Copies, hsame]

end Heap.Copies

namespace Binder
variable {G : ClassGraph} {b : Binder} {h : Handle .record} {S : Handle .schema} {d : Dict Value} {H : Heap}
  {s s' : State G} {name : String} {p : Property} {v w w' : Value} {config : RegistryConfig} {H₀ : Heap}

/-! ### What a converting write does -/

theorem run_write_simple (hname : Path.IsSimple name) :
    ExceptT.run (b.resolver.write (.record h) name v) s = ExceptT.run (Record.write h name v) s :=
  Resolver.run_write_of_isSimple hname nofun

theorem run_owner_simple (hname : Path.IsSimple name) :
    ExceptT.run (b.resolver.owner (.record h) name : Op G (Value × Segment)) s =
      (.ok (.record h, ⟨name, .none⟩), s) :=
  Resolver.run_owner_of_isSimple hname nofun

theorem run_targetTy_of_property (hname : Path.IsSimple name) (hp : Record.property? h name s.heap = some p) :
    ExceptT.run (b.targetTy (.record h) (.record h) name : Op G (Option Ty)) s =
      (.ok (if p.ty = .any then none else some p.ty), s) := by
  have hty : ExceptT.run (b.resolver.segmentTy (.record h) ⟨name, .none⟩ : Op G (Option Ty)) s =
      (.ok (some p.ty), s) := by
    simp only [Resolver.segmentTy]
    rw [Op.run_bind_of_ok (Op.run_read s _), hp]
    rfl
  have hpath : ExceptT.run (b.resolver.propertyTy (.record h) name : Op G (Option Ty)) s = (.ok (some p.ty), s) := by
    rw [Resolver.propertyTy, Op.run_bind_of_ok (run_owner_simple hname)]
    exact hty
  simp only [targetTy]
  rw [Op.run_bind_of_ok hpath, Op.run_pure]
  by_cases hany : p.ty = .any <;> simp [hany, Option.filter]

theorem run_targetTy (hname : Path.IsSimple name) (hcell : s.heap.get h = .fixed S d)
    (hp : (s.heap.get S).property? name = some p) :
    ExceptT.run (b.targetTy (.record h) (.record h) name : Op G (Option Ty)) s =
      (.ok (if p.ty = .any then none else some p.ty), s) := by
  refine run_targetTy_of_property hname ?_
  rw [Record.property?, hcell]
  dsimp only
  rw [Heap.schemaOf, hcell]
  exact hp

/-- A property that takes any value is written without conversion. -/
theorem run_setProperty_any (hname : Path.IsSimple name) (hcell : s.heap.get h = .fixed S d)
    (hp : (s.heap.get S).property? name = some p) (hany : p.ty = .any) :
    ExceptT.run (b.setProperty (.record h) name v : Op G Unit) s = ExceptT.run (Record.write h name v) s := by
  rw [setProperty, Op.run_bind_of_ok (run_owner_simple hname)]
  dsimp only
  rw [Op.run_bind_of_ok (run_targetTy hname hcell hp), if_pos hany]
  rfl

/-- What is written to any other property is converted to its type. -/
theorem run_setProperty (hname : Path.IsSimple name) (hcell : s.heap.get h = .fixed S d)
    (hp : (s.heap.get S).property? name = some p) (hany : p.ty ≠ .any) :
    ExceptT.run (b.setProperty (.record h) name v : Op G Unit) s =
      ExceptT.run (b.convertInput v p.ty true >>= fun w => Record.write h name w) s := by
  rw [setProperty, Op.run_bind_of_ok (run_owner_simple hname)]
  dsimp only
  rw [Op.run_bind_of_ok (run_targetTy hname hcell hp), if_neg hany]
  rfl

/-- A conversion makes new cells at most; what it gives is stored. -/
theorem run_setProperty_of_convertInput (hname : Path.IsSimple name) (hcell : s.heap.get h = .fixed S d)
    (hrecord : s.heap.Has h) (hschema : s.heap.Has S) (hp : (s.heap.get S).property? name = some p)
    (hany : p.ty ≠ .any) (hw : ExceptT.run (b.convertInput v p.ty true) s = (.ok w, { s with heap := H }))
    (hadds : s.heap.OnlyAdds H) (hcoerce : H.coerce G p.ty name w = .ok w') :
    ExceptT.run (b.setProperty (.record h) name v : Op G Unit) s =
      (.ok (), { s with heap := H.set h (.fixed S (d.insert name w')) }) := by
  rw [run_setProperty hname hcell hp hany, Op.run_bind_of_ok hw]
  have hcell' := (hadds.same hrecord).trans hcell
  have hp' : (H.get S).property? name = some p := by rw [hadds.same hschema, hp]
  exact FixedRecord.run_write (s := { s with heap := H }) hcell' hp' hcoerce

/-! ### The ways to convert -/

theorem run_convertInput_text {H' : Heap} {text : String} {t : Ty} (ht : t.isArray = false)
    (hw : b.registry.convertText G t text s.heap = .ok (w, H')) :
    ExceptT.run (b.convertInput (.text text) t true) s = (.ok w, { s with heap := H' }) := by
  rw [convertInput]
  rw [Op.run_bind_of_ok (Op.run_read s _), ht]
  exact Op.run_tryChange_of_ok s hw

/-- Texts for an array are converted as a new list. -/
theorem run_convertInput_list {items : List Value} {t : Ty} (hv : s.heap.texts? v = some items) :
    ExceptT.run (b.convertInput v (.array t) true : Op G Value) s =
      ExceptT.run (Op.tryChange (b.registry.convert G (.array t) (s.heap.newList items).1))
        { s with heap := (s.heap.newList items).2 } := by
  simp only [convertInput]
  rw [Op.run_bind_of_ok (Op.run_read s _), hv]
  split
  · cases hv
  · rename_i heq
    cases heq
    have harray : ((Ty.array t).isArray && true) = true := rfl
    rw [if_pos harray, Op.run_bind_of_ok (Op.run_change s _)]
    rfl
  · contradiction

theorem run_convertInput_texts {H' : Heap} {items : List Value} {t : Ty} (hv : s.heap.texts? v = some items)
    (hw : b.registry.convert G (.array t) (s.heap.newList items).1 (s.heap.newList items).2 = .ok (w, H')) :
    ExceptT.run (b.convertInput v (.array t) true) s = (.ok w, { s with heap := H' }) := by
  rw [run_convertInput_list hv]
  exact Op.run_tryChange_of_ok _ hw

/-- Values that are no texts are converted like all others. -/
theorem run_convertInput_of_texts?_none {H' : Heap} {t : Ty} (hv : s.heap.texts? v = none)
    (htext : ∀ text, v ≠ .text text) (hnull : v ≠ .null) (hw : b.registry.convert G t v s.heap = .ok (w, H')) :
    ExceptT.run (b.convertInput v t true) s = (.ok w, { s with heap := H' }) := by
  simp only [convertInput]
  rw [Op.run_bind_of_ok (Op.run_read s _), hv]
  simp only [convertFor, Value.isNull_eq_false_iff.mpr hnull]
  exact Op.run_tryChange_of_ok _ hw

/-! ### Values that the property takes as they are -/

theorem convert_null_text (hlenient : config.isStrict = false) :
    (Registry.withConfig config H₀).1.convert G .text .null H = .ok (.null, H) := by
  have hany : Ty.text ≠ .any := nofun
  obtain ⟨e, he, -⟩ := Registry.exists_lookup? config H₀ (t := .text) rfl
  have hfallback := Registry.fallback_of_lookup? rfl he
  rw [hlenient] at hfallback
  rw [Registry.convert_of_lookup? hany he (Or.inl rfl)]
  exact ConverterEntry.apply_null_of_fallback hfallback

/-- Texts, and nulls if nothing is strict about them, are converted to themselves. -/
theorem convert_texts {l : Handle .list} (hitems : ∀ x ∈ H.get l, (∃ text, x = .text text) ∨
    (x = .null ∧ config.isStrict = false)) :
    (Registry.withConfig config H₀).1.convert G (.array .text) (.list l) H = .ok (H.newArray .text (H.get l)) := by
  refine Registry.convert_list config H₀ rfl (List.forall₂_same.mpr fun x hx => ?_)
  rcases hitems x hx with ⟨text, rfl⟩ | ⟨rfl, hlenient⟩
  · exact Registry.convert_scalarText (v := .text text) rfl rfl
  · exact convert_null_text hlenient

/-- Whether a value is not taken for many texts, or the texts are given back as they are. -/
def TakenWhole (isStrict : Bool) (H : Heap) (t : Ty) (v : Value) : Prop :=
  ∀ items, H.texts? v = some items →
    t = .any ∨ (t = .array .text ∧ ∀ x ∈ items, (∃ text, x = .text text) ∨ (x = .null ∧ isStrict = false))

/-- A value that a slot accepts is converted to what the slot holds after a plain write. -/
theorem exists_convertInput {t : Ty} (hb : b.registry = (Registry.withConfig config H₀).1) (hany : t ≠ .any)
    (hv : v ≠ .null) (haccepts : s.heap.accepts G t v = true) (hwhole : TakenWhole config.isStrict s.heap t v)
    (hw : s.heap.coerce G t name v = .ok w) :
    ∃ u H, ExceptT.run (b.convertInput v t true) s = (.ok u, { s with heap := H }) ∧ s.heap.OnlyAdds H ∧
      H.Fits G t u ∧ s.heap.Copies H w u := by
  -- One text, a value that is no texts, and many texts are converted in different ways.
  by_cases htext : ∃ text, v = .text text
  · obtain ⟨text, rfl⟩ := htext
    obtain rfl : t = .text := by
      cases t <;> first | rfl | exact absurd rfl hany | cases haccepts
    cases hw
    have hconvert : b.registry.convertText G .text text s.heap = .ok (.text text, s.heap) := by
      rw [hb]
      exact Registry.convertText_scalarText (v := .text text) rfl rfl
    exact ⟨_, _, run_convertInput_text rfl hconvert, .refl _, Heap.fits_of_accepts rfl rfl nofun, .refl _ _ _⟩
  have hnotext : ∀ text, v ≠ .text text := fun text h => htext ⟨text, h⟩
  cases hitems : s.heap.texts? v with
  | none =>
    obtain ⟨w', hw', hconvert⟩ := b.registry.convert_of_accepts hv haccepts
    obtain rfl : w' = w := Except.ok.inj (hw'.symm.trans (Heap.coerce_of_property hw))
    exact ⟨w', s.heap, run_convertInput_of_texts?_none hitems hnotext hv hconvert, .refl _, Heap.fits_of_coerce hw,
      .refl _ _ _⟩
  | some items =>
    obtain ⟨rfl, hall⟩ := (hwhole items hitems).resolve_left hany
    obtain ⟨a, rfl⟩ : ∃ a, v = .array a := by
      cases v <;> first | exact ⟨_, rfl⟩ | exact absurd rfl hv | cases haccepts
    obtain rfl : w = .array a := Heap.eq_of_coerce_of_not_isScalar hw rfl
    have hcell : s.heap.get a = ⟨.text, items⟩ := by
      simp only [Heap.texts?] at hitems
      split at hitems <;> cases hitems
      rename_i hcomponent
      rw [← hcomponent]
    have hlist := s.heap.get_alloc_self (k := .list) items
    have hconvert := hb ▸ convert_texts (G := G) (hlist.symm ▸ hall)
    rw [hlist] at hconvert
    have hadds := (s.heap.onlyAdds_alloc (k := .list) items).trans
      (Heap.onlyAdds_alloc (k := .array) (s.heap.newList items).2 ⟨.text, items⟩)
    refine ⟨_, _, run_convertInput_texts hitems hconvert, hadds, Heap.fits_newArray .text items,
      Or.inr ⟨a, _, rfl, rfl, ?_⟩⟩
    exact (Heap.get_alloc_self (k := .array) _ _).trans hcell.symm

/-- A converting write of a value that the property takes as it is stores a copy of what a plain write stores,
and neither changes anything else. -/
theorem runs_of_accepts (hb : b.registry = (Registry.withConfig config H₀).1) (hname : Path.IsSimple name)
    (hcell : s.heap.get h = .fixed S d) (hrecord : s.heap.Has h) (hschema : s.heap.Has S)
    (hp : (s.heap.get S).property? name = some p) (hv : v ≠ .null) (haccepts : s.heap.accepts G p.ty v = true)
    (hwhole : TakenWhole config.isStrict s.heap p.ty v) : ∃ H u w,
    ExceptT.run (b.setProperty (.record h) name v : Op G Unit) s =
      (.ok (), { s with heap := H.set h (.fixed S (d.insert name u)) }) ∧
    ExceptT.run (b.resolver.write (.record h) name v : Op G Unit) s =
      (.ok (), { s with heap := s.heap.set h (.fixed S (d.insert name w)) }) ∧
    s.heap.OnlyAdds H ∧ s.heap.Copies H w u ∧ w ≠ .null := by
  obtain ⟨w, hw⟩ : ∃ w, s.heap.coerce G p.ty name v = .ok w := Heap.exists_coerce_of_accepts haccepts hv
  have hwrite := FixedRecord.run_write hcell hp hw
  have hnull := Heap.ne_null_of_coerce hw (Value.isNull_eq_false_iff.mpr hv)
  by_cases hany : p.ty = .any
  · refine ⟨s.heap, w, w, ?_, (run_write_simple hname).trans hwrite, .refl _, .refl _ _ _, hnull⟩
    rw [run_setProperty_any hname hcell hp hany, hwrite]
  · obtain ⟨u, H, hconvert, hadds, hfits, hcopies⟩ := exists_convertInput hb hany hv haccepts hwhole hw
    exact ⟨H, u, w, run_setProperty_of_convertInput hname hcell hrecord hschema hp hany hconvert hadds hfits.coerce,
      (run_write_simple hname).trans hwrite, hadds, hcopies, hnull⟩

/-- What a property shows after the record has been written on a later heap. -/
theorem run_read_stored {d' : Dict Value} {other : String} {q : Property} (hadds : s.heap.OnlyAdds H)
    (hschema : s.heap.Has S) (hq : (s.heap.get S).property? other = some q) :
    ExceptT.run (Record.read h other : Op G Value) { s with heap := H.set h (.fixed S d') } =
      (.ok (FixedRecord.shown d' q), { s with heap := H.set h (.fixed S d') }) := by
  have hcell := H.get_set_self (k := .record) h (.fixed S d')
  have hsame : (H.set h (.fixed S d')).get S = s.heap.get S :=
    (H.get_set_of_kind_ne (k := .record) (j := S) _ nofun).trans (hadds.same hschema)
  exact FixedRecord.run_read (s := { s with heap := H.set h (.fixed S d') }) hcell (hsame.symm ▸ hq)

theorem schemaOf_of_cell (hcell : s.heap.get h = .fixed S d) : s.heap.schemaOf h = s.heap.get S := by
  rw [Heap.schemaOf, hcell]
  rfl

/-- Whether a converting write succeeds as a plain one does, and all properties read the same after either: values
that were there are as before but for the record itself, and arrays count by their elements. -/
def WritesAlike (b : Binder) (s : State G) (h : Handle .record) (name : String) (v : Value) : Prop := ∃ s₁ s₂,
  ExceptT.run (b.setProperty (.record h) name v : Op G Unit) s = (.ok (), s₁) ∧
  ExceptT.run (b.resolver.write (.record h) name v : Op G Unit) s = (.ok (), s₂) ∧
  (∀ other, (s.heap.schemaOf h).declares other = true → ∃ u w,
    ExceptT.run (Record.read h other) s₁ = (.ok u, s₁) ∧ ExceptT.run (Record.read h other) s₂ = (.ok w, s₂) ∧
      s₂.heap.Copies s₁.heap w u) ∧
  s.heap.ChangesOnly h s₁.heap ∧ s.heap.ChangesOnly h s₂.heap

/-- A converting write with the converters of any configuration stores a value that the property accepts as a plain
write does.  Only texts in a list, in an array that the property takes as one of any values, and in an array with
other elements, are converted. -/
theorem setProperty_of_accepts (config : RegistryConfig) (H₀ : Heap) (b : Binder)
    (hb : b.registry = (Registry.withConfig config H₀).1) (s : State G) (h : Handle .record) (S : Handle .schema)
    (d : Dict Value) (hcell : s.heap.get h = .fixed S d) (hrecord : s.heap.Has h) (hschema : s.heap.Has S)
    (name : String) (hname : Path.IsSimple name) (p : Property) (hp : (s.heap.schemaOf h).property? name = some p)
    (v : Value) (hv : v ≠ .null) (haccepts : s.heap.accepts G p.ty v = true)
    (hwhole : TakenWhole config.isStrict s.heap p.ty v) : b.WritesAlike s h name v := by
  rw [schemaOf_of_cell hcell] at hp
  obtain ⟨H, u, w, hset, hwrite, hadds, hcopies, hnull⟩ :=
    runs_of_accepts hb hname hcell hrecord hschema hp hv haccepts hwhole
  refine ⟨_, _, hset, hwrite, fun other hother => ?_, (hadds.changesOnly h).trans (H.changesOnly_set h _),
    s.heap.changesOnly_set h _⟩
  rw [schemaOf_of_cell hcell] at hother
  obtain ⟨q, hq⟩ := Schema.declares_iff_exists.mp hother
  refine ⟨_, _, run_read_stored hadds hschema hq, run_read_stored (.refl _) hschema hq, ?_⟩
  obtain rfl := Schema.name_of_property? hp
  by_cases hsame : q.name = p.name
  · rw [← hsame, FixedRecord.shown_insert_self, FixedRecord.shown_insert_self,
      Value.isNull_eq_false_iff.mpr hnull, Value.isNull_eq_false_iff.mpr (hcopies.ne_null hnull)]
    exact Heap.Copies.set_iff.mpr hcopies
  · rw [FixedRecord.shown_insert_of_ne hsame, FixedRecord.shown_insert_of_ne hsame]
    exact .refl _ _ _

/-- An array of a text and null is copied by a lenient registry. -/
theorem setProperty_of_accepts_nulls : ∃ (s : State .empty) (h : Handle .record) (a : Handle .array),
    s.heap.get a = ⟨.text, [.text "a", .null]⟩ ∧
    WritesAlike ⟨⟨0⟩, (Registry.withConfig .standard .empty).1⟩ s h "t" (.array a) := by
  let heap : Heap := ⟨.empty, ⟨#[⟨.text, [.text "a", .null]⟩]⟩, .empty, .empty, ⟨#[.fixed ⟨0⟩ .empty]⟩,
    ⟨#[.ofProperties "Row" [⟨"t", .array .text, none⟩]]⟩⟩
  refine ⟨⟨heap, .empty⟩, ⟨0⟩, ⟨0⟩, rfl, ?_⟩
  have hrecord : heap.Has (⟨0⟩ : Handle .record) := Nat.zero_lt_one
  have hschema : heap.Has (⟨0⟩ : Handle .schema) := Nat.zero_lt_one
  refine setProperty_of_accepts .standard .empty _ rfl ⟨heap, .empty⟩ ⟨0⟩ ⟨0⟩ .empty rfl hrecord hschema "t"
    (by decide) ⟨"t", .array .text, none⟩ rfl _ nofun rfl ?_
  intro items hitems
  cases hitems
  refine Or.inr ⟨rfl, fun x hx => ?_⟩
  rcases List.mem_cons.mp hx with rfl | hx
  · exact Or.inl ⟨"a", rfl⟩
  · exact Or.inr ⟨List.mem_singleton.mp hx, rfl⟩

theorem not_writesAlike_of_error {e : Error}
    (hset : ExceptT.run (b.setProperty (.record h) name v : Op G Unit) s = (.error e, s')) :
    ¬ b.WritesAlike s h name v := by
  rintro ⟨s₁, s₂, hok, -⟩
  cases hset.symm.trans hok

theorem not_writesAlike_of_stored {u : Value} (hname : Path.IsSimple name) (hcell : s.heap.get h = .fixed S d)
    (hschema : s.heap.Has S) (hp : (s.heap.get S).property? name = some p) (hw : s.heap.coerce G p.ty name v = .ok w)
    (hnull : w ≠ .null) (hadds : s.heap.OnlyAdds H)
    (hset : ExceptT.run (b.setProperty (.record h) name v : Op G Unit) s =
      (.ok (), { s with heap := H.set h (.fixed S (d.insert name u)) }))
    (hcopies : ¬ s.heap.Copies H w (if u.isNull then p.ty.zero else u)) : ¬ b.WritesAlike s h name v := by
  rintro ⟨t₁, t₂, hset', hwrite, hreads, -⟩
  cases hset.symm.trans hset'
  cases ((run_write_simple hname).trans (FixedRecord.run_write hcell hp hw)).symm.trans hwrite
  have hdeclared : (s.heap.schemaOf h).declares name = true := by
    rw [schemaOf_of_cell hcell, Schema.declares_eq, hp]
    rfl
  obtain ⟨u', w', hread₁, hread₂, hsame⟩ := hreads name hdeclared
  cases (run_read_stored hadds hschema hp).symm.trans hread₁
  cases (run_read_stored (.refl _) hschema hp).symm.trans hread₂
  obtain rfl := Schema.name_of_property? hp
  rw [FixedRecord.shown_insert_self, FixedRecord.shown_insert_self, Value.isNull_eq_false_iff.mpr hnull] at hsame
  exact hcopies (Heap.Copies.set_iff.mp hsame)

/-- Values that the property accepts and that are not stored as they are: a list of texts and an empty list in a list,
an array of texts in an array of any values, an array of null by a strict registry, and an array of texts that
holds a boolean. -/
theorem setProperty_of_accepted_texts : ∃ (lenient strict : Binder) (s : State .empty) (h : Handle .record)
    (l l' : Handle .list) (a a' a'' : Handle .array),
    lenient.registry = (Registry.withConfig .standard .empty).1 ∧
    strict.registry = (Registry.withConfig ⟨true, false, 0⟩ .empty).1 ∧
    (s.heap.accepts .empty .list (.list l) = true ∧ ¬ lenient.WritesAlike s h "l" (.list l)) ∧
    (s.heap.accepts .empty .list (.list l') = true ∧ ¬ lenient.WritesAlike s h "l" (.list l')) ∧
    (s.heap.accepts .empty (.array .any) (.array a) = true ∧ ¬ lenient.WritesAlike s h "a" (.array a)) ∧
    (s.heap.accepts .empty (.array .text) (.array a') = true ∧ ¬ strict.WritesAlike s h "t" (.array a')) ∧
    (s.heap.accepts .empty (.array .text) (.array a'') = true ∧ ¬ lenient.WritesAlike s h "t" (.array a'')) := by
  let heap : Heap := ⟨⟨#[[.text "a"], []]⟩, ⟨#[⟨.text, [.text "a"]⟩, ⟨.text, [.null]⟩, ⟨.text, [.bool true]⟩]⟩, .empty,
    .empty, ⟨#[.fixed ⟨0⟩ .empty]⟩,
    ⟨#[.ofProperties "Row" [⟨"l", .list, none⟩, ⟨"a", .array .any, none⟩, ⟨"t", .array .text, none⟩]]⟩⟩
  have hrecord : heap.Has (⟨0⟩ : Handle .record) := Nat.zero_lt_one
  have hschema : heap.Has (⟨0⟩ : Handle .schema) := Nat.zero_lt_one
  refine ⟨⟨⟨0⟩, (Registry.withConfig .standard .empty).1⟩, ⟨⟨0⟩, (Registry.withConfig ⟨true, false, 0⟩ .empty).1⟩,
    ⟨heap, .empty⟩, ⟨0⟩, ⟨0⟩, ⟨1⟩, ⟨0⟩, ⟨1⟩, ⟨2⟩, rfl, rfl, ⟨rfl, ?_⟩, ⟨rfl, ?_⟩, ⟨rfl, ?_⟩, ⟨rfl, ?_⟩, ⟨rfl, ?_⟩⟩
  · exact not_writesAlike_of_error rfl
  · refine not_writesAlike_of_stored (u := .null) (S := ⟨0⟩) (d := .empty) (w := .list ⟨1⟩) (H := heap)
      (p := ⟨"l", .list, none⟩) (by decide) rfl hschema rfl rfl nofun (.refl _) rfl ?_
    rintro (h | ⟨_, _, h, -⟩) <;> cases h
  · exact not_writesAlike_of_error rfl
  · exact not_writesAlike_of_error rfl
  · have hlist := Heap.onlyAdds_alloc (k := .list) heap [.bool true]
    have hadds := hlist.trans (Heap.onlyAdds_alloc (k := .array) _ ⟨.text, [.text "true"]⟩)
    have hconvert : (Registry.withConfig .standard .empty).1.convert .empty (.array .text) (.list ⟨2⟩)
        (heap.newList [.bool true]).2 = .ok ((heap.newList [.bool true]).2.newArray .text [.text "true"]) :=
      Registry.convert_list .standard .empty rfl (.cons (Registry.convert_toText rfl nofun) .nil)
    have hinput := run_convertInput_texts (G := .empty) (s := ⟨heap, .empty⟩) (v := .array ⟨2⟩)
      (b := ⟨⟨0⟩, (Registry.withConfig .standard .empty).1⟩) rfl hconvert
    have hname : Path.IsSimple "t" := by decide
    have hset := run_setProperty_of_convertInput (h := ⟨0⟩) (S := ⟨0⟩) (d := .empty)
      (p := ⟨"t", .array .text, none⟩) hname rfl hrecord hschema rfl nofun hinput hadds rfl
    refine not_writesAlike_of_stored (w := .array ⟨2⟩) hname rfl hschema rfl rfl nofun hadds hset ?_
    rintro (h | ⟨_, _, h, h', hcell⟩)
    · cases h
    · cases h
      cases h'
      cases hcell

end Binder

end ObjectGraph
