import ObjectGraph.Proofs.Access.Describing
import ObjectGraph.Proofs.Access.Tree
import ObjectGraph.Proofs.Binder.Write
import ObjectGraph.Proofs.Object.Outcome
import ObjectGraph.Value.Equality

/-!
Snapshots of fixed records.  A snapshot holds the texts of all properties; writing it to a record of the same
schema converts them back.  Whatever scalars and arrays a record holds, the other one then shows the same.
-/

namespace ObjectGraph

/-- Whether the texts of the scalars of a type, or of the elements of its arrays, say which they were. -/
def Ty.isDescribable : Ty → Bool
  | .array c => c.isWorded
  | t => t.isWorded

/-- Whether a slot of a type holds what texts can say: null, a scalar of the very kind, or an array of such. -/
inductive Heap.Worded (H : Heap) : Ty → Value → Prop
  | null {t : Ty} (ht : t.isDescribable = true) (hp : t.isPrimitive = false) : Worded H t .null
  | scalar {t : Ty} {v : Value} (ht : t.isWorded = true) (hv : H.typeOf v = t.kind) : Worded H t v
  | array {c : Ty} {a : Handle .array} (hc : c.isWorded = true) (ha : H.Has a) (hcomponent : (H.get a).component = c)
      (hitems : ∀ x ∈ (H.get a).items, H.typeOf x = c.kind) : Worded H (.array c) (.array a)

/-- Whether a value of a later heap is the text of a value, or an array of the texts of its elements. -/
inductive Heap.Describes (H H' : Heap) : Value → Value → Prop
  | null : Describes H H' .null .null
  | scalar {v : Value} (hv : v.isScalar = true) (hnull : v ≠ .null) : Describes H H' v (.text v.scalarText)
  | array {a a' : Handle .array} (ha : H'.Has a')
      (htexts : H'.get a' = ⟨.text, (H.get a).items.map fun v => .text v.scalarText⟩) :
      Describes H H' (.array a) (.array a')

variable {G : ClassGraph}

namespace Ty
variable {t : Ty}

theorem ne_any_of_isDescribable (h : t.isDescribable = true) : t ≠ .any := by
  rintro rfl
  cases h

/-- An array of scalars of one kind is no array of others. -/
theorem eq_of_assignable {c : Ty} (ht : t.isWorded = true) (h : G.assignable t c = true) : c = t := by
  cases t <;> first | exact (eq_of_beq h).symm | cases ht

end Ty

namespace Heap
variable {H H' H'' : Heap} {t : Ty} {v w : Value}

namespace Worded

theorem isDescribable (h : H.Worded t v) : t.isDescribable = true := by
  cases h with
  | null ht => exact ht
  | scalar ht => cases t <;> first | exact ht | cases ht
  | array hc => exact hc

theorem live (h : H.Worded t v) : H.Live v := by
  cases h with
  | null => trivial
  | scalar ht hv =>
    have hscalar := isScalar_of_typeOf (Ty.isScalar_of_isWorded ht) hv
    cases v <;> trivial
  | array _ ha => exact ha

theorem ne_null (h : H.Worded t v) (ht : t.isPrimitive = true) : v ≠ .null := by
  rintro rfl
  cases h with
  | null _ hp => cases hp.symm.trans ht
  | scalar ht hv => exact ne_null_of_typeOf (Ty.isScalar_of_isWorded ht) hv rfl

/-- What a slot of such a type holds, if the elements of its arrays are of the very kind. -/
theorem of_fits (ht : t.isDescribable = true) (hfits : H.Fits G t v) (hlive : H.Live v)
    (hitems : ∀ a, v = .array a → ∀ x ∈ (H.get a).items, H.typeOf x = (H.get a).component.kind) : H.Worded t v := by
  by_cases hnull : v = .null
  · subst hnull
    exact .null ht (by simpa using fun hp => hfits.ne_null hp rfl)
  · by_cases hworded : t.isWorded = true
    · exact .scalar hworded (hfits.exact (Ty.isScalar_of_isWorded hworded) hnull)
    · cases t with
      | array c =>
        have haccepted := hfits.accepted
        cases v with
        | array a =>
          have hcomponent := Ty.eq_of_assignable ht haccepted
          exact .array ht hlive hcomponent (hcomponent ▸ hitems a rfl)
        | null => exact absurd rfl hnull
        | _ => cases haccepted
      | _ => exact absurd ht hworded

end Worded

theorem typeOf_of_isScalar (h : v.isScalar = true) : H'.typeOf v = H.typeOf v := by
  cases v <;> first | rfl | cases h

theorem ChangesOnly.describes {r : Handle .record} (h : H'.ChangesOnly r H'') (hd : H.Describes H' v w) :
    H.Describes H'' v w := by
  cases hd with
  | null => exact .null
  | scalar hv hnull => exact .scalar hv hnull
  | array ha htexts => exact .array (h.has ha) ((h.array ha).trans htexts)

theorem OnlyAdds.describes (h : H'.OnlyAdds H'') (hd : H.Describes H' v w) : H.Describes H'' v w :=
  (h.changesOnly ⟨0⟩).describes hd

theorem ChangesOnly.copies {r : Handle .record} (h : H'.ChangesOnly r H'') (hw : H'.Live w) (hc : H.Copies H' v w) :
    H.Copies H'' v w := by
  rcases hc with rfl | ⟨a, a', rfl, rfl, hsame⟩
  · exact .refl _ _ _
  · exact Or.inr ⟨a, a', rfl, rfl, (h.array hw).trans hsame⟩

/-! ### Equality of copies -/

theorem sameScalar_self (ht : t.isWorded = true) (hv : H.typeOf v = t.kind) : v.sameScalar v = true := by
  cases v with
  | bool _ | char _ | int _ _ | wide _ | text _ => simp [Value.sameScalar]
  | _ => cases t <;> cases hv <;> cases ht

theorem sameItems_self : ∀ {cs : List Content}, (∀ c ∈ cs, c.same c = true) → Content.sameItems cs cs = true
  | [], _ => by simp [Content.sameItems]
  | c :: cs, h => by
    have hrest := sameItems_self fun c' hc' => h c' (List.mem_cons_of_mem _ hc')
    simp [Content.sameItems, h c List.mem_cons_self, hrest]

/-- A scalar that a text can say equals itself, however deep it is looked at. -/
theorem unfold_same_self {depth : Nat} (ht : t.isWorded = true) (hv : H.typeOf v = t.kind) :
    (H'.unfold false depth v).same (H'.unfold false depth v) = true := by
  cases depth with
  | zero => rfl
  | succ depth =>
    have hscalar := isScalar_of_typeOf (Ty.isScalar_of_isWorded ht) hv
    have hunfold : H'.unfold false (depth + 1) v = .scalar v := by cases v <;> first | rfl | cases hscalar
    rw [hunfold, Content.same]
    exact sameScalar_self ht hv

/-- Copies of what texts can say are equal. -/
theorem same_of_copies {u : Value} (hv : H.Worded t v) (hsame : ∀ a : Handle .array, H.Has a → H'.get a = H.get a)
    (hu : H.Copies H' v u) (hw : H.Copies H' v w) : H'.same u w = true := by
  cases hv with
  | null =>
    rcases hu with rfl | ⟨_, _, h, -⟩
    · rcases hw with rfl | ⟨_, _, h, -⟩
      · rfl
      · cases h
    · cases h
  | scalar ht hv =>
    rcases hu with rfl | ⟨_, _, rfl, -⟩
    · rcases hw with rfl | ⟨_, _, rfl, -⟩
      · exact unfold_same_self ht hv
      · cases Heap.isScalar_of_typeOf (Ty.isScalar_of_isWorded ht) hv
    · cases Heap.isScalar_of_typeOf (Ty.isScalar_of_isWorded ht) hv
  | @array c a hc ha hcomponent hitems =>
    have hcell {u : Value} (hu : H.Copies H' (.array a) u) : ∃ a', u = .array a' ∧ H'.get a' = H.get a := by
      rcases hu with rfl | ⟨a₀, a', h, rfl, hcell⟩
      · exact ⟨a, rfl, hsame a ha⟩
      · cases h
        exact ⟨a', rfl, hcell⟩
    obtain ⟨a₁, rfl, h₁⟩ := hcell hu
    obtain ⟨a₂, rfl, h₂⟩ := hcell hw
    have hall : Content.sameItems ((H.get a).items.map (H'.unfold false H'.size))
        ((H.get a).items.map (H'.unfold false H'.size)) = true := by
      refine sameItems_self fun x hx => ?_
      obtain ⟨v, hv, rfl⟩ := List.mem_map.mp hx
      exact unfold_same_self hc (hitems v hv)
    simp [same, content, unfold, Content.same, h₁, h₂, hall]

end Heap

/-- A loop over entries that puts in one of them, and then the others. -/
theorem Dict.put_cons {P : String → Prop} {es : List (String × Value)} {n : String} {v w : Value} {d D : Dict Value}
    (hrest : ∀ name, (name ∈ es.map Prod.fst → P name) ∧
      (name ∉ es.map Prod.fst → D.get? name = (d.insert n w).get? name)) (hn : D.get? n = some w → P n) :
    ∀ name, (name ∈ ((n, v) :: es).map Prod.fst → P name) ∧
      (name ∉ ((n, v) :: es).map Prod.fst → D.get? name = d.get? name) := by
  refine fun name => ⟨fun hname => ?_, fun hname => ?_⟩
  -- An entry of the same name may come later, and then it is the one that counts.
  · by_cases hlater : name ∈ es.map Prod.fst
    · exact (hrest name).1 hlater
    · obtain rfl : name = n := (List.mem_cons.mp hname).resolve_right hlater
      exact hn (by rw [(hrest name).2 hlater, Dict.get?_insert, if_pos rfl])
  · obtain ⟨hne, hlater⟩ := not_or.mp (mt List.mem_cons.mpr hname)
    rw [(hrest name).2 hlater, Dict.get?_insert, if_neg hne]

/-! ### Describing -/

section Describing
variable {b : Binder} {config : RegistryConfig} {H₀ H : Heap} {s : State G} {src : Handle .record} {S : Handle .schema}
  {d : Dict Value} {f : String → Value} {t : Ty} {v : Value}

namespace Binder

theorem run_textValue (hb : b.registry = (Registry.withConfig config H₀).1) (hv : v.isScalar = true)
    (hnull : v ≠ .null) : ExceptT.run (b.textValue v) s = (.ok (.text v.scalarText), s) := by
  have htext : b.registry.toText G v s.heap = .ok (some v.scalarText, s.heap) := by
    rw [hb]
    exact Registry.toText_of_isScalar hv hnull
  rw [textValue, textOf, Op.run_bind_of_ok (Op.run_tryChange_of_ok s htext)]
  rfl

theorem run_textValues (hb : b.registry = (Registry.withConfig config H₀).1) : ∀ {vs : List Value},
    (∀ v ∈ vs, v.isScalar = true ∧ v ≠ .null) →
    ExceptT.run (b.textValues vs) s = (.ok (vs.map fun v => .text v.scalarText), s)
  | [], _ => rfl
  | v :: vs, hvs => by
    obtain ⟨hv, hnull⟩ := hvs v List.mem_cons_self
    rw [textValues, Op.run_bind_of_ok (run_textValue hb hv hnull),
      Op.run_bind_of_ok (run_textValues hb fun w hw => hvs w (List.mem_cons_of_mem _ hw))]
    rfl

/-- The texts of the elements of an array make a new array. -/
theorem run_textArray (hb : b.registry = (Registry.withConfig config H₀).1) {a : Handle .array}
    (hitems : ∀ v ∈ (s.heap.get a).items, v.isScalar = true ∧ v ≠ .null) :
    ExceptT.run (b.textArray (.array a)) s =
      let (w, H) := s.heap.newArray .text ((s.heap.get a).items.map fun v => .text v.scalarText)
      (.ok w, { s with heap := H }) := by
  have harray : (Value.array a).isNull = false := rfl
  rw [textArray, harray, if_neg Bool.false_ne_true, Op.run_bind_of_ok (Op.run_read s _)]
  simp only [Heap.items?, Option.getD_some]
  rw [Op.run_bind_of_ok (run_textValues hb hitems), Op.run_change]

/-- The text of a value, or the array of the texts of its elements. -/
def describeValue (b : Binder) (v : Value) : Op G Value := do
  if (← Op.read fun H => H.items? v).isSome then b.textArray v else b.textValue v

theorem describeEntries_cons {name : String} {rest : List (String × Value)} :
    (b.describeEntries d ((name, v) :: rest) : Op G (Dict Value)) =
      b.describeValue v >>= fun w => b.describeEntries (d.insert name w) rest := by
  simp only [describeEntries, describeValue, bind_assoc]
  refine congrArg _ (funext fun items => ?_)
  split <;> rfl

/-- Describing a value of an earlier heap makes new arrays at most. -/
theorem run_describeValue (hb : b.registry = (Registry.withConfig config H₀).1) (hadds : H.OnlyAdds s.heap)
    (hv : H.Worded t v) : ∃ w H', ExceptT.run (b.describeValue v) s = (.ok w, { s with heap := H' }) ∧
      s.heap.OnlyAdds H' ∧ H.Describes H' v w := by
  cases hv with
  | null => exact ⟨.null, s.heap, rfl, .refl _, .null⟩
  | scalar ht hv =>
    have hscalar := Heap.isScalar_of_typeOf (Ty.isScalar_of_isWorded ht) hv
    have hnull := Heap.ne_null_of_typeOf (Ty.isScalar_of_isWorded ht) hv
    have hitems : s.heap.items? v = none := by cases v <;> first | rfl | cases hscalar
    refine ⟨_, s.heap, ?_, .refl _, .scalar hscalar hnull⟩
    rw [describeValue, Op.run_bind_of_ok (Op.run_read s _), hitems]
    exact run_textValue hb hscalar hnull
  | @array c a hc ha _ hitems =>
    have hscalar := Ty.isScalar_of_isWorded hc
    rw [← hadds.same ha] at hitems
    have hnew := s.heap.onlyAdds_alloc (k := .array) ⟨.text, (s.heap.get a).items.map fun v => .text v.scalarText⟩
    refine ⟨_, _, ?_, hnew, .array (Heap.has_alloc (k := .array) _) ?_⟩
    · rw [describeValue, Op.run_bind_of_ok (Op.run_read s _)]
      exact run_textArray hb fun x hx =>
        ⟨Heap.isScalar_of_typeOf hscalar (hitems x hx), Heap.ne_null_of_typeOf hscalar (hitems x hx)⟩
    · exact (Heap.get_alloc_self (k := .array) _ _).trans (by rw [hadds.same ha])

/-- Each entry is described, and the other ones stay. -/
theorem run_describeEntries (hb : b.registry = (Registry.withConfig config H₀).1) :
    ∀ {es : List (String × Value)} {d : Dict Value} {s : State G}, H.OnlyAdds s.heap →
      (∀ e ∈ es, e.2 = f e.1 ∧ ∃ t, H.Worded t (f e.1)) →
      ∃ D H', ExceptT.run (b.describeEntries d es) s = (.ok D, { s with heap := H' }) ∧ s.heap.OnlyAdds H' ∧
        ∀ name, (name ∈ es.map Prod.fst → ∃ w, D.get? name = some w ∧ H.Describes H' (f name) w) ∧
          (name ∉ es.map Prod.fst → D.get? name = d.get? name)
  | [], d, s, _, _ => ⟨d, s.heap, rfl, .refl _, fun name => ⟨nofun, fun _ => rfl⟩⟩
  | (n, v) :: es, d, s, hadds, hes => by
    obtain ⟨hv, t, ht⟩ := hes (n, v) List.mem_cons_self
    obtain rfl : v = f n := hv
    obtain ⟨w, H₁, hw, hadds₁, hdescribes⟩ := run_describeValue hb hadds ht
    obtain ⟨D, H₂, hD, hadds₂, hget⟩ := run_describeEntries (d := d.insert n w) (s := { s with heap := H₁ }) hb
      (hadds.trans hadds₁) fun e he => hes e (List.mem_cons_of_mem _ he)
    refine ⟨D, H₂, ?_, hadds₁.trans hadds₂, Dict.put_cons hget fun hget => ⟨w, hget, hadds₂.describes hdescribes⟩⟩
    rw [describeEntries_cons, Op.run_bind_of_ok hw, hD]

/-- A fixed record is described by the texts of what its properties show. -/
theorem run_describe (hb : b.registry = (Registry.withConfig config H₀).1) (hcell : s.heap.get src = .fixed S d)
    (hread : ∀ name ∈ (s.heap.get S).names, ExceptT.run (Record.read src name) s = (.ok (f name), s))
    (hworded : ∀ name ∈ (s.heap.get S).names, ∃ t, s.heap.Worded t (f name)) :
    ∃ D H, ExceptT.run (b.describe (.record src)) s = (.ok D, { s with heap := H }) ∧ s.heap.OnlyAdds H ∧
      ∀ name, (name ∈ (s.heap.get S).names → ∃ w, D.get? name = some w ∧ s.heap.Describes H (f name) w) ∧
        (name ∉ (s.heap.get S).names → D.get? name = none) := by
  obtain ⟨c, hc, hget⟩ := Resolver.run_collect (d := .empty) hread
  have hkeys (name : String) : name ∈ c.keys ↔ name ∈ (s.heap.get S).names := by
    rw [Dict.mem_keys_iff, hget]
    split <;> simp [*]
  have hentries (e : String × Value) (he : e ∈ c.entries) : e.2 = f e.1 ∧ ∃ t, s.heap.Worded t (f e.1) := by
    have hname := (hkeys e.1).mp (List.mem_map_of_mem he)
    have hvalue := Dict.get?_of_mem he
    rw [hget, if_pos hname] at hvalue
    exact ⟨(Option.some.inj hvalue).symm, hworded e.1 hname⟩
  obtain ⟨D, H, hD, hadds, hdescribed⟩ := run_describeEntries (d := .empty) hb (.refl _) hentries
  have hall : ExceptT.run (b.resolver.describe (.record src)) s = (.ok c, s) := by
    rw [Resolver.describe, Op.run_bind_of_ok (Resolver.run_names_fixed hcell), hc]
  refine ⟨D, H, ?_, hadds, fun name => ?_⟩
  · rw [describe, Op.run_bind_of_ok hall, hD]
  · rw [← hkeys name]
    exact hdescribed name

end Binder

end Describing

/-! ### Populating -/

namespace Binder
variable {b : Binder} {config : RegistryConfig} {H₀ H : Heap} {s : State G} {dst : Handle .record} {S : Handle .schema}
  {d : Dict Value} {f : String → Value} {t : Ty} {v w : Value} {p : Property}

/-- The text of a value is converted to a copy of the value. -/
theorem exists_convertInput_of_describes (hb : b.registry = (Registry.withConfig config H₀).1) (hv : H.Worded t v)
    (hd : H.Describes s.heap v w) : ∃ u H', ExceptT.run (b.convertInput w t true) s = (.ok u, { s with heap := H' }) ∧
      s.heap.OnlyAdds H' ∧ H'.Fits G t u ∧ H.Copies H' v u ∧ H'.Live u := by
  cases hv with
  | null ht hp =>
    cases hd with
    | null =>
      refine ⟨.null, s.heap, ?_, .refl _, Heap.fits_null hp, .refl _ _ _, trivial⟩
      simp only [convertInput]
      rw [Op.run_bind_of_ok (Op.run_read s _)]
      simp only [convertFor, hp]
      rfl
    | scalar _ hnull => exact absurd rfl hnull
  | scalar ht hv =>
    have hlive := (Heap.Worded.scalar ht hv).live
    cases hd with
    | null => exact absurd rfl (Heap.ne_null_of_typeOf (Ty.isScalar_of_isWorded ht) hv)
    | scalar hscalar =>
      have hkind : s.heap.typeOf v = t.kind := (Heap.typeOf_of_isScalar hscalar).trans hv
      have htext : b.registry.convertText G t v.scalarText s.heap = .ok (v, s.heap) := by
        rw [hb]
        exact Registry.convertText_scalarText ht hkind
      refine ⟨v, s.heap, run_convertInput_text (Ty.isArray_of_isWorded ht) htext, .refl _,
        Heap.fits_of_typeOf (Ty.isScalar_of_isWorded ht) hkind, .refl _ _ _, ?_⟩
      cases v <;> trivial
    | array => cases Heap.isScalar_of_typeOf (Ty.isScalar_of_isWorded ht) hv
  | @array c a hc ha hcomponent hitems =>
    cases hd with
    | scalar h => cases h
    | @array _ a' _ htexts =>
      have hget : s.heap.texts? (.array a') = some ((H.get a).items.map fun v => .text v.scalarText) := by
        simp [Heap.texts?, htexts]
      have hlist := s.heap.get_alloc_self (k := .list) ((H.get a).items.map fun v => .text v.scalarText)
      have hkinds (H' : Heap) : ∀ x ∈ (H.get a).items, H'.typeOf x = c.kind := fun x hx =>
        (Heap.typeOf_of_isScalar (Heap.isScalar_of_typeOf (Ty.isScalar_of_isWorded hc) (hitems x hx))).trans
          (hitems x hx)
      have hconvert := hb ▸ Registry.convert_listOfTexts (G := G) hc (hkinds _) hlist
      refine ⟨_, _, run_convertInput_texts hget hconvert, (s.heap.onlyAdds_alloc (k := .list) _).trans
        (Heap.onlyAdds_alloc (k := .array) _ ⟨c, (H.get a).items⟩), Heap.fits_newArray c _,
        Or.inr ⟨a, _, rfl, rfl, ?_⟩, Heap.has_alloc (k := .array) _⟩
      exact (Heap.get_alloc_self (k := .array) _ _).trans (by rw [← hcomponent])

/-- Each entry is converted back and stored, and nothing else is written. -/
theorem run_setEntries (hb : b.registry = (Registry.withConfig config H₀).1)
    (hworded : ∀ name p, (H.get S).property? name = some p → Path.IsSimple name ∧ H.Worded p.ty (f name)) :
    ∀ {es : List (String × Value)} {d : Dict Value} {s : State G}, s.heap.get dst = .fixed S d → s.heap.Has dst →
      s.heap.Has S → s.heap.get S = H.get S →
      (∀ e ∈ es, (H.get S).declares e.1 = true ∧ H.Describes s.heap (f e.1) e.2) →
      ∃ s' d', ExceptT.run (b.setEntries (.record dst) es) s = (.ok (), s') ∧ s.heap.ChangesOnly dst s'.heap ∧
        s'.heap.get dst = .fixed S d' ∧
        ∀ name, (name ∈ es.map Prod.fst → ∃ u, d'.get? name = some u ∧ H.Copies s'.heap (f name) u ∧ s'.heap.Live u) ∧
          (name ∉ es.map Prod.fst → d'.get? name = d.get? name)
  | [], d, s, hcell, _, _, _, _ =>
    ⟨s, d, rfl, (Heap.OnlyAdds.refl _).changesOnly dst, hcell, fun name => ⟨nofun, fun _ => rfl⟩⟩
  | (n, w) :: es, d, s, hcell, hrecord, hschema, hsame, hes => by
    obtain ⟨hdeclared, hdescribes⟩ := hes (n, w) List.mem_cons_self
    obtain ⟨p, hp⟩ := Schema.declares_iff_exists.mp hdeclared
    obtain ⟨hname, hv⟩ := hworded n p hp
    obtain ⟨u, H₁, hconvert, hadds, hfits, hcopies, hlive⟩ := exists_convertInput_of_describes hb hv hdescribes
    have hset := run_setProperty_of_convertInput hname hcell hrecord hschema (hsame ▸ hp)
      (Ty.ne_any_of_isDescribable hv.isDescribable) hconvert hadds hfits.coerce
    have hset₁ := H₁.changesOnly_set dst (.fixed S (d.insert n u))
    have hchanges := (hadds.changesOnly dst).trans hset₁
    obtain ⟨s', d', hrest, hchanges', hcell', hget⟩ := run_setEntries
      (s := { s with heap := H₁.set dst (.fixed S (d.insert n u)) }) hb hworded (H₁.get_set_self (k := .record) dst _)
      (hchanges.has hrecord) (hchanges.has hschema) ((hchanges.schema hschema).trans hsame) fun e he => by
        obtain ⟨hdeclared, hdescribes⟩ := hes e (List.mem_cons_of_mem _ he)
        exact ⟨hdeclared, hchanges.describes hdescribes⟩
    refine ⟨s', d', ?_, hchanges.trans hchanges', hcell', Dict.put_cons hget fun hget => ⟨u, hget, ?_, ?_⟩⟩
    · rw [setEntries, Op.run_bind_of_ok (Resolver.run_unlessMissing hset), hrest]
    -- The copy is an array at most, and only the record is written after it.
    · exact hchanges'.copies (hset₁.keepsTypes.live hlive) (hset₁.copies hlive hcopies)
    · exact hchanges'.keepsTypes.live (hset₁.keepsTypes.live hlive)

/-- A record of the same schema shows copies of what was described, and no other cell is written. -/
theorem run_populate_describe {src : Handle .record} {d₀ : Dict Value}
    (hb : b.registry = (Registry.withConfig config H₀).1) (hsrc : s.heap.get src = .fixed S d₀)
    (hdst : s.heap.get dst = .fixed S d) (hrecord : s.heap.Has dst)
    (hschema : s.heap.Has S) (hworded : ∀ name p, (s.heap.get S).property? name = some p →
      Path.IsSimple name ∧ s.heap.Worded p.ty (FixedRecord.shown d₀ p)) :
    ∃ D s' s'', ExceptT.run (b.describe (.record src)) s = (.ok D, s') ∧
      ExceptT.run (b.populate (.record dst) D) s' = (.ok (), s'') ∧ s.heap.ChangesOnly dst s''.heap ∧
      ∀ name p, (s.heap.get S).property? name = some p → ∃ u,
        ExceptT.run (Record.read dst name) s'' = (.ok u, s'') ∧ s.heap.Copies s''.heap (FixedRecord.shown d₀ p) u := by
  let f (name : String) : Value := ((s.heap.get S).property? name).elim .null (FixedRecord.shown d₀)
  have hf {name : String} {p : Property} (hp : (s.heap.get S).property? name = some p) :
      f name = FixedRecord.shown d₀ p := by
    simp only [f, hp, Option.elim_some]
  have hshown (name : String) (p : Property) (hp : (s.heap.get S).property? name = some p) :
      Path.IsSimple name ∧ s.heap.Worded p.ty (f name) := (hf hp).symm ▸ hworded name p hp
  obtain ⟨D, H, hdescribe, hadds, hD⟩ := run_describe (f := f) hb hsrc
    (fun name hname => by
      obtain ⟨p, hp⟩ := Schema.mem_names_iff.mp hname
      rw [FixedRecord.run_read hsrc hp, hf hp])
    (fun name hname => by
      obtain ⟨p, hp⟩ := Schema.mem_names_iff.mp hname
      exact ⟨p.ty, (hshown name p hp).2⟩)
  have hentries (e : String × Value) (he : e ∈ D.entries) :
      (s.heap.get S).declares e.1 = true ∧ s.heap.Describes H (f e.1) e.2 := by
    have hvalue := Dict.get?_of_mem he
    by_cases hname : e.1 ∈ (s.heap.get S).names
    · obtain ⟨w, hw, hdescribes⟩ := (hD e.1).1 hname
      cases hw.symm.trans hvalue
      exact ⟨Schema.declares_iff.mpr hname, hdescribes⟩
    · cases ((hD e.1).2 hname).symm.trans hvalue
  obtain ⟨s'', d', hset, hchanges, hcell, hd'⟩ := run_setEntries (s := { s with heap := H }) hb hshown
    ((hadds.same hrecord).trans hdst) (hadds.has hrecord) (hadds.has hschema) (hadds.same hschema) hentries
  have hall := (hadds.changesOnly dst).trans hchanges
  refine ⟨D, _, s'', hdescribe, hset, hall, fun name p hp => ?_⟩
  have hkey : name ∈ D.keys := by
    obtain ⟨w, hw, -⟩ := (hD name).1 (Schema.mem_names_iff.mpr ⟨p, hp⟩)
    exact Dict.mem_keys_iff.mpr ⟨w, hw⟩
  obtain ⟨u, hu, hcopies, -⟩ := (hd' name).1 hkey
  rw [hf hp] at hcopies
  obtain rfl := Schema.name_of_property? hp
  have hnull (hu : u = .null) : p.ty.isPrimitive = false := by
    by_contra hprimitive
    exact hcopies.ne_null ((hworded _ p hp).2.ne_null (by simpa using hprimitive)) hu
  have hp' : (s''.heap.get S).property? p.name = some p := (hall.schema hschema).symm ▸ hp
  refine ⟨u, ?_, hcopies⟩
  rw [FixedRecord.run_read hcell hp', FixedRecord.shown_of_get? hu hnull]

/-- Whatever a program has written to a new fixed record of scalars that texts can say, and of arrays with just
such elements, describing the record and writing the description to a record of the same schema succeeds with any
converters.  Then the other record shows equal values, and nothing else has been written. -/
theorem populate_describe (config : RegistryConfig) (H₀ : Heap) (b : Binder)
    (hb : b.registry = (Registry.withConfig config H₀).1) (s₀ : State G) (S : Handle .schema) (hS : s₀.heap.Has S)
    (hproperties : ∀ p ∈ (s₀.heap.get S).properties, Path.IsSimple p.name ∧ p.ty.isDescribable = true) :
    ∃ src s₁, ExceptT.run (Record.newFixed S : Op G (Handle .record)) s₀ = (.ok src, s₁) ∧
    ∀ s, Relation.ReflTransGen (FixedRecord.Step src) s₁ s →
      (∀ name a, ExceptT.run (Record.read src name) s = (.ok (.array a), s) →
        ∀ x ∈ (s.heap.get a).items, s.heap.typeOf x = (s.heap.get a).component.kind) →
    ∀ (dst : Handle .record) (d : Dict Value), s.heap.Has dst → s.heap.get dst = .fixed S d →
    ∃ D s' s'', ExceptT.run (b.describe (.record src)) s = (.ok D, s') ∧
      ExceptT.run (b.populate (.record dst) D) s' = (.ok (), s'') ∧ s.heap.ChangesOnly dst s''.heap ∧
      ∀ name ∈ (s₀.heap.get S).names, ∃ v u w, ExceptT.run (Record.read src name) s = (.ok v, s) ∧
        ExceptT.run (Record.read src name) s'' = (.ok u, s'') ∧ ExceptT.run (Record.read dst name) s'' = (.ok w, s'') ∧
        s''.heap.same w u = true ∧ s''.heap.same w v = true := by
  obtain ⟨src, s₁, hnew, hadds, htyped⟩ := FixedRecord.run_newFixed hS
  refine ⟨src, s₁, hnew, fun s hrun harrays dst d hrecord hdst => ?_⟩
  obtain ⟨⟨d₀, hd₀⟩, hsame⟩ := FixedRecord.typed_of_run hrun htyped
  rw [hadds.same hS] at hsame
  have hproperty (name : String) : (s.heap.get S).property? name = (s₀.heap.get S).property? name :=
    Schema.property?_congr hsame name
  have hworded (name : String) (p : Property) (hp : (s.heap.get S).property? name = some p) :
      Path.IsSimple name ∧ s.heap.Worded p.ty (FixedRecord.shown d₀ p) := by
    obtain ⟨hname, hty⟩ := hproperties p (hsame ▸ Schema.mem_of_property? hp)
    obtain ⟨hfits, hlive⟩ := hd₀.shown hp
    refine ⟨Schema.name_of_property? hp ▸ hname, .of_fits hty hfits hlive fun a ha => harrays name a ?_⟩
    rw [FixedRecord.run_read hd₀.cell hp, ha]
  obtain ⟨D, s', s'', hdescribe, hpopulate, hchanges, hshown⟩ :=
    run_populate_describe hb hd₀.cell hdst hrecord hd₀.hasSchema hworded
  refine ⟨D, s', s'', hdescribe, hpopulate, hchanges, fun name hname => ?_⟩
  obtain ⟨p, hp⟩ := Schema.mem_names_iff.mp hname
  rw [← hproperty] at hp
  obtain ⟨w, hw, hcopies⟩ := hshown name p hp
  have harray (a : Handle .array) (ha : s.heap.Has a) : s''.heap.get a = s.heap.get a :=
    hchanges.array ha
  have hequal {u : Value} (hu : s.heap.Copies s''.heap (FixedRecord.shown d₀ p) u) :=
    Heap.same_of_copies (hworded name p hp).2 harray hcopies hu
  by_cases heq : src = dst
  · subst heq
    exact ⟨_, w, w, FixedRecord.run_read hd₀.cell hp, hw, hw, hequal hcopies, hequal (.refl _ _ _)⟩
  · have hcell := (hchanges.record heq hd₀.hasCell).trans hd₀.cell
    have hp' : (s''.heap.get S).property? name = some p := (hchanges.schema hd₀.hasSchema).symm ▸ hp
    exact ⟨_, _, w, FixedRecord.run_read hd₀.cell hp, FixedRecord.run_read hcell hp', hw, hequal (.refl _ _ _),
      hequal (.refl _ _ _)⟩

/-- An array of two texts, and a record of a schema of three properties that holds nothing. -/
def emptyRow : State .empty where
  heap := ⟨.empty, ⟨#[⟨.text, [.text "\x7ba,b\x7d", .text ""]⟩]⟩, .empty, .empty, ⟨#[.fixed ⟨0⟩ .empty]⟩,
    ⟨#[.ofProperties "Row" [⟨"id", .primitive (.int .w64), none⟩, ⟨"name", .text, none⟩, ⟨"tags", .array .text, none⟩]]⟩⟩
  caches := .empty

/-- A strict registry brings back an integer, null, and texts that look like a list of texts. -/
theorem populate_describe_row : ∃ (b : Binder) (s : State .empty) (src dst : Handle .record) (a : Handle .array),
    b.registry = (Registry.withConfig ⟨true, false, 0⟩ .empty).1 ∧
    s.heap.get a = ⟨.text, [.text "\x7ba,b\x7d", .text ""]⟩ ∧
    ExceptT.run (Record.read src "tags") s = (.ok (.array a), s) ∧
    ∃ D s' s'', ExceptT.run (b.describe (.record src)) s = (.ok D, s') ∧
      ExceptT.run (b.populate (.record dst) D) s' = (.ok (), s'') ∧
      ∀ name ∈ ["id", "name", "tags"], ∃ v w, ExceptT.run (Record.read src name) s'' = (.ok v, s'') ∧
        ExceptT.run (Record.read dst name) s'' = (.ok w, s'') ∧ s''.heap.same w v = true := by
  obtain ⟨src, s₁, hnew, hall⟩ := populate_describe ⟨true, false, 0⟩ .empty
    ⟨⟨0⟩, (Registry.withConfig ⟨true, false, 0⟩ .empty).1⟩ rfl emptyRow ⟨0⟩ Nat.zero_lt_one (by decide)
  cases hnew
  let nine : Value := .int .w64 ⟨9, by decide⟩
  let src : Handle .record := ⟨1⟩
  let H₁ := (emptyRow.heap.alloc .record (.fixed ⟨0⟩ .empty)).2
  let H₂ := H₁.set src (.fixed ⟨0⟩ (Dict.empty.insert "id" nine))
  let d : Dict Value := (Dict.empty.insert "id" nine).insert "tags" (.array ⟨0⟩)
  let H₃ := H₂.set src (.fixed ⟨0⟩ d)
  have hcell₂ : H₂.get src = Record.fixed ⟨0⟩ (Dict.empty.insert "id" nine) := H₁.get_set_self (k := .record) src _
  have hwrite₁ : ExceptT.run (Record.write src "id" nine : Op .empty Unit) ⟨H₁, .empty⟩ = (.ok (), ⟨H₂, .empty⟩) :=
    FixedRecord.run_write (p := ⟨"id", .primitive (.int .w64), none⟩) rfl rfl rfl
  have hwrite₂ : ExceptT.run (Record.write src "tags" (.array ⟨0⟩) : Op .empty Unit) ⟨H₂, .empty⟩ =
      (.ok (), ⟨H₃, .empty⟩) := FixedRecord.run_write (p := ⟨"tags", .array .text, none⟩) hcell₂ rfl rfl
  have hrun := (Relation.ReflTransGen.single (FixedRecord.Step.of_run_write hwrite₁ trivial)).tail
    (FixedRecord.Step.of_run_write hwrite₂ (Nat.zero_lt_one : H₂.Has (⟨0⟩ : Handle .array)))
  have hcell₃ := H₂.get_set_self (k := .record) src (.fixed ⟨0⟩ d)
  have hread : ExceptT.run (Record.read src "tags" : Op .empty Value) ⟨H₃, .empty⟩ = (.ok (.array ⟨0⟩), ⟨H₃, .empty⟩) :=
    FixedRecord.run_read (d := d) (p := ⟨"tags", .array .text, none⟩) hcell₃ rfl
  have hexact (a : Handle .array) : ∀ x ∈ (H₃.get a).items, H₃.typeOf x = (H₃.get a).component.kind := by
    obtain ⟨i⟩ := a
    cases i with
    | zero =>
      intro x hx
      rcases List.mem_cons.mp hx with rfl | hx
      · rfl
      · obtain rfl := List.mem_singleton.mp hx
        rfl
    | succ i =>
      have hnone : emptyRow.heap.arrays.get (i + 1) = default := by simp [Table.get, emptyRow]
      intro x hx
      change x ∈ (emptyRow.heap.arrays.get (i + 1)).items at hx
      rw [hnone] at hx
      cases hx
  obtain ⟨D, s', s'', hdescribe, hpopulate, -, hshown⟩ :=
    hall _ hrun (fun _ a _ => hexact a) ⟨0⟩ .empty Nat.zero_lt_two rfl
  refine ⟨_, _, src, ⟨0⟩, ⟨0⟩, rfl, ?_, hread, D, s', s'', hdescribe, hpopulate, fun name hname => ?_⟩
  · rfl
  · obtain ⟨_, v, w, -, hv, hw, hsame, -⟩ := hshown name hname
    exact ⟨v, w, hv, hw, hsame⟩

end Binder

end ObjectGraph
