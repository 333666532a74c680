import ObjectGraph.Proofs.Access.Finding

/-!
Paths that are followed twice.  In a graph without objects, in which records store what they declare, the owner of the
property at a path is found again where it has been found or made before, and nothing is changed by looking for it
again.  What one segment makes disturbs nothing that another one finds: containers stay where they are, and an array
that has been replaced lives on in a longer copy.
-/

namespace ObjectGraph

open Op

/-- Whether a record stores what it declares: no adapter, with a schema that is there; only properties that are lists or
maps name the type of what is in them, and what is stored under the name of a property is accepted by its type. -/
structure Record.Accords (G : ClassGraph) (H : Heap) (h : Handle .record) : Prop where
  schema : H.Has (H.get h).schema
  content : ∀ {name p}, property? h name H = some p → p.content ≠ none → p.ty = .list ∨ p.ty = .map
  accepted : ∀ {d name p v}, H.stored? h = some d → property? h name H = some p → d.get? name = some v → v ≠ .null →
    H.accepts G p.ty v = true

/-- What a property of a fixed record is read as is stored, or a scalar that stands for nothing. -/
theorem FixedRecord.read_eq_ok {S : Schema} {d : Dict Value} {name : String} {c : Value} (h : read S d name = .ok c) :
    d.get? name = some c ∨ c.isScalar = true := by
  obtain ⟨p, -, hread⟩ := bind_eq_ok.mp h
  obtain rfl := Except.ok.inj hread
  split
  · exact .inr (Ty.isScalar_zero p.ty)
  · rename_i hnull
    cases hget : d.get? name with
    | none =>
      rw [hget] at hnull
      exact absurd rfl hnull
    | some v => exact .inl rfl

namespace Heap
variable {G : ClassGraph} {H H' : Heap} {t u v c : Value} {seg : Segment} {sub : Subscript} {name : String}

/-- Whether a value is there, and is no object and no record that stores anything else than it declares. -/
def IsOrderly (G : ClassGraph) (H : Heap) (v : Value) : Prop :=
  H.Live v ∧
    match v with
    | .object _ => False
    | .record h => Record.Accords G H h
    | _ => True

/-- Whether a value and all that it holds, directly or through others, are orderly. -/
def Orderly (G : ClassGraph) (H : Heap) (v : Value) : Prop := ∀ u, H.Reaches v u → H.IsOrderly G u

theorem Orderly.of_reaches (h : H.Orderly G v) (hu : H.Reaches v u) : H.Orderly G u := fun _ hw => h _ (hu.trans hw)

theorem orderly_of_isScalar (h : v.isScalar = true) : H.Orderly G v := by
  intro u hu
  obtain rfl | ⟨w, hw, -⟩ := hu.cases_head
  · cases v <;> first | exact ⟨trivial, trivial⟩ | cases h
  · have hheld := Spans.held_of_scalar (H := H) h
    rw [hheld] at hw
    cases hw

/-! ### What is found is held -/

theorem Yields.reaches (h : H.Yields c sub u) : H.Reaches c u := by
  cases h with
  | itself => exact .refl
  | element hc hi => exact .single (mem_held_of_items? hc (List.mem_of_getElem? hi))
  | entry hc hk =>
    have hmem := List.mem_map_of_mem (f := Prod.snd) (Dict.mem_of_get? hk)
    cases c with
    | map m =>
      cases hc
      exact .single hmem
    | object o =>
      refine .single (List.mem_append_right _ ?_)
      rw [show (H.get o).storage = some _ from hc]
      exact hmem
    | _ => cases hc

/-- What a record stores is held by it, or by the map that it is over. -/
theorem reaches_of_stored {h : Handle .record} {d : Dict Value} (hd : H.stored? h = some d)
    (hc : d.get? name = some c) : H.Reaches (.record h) c := by
  have hmem := List.mem_map_of_mem (f := Prod.snd) (Dict.mem_of_get? hc)
  unfold stored? at hd
  split at hd
  · rename_i hcell
    cases hd
    exact .single (by rwa [held, hcell])
  · rename_i hcell
    cases hd
    exact .single (by rwa [held, hcell])
  · rename_i m hcell
    cases hd
    have hmap : Value.map m ∈ H.held (.record h) := by
      rw [held, hcell]
      exact List.mem_singleton_self _
    exact .head hmap (.single (show c ∈ H.held (.map m) from hmem))
  · cases hd

theorem stored?_growing {h : Handle .record} {S : Handle .schema} {store : Store} (hcell : H.get h = .growing S store) :
    H.stored? h = some ((GrowingRecord.ofStore h S store).values H) := by
  cases store with
  | own d => simp only [stored?, hcell, GrowingRecord.values, GrowingRecord.ofStore, Option.getD_some]
  | shared m => simp only [stored?, hcell, GrowingRecord.values, GrowingRecord.ofStore]

theorem property?_growing {h : Handle .record} {S : Handle .schema} {store : Store}
    (hcell : H.get h = .growing S store) (name : String) :
    Record.property? h name H = (GrowingRecord.ofStore h S store).property? name H := by
  rw [Record.property?, hcell]

/-- What is found is orderly as well. -/
theorem Finds.orderly (ht : H.Orderly G t) (h : H.Finds t seg u) : H.Orderly G u := by
  have hyields {c : Value} (hc : H.Reaches t c) (hu : H.Yields c seg.subscript u) : H.Orderly G u :=
    ht.of_reaches (hc.trans hu.reaches)
  cases h with
  | @growing h S store seg u hcell hu =>
    exact hyields (reaches_of_stored (stored?_growing hcell) (GrowingRecord.get?_of_stored hu.ne_null)) hu.yields
  | @fixed h S d name sub c u hcell hread hu =>
    rcases FixedRecord.read_eq_ok hread with hget | hscalar
    · exact hyields (reaches_of_stored (by rw [stored?, hcell]) hget) hu
    · cases hu with
      | itself => exact orderly_of_isScalar hscalar
      | element hc hi => cases c <;> first | cases hscalar; done | cases hc
      | entry hc hk => cases c <;> first | cases hscalar; done | cases hc
  | map hget hname hu => exact hyields (.single (List.mem_map_of_mem (Dict.mem_of_get? hget))) hu
  | own ht' hsub hu => exact hyields .refl hu

theorem Orderly.isIn {h : Handle .record} {S : Handle .schema} {store : Store} (ht : H.Orderly G (.record h))
    (hcell : H.get h = .growing S store) : (GrowingRecord.ofStore h S store).IsIn H := by
  obtain ⟨hh, haccords⟩ := ht _ .refl
  have hS := haccords.schema
  rw [hcell] at hS
  refine (GrowingRecord.isIn_ofStore hcell hh hS ?_).1
  rintro m rfl
  refine (ht (.map m) (.single ?_)).1
  rw [held, hcell]
  exact List.mem_singleton_self _

theorem Orderly.not_adapter {h : Handle .record} {S : Handle .schema} {o : Handle .object} {r : Resolver}
    (ht : H.Orderly G (.record h)) : H.get h ≠ .adapter S o r := by
  intro hcell
  refine (ht (.object o) (.single ?_)).2
  rw [held, hcell]
  exact List.mem_singleton_self _

theorem Orderly.objectless (ht : H.Orderly G t) : H.Objectless t := by
  cases t with
  | object o => exact (ht _ .refl).2
  | record h =>
    cases hcell : H.get h with
    | fixed S d => exact objectless_fixed hcell
    | growing S store => exact (objectless_growing hcell).mpr (ht.isIn hcell)
    | adapter S o r' => exact absurd hcell ht.not_adapter
  | _ => trivial

/-- Whether a value has stayed, or is an array of which a longer copy has taken the place. -/
def Lasts (H H' : Heap) (v w : Value) : Prop :=
  w = v ∨ ∃ a b more, v = .array a ∧ w = .array b ∧ H'.get b = { H.get a with items := (H.get a).items ++ more }

theorem Lasts.ne_null (h : H.Lasts H' v u) (hv : v ≠ .null) : u ≠ .null := by
  rcases h with rfl | ⟨a, b, more, -, rfl, -⟩
  · exact hv
  · nofun

theorem Lasts.eq_of_not_array (h : H.Lasts H' v u) (hv : ∀ a, v ≠ .array a) : u = v :=
  h.resolve_right fun ⟨a, _, _, ha, _⟩ => hv a ha

end Heap

/-! ### What is found is found again -/

/-- One growing record stands in a cell. -/
theorem GrowingRecord.IsIn.eq_of_cell {g k : GrowingRecord} {H : Heap} (hg : g.IsIn H) (hk : k.IsIn H)
    (h : g.cell = k.cell) : k = g := by
  obtain ⟨store, hcell, hstore⟩ := hg.cell
  obtain ⟨store', hcell', hstore'⟩ := hk.cell
  rw [h] at hcell hstore
  obtain ⟨hschema, rfl⟩ := Record.growing.inj (hcell.symm.trans hcell')
  rw [hschema] at hstore
  exact hstore'.symm.trans hstore

namespace GrowingRecord.Readies
variable {G : ClassGraph} {g k : GrowingRecord} {H H' : Heap} {n name : String} {p : Property} {t t' u c c' : Value}
  {seg : Segment} {sub : Subscript} (hr : g.Readies n H H')
include hr

/-- Elements are only added behind those that there were. -/
theorem items_lasts {items : List Value} (hc : H.Live c) (hlasts : H.Lasts H' c c') (hitems : H.items? c = some items) :
    ∃ more, H'.items? c' = some (items ++ more) := by
  rcases hlasts with rfl | ⟨a, b, more, rfl, rfl, hcell⟩
  · cases c' with
    | list l =>
      cases hitems
      rcases hr.list hc with hsame | ⟨-, count, hmore⟩
      · exact ⟨[], congrArg some (hsame.trans (List.append_nil _).symm)⟩
      · exact ⟨_, congrArg some hmore⟩
    | array a =>
      cases hitems
      have hsame : H'.get a = H.get a := hr.same nofun hc id
      exact ⟨[], congrArg some ((congrArg TypedArray.items hsame).trans (List.append_nil _).symm)⟩
    | _ => cases hitems
  · cases hitems
    exact ⟨more, congrArg some (congrArg TypedArray.items hcell)⟩

/-- Another growing record stands where it stood. -/
theorem isIn_of_isIn (hin : g.IsIn H) (hk : k.IsIn H) : k.IsIn H' := by
  by_cases hcell : k.cell = g.cell
  · rw [hin.eq_of_cell hk hcell.symm]
    exact hr.isIn
  · refine ⟨?_, hr.has hk.hasCell, hr.has hk.hasSchema, fun m hm => hr.has (hk.hasShared m hm)⟩
    obtain ⟨store, hstore, hsame⟩ := hk.cell
    exact ⟨store, (hr.same (k := .record) nofun hk.hasCell hcell).trans hstore, hsame⟩

variable (hp : g.property? n H = some p)
include hp

theorem schema_eq : H'.get g.schema = H.get g.schema := by
  rcases hr.schema with hsame | ⟨hnone, -⟩
  · exact hsame
  · cases hnone.symm.trans hp

theorem stored_lasts (hc : g.stored name H ≠ .null) : H.Lasts H' (g.stored name H) (g.stored name H') := by
  by_cases hname : name = n
  · subst hname
    exact hr.held ⟨hp, rfl, hc⟩
  · exact .inl (by rw [stored, stored, hr.others hname])

theorem get?_lasts (hget : (g.values H).get? name = some c) (hc : c ≠ .null) :
    ∃ c', (g.values H').get? name = some c' ∧ H.Lasts H' c c' := by
  have hstored : g.stored name H = c := by rw [stored, hget, Option.getD_some]
  have hlasts := hr.stored_lasts hp (hstored.symm ▸ hc)
  rw [hstored] at hlasts
  exact ⟨_, get?_of_stored (hlasts.ne_null hc), hlasts⟩

/-- A map is as it was, or the one that the record is over. -/
theorem map_lasts {m : Handle .map} (hm : H.Has m) (hget : (H.get m).get? name = some c) (hc : c ≠ .null) :
    ∃ c', (H'.get m).get? name = some c' ∧ H.Lasts H' c c' := by
  by_cases hown : g.shared = some m
  · rw [← values_of_shared hown] at hget ⊢
    exact hr.get?_lasts hp hget hc
  · rw [hr.same (k := .map) nofun hm hown]
    exact ⟨c, hget, .inl rfl⟩

theorem yields_lasts (hc : H.IsOrderly G c) (hlasts : H.Lasts H' c c') (h : H.Yields c sub u) (hu : u ≠ .null) :
    ∃ u', H'.Yields c' sub u' ∧ H.Lasts H' u u' := by
  cases h with
  | itself => exact ⟨c', .itself, hlasts⟩
  | element hitems hi =>
    obtain ⟨more, hitems'⟩ := hr.items_lasts hc.1 hlasts hitems
    have hlt := (List.getElem?_eq_some_iff.mp hi).1
    exact ⟨u, .element hitems' ((List.getElem?_append_left hlt).trans hi), .inl rfl⟩
  | entry hentries hk =>
    cases c with
    | map m =>
      cases hentries
      obtain ⟨u', hu', hlasts'⟩ := hr.map_lasts hp hc.1 hk hu
      rcases hlasts with rfl | ⟨_, _, _, ⟨⟩, -⟩
      exact ⟨u', .entry rfl hu', hlasts'⟩
    | object o => exact hc.2.elim
    | _ => cases hentries

theorem schema_same {S : Handle .schema} (hS : H.Has S) : H'.get S = H.get S := by
  by_cases hown : S = g.schema
  · rw [hown]
    exact hr.schema_eq hp
  · exact hr.same (k := .schema) nofun hS hown

section
variable (hin : g.IsIn H) (hk : k.IsIn H)
include hin hk

theorem values_lasts (hget : (k.values H).get? name = some c) (hc : c ≠ .null) :
    ∃ c', (k.values H').get? name = some c' ∧ H.Lasts H' c c' := by
  by_cases hcell : k.cell = g.cell
  · rw [hin.eq_of_cell hk hcell.symm] at hget ⊢
    exact hr.get?_lasts hp hget hc
  · cases hshared : k.shared with
    | none =>
      have hsame : H'.get k.cell = H.get k.cell := hr.same nofun hk.hasCell hcell
      obtain ⟨store, hstore, hk'⟩ := hk.cell
      have hvalues : k.values H' = k.values H := by
        cases store with
        | own d => rw [values_of_cell hshared hstore, values_of_cell hshared (hsame.trans hstore)]
        | shared m => cases hshared.symm.trans (congrArg GrowingRecord.shared hk').symm
      rw [hvalues]
      exact ⟨c, hget, .inl rfl⟩
    | some m =>
      rw [values_of_shared hshared] at hget ⊢
      exact hr.map_lasts hp (hk.hasShared m hshared) hget hc

theorem property?_lasts {q : Property} (hget : (k.values H).get? name = some c) (hc : c ≠ .null)
    (hq : k.property? name H = some q) : k.property? name H' = some q := by
  obtain ⟨c', hget', -⟩ := hr.values_lasts hp hin hk hget hc
  rw [property?, hr.schema_same hp hk.hasSchema]
  rw [property?] at hq
  cases hdeclared : (H.get k.schema).property? name with
  | some q' =>
    rw [hdeclared] at hq
    exact hq
  | none =>
    rw [hdeclared] at hq
    simpa only [Dict.contains, hget, hget', Option.isSome_some] using hq

theorem growing_lasts (horderly : H.IsOrderly G (k.stored seg.name H)) (h : k.Finds H seg u) (hu : u ≠ .null) :
    ∃ u', k.Finds H' seg u' ∧ H.Lasts H' u u' := by
  have hget := get?_of_stored h.ne_null
  obtain ⟨c, hget', hlasts⟩ := hr.values_lasts hp hin hk hget h.ne_null
  have hstored : k.stored seg.name H' = c := by rw [stored, hget', Option.getD_some]
  obtain ⟨u', hyields, hlasts'⟩ := hr.yields_lasts hp horderly hlasts h.yields hu
  refine ⟨u', ⟨hstored ▸ hlasts.ne_null h.ne_null, fun hsub => ?_, hstored ▸ hyields⟩, hlasts'⟩
  obtain ⟨q, hq⟩ := h.declared hsub
  exact ⟨q, hr.property?_lasts hp hin hk hget h.ne_null hq⟩

end

/-- What a segment finds it finds again, or a longer copy of the array that it has found. -/
theorem finds_lasts (hin : g.IsIn H) (ht : H.Orderly G t) (hlasts : H.Lasts H' t t') (h : H.Finds t seg u)
    (hu : u ≠ .null) : ∃ u', H'.Finds t' seg u' ∧ H.Lasts H' u u' := by
  have hself := ht t .refl
  cases h with
  | @growing h S store seg u hcell hfinds =>
    obtain rfl := hlasts.eq_of_not_array nofun
    have hk := ht.isIn hcell
    have hstored : H.Finds (.record h) ⟨seg.name, .none⟩ ((ofStore h S store).stored seg.name H) :=
      .growing hcell ⟨hfinds.ne_null, fun hsub => absurd rfl hsub, .itself⟩
    obtain ⟨u', hfinds', hlasts'⟩ := hr.growing_lasts hp hin hk (hstored.orderly ht _ .refl) hfinds hu
    obtain ⟨store', hcell', hsame⟩ := (hr.isIn_of_isIn hin hk).exists_store
    exact ⟨u', .growing hcell' (hsame ▸ hfinds'), hlasts'⟩
  | @fixed h S d name sub c u hcell hread hyields =>
    obtain rfl := hlasts.eq_of_not_array nofun
    have hother : h ≠ g.cell := by
      rintro rfl
      obtain ⟨store, hgrowing, -⟩ := hin.cell
      cases hcell.symm.trans hgrowing
    have hsame : H'.get h = H.get h := hr.same (k := .record) nofun hself.1 hother
    have hS := hself.2.schema
    rw [hcell] at hS
    have hfound : H.Finds (.record h) ⟨name, .none⟩ c := .fixed hcell hread .itself
    obtain ⟨u', hyields', hlasts'⟩ := hr.yields_lasts hp (hfound.orderly ht _ .refl) (.inl rfl) hyields hu
    exact ⟨u', .fixed (hsame.trans hcell) (by rw [hr.schema_same (S := S) hp hS, hread]) hyields', hlasts'⟩
  | @map m name sub c u hget hname hyields =>
    obtain rfl := hlasts.eq_of_not_array nofun
    have hc : c ≠ .null := by
      rintro rfl
      exact hu hyields.of_null
    have hfound : H.Finds (.map m) ⟨name, .none⟩ c := .map hget (fun hsub => absurd rfl hsub) .itself
    obtain ⟨c', hget', hlasts'⟩ := hr.map_lasts hp hself.1 hget hc
    obtain ⟨u', hyields', hlasts''⟩ := hr.yields_lasts hp (hfound.orderly ht _ .refl) hlasts' hyields hu
    exact ⟨u', .map hget' hname hyields', hlasts''⟩
  | own ht' hsub hyields =>
    obtain ⟨u', hyields', hlasts'⟩ := hr.yields_lasts hp hself hlasts hyields hu
    refine ⟨u', .own ?_ hsub hyields', hlasts'⟩
    rcases hlasts with rfl | ⟨a, b, -, -, rfl, -⟩
    · exact ht'
    · rfl

end GrowingRecord.Readies

namespace Heap

/-- Whether segments lead to a value, one after the other, through none that is null. -/
inductive Traces (H : Heap) : Value → List Segment → Value → Prop
  | nil {t : Value} : Traces H t [] t
  | cons {t u v : Value} {seg : Segment} {gs : List Segment} (h : H.Finds t seg u) (hu : u ≠ .null)
      (hrest : Traces H u gs v) : Traces H t (seg :: gs) v

namespace Traces
variable {G : ClassGraph} {H : Heap} {t u v : Value} {seg : Segment} {gs : List Segment}

theorem orderly (ht : H.Orderly G t) (h : H.Traces t gs u) : H.Orderly G u := by
  induction h with
  | nil => exact ht
  | cons h _ _ ih => exact ih (h.orderly ht)

theorem concat (h : H.Traces t gs u) (hfinds : H.Finds u seg v) (hv : v ≠ .null) : H.Traces t (gs ++ [seg]) v := by
  induction h with
  | nil => exact .cons hfinds hv .nil
  | cons h hu _ ih => exact .cons h hu (ih hfinds)

end Traces

end Heap

namespace GrowingRecord.Readies
variable {G : ClassGraph} {g : GrowingRecord} {H H' : Heap} {n : String} {p : Property} {t t' u : Value}
  {gs : List Segment}

theorem traces_lasts (hr : g.Readies n H H') (hp : g.property? n H = some p) (hin : g.IsIn H) (ht : H.Orderly G t)
    (hlasts : H.Lasts H' t t') (h : H.Traces t gs u) : ∃ u', H'.Traces t' gs u' ∧ H.Lasts H' u u' := by
  induction h generalizing t' with
  | nil => exact ⟨t', .nil, hlasts⟩
  | cons h hu _ ih =>
    obtain ⟨w, hfinds, hlasts'⟩ := hr.finds_lasts hp hin ht hlasts h hu
    obtain ⟨u', htraces, hlasts''⟩ := ih (h.orderly ht) hlasts'
    exact ⟨u', .cons hfinds (hlasts'.ne_null hu) htraces, hlasts''⟩

end GrowingRecord.Readies

namespace Resolver
variable {G : ClassGraph} {r : Resolver} {s s₁ : State G} {t u : Value} {full path : String} {seg : Segment}
  {passed gs : List Segment}

theorem run_walk_of_traces (h : s.heap.Traces t gs u) (ht : t ≠ .null) :
    ExceptT.run (r.walk full passed t gs : Op G Value) s = (.ok u, s) := by
  induction h generalizing passed with
  | nil => rfl
  | cons h hu _ ih =>
    rw [walk_cons (Value.isNull_eq_false_iff.mpr ht), run_bind_of_ok (run_readSegment_of_finds h), ih hu]

/-- Whether following segments has found what it answers, or has made it at the last one. -/
inductive Arrives (t : Value) (gs : List Segment) (u : Value) (s : State G) : State G → Prop
  | found (h : s.heap.Traces t gs u) : Arrives t gs u s s
  | made {s₁ : State G} {before : List Segment} {seg : Segment} {h : Handle .record} {S : Handle .schema}
      {store : Store} (hgs : gs = before ++ [seg]) (hbefore : s.heap.Traces t before (.record h))
      (hcell : s.heap.get h = .growing S store)
      (hmade : (GrowingRecord.ofStore h S store).Furnishes seg u s.heap s₁.heap) : Arrives t gs u s s₁

/-- Nothing but null comes of following segments from null. -/
theorem ne_null_of_run_walk (hrun : ExceptT.run (r.walk full passed t gs : Op G Value) s = (.ok u, s₁))
    (hu : u ≠ .null) : t ≠ .null := by
  rintro rfl
  cases gs with
  | nil =>
    cases hrun
    exact hu rfl
  | cons seg gs => cases (run_walk_cons_of_null rfl).symm.trans hrun

/-- Whether no object is come upon when segments are followed: none of them leads to one. -/
def MeetsNoObject (r : Resolver) (full : String) (passed : List Segment) (t : Value) (gs : List Segment) (s : State G) :
    Prop :=
  ∀ before, before <+: gs → ∀ u s₁, ExceptT.run (r.walk full passed t before : Op G Value) s = (.ok u, s₁) →
    ¬ u.IsObject

theorem MeetsNoObject.self (h : r.MeetsNoObject full passed t gs s) : ¬ t.IsObject :=
  h [] List.nil_prefix t s rfl

theorem MeetsNoObject.of_cons {next : Value} (h : r.MeetsNoObject full passed t (seg :: gs) s)
    (hnull : t.isNull = false) (hnext : ExceptT.run (r.readSegment t seg : Op G Value) s = (.ok next, s₁)) :
    r.MeetsNoObject full (passed ++ [seg]) next gs s₁ := by
  intro before hbefore u s₂ hrun
  refine h (seg :: before) (List.cons_prefix_cons.mpr ⟨rfl, hbefore⟩) u s₂ ?_
  rw [walk_cons hnull, run_bind_of_ok hnext, hrun]

theorem arrives_of_run_walk (ht : s.heap.Orderly G t) (hmeets : r.MeetsNoObject full passed t gs s)
    (hrun : ExceptT.run (r.walk full passed t gs : Op G Value) s = (.ok u, s₁)) (hu : u ≠ .null) :
    Arrives t gs u s s₁ := by
  induction gs generalizing passed t with
  | nil =>
    cases hrun
    exact .found .nil
  | cons seg gs ih =>
    have hnull := Value.isNull_eq_false_iff.mpr (ne_null_of_run_walk hrun hu)
    rw [walk_cons hnull, run_bind_eq_ok] at hrun
    obtain ⟨next, s₂, hnext, hrest⟩ := hrun
    have hne := ne_null_of_run_walk hrest hu
    rcases finds_or_furnishes ht.objectless hnext hne with ⟨hfinds, rfl⟩ | ⟨h, S, store, rfl, hcell, hmade⟩
    · cases ih (hfinds.orderly ht) (hmeets.of_cons hnull hnext) hrest with
      | found htraces => exact .found (.cons hfinds hne htraces)
      | made hgs hbefore hcell hmade =>
        rw [hgs]
        exact .made rfl (.cons hfinds hne hbefore) hcell hmade
    · cases gs with
      | nil =>
        cases hrest
        exact .made (List.nil_append [seg]).symm .nil hcell hmade
      | cons seg' gs =>
        -- What has been made is vacant, so there is no way on from it.
        rw [walk_cons (Value.isNull_eq_false_iff.mpr hne), run_bind_eq_ok] at hrest
        obtain ⟨w, s₃, hw, hrest⟩ := hrest
        have hobject := (hmeets.of_cons hnull hnext).self
        exact absurd (null_of_vacant hmade.vacant hobject hw) (ne_null_of_run_walk hrest hu)

/-- Where segments have led to, they lead again, and nothing more is changed. -/
theorem run_walk_again (ht : s.heap.Orderly G t) (hmeets : r.MeetsNoObject full passed t gs s)
    (hrun : ExceptT.run (r.walk full passed t gs : Op G Value) s = (.ok u, s₁)) (hu : u ≠ .null) :
    ExceptT.run (r.walk full passed t gs : Op G Value) s₁ = (.ok u, s₁) := by
  have hnull := ne_null_of_run_walk hrun hu
  cases arrives_of_run_walk ht hmeets hrun hu with
  | found h => exact hrun
  | @made s₁ before seg h S store hgs hbefore hcell hmade =>
    subst hgs
    obtain ⟨p, hp⟩ := hmade.declared
    have hin := (hbefore.orderly ht).isIn hcell
    obtain ⟨c, htraces, hlasts⟩ := hmade.readies.traces_lasts hp hin ht (.inl rfl) hbefore
    obtain rfl := hlasts.eq_of_not_array nofun
    obtain ⟨store', hcell', hsame⟩ := hmade.readies.isIn.exists_store
    exact run_walk_of_traces (htraces.concat (.growing hcell' (hsame ▸ hmade.finds)) hu) hnull

/-- Whether no object is come upon on the way to the owner of the property at a path. -/
def AvoidsObjects (r : Resolver) (t : Value) (path : String) (s : State G) : Prop :=
  ∀ p, Path.parse path = .ok p → r.MeetsNoObject path [] t p.parents s

/-- Where nothing holds objects and no type is one of objects, all paths avoid them. -/
theorem avoidsObjects_of_conforming (hs : s.heap.Conforming G) (ht : ¬ t.IsObject) (path : String) :
    r.AvoidsObjects t path s := by
  intro p _ before _ u s₁ hrun
  have hkeeps := keeps_walk (r := r) (Fence.encloses_self hs) (Fence.inside_aroundObjects.mpr ht) path [] before
  exact Fence.inside_aroundObjects.mp (hkeeps.answer (congrArg Prod.fst hrun))

/-- Where a property has an owner, looking for it again finds the same one and changes nothing more.  The owner has
been there before, or is a vacant one that has just been made. -/
theorem run_owner_again (ht : s.heap.Orderly G t) (havoids : r.AvoidsObjects t path s)
    (hrun : ExceptT.run (r.owner t path : Op G (Value × Segment)) s = (.ok (u, seg), s₁)) :
    ExceptT.run (r.owner t path : Op G (Value × Segment)) s₁ = (.ok (u, seg), s₁) ∧ ¬ u.IsObject ∧
      (s₁ = s ∧ s.heap.Orderly G u ∨ s₁.heap.Vacant u) := by
  by_cases hnull : t = .null
  · subst hnull
    cases hrun
  cases hparse : Path.parse path with
  | error e => cases hrun.symm.trans (run_owner_of_parse_error hparse hnull)
  | ok p =>
    rw [run_owner hparse hnull, run_bind_eq_ok] at hrun
    obtain ⟨parent, s₂, hwalk, hparent⟩ := hrun
    cases hp : parent.isNull with
    | true =>
      rw [hp] at hparent
      cases hparent
    | false =>
      rw [hp] at hparent
      cases hparent
      have hne := Value.isNull_eq_false_iff.mp hp
      have hmeets := havoids p hparse
      refine ⟨?_, hmeets p.parents (List.prefix_refl _) u s₁ hwalk, ?_⟩
      · rw [run_owner hparse hnull, run_bind_of_ok (run_walk_again ht hmeets hwalk hne), hp]
        rfl
      · cases arrives_of_run_walk ht hmeets hwalk hne with
        | found h => exact .inl ⟨rfl, h.orderly ht⟩
        | made _ _ _ hmade => exact .inr hmade.vacant

end Resolver

end ObjectGraph
