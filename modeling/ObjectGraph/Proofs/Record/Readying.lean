import ObjectGraph.Proofs.Record.Lengthening

/-!
Failed writes with a subscript into growing records.  Before a value is looked at, its property is made ready for the
subscript, as it is for reading.  The main statement says that a write that fails does what reading the same element or
entry does, which loses nothing: the property may now be declared and hold a collection, and its list or array may
reach to the index.
-/

namespace ObjectGraph

open Op

namespace GrowingRecord
variable {G : ClassGraph} {g : GrowingRecord} {H H' H'' : Heap} {s : State G} {name : String} {p : Property} {v : Value}

/-- Whether a heap is one in which a property of a growing record has been made ready for a subscript: it may have been
declared and given a collection, its list may have been lengthened by nulls, or its array replaced by a longer copy. -/
structure Readies (g : GrowingRecord) (name : String) (H H' : Heap) : Prop where
  isIn : g.IsIn H'
  has : ∀ {k : CellKind} {h : Handle k}, H.Has h → H'.Has h
  same : ∀ {k : CellKind} {h : Handle k}, k ≠ .list → H.Has h → ¬ g.Owns k h → H'.get h = H.get h
  list : ∀ {l : Handle .list}, H.Has l → H'.get l = H.get l ∨
    (∃ p, g.Holds H name p (.list l)) ∧ ∃ n, H'.get l = H.get l ++ List.replicate n .null
  schema : H'.get g.schema = H.get g.schema ∨
    g.property? name H = none ∧ ∃ t, (H.get g.schema).add ⟨name, t, none⟩ = .ok (H'.get g.schema)
  others : ∀ {other}, other ≠ name → (g.values H').get? other = (g.values H).get? other
  held : ∀ {p v}, g.Holds H name p v → g.stored name H' = v ∨
    ∃ a b more, v = .array a ∧ g.stored name H' = .array b ∧
      H'.get b = { H.get a with items := (H.get a).items ++ more }

namespace Installs

theorem readies (hi : g.Installs name H H') (hheld : ∀ {p v}, g.Holds H name p v → g.stored name H' = v ∨
    ∃ a b more, v = .array a ∧ g.stored name H' = .array b ∧
      H'.get b = { H.get a with items := (H.get a).items ++ more }) : g.Readies name H H' where
  isIn := hi.isIn
  has := hi.has
  same _ := hi.same
  list hl := .inl (hi.same hl id)
  schema := hi.schema
  others := hi.others
  held := hheld

theorem readies_of_puts {l : Handle .list} {n : Nat} (hi : g.Installs name H H') (hholds : g.Holds H' name p (.list l))
    (hopens : Opens g name H H' p (.list l))
    (hput : H'.Puts (k := .list) l (H'.get l ++ List.replicate n .null) H'') : g.Readies name H H'' where
  isIn := hi.isIn.of_puts hput nofun
  has hh := hput.has (hi.has hh)
  same hk hh hown := (hput.kind hk).trans (hi.same hh hown)
  list {j} hj := by
    by_cases hjl : j = l
    · subst hjl
      cases hopens with
      | held h hsame =>
        subst hsame
        exact .inr ⟨⟨p, h⟩, n, hput.self⟩
      | made _ hlist _ => exact absurd hj (hlist j rfl)
    · exact .inl ((hput.other hjl).trans (hi.same hj id))
  schema := by
    rw [hput.kind (j := g.schema) nofun]
    exact hi.schema
  others hne := by rw [values_of_puts hput nofun nofun, hi.others hne]
  held hq := by
    obtain ⟨rfl, -⟩ := hopens.eq_of_holds hq
    refine .inl ?_
    rw [stored, values_of_puts hput nofun nofun]
    exact hholds.stored

end Installs

theorem readies_lengthened (hin : g.IsIn s.heap) (name : String) (i : Nat) : ∃ res s',
    ExceptT.run (g.lengthened name i : Op G (Property × Value)) s = (res, s') ∧ g.Readies name s.heap s'.heap := by
  obtain ⟨res, s₁, hrun, hi, hopened⟩ := run_container (G := G) hin makesOf_list name
  cases res with
  | error e =>
    refine ⟨.error e, s₁, run_bind_of_error hrun, hi.readies fun hq => ?_⟩
    cases (hq.run_container _).symm.trans hrun
  | ok a =>
    obtain ⟨p, c⟩ := a
    obtain ⟨hholds, hopens⟩ := hopened p c rfl
    have hsame {q v} (hq : g.Holds s.heap name q v) : g.stored name s₁.heap = v :=
      hholds.stored.trans (hopens.eq_of_holds hq).1.symm
    rw [Holds.run_lengthened_of_container hrun hholds i]
    cases c with
    | list l =>
      obtain ⟨H, hlengthened, hput⟩ := hholds.run_lengthened_list (G := G) i
      exact ⟨_, _, hlengthened, hi.readies_of_puts hholds hopens hput⟩
    | array a =>
      by_cases hlt : i < (s₁.heap.get a).items.length
      · have hlengthened := hholds.run_lengthened (G := G) (i := i) fun items hitems => by
          cases hitems
          exact hlt
        exact ⟨_, _, hlengthened, hi.readies fun hq => .inl (hsame hq)⟩
      · obtain ⟨A, H, hA⟩ : ∃ A H, (s₁.heap.get a).grown G (i + 1) s₁.heap = (A, H) := ⟨_, _, rfl⟩
        have hlengthened := hholds.run_lengthened_array (G := G) (Nat.not_lt.mp hlt) hA
        have hadds := (TypedArray.onlyAdds_grown G (s₁.heap.get a) (i + 1) s₁.heap)
        rw [hA] at hadds
        have hinstalls := (hi.onlyAdds (hadds.trans (H.onlyAdds_alloc (k := .array) A))).store (.array (H.next .array))
        -- An array that was held is replaced, and is itself left as it is.
        refine ⟨_, _, hlengthened, hinstalls.readies fun {q v} hq => .inr ?_⟩
        obtain ⟨hv, hheap⟩ := hopens.eq_of_holds hq
        obtain ⟨more, hmore⟩ : ∃ more, A = { s₁.heap.get a with items := (s₁.heap.get a).items ++ more } :=
          ⟨_, (congrArg Prod.fst hA).symm⟩
        rw [hheap] at hmore
        refine ⟨a, H.next .array, more, hv, by rw [stored_store, if_pos rfl], ?_⟩
        exact (get_store_of_not_owns id).trans ((H.get_alloc_self (k := .array) A).trans hmore)
    | _ =>
      have hlengthened := hholds.run_lengthened (G := G) (i := i) nofun
      exact ⟨_, _, hlengthened, hi.readies fun hq => .inl (hsame hq)⟩

theorem readies_keyed (hin : g.IsIn s.heap) (name : String) : ∃ res s',
    ExceptT.run (g.keyed name : Op G (Property × Value)) s = (res, s') ∧ g.Readies name s.heap s'.heap := by
  obtain ⟨res, s₁, hrun, hi, hopened⟩ := run_container (G := G) hin makesOf_map name
  cases res with
  | error e =>
    refine ⟨.error e, s₁, run_bind_of_error hrun, hi.readies fun hq => ?_⟩
    cases (hq.run_container _).symm.trans hrun
  | ok a =>
    obtain ⟨p, c⟩ := a
    obtain ⟨hholds, hopens⟩ := hopened p c rfl
    refine ⟨_, s₁, (Holds.run_keyed_of_container hrun hholds).trans hholds.run_keyed, hi.readies fun hq => .inl ?_⟩
    exact hholds.stored.trans (hopens.eq_of_holds hq).1.symm

/-! ### Failed writes -/

section
variable {i : Nat} {key : String} {e : Error} {s' : State G}

theorem state_readElement : (ExceptT.run (g.readElement name i : Op G Value) s).2 =
    (ExceptT.run (g.lengthened name i : Op G (Property × Value)) s).2 := by
  rcases hrun : ExceptT.run (g.lengthened name i : Op G (Property × Value)) s with ⟨_ | a, s₁⟩
  · rw [readElement, run_bind_of_error hrun]
  · rw [readElement, run_bind_of_ok hrun]
    rfl

theorem state_readEntry : (ExceptT.run (g.readEntry name key : Op G Value) s).2 =
    (ExceptT.run (g.keyed name : Op G (Property × Value)) s).2 := by
  rcases hrun : ExceptT.run (g.keyed name : Op G (Property × Value)) s with ⟨_ | a, s₁⟩
  · rw [readEntry, run_bind_of_error hrun]
  · rw [readEntry, run_bind_of_ok hrun]
    rfl

theorem state_writeElement_of_error (h : ExceptT.run (g.writeElement name i v : Op G Unit) s = (.error e, s')) :
    s' = (ExceptT.run (g.lengthened name i : Op G (Property × Value)) s).2 := by
  rcases hrun : ExceptT.run (g.lengthened name i : Op G (Property × Value)) s with ⟨_ | a, s₁⟩
  · rw [writeElement, run_bind_of_error hrun] at h
    cases h
    rfl
  · rw [writeElement, run_bind_of_ok hrun, run_tryWrite] at h
    split at h <;> cases h
    rfl

theorem state_writeEntry_of_error (h : ExceptT.run (g.writeEntry name key v : Op G Unit) s = (.error e, s')) :
    s' = (ExceptT.run (g.keyed name : Op G (Property × Value)) s).2 := by
  rcases hrun : ExceptT.run (g.keyed name : Op G (Property × Value)) s with ⟨_ | ⟨p, c⟩, s₁⟩
  · rw [writeEntry, run_bind_of_error hrun] at h
    cases h
    rfl
  · rw [writeEntry, run_bind_of_ok hrun] at h
    cases hw : s₁.heap.coerce G p.elementTy name v with
    | error e =>
      rw [run_bind_of_error (by rw [Op.run_tryRead, hw])] at h
      cases h
      rfl
    | ok w =>
      rw [run_bind_of_ok (by rw [Op.run_tryRead, hw]), run_tryWrite] at h
      split at h <;> cases h
      rfl

end

/-- What is not declared gets a list of values of any type. -/
theorem exists_run_writeElement_of_undeclared (hin : g.IsIn s.heap) (hp : g.property? name s.heap = none)
    (hfree : (s.heap.get g.schema).isRestricted = false) (i : Nat) (v : Value) :
    ∃ s', ExceptT.run (g.writeElement name i v : Op G Unit) s = (.ok (), s') := by
  obtain ⟨s', _, _, _, hwritten, -⟩ :=
    (Indexed.undeclared hp hfree).exists_run_writeElement (G := G) hin (fun _ _ => Heap.coerce_any) i
  exact ⟨s', hwritten⟩

/-- What is not declared gets a map of values of any type. -/
theorem exists_run_writeEntry_of_undeclared (hin : g.IsIn s.heap) (hp : g.property? name s.heap = none)
    (hfree : (s.heap.get g.schema).isRestricted = false) (key : String) (v : Value) :
    ∃ s', ExceptT.run (g.writeEntry name key v : Op G Unit) s = (.ok (), s') := by
  obtain ⟨p, m, s₁, hcontainer, hany⟩ : ∃ p m s₁, ExceptT.run (g.container name fun H => H.newMap .empty) s =
      (.ok (p, .map m), s₁) ∧ p.elementTy = .any :=
    ⟨_, _, _, run_container_of_undeclared (G := G) hin makes_map hp hfree rfl (fun _ => rfl) rfl, rfl⟩
  obtain ⟨_, s₂, hrun, -, hopened⟩ := run_container (G := G) hin makesOf_map name
  cases hcontainer.symm.trans hrun
  obtain ⟨hholds, -⟩ := hopened _ _ rfl
  have hkeyed : s₁.heap.isKeyed (.map m) = true := rfl
  have hopen : ExceptT.run (g.writeEntry name key v : Op G Unit) s = ExceptT.run (g.writeEntry name key v) s₁ := by
    rw [GrowingRecord.writeEntry, run_bind, run_bind, Holds.run_keyed_of_container hcontainer hholds]
  rw [hopen, hholds.run_writeEntry, if_pos hkeyed, run_tryWrite, hany, Heap.coerce_any]
  exact ⟨_, rfl⟩

/-- Whether a property holds nothing, is not filled and takes neither lists nor maps. -/
def Refuses (G : ClassGraph) (g : GrowingRecord) (H : Heap) (name : String) : Prop :=
  ∃ p, g.property? name H = some p ∧ g.stored name H = .null ∧ (G.defaultValue p.ty H).1 = .null ∧ p.ty ≠ .any

theorem exists_coerce_error {t u : Ty} (name : String) (hw : (G.defaultValue t H).1 = .null) (ht : t ≠ .any)
    (hu : H'.typeOf v = u) (hcontainer : u = .list ∨ u = .map) : ∃ e, H'.coerce G t name v = .error e := by
  cases v with
  | list l | map m =>
    cases t with
    | any => exact absurd rfl ht
    | primitive p => cases p <;> cases hw
    | boxed p => cases p <;> exact ⟨_, rfl⟩
    | text | list | map | array | record => cases hw
    | _ => exact ⟨_, rfl⟩
  | _ => rcases hcontainer with rfl | rfl <;> cases hu

theorem run_container_of_refuses {blank : Heap → Value × Heap} {t : Ty} (hin : g.IsIn s.heap) (hb : MakesOf t blank)
    (ht : t = .list ∨ t = .map) (h : g.Refuses G s.heap name) : ∃ e s',
      ExceptT.run (g.container name blank : Op G (Property × Value)) s = (.error e, s') ∧ s.heap.OnlyAdds s'.heap := by
  obtain ⟨p, hp, hnull, hw, hany⟩ := h
  obtain ⟨e, he⟩ := exists_coerce_error name hw hany (hb.ty s.heap) ht
  exact ⟨e, _, run_container_of_refused hp hnull hin hw hb.toMakes he, hb.adds s.heap⟩

/-- Whether no more has been done than to make a property ready for a subscript, without declaring it, and nothing at
all if it was ready before or cannot be. -/
structure OnlyReadies (G : ClassGraph) (g : GrowingRecord) (seg : Segment) (H H' : Heap) : Prop where
  readies : g.Readies seg.name H H'
  schema : H'.get g.schema = H.get g.schema
  spared : g.IsSettled G H seg ∨ g.Refuses G H seg.name → H.OnlyAdds H'

theorem Readies.only {sub : Subscript} (h : g.Readies name H H') (hin : g.IsIn H)
    (hopen : g.property? name H = none → (H.get g.schema).isRestricted = true)
    (hsettled : g.IsSettled G H ⟨name, sub⟩ → H.OnlyAdds H') (hrefuses : g.Refuses G H name → H.OnlyAdds H') :
    g.OnlyReadies G ⟨name, sub⟩ H H' where
  readies := h
  schema := by
    rcases h.schema with hsame | ⟨hp, -⟩
    · exact hsame
    · exact (hsettled (.closed hp (hopen hp))).same hin.hasSchema
  spared h := h.elim hsettled hrefuses

/-- A failed write has done what reading does if both begin with making the property ready. -/
theorem only_of_failed {made : Op G (Property × Value)} {write : Op G Unit} {read : Op G Value} {sub : Subscript}
    {e : Error} {s' : State G} (hin : g.IsIn s.heap)
    (hmade : ∃ res s₁, ExceptT.run made s = (res, s₁) ∧ g.Readies name s.heap s₁.heap)
    (hread : (ExceptT.run read s).2 = (ExceptT.run made s).2) (hwrite : s' = (ExceptT.run made s).2)
    (hopen : g.property? name s.heap = none → (s.heap.get g.schema).isRestricted = false →
      ∃ s₁, ExceptT.run write s = (.ok (), s₁))
    (hsettled : g.IsSettled G s.heap ⟨name, sub⟩ → read.Spares s)
    (hrefuses : g.Refuses G s.heap name → ∃ e s₁, ExceptT.run made s = (.error e, s₁) ∧ s.heap.OnlyAdds s₁.heap)
    (hrun : ExceptT.run write s = (.error e, s')) :
    s' = (ExceptT.run read s).2 ∧ g.OnlyReadies G ⟨name, sub⟩ s.heap s'.heap := by
  obtain ⟨res, s₁, hmade, hready⟩ := hmade
  rw [hmade] at hread hwrite
  subst hwrite
  refine ⟨hread.symm, hready.only hin (fun hp => ?_) (fun h => ?_) fun h => ?_⟩
  · -- What is not declared, but may be, takes any value, so the write would not have failed.
    refine Bool.of_not_eq_false fun hfree => ?_
    obtain ⟨s₂, hwritten⟩ := hopen hp hfree
    cases hrun.symm.trans hwritten
  · obtain ⟨_, s₂, hread', hadds, -⟩ := hsettled h
    obtain rfl : s₂ = s' := (congrArg Prod.snd hread').symm.trans hread
    exact hadds
  · obtain ⟨_, s₂, hrefused, hadds⟩ := hrefuses h
    cases hrefused.symm.trans hmade
    exact hadds

end GrowingRecord

namespace Record
variable {G : ClassGraph} {s : State G} {h : Handle .record} {S : Handle .schema} {store : Store}

open GrowingRecord

/-- The state with one growing record that holds nothing, and in which an array of integers is declared. -/
def counting : State .empty :=
  (ExceptT.run (newGrowing (.ofProperties "LazyDynaBean" [⟨"ns", .array (.primitive (.int .w32)), none⟩]))
    (State.empty .empty)).2

end Record

end ObjectGraph
