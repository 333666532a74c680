import ObjectGraph.Proofs.Record.Installing

/-!
Elements written into growing records.  Where there is a list or an array, or one can be made, an element that its type
accepts can be written at any index: a list is lengthened by nulls in place, and an array replaced by a longer copy with
its new slots filled.  The main statement says what is there afterwards, and that reading finds it.
-/

namespace ObjectGraph

open Op

/-! ### New slots -/

namespace ClassGraph

theorem length_of_defaultValues {G : ClassGraph} {t : Ty} {count : Nat} {H K : Heap} {vs : List Value}
    (h : G.defaultValues t count H = (vs, K)) : vs.length = count := by
  obtain rfl : _ = vs := congrArg Prod.fst h
  clear h
  induction count generalizing H with
  | zero => rfl
  | succ count ih => exact congrArg (· + 1) ih

/-- The values of new slots are made one after the other. -/
theorem exists_defaultValue_of_getElem? {G : ClassGraph} {t : Ty} {count j : Nat} {H K : Heap} {vs : List Value} {u : Value}
    (h : G.defaultValues t count H = (vs, K)) (hu : vs[j]? = some u) :
    ∃ L, H.OnlyAdds L ∧ (G.defaultValue t L).1 = u ∧ (G.defaultValue t L).2.OnlyAdds K := by
  obtain rfl : _ = vs := congrArg Prod.fst h
  obtain rfl : _ = K := congrArg Prod.snd h
  clear h
  induction count generalizing H j with
  | zero => cases hu
  | succ count ih =>
    cases j with
    | zero => exact ⟨H, .refl H, Option.some.inj hu, G.onlyAdds_defaultValues t count _⟩
    | succ j =>
      obtain ⟨L, hadds, hL, hlater⟩ := ih hu
      exact ⟨L, (G.onlyAdds_defaultValue t H).1.trans hadds, hL, hlater⟩

end ClassGraph

theorem TypedArray.grown_of_defaultValues {G : ClassGraph} {a : TypedArray} {n : Nat} {H K : Heap} {vs : List Value}
    (h : G.defaultValues a.component (n - a.items.length) H = (vs, K)) :
    a.grown G n H = (⟨a.component, a.items ++ vs⟩, K) := by
  rw [grown, h]

theorem Heap.Puts.trans {k : CellKind} {h : Handle k} {c d : Cell k} {H H' H'' : Heap} (hp : H.Puts h c H')
    (hq : H'.Puts h d H'') : H.Puts h d H'' where
  self := hq.self
  other hne := (hq.other hne).trans (hp.other hne)
  kind hne := (hq.kind hne).trans (hp.kind hne)
  has hj := hq.has (hp.has hj)

namespace GrowingRecord
variable {G : ClassGraph} {g : GrowingRecord} {H H' H'' : Heap} {s : State G} {name : String} {p : Property} {v : Value}

/-- Whether a property has elements or can get some, of what type they are and which there are.  A property that holds
nothing has none yet, and neither has what is not declared, whatever the store holds under its name. -/
inductive Indexed (g : GrowingRecord) (H : Heap) (name : String) : Ty → List Value → Prop
  | list {p : Property} {l : Handle .list} (h : g.Holds H name p (.list l)) : Indexed g H name p.elementTy (H.get l)
  | array {p : Property} {a : Handle .array} (h : g.Holds H name p (.array a)) :
    Indexed g H name (H.get a).component (H.get a).items
  | blankList {p : Property} (hp : g.property? name H = some p) (hty : p.ty = .list ∨ p.ty = .any)
    (hnull : g.stored name H = .null) : Indexed g H name p.elementTy []
  | blankArray {p : Property} {t : Ty} (hp : g.property? name H = some p) (hty : p.ty = .array t)
    (hnull : g.stored name H = .null) : Indexed g H name t []
  | undeclared (hp : g.property? name H = none) (hfree : (H.get g.schema).isRestricted = false) :
    Indexed g H name .any []

/-- The type that the elements of a collection under a property have. -/
def ElementsOf (H : Heap) (p : Property) (t : Ty) : Value → Prop
  | .list _ => p.elementTy = t
  | .array a => (H.get a).component = t
  | _ => False

/-- What there is to be written into is opened, with the elements that there are. -/
theorem Indexed.exists_container {t : Ty} {items : List Value} (h : g.Indexed s.heap name t items) (hin : g.IsIn s.heap) :
    ∃ p c s', ExceptT.run (g.container name fun H => H.newList [] : Op G (Property × Value)) s = (.ok (p, c), s') ∧
      ElementsOf s'.heap p t c ∧ s'.heap.items? c = some items := by
  cases h with
  | list h => exact ⟨_, _, s, h.run_container _, rfl, rfl⟩
  | array h => exact ⟨_, _, s, h.run_container _, rfl, rfl⟩
  | blankList hp hty hnull =>
    rename_i p
    have hnew := s.heap.get_alloc_self (k := .list) []
    rcases hty with hty | hty
    · have hw : G.defaultValue p.ty s.heap = s.heap.newList [] := by rw [hty]; rfl
      have hrun := run_container_of_filled (G := G) hp hnull (fun H => H.newList []) hin (by rw [hw]; nofun)
      rw [hw] at hrun
      exact ⟨_, _, _, hrun, rfl, congrArg some ((get_store_of_not_owns id).trans hnew)⟩
    · have hw : (G.defaultValue p.ty s.heap).1 = .null := by rw [hty]; rfl
      have hrun := run_container_of_blank (G := G) hp hnull hin hw makes_list (by rw [hty]; rfl)
      exact ⟨_, _, _, hrun, rfl, congrArg some ((get_store_of_not_owns id).trans hnew)⟩
  | blankArray hp hty hnull =>
    rename_i p
    have hnew := s.heap.get_alloc_self (k := .array) ⟨t, []⟩
    have hw : G.defaultValue p.ty s.heap = s.heap.newArray t [] := by rw [hty]; rfl
    have hrun := run_container_of_filled (G := G) hp hnull (fun H => H.newList []) hin (by rw [hw]; nofun)
    rw [hw] at hrun
    have hcell : (g.store name (s.heap.newArray t []).1 (s.heap.newArray t []).2).get (s.heap.next .array) = ⟨t, []⟩ :=
      (get_store_of_not_owns id).trans hnew
    exact ⟨_, _, _, hrun, congrArg TypedArray.component hcell, congrArg (fun a : TypedArray => some a.items) hcell⟩
  | undeclared hp hfree =>
    refine ⟨_, _, _, run_container_of_undeclared hin makes_list hp hfree rfl (fun _ => rfl) rfl, rfl, ?_⟩
    have hsame := (s.heap.alloc .list []).2.get_set_of_kind_ne (k := .schema) (h := g.schema)
      (j := (s.heap.alloc .list []).1) ((s.heap.get g.schema).put ⟨name, .list, none⟩) nofun
    exact congrArg some ((get_store_of_not_owns id).trans (hsame.trans (s.heap.get_alloc_self (k := .list) [])))

/-! ### Writing -/

section
variable {l : Handle .list} {a : Handle .array} {i : Nat} {w : Value}

theorem Holds.run_writeElement_list (h : g.Holds s.heap name p (.list l))
    (hw : s.heap.coerce G p.elementTy name v = .ok w) (i : Nat) : ∃ H,
    ExceptT.run (g.writeElement name i v : Op G Unit) s = (.ok (), { s with heap := H }) ∧
      s.heap.Puts (k := .list) l
        ((s.heap.get l ++ List.replicate (i + 1 - (s.heap.get l).length) Value.null).set i w) H := by
  obtain ⟨H, hrun, hput⟩ := h.run_lengthened_list (G := G) i
  have hlength : i < (H.get l).length := by
    rw [hput.self, List.length_append, List.length_replicate]
    omega
  have htype : H.typeOf v = s.heap.typeOf v := hput.typeOf nofun nofun v
  have hset : H.setElement G name i v p.elementTy (.list l) = .ok (H.set l ((H.get l).set i w)) := by
    rw [Heap.setElement, Heap.coerce_congr htype, hw]
    show (Heap.replaceAt name i w (H.get l) >>= fun items => Except.ok (H.set l items)) = _
    rw [Heap.replaceAt, if_pos hlength]
    rfl
  refine ⟨H.set l ((H.get l).set i w), ?_, ?_⟩
  · rw [writeElement, run_bind_of_ok hrun, run_tryWrite, hset]
  · rw [hput.self]
    exact hput.trans (Heap.puts_set _ _ _)

theorem setElement_array {t : Ty} (hw : H.coerce G (H.get a).component name v = .ok w) (hi : i < (H.get a).items.length) :
    H.setElement G name i v t (.array a) = .ok (H.set a { H.get a with items := (H.get a).items.set i w }) := by
  rw [Heap.setElement]
  dsimp only
  rw [hw]
  show (Heap.replaceAt name i w (H.get a).items >>= fun items =>
    Except.ok (H.set a { H.get a with items := items })) = _
  rw [Heap.replaceAt, if_pos hi]
  rfl

theorem Holds.run_writeElement_array_of_lt (h : g.Holds s.heap name p (.array a))
    (hw : s.heap.coerce G (s.heap.get a).component name v = .ok w) (hi : i < (s.heap.get a).items.length) :
    ExceptT.run (g.writeElement name i v : Op G Unit) s =
      (.ok (), { s with heap := s.heap.set a { s.heap.get a with items := (s.heap.get a).items.set i w } }) := by
  have hrange : ∀ items, s.heap.items? (.array a) = some items → i < items.length := by
    rintro _ ⟨⟩
    exact hi
  rw [h.run_writeElement hrange, run_tryWrite, setElement_array hw hi]

/-- A longer copy takes the place of an array, and the element is written into the copy. -/
theorem Holds.run_writeElement_array_of_le {vs : List Value} {K : Heap} (h : g.Holds s.heap name p (.array a))
    (hi : (s.heap.get a).items.length ≤ i)
    (hvs : G.defaultValues (s.heap.get a).component (i + 1 - (s.heap.get a).items.length) s.heap = (vs, K))
    (hH : H = g.store name (.array (K.next .array))
      (K.alloc .array ⟨(s.heap.get a).component, (s.heap.get a).items ++ vs⟩).2)
    (hw : H.coerce G (s.heap.get a).component name v = .ok w) :
    ExceptT.run (g.writeElement name i v : Op G Unit) s = (.ok (), { s with
      heap := H.set (K.next .array) ⟨(s.heap.get a).component, ((s.heap.get a).items ++ vs).set i w⟩ }) := by
  have hgrown := TypedArray.grown_of_defaultValues hvs
  have hcell : H.get (K.next .array) = ⟨(s.heap.get a).component, (s.heap.get a).items ++ vs⟩ := by
    rw [hH, get_store_of_not_owns id]
    exact K.get_alloc_self (k := .array) _
  have hlength : i < ((s.heap.get a).items ++ vs).length := by
    rw [List.length_append, ClassGraph.length_of_defaultValues hvs]
    omega
  rw [writeElement, run_bind_of_ok (h.run_lengthened_array hi hgrown), run_tryWrite]
  dsimp only
  rw [← hH, setElement_array (by rwa [hcell]) (by rwa [hcell]), hcell]

end

/-- Whether a value was made to fill a new slot of a type when all cells of one heap were there already, and is in a
later heap as it was made. -/
def MadeFor (G : ClassGraph) (H H' : Heap) (t : Ty) (u : Value) : Prop :=
  ∃ K : Heap, (∀ {k : CellKind} {x : Handle k}, H.Has x → K.Has x) ∧ (G.defaultValue t K).1 = u ∧
    ∀ {k : CellKind} {x : Handle k}, ¬ K.Has x → (G.defaultValue t K).2.Has x →
      H'.Has x ∧ H'.get x = (G.defaultValue t K).2.get x

/-- Whether a heap is one in which an element of a property has been written, and which elements there are now if
there were others before. -/
structure Lengthens (G : ClassGraph) (g : GrowingRecord) (name : String) (i : Nat) (w : Value) (items : List Value)
    (H H' : Heap) (c : Value) (items' : List Value) : Prop where
  stored : g.stored name H' = c
  shown : H'.items? c = some items'
  length : items'.length = max items.length (i + 1)
  written : items'[i]? = some w
  kept : ∀ {j}, j < items.length → j ≠ i → items'[j]? = items[j]?
  null : ∀ {l j}, c = .list l → items.length ≤ j → j < i → items'[j]? = some .null
  default : ∀ {b j}, c = .array b → items.length ≤ j → j < i →
    ∃ u, items'[j]? = some u ∧ MadeFor G H H' (H'.get b).component u
  others : ∀ {other}, other ≠ name → (g.values H').get? other = (g.values H).get? other
  list : ∀ {q l}, g.Holds H name q (.list l) → c = .list l
  array : ∀ {q a}, g.Holds H name q (.array a) → (i < items.length ∧ c = .array a) ∨
    (items.length ≤ i ∧ ∃ b, c = .array b ∧ ¬ H.Has b ∧ (H.Has a → H'.get a = H.get a) ∧
      (H'.get b).component = (H.get a).component)

section
variable {items more : List Value} {i j : Nat} {w : Value}

theorem length_set_append (hmore : more.length = i + 1 - items.length) :
    ((items ++ more).set i w).length = max items.length (i + 1) := by
  rw [List.length_set, List.length_append, hmore]
  omega

theorem getElem?_set_append_self (hmore : more.length = i + 1 - items.length) :
    ((items ++ more).set i w)[i]? = some w := by
  rw [List.getElem?_set_self]
  rw [List.length_append, hmore]
  omega

theorem getElem?_set_append_of_lt (hj : j < items.length) (hji : j ≠ i) :
    ((items ++ more).set i w)[j]? = items[j]? := by
  rw [List.getElem?_set_ne hji.symm, List.getElem?_append_left hj]

theorem getElem?_set_append_of_le (hj : items.length ≤ j) (hji : j < i) :
    ((items ++ more).set i w)[j]? = more[j - items.length]? := by
  rw [List.getElem?_set_ne (Nat.ne_of_gt hji), List.getElem?_append_right hj]

end

section
variable {i : Nat} {w c : Value} {items : List Value}

theorem Installs.lengthens_list {l : Handle .list} (hi : g.Installs name H H') (hholds : g.Holds H' name p (.list l))
    (hopens : Opens g name H H' p (.list l)) (hput : H'.Puts (k := .list) l
      ((H'.get l ++ List.replicate (i + 1 - (H'.get l).length) Value.null).set i w) H'') :
    Lengthens G g name i w (H'.get l) H H'' (.list l)
      ((H'.get l ++ List.replicate (i + 1 - (H'.get l).length) Value.null).set i w) where
  stored := (hholds.of_puts hput nofun nofun nofun).stored
  shown := congrArg some hput.self
  length := length_set_append List.length_replicate
  written := getElem?_set_append_self List.length_replicate
  kept hj hji := getElem?_set_append_of_lt hj hji
  null _ hj hji := by
    rw [getElem?_set_append_of_le hj hji, List.getElem?_replicate, if_pos (by omega)]
  default := nofun
  others hne := by rw [values_of_puts hput nofun nofun, hi.others hne]
  list hq := (hopens.eq_of_holds hq).1.symm
  array hq := by cases (hopens.eq_of_holds hq).1

theorem Installs.lengthens_array {a : Handle .array} (hi : g.Installs name H H') (hholds : g.Holds H' name p (.array a))
    (hopens : Opens g name H H' p (.array a)) (hlt : i < (H'.get a).items.length) (hput : H'.Puts (k := .array) a
      { H'.get a with items := (H'.get a).items.set i w } H'') :
    Lengthens G g name i w (H'.get a).items H H'' (.array a) ((H'.get a).items.set i w) where
  stored := (hholds.of_puts hput nofun nofun nofun).stored
  shown := congrArg (fun A : TypedArray => some A.items) hput.self
  length := by
    rw [List.length_set]
    omega
  written := List.getElem?_set_self hlt
  kept _ hji := List.getElem?_set_ne hji.symm
  null := nofun
  default _ hj hji := by omega
  others hne := by rw [values_of_puts hput nofun nofun, hi.others hne]
  list hq := by cases (hopens.eq_of_holds hq).1
  array hq := .inl ⟨hlt, (hopens.eq_of_holds hq).1.symm⟩

theorem IsIn.has_of_owns (hin : g.IsIn H) {k : CellKind} {x : Handle k} (hx : g.Owns k x) : H.Has x := by
  cases k with
  | record => exact hx ▸ hin.hasCell
  | schema => exact hx ▸ hin.hasSchema
  | map => exact hin.hasShared x hx
  | _ => exact hx.elim

theorem IsIn.exists_store {h : Handle .record} {S : Handle .schema} {store : Store} (hin : (ofStore h S store).IsIn H) :
    ∃ store', H.get h = .growing S store' ∧ ofStore h S store' = ofStore h S store := by
  cases store <;> exact hin.cell

/-- What there is when a longer copy gets its cell is what there is afterwards, but for the record. -/
theorem get_of_grown {K : Heap} {A B : TypedArray} {k : CellKind} {x : Handle k}
    (hput : (g.store name v (K.alloc .array A).2).Puts (k := .array) (K.next .array) B H) (hx : K.Has x)
    (hown : ¬ g.Owns k x) : H.Has x ∧ H.get x = K.get x := by
  have halloc := K.onlyAdds_alloc (k := .array) A
  have hrecord : (g.store name v (K.alloc .array A).2).get x = K.get x :=
    (get_store_of_not_owns hown).trans (halloc.same hx)
  refine ⟨hput.has (has_setValues (halloc.has hx)), ?_⟩
  by_cases hk : k = .array
  · subst hk
    refine (hput.other ?_).trans hrecord
    rintro rfl
    exact K.not_has_next .array hx
  · exact (hput.kind hk).trans hrecord

theorem Installs.lengthens_grown {a : Handle .array} {vs : List Value} {K H₂ : Heap} (hi : g.Installs name H H')
    (hopens : Opens g name H H' p (.array a)) (hle : (H'.get a).items.length ≤ i)
    (hvs : G.defaultValues (H'.get a).component (i + 1 - (H'.get a).items.length) H' = (vs, K)) (hadds : H'.OnlyAdds K)
    (hH₂ : H₂ = g.store name (.array (K.next .array)) (K.alloc .array ⟨(H'.get a).component, (H'.get a).items ++ vs⟩).2)
    (hput : H₂.Puts (k := .array) (K.next .array) ⟨(H'.get a).component, ((H'.get a).items ++ vs).set i w⟩ H'') :
    Lengthens G g name i w (H'.get a).items H H'' (.array (K.next .array)) (((H'.get a).items ++ vs).set i w) := by
  have hlength := ClassGraph.length_of_defaultValues hvs
  have halloc := K.onlyAdds_alloc (k := .array) ⟨(H'.get a).component, (H'.get a).items ++ vs⟩
  have hkept {k : CellKind} {x : Handle k} (hx : K.Has x) (hown : ¬ g.Owns k x) : H''.Has x ∧ H''.get x = K.get x :=
    get_of_grown (hH₂ ▸ hput) hx hown
  have hcomponent : (H''.get (K.next .array)).component = (H'.get a).component := by rw [hput.self]
  have hvalues : g.values H'' = g.values H₂ := values_of_puts hput nofun nofun
  refine ⟨?_, ?_, length_set_append hlength, getElem?_set_append_self hlength, getElem?_set_append_of_lt, nofun, ?_, ?_,
    ?_, ?_⟩
  · rw [stored, hvalues, hH₂]
    exact stored_store.trans (if_pos rfl)
  · exact congrArg (fun A : TypedArray => some A.items) hput.self
  · intro b j hb hj hji
    cases hb
    have hslot : j - (H'.get a).items.length < vs.length := by omega
    have hu := List.getElem?_eq_getElem hslot
    obtain ⟨L, hadds', hL, hlater⟩ := ClassGraph.exists_defaultValue_of_getElem? hvs hu
    rw [getElem?_set_append_of_le hj hji, hcomponent]
    -- What fills a slot is new at `L`, so it is none of the cells that the record is kept in, which are older.
    refine ⟨_, hu, L, fun hx => hadds'.has (hi.has hx), hL, fun hx hnew => ?_⟩
    have hown := fun hown => hx (hadds'.has (hi.isIn.has_of_owns hown))
    obtain ⟨hhas, hget⟩ := hkept (hlater.has hnew) hown
    exact ⟨hhas, hget.trans (hlater.same hnew)⟩
  · intro other hne
    rw [hvalues, hH₂, GrowingRecord.store, values_setValues, Dict.get?_insert, if_neg hne,
      hi.isIn.values_of_onlyAdds (hadds.trans halloc), hi.others hne]
  · intro q l hq
    cases (hopens.eq_of_holds hq).1
  · intro q b hq
    obtain ⟨hb, rfl⟩ := hopens.eq_of_holds hq
    cases hb
    refine .inr ⟨hle, _, rfl, fun hb => K.not_has_next .array (hadds.has hb), fun ha => ?_, hcomponent⟩
    rw [(hkept (hadds.has ha) id).2, hadds.same ha]

end

section
variable {t : Ty} {c : Value} {items : List Value} {w : Value} (hi : g.Installs name H s.heap)
  (hw : ∀ K, g.Installs name H K → K.coerce G t name v = .ok w)
include hi hw

theorem exists_lengthens_grown {a : Handle .array} (hholds : g.Holds s.heap name p (.array a))
    (hopens : Opens g name H s.heap p (.array a)) (ht : (s.heap.get a).component = t) {i : Nat}
    (hle : (s.heap.get a).items.length ≤ i) :
    ∃ H' c' items', ExceptT.run (g.writeElement name i v : Op G Unit) s = (.ok (), { s with heap := H' }) ∧
      g.IsIn H' ∧ g.Holds H' name p c' ∧ Lengthens G g name i w (s.heap.get a).items H H' c' items' := by
  subst ht
  obtain ⟨vs, K, hvs⟩ : ∃ vs K, G.defaultValues (s.heap.get a).component (i + 1 - (s.heap.get a).items.length) s.heap =
    (vs, K) := ⟨_, _, rfl⟩
  have hmade := G.onlyAdds_defaultValues (s.heap.get a).component (i + 1 - (s.heap.get a).items.length) s.heap
  rw [hvs] at hmade
  have hadds := hmade.trans (K.onlyAdds_alloc (k := .array) ⟨(s.heap.get a).component, (s.heap.get a).items ++ vs⟩)
  obtain ⟨B, hB⟩ : ∃ B, B = g.store name (.array (K.next .array))
    (K.alloc .array ⟨(s.heap.get a).component, (s.heap.get a).items ++ vs⟩).2 := ⟨_, rfl⟩
  -- The value is coerced only when the longer copy is in place.
  have hlater : g.Installs name H B := hB ▸ (hi.onlyAdds hadds).store _
  have hheld : g.Holds B name p (.array (K.next .array)) := by
    rw [hB]
    exact holds_store (((hi.isIn.fills_of_onlyAdds (G := G) hadds).property name).trans hholds.property) nofun
  have hput := B.puts_set (k := .array) (K.next .array)
    ⟨(s.heap.get a).component, ((s.heap.get a).items ++ vs).set i w⟩
  exact ⟨_, _, _, hholds.run_writeElement_array_of_le hle hvs hB (hw _ hlater), hlater.isIn.of_puts hput nofun,
    hheld.of_puts hput nofun nofun nofun, hi.lengthens_grown hopens hle hvs hmade hB hput⟩

theorem exists_lengthens (hholds : g.Holds s.heap name p c) (hopens : Opens g name H s.heap p c)
    (helements : ElementsOf s.heap p t c) (hitems : s.heap.items? c = some items) (i : Nat) :
    ∃ H' c' items', ExceptT.run (g.writeElement name i v : Op G Unit) s = (.ok (), { s with heap := H' }) ∧
      g.IsIn H' ∧ g.Holds H' name p c' ∧ Lengthens G g name i w items H H' c' items' := by
  cases c with
  | list l =>
    obtain rfl : p.elementTy = t := helements
    cases hitems
    obtain ⟨H', hrun, hput⟩ := hholds.run_writeElement_list (hw _ hi) i
    exact ⟨H', _, _, hrun, hi.isIn.of_puts hput nofun, hholds.of_puts hput nofun nofun nofun,
      hi.lengthens_list hholds hopens hput⟩
  | array a =>
    cases hitems
    by_cases hlt : i < (s.heap.get a).items.length
    · obtain rfl : (s.heap.get a).component = t := helements
      have hput := s.heap.puts_set (k := .array) a { s.heap.get a with items := (s.heap.get a).items.set i w }
      refine ⟨_, _, _, hholds.run_writeElement_array_of_lt (hw _ hi) hlt,
        hi.isIn.of_puts hput nofun, hholds.of_puts hput nofun nofun nofun, hi.lengthens_array hholds hopens hlt hput⟩
    · exact exists_lengthens_grown hi hw hholds hopens helements (Nat.not_lt.mp hlt)
  | _ => exact helements.elim

end

theorem Indexed.exists_run_writeElement {t : Ty} {items : List Value} {w : Value} (h : g.Indexed s.heap name t items)
    (hin : g.IsIn s.heap) (hw : ∀ K, g.Installs name s.heap K → K.coerce G t name v = .ok w) (i : Nat) :
    ∃ s' p c items', ExceptT.run (g.writeElement name i v : Op G Unit) s = (.ok (), s') ∧ g.IsIn s'.heap ∧
      g.Holds s'.heap name p c ∧ Lengthens G g name i w items s.heap s'.heap c items' := by
  obtain ⟨p, c, s₁, hcontainer, helements, hitems⟩ := h.exists_container (G := G) hin
  obtain ⟨_, s₂, hrun, hi, hopened⟩ := run_container (G := G) hin makesOf_list name
  cases hcontainer.symm.trans hrun
  obtain ⟨hholds, hopens⟩ := hopened p c rfl
  obtain ⟨H', c', items', hwritten, hrest⟩ := exists_lengthens hi hw hholds hopens helements hitems i
  refine ⟨{ s₁ with heap := H' }, p, c', items', ?_, hrest⟩
  rw [← hwritten, GrowingRecord.writeElement, run_bind, run_bind, Holds.run_lengthened_of_container hcontainer hholds]

end GrowingRecord

namespace Record
variable {G : ClassGraph} {s : State G} {h : Handle .record} {S : Handle .schema} {store : Store}

open GrowingRecord

/-- The state with one growing record, with a text that is kept under a name that has been declared anew as a list. -/
def relabelled : State .empty :=
  (ExceptT.run (do
    let h ← newGrowing (.blank "LazyDynaBean")
    write h "xs" (.text "t")
    GrowingRecord.declare ⟨h, ⟨0⟩, none⟩ ⟨"xs", .list, none⟩) (State.empty .empty)).2

/-- The state with one growing record that holds an array of one integer. -/
def measured : State .empty :=
  (ExceptT.run (do
    let h ← newGrowing (.ofProperties "LazyDynaBean" [⟨"ns", .array (.primitive (.int .w32)), none⟩])
    writeElement h "ns" 0 (.int .w32 ⟨5, by decide⟩)) (State.empty .empty)).2

end Record

end ObjectGraph
