import ObjectGraph.Heap

/-!
Later heaps.  Cells are only ever added, an array keeps the type of its elements and an object its class,
so a value that names a cell keeps its type.  Writes to different cells may be done in any order.
-/

namespace ObjectGraph

namespace Table
variable {α : Type} [Inhabited α] (t : Table α)

omit [Inhabited α] in
theorem size_push (a : α) : (t.push a).size = t.size + 1 := Array.size_push a

theorem size_set (i : Nat) (a : α) : (t.set i a).size = max t.size (i + 1) := by
  unfold set size
  split
  · simp; omega
  · simp; omega

theorem size_le_size_set (i : Nat) (a : α) : t.size ≤ (t.set i a).size := by
  rw [size_set]
  exact Nat.le_max_left _ _

/-! ### Writes in another order -/

theorem getElem?_set (i k : Nat) (a : α) : (t.set i a).cells[k]? =
    if k = i then some a else if k ≤ i ∨ k < t.size then some (t.get k) else none := by
  unfold set get size
  split
  · grind
  · simp only [Array.getElem?_push, Array.size_append, Array.size_replicate, Array.getElem?_append,
      Array.getElem?_replicate]
    grind

omit [Inhabited α] in
theorem eq_of_cells {t u : Table α} (h : ∀ k : Nat, t.cells[k]? = u.cells[k]?) : t = u := by
  cases t
  cases u
  exact congrArg Table.mk (Array.ext_getElem? h)

theorem set_comm {i j : Nat} (a b : α) (hne : i ≠ j) : (t.set i a).set j b = (t.set j b).set i a := by
  refine eq_of_cells fun k => ?_
  rw [getElem?_set, getElem?_set, size_set, size_set]
  by_cases hi : k = i
  · subst hi
    rw [get_set_self]
    grind
  · by_cases hj : k = j
    · subst hj
      rw [get_set_self]
      grind
    · rw [get_set_ne _ _ (Ne.symm hi), get_set_ne _ _ (Ne.symm hj)]
      grind

theorem set_set (i : Nat) (a b : α) : (t.set i a).set i b = t.set i b := by
  refine eq_of_cells fun k => ?_
  rw [getElem?_set, getElem?_set, size_set]
  by_cases hi : k = i
  · rw [if_pos hi, if_pos hi]
  · rw [get_set_ne _ _ (Ne.symm hi)]
    grind

end Table

namespace Heap
variable {H H' H'' : Heap} {k : CellKind}

/-- Whether a handle names a cell of the heap. -/
def Has (H : Heap) (h : Handle k) : Prop := h.index < (H.table k).size

/-- Whether a value, if it is a handle, names a cell of the heap. -/
def Live (H : Heap) : Value → Prop
  | .list h => H.Has h
  | .array h => H.Has h
  | .map h => H.Has h
  | .object h => H.Has h
  | .record h => H.Has h
  | _ => True

/-- Whether a heap is a later one: all cells are still there, and none has changed the type of its values. -/
structure KeepsTypes (H H' : Heap) : Prop where
  has : ∀ {k : CellKind} {h : Handle k}, H.Has h → H'.Has h
  component : ∀ {h : Handle .array}, H.Has h → (H'.get h).component = (H.get h).component
  cls : ∀ {h : Handle .object}, H.Has h → (H'.get h).cls = (H.get h).cls

/-- Whether a heap has all cells of another one as they are, and perhaps more. -/
structure OnlyAdds (H H' : Heap) : Prop where
  has : ∀ {k : CellKind} {h : Handle k}, H.Has h → H'.Has h
  same : ∀ {k : CellKind} {h : Handle k}, H.Has h → H'.get h = H.get h

/-- Whether a heap is a later one with the same records and schemas. -/
structure SparesRecords (H H' : Heap) : Prop where
  types : H.KeepsTypes H'
  record : ∀ {h : Handle .record}, H.Has h → H'.get h = H.get h
  schema : ∀ {h : Handle .schema}, H.Has h → H'.get h = H.get h

/-- Whether a heap has all cells of another one as they are, except perhaps one record, and perhaps more. -/
structure ChangesOnly (r : Handle .record) (H H' : Heap) : Prop where
  has : ∀ {k : CellKind} {h : Handle k}, H.Has h → H'.Has h
  same : ∀ {k : CellKind} {h : Handle k}, k ≠ .record → H.Has h → H'.get h = H.get h
  record : ∀ {h : Handle .record}, h ≠ r → H.Has h → H'.get h = H.get h

/-! ### Later heaps -/

theorem KeepsTypes.refl (H : Heap) : H.KeepsTypes H := ⟨id, fun _ => rfl, fun _ => rfl⟩

theorem KeepsTypes.trans (h : H.KeepsTypes H') (h' : H'.KeepsTypes H'') : H.KeepsTypes H'' where
  has hj := h'.has (h.has hj)
  component hj := (h'.component (h.has hj)).trans (h.component hj)
  cls hj := (h'.cls (h.has hj)).trans (h.cls hj)

theorem KeepsTypes.live (h : H.KeepsTypes H') {v : Value} (hv : H.Live v) : H'.Live v := by
  cases v <;> first | exact h.has hv | trivial

theorem OnlyAdds.refl (H : Heap) : H.OnlyAdds H := ⟨id, fun _ => rfl⟩

theorem OnlyAdds.trans (h : H.OnlyAdds H') (h' : H'.OnlyAdds H'') : H.OnlyAdds H'' where
  has hj := h'.has (h.has hj)
  same hj := (h'.same (h.has hj)).trans (h.same hj)

theorem OnlyAdds.keepsTypes (h : H.OnlyAdds H') : H.KeepsTypes H' where
  has := h.has
  component hj := congrArg TypedArray.component (h.same hj)
  cls hj := congrArg Object.cls (h.same hj)

theorem OnlyAdds.sparesRecords (h : H.OnlyAdds H') : H.SparesRecords H' := ⟨h.keepsTypes, h.same, h.same⟩

theorem SparesRecords.refl (H : Heap) : H.SparesRecords H := (OnlyAdds.refl H).sparesRecords

namespace ChangesOnly
variable {r : Handle .record}

theorem trans (h : H.ChangesOnly r H') (h' : H'.ChangesOnly r H'') : H.ChangesOnly r H'' where
  has hj := h'.has (h.has hj)
  same hk hj := (h'.same hk (h.has hj)).trans (h.same hk hj)
  record hne hj := (h'.record hne (h.has hj)).trans (h.record hne hj)

theorem array (h : H.ChangesOnly r H') {a : Handle .array} (ha : H.Has a) : H'.get a = H.get a :=
  h.same (k := .array) nofun ha

theorem schema (h : H.ChangesOnly r H') {S : Handle .schema} (hS : H.Has S) : H'.get S = H.get S :=
  h.same (k := .schema) nofun hS

theorem keepsTypes (h : H.ChangesOnly r H') : H.KeepsTypes H' where
  has := h.has
  component hj := congrArg TypedArray.component (h.same nofun hj)
  cls hj := congrArg Object.cls (h.same nofun hj)

end ChangesOnly

theorem OnlyAdds.changesOnly (h : H.OnlyAdds H') (r : Handle .record) : H.ChangesOnly r H' :=
  ⟨h.has, fun _ => h.same, fun _ => h.same⟩

/-! ### New and written cells -/

/-- Where there is no cell, a default is read. -/
theorem get_of_not_has {h : Handle k} (hh : ¬ H.Has h) : H.get h = default := by
  have hnone : (H.table k).cells[h.index]? = none := Array.getElem?_eq_none (Nat.le_of_not_lt hh)
  rw [get, Table.get, hnone]
  rfl

theorem has_alloc (a : Cell k) : (H.alloc k a).2.Has (H.alloc k a).1 := by
  simp [Has, alloc, next, Table.size_push]

theorem onlyAdds_alloc (H : Heap) (a : Cell k) : H.OnlyAdds (H.alloc k a).2 where
  has {l j} hj := by
    by_cases hl : l = k
    · subst hl
      have : j.index < (H.table l).size := hj
      simp only [Has, alloc, table_setTable_self, Table.size_push]
      omega
    · rwa [Has, alloc, table_setTable_of_ne H _ hl]
  same {l j} hj := by
    by_cases hl : l = k
    · subst hl
      refine H.get_alloc_of_ne a ?_
      rintro rfl
      exact absurd hj (Nat.lt_irrefl _)
    · exact H.get_alloc_of_kind_ne a hl

/-- A new cell with nothing in it is read as it was before it was there. -/
theorem get_alloc_default {l : CellKind} (H : Heap) (k : CellKind) (j : Handle l) :
    (H.alloc k default).2.get j = H.get j := by
  by_cases hl : l = k
  · subst hl
    by_cases hj : j = H.next l
    · subst hj
      exact (H.get_alloc_self default).trans (get_of_not_has (Nat.lt_irrefl _)).symm
    · exact H.get_alloc_of_ne default hj
  · exact H.get_alloc_of_kind_ne default hl

theorem has_set {l : CellKind} {h : Handle k} {a : Cell k} {j : Handle l} (hj : H.Has j) : (H.set h a).Has j := by
  by_cases hl : l = k
  · subst hl
    have hsize := (H.table l).size_le_size_set h.index a
    rw [Has, set, table_setTable_self]
    exact Nat.lt_of_lt_of_le hj hsize
  · rwa [Has, set, table_setTable_of_ne H _ hl]

/-- Writing a cell of lists, maps, records or schemas changes no types. -/
theorem keepsTypes_set {h : Handle k} {a : Cell k} (harray : k ≠ .array) (hobject : k ≠ .object) :
    H.KeepsTypes (H.set h a) where
  has := has_set
  component {j} _ := congrArg TypedArray.component (H.get_set_of_kind_ne (j := j) a harray.symm)
  cls {j} _ := congrArg Object.cls (H.get_set_of_kind_ne (j := j) a hobject.symm)

theorem keepsTypes_setArray {h : Handle .array} {a : TypedArray} (ha : a.component = (H.get h).component) :
    H.KeepsTypes (H.set h a) where
  has := has_set
  component {j} _ := by
    by_cases hj : j = h
    · subst hj
      exact (congrArg TypedArray.component (H.get_set_self (k := .array) j a)).trans ha
    · exact congrArg TypedArray.component (H.get_set_of_ne (k := .array) a hj)
  cls {j} _ := congrArg Object.cls (H.get_set_of_kind_ne (k := .array) (j := j) a nofun)

theorem keepsTypes_setObject {h : Handle .object} {o : Object} (ho : o.cls = (H.get h).cls) :
    H.KeepsTypes (H.set h o) where
  has := has_set
  component {j} _ := congrArg TypedArray.component (H.get_set_of_kind_ne (k := .object) (j := j) o nofun)
  cls {j} _ := by
    by_cases hj : j = h
    · subst hj
      exact (congrArg Object.cls (H.get_set_self (k := .object) j o)).trans ho
    · exact congrArg Object.cls (H.get_set_of_ne (k := .object) o hj)

theorem changesOnly_set (H : Heap) (r : Handle .record) (a : Record) : H.ChangesOnly r (H.set r a) where
  has := has_set
  same hk _ := H.get_set_of_kind_ne (k := .record) a hk
  record hne _ := H.get_set_of_ne (k := .record) a hne

/-- Writing a cell of any other kind changes no records and no schemas. -/
theorem KeepsTypes.sparesRecords {h : Handle k} {a : Cell k} (htypes : H.KeepsTypes (H.set h a)) (hrecord : k ≠ .record)
    (hschema : k ≠ .schema) : H.SparesRecords (H.set h a) where
  types := htypes
  record _ := H.get_set_of_kind_ne a hrecord.symm
  schema _ := H.get_set_of_kind_ne a hschema.symm

/-! ### Writes in another order -/

theorem setTable_comm (H : Heap) (t : Table (Cell k)) (u : Table (Cell l)) (hne : k ≠ l) :
    (H.setTable k t).setTable l u = (H.setTable l u).setTable k t := by
  cases k <;> cases l <;> first | rfl | exact absurd rfl hne

theorem setTable_setTable (H : Heap) (t u : Table (Cell k)) : (H.setTable k t).setTable k u = H.setTable k u := by
  cases k <;> rfl

theorem set_comm_of_kind_ne (H : Heap) {h : Handle k} {j : Handle l} (a : Cell k) (b : Cell l) (hne : k ≠ l) :
    (H.set h a).set j b = (H.set j b).set h a := by
  simp only [set, table_setTable_of_ne H _ hne, table_setTable_of_ne H _ hne.symm, setTable_comm H _ _ hne]

theorem set_comm_of_ne (H : Heap) {h j : Handle k} (a b : Cell k) (hne : h ≠ j) :
    (H.set h a).set j b = (H.set j b).set h a := by
  have hindex : h.index ≠ j.index := fun e => hne (by cases h; cases j; simp_all)
  simp only [set, table_setTable_self, setTable_setTable, Table.set_comm _ a b hindex]

theorem set_set (H : Heap) (h : Handle k) (a b : Cell k) : (H.set h a).set h b = H.set h b := by
  simp only [set, table_setTable_self, setTable_setTable, Table.set_set]

end Heap

end ObjectGraph
