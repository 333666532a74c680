import Mathlib.Data.List.Induction
import Mathlib.Data.List.Nodup
import ObjectGraph.Proofs.Operation
import ObjectGraph.Record.Operations

/-!
Schemas as ordered tables.  The properties stand in the order in which their names were first declared, and the
index finds each name at its place.  A declaration takes the place of an older one of its name or comes last,
a removal keeps the order of the rest, and a restricted schema refuses both.
-/

namespace ObjectGraph

/-- If one place of a list alone fails a test, then to leave out that place is to filter by the test. -/
theorem eraseIdx_eq_filter {α : Type} {test : α → Bool} {l : List α} {i : Nat}
    (h : ∀ j a, l[j]? = some a → (test a = false ↔ j = i)) : l.eraseIdx i = l.filter test := by
  induction l generalizing i with
  | nil => rfl
  | cons a l ih =>
    have hhead := h 0 a rfl
    cases i with
    | zero =>
      rw [List.eraseIdx_cons_zero, List.filter_cons_of_neg (by simp [hhead.mpr rfl]), List.filter_eq_self.mpr]
      intro b hb
      obtain ⟨j, hj⟩ := List.mem_iff_getElem?.mp hb
      exact eq_true_of_ne_false fun hfails => Nat.succ_ne_zero j ((h (j + 1) b hj).mp hfails)
    | succ i =>
      have hpasses : test a = true := eq_true_of_ne_false fun hfails => nomatch hhead.mp hfails
      rw [List.eraseIdx_cons_succ, List.filter_cons_of_pos hpasses,
        ih fun j b hj => (h (j + 1) b hj).trans Nat.succ_inj]

namespace PropertyTable.Indexed
variable {t : PropertyTable} {name : String} {p : Property} {i : Nat}

/-! ### Tables whose index is exact -/

theorem getElem?_properties (h : t.Indexed) (hi : t.index.get? name = some i) :
    ∃ p, t.properties[i]? = some p ∧ p.name = name := by
  have hplace := (h name i).mp hi
  rwa [getElem?_names, Option.map_eq_some_iff] at hplace

theorem get?_eq_some_iff (h : t.Indexed) : t.get? name = some p ↔ p ∈ t.properties ∧ p.name = name := by
  rw [get?, Option.bind_eq_some_iff]
  constructor
  · rintro ⟨i, hi, hp⟩
    obtain ⟨q, hq, hname⟩ := h.getElem?_properties hi
    cases hq.symm.trans hp
    exact ⟨List.mem_of_getElem? hp, hname⟩
  · rintro ⟨hp, rfl⟩
    obtain ⟨i, hi⟩ := List.mem_iff_getElem?.mp hp
    exact ⟨i, (h p.name i).mpr (by rw [getElem?_names, hi]; rfl), hi⟩

theorem contains_iff (h : t.Indexed) : t.contains name = true ↔ name ∈ t.names := by
  rw [contains, Assoc.contains, Option.isSome_iff_exists, List.mem_iff_getElem?]
  exact exists_congr (h name)

theorem contains_eq (h : t.Indexed) (name : String) : t.contains name = (t.get? name).isSome := by
  rw [Bool.eq_iff_iff, h.contains_iff, Option.isSome_iff_exists, names, List.mem_map]
  exact exists_congr fun _ => h.get?_eq_some_iff.symm

theorem nodup (h : t.Indexed) : t.names.Nodup := by
  rw [List.nodup_iff_getElem?_ne_getElem?]
  intro i j hij hj hsame
  rw [List.getElem?_eq_getElem hj] at hsame
  have hi := (h _ i).mpr hsame
  have hj := (h _ j).mpr (List.getElem?_eq_getElem hj)
  exact Nat.ne_of_lt hij (Option.some.inj (hi.symm.trans hj))

/-- Only the property at the place of a name has that name. -/
theorem name_ne_iff (h : t.Indexed) (hi : t.index.get? name = some i) {j : Nat} {q : Property}
    (hq : t.properties[j]? = some q) : (q.name != name) = false ↔ j = i := by
  rw [bne_eq_false_iff_eq]
  constructor
  · rintro rfl
    have hj := (h q.name j).mpr (by rw [getElem?_names, hq]; rfl)
    exact Option.some.inj (hj.symm.trans hi)
  · rintro rfl
    obtain ⟨p, hp, hname⟩ := h.getElem?_properties hi
    cases hp.symm.trans hq
    exact hname

/-- A removal takes out the property of the name and keeps the others in their order. -/
theorem properties_erase (h : t.Indexed) (name : String) :
    (t.erase name).properties = t.properties.filter fun p => p.name != name := by
  cases hi : t.index.get? name with
  | none =>
    rw [erase_of_none hi, List.filter_eq_self.mpr]
    intro p hp
    have hne : t.get? name ≠ some p := by simp [get?, hi]
    exact bne_iff_ne.mpr fun hname => hne (h.get?_eq_some_iff.mpr ⟨hp, hname⟩)
  | some i =>
    rw [erase_of_some hi]
    exact eraseIdx_eq_filter fun _ _ => h.name_ne_iff hi

theorem get?_insert (h : t.Indexed) (p : Property) (name : String) :
    (t.insert p).get? name = if p.name = name then some p else t.get? name := by
  refine Option.ext fun q => ?_
  cases hi : t.index.get? p.name with
  | some i =>
    rw [insert_of_some hi, get?, get?]
    split
    · rename_i hname
      subst hname
      simp [hi, h.lt_length hi]
    · rename_i hname
      cases hj : t.index.get? name with
      | none => rfl
      | some j =>
        have hne : i ≠ j := by
          rintro rfl
          exact hname (Option.some.inj (((h _ i).mp hi).symm.trans ((h _ i).mp hj)))
        simp [List.getElem?_set_ne hne]
  | none =>
    rw [insert_of_none hi, get?, get?, Assoc.get?_insert]
    split
    · rename_i hname
      simp [hname]
    · rename_i hname
      rw [if_neg (Ne.symm hname)]
      cases hj : t.index.get? name with
      | none => rfl
      | some j => simp [List.getElem?_append_left (h.lt_length hj)]

theorem get?_erase (h : t.Indexed) (n name : String) :
    (t.erase n).get? name = if n = name then none else t.get? name := by
  refine Option.ext fun q => ?_
  rw [(h.erase n).get?_eq_some_iff, h.properties_erase, List.mem_filter]
  split
  · rename_i hn
    simp [hn]
  · rename_i hn
    rw [h.get?_eq_some_iff]
    constructor
    · exact fun hq => ⟨hq.1.1, hq.2⟩
    · rintro ⟨hq, rfl⟩
      exact ⟨⟨hq, bne_iff_ne.mpr (Ne.symm hn)⟩, rfl⟩

end PropertyTable.Indexed

namespace Schema
variable {S T : Schema} {name : String} {p : Property} {i : Nat}

/-! ### What is declared -/

theorem property?_eq_some_iff : S.property? name = some p ↔ p ∈ S.properties ∧ p.name = name :=
  S.indexed.get?_eq_some_iff

theorem name_of_property? (h : S.property? name = some p) : p.name = name := (property?_eq_some_iff.mp h).2

theorem mem_of_property? (h : S.property? name = some p) : p ∈ S.properties := (property?_eq_some_iff.mp h).1

/-- What a name is declared as depends on nothing but the properties. -/
theorem property?_congr (h : S.properties = T.properties) (name : String) : S.property? name = T.property? name :=
  Option.ext fun p => by rw [property?_eq_some_iff, property?_eq_some_iff, h]

theorem declares_eq (S : Schema) (name : String) : S.declares name = (S.property? name).isSome :=
  S.indexed.contains_eq name

theorem declares_eq_false_iff : S.declares name = false ↔ S.property? name = none := by
  rw [declares_eq, Option.isSome_eq_false_iff, Option.isNone_iff_eq_none]

theorem declares_iff : S.declares name = true ↔ name ∈ S.names := S.indexed.contains_iff

theorem declares_iff_exists : S.declares name = true ↔ ∃ p, S.property? name = some p := by
  rw [declares_eq, Option.isSome_iff_exists]

theorem mem_names_iff : name ∈ S.names ↔ ∃ p, S.property? name = some p := declares_iff.symm.trans declares_iff_exists

/-! ### What a change does -/

/-- A declaration is found under its name, and changes no other one. -/
theorem property?_put (S : Schema) (p : Property) (name : String) :
    (S.put p).property? name = if p.name = name then some p else S.property? name := S.indexed.get?_insert p name

theorem property?_drop (S : Schema) (n name : String) :
    (S.drop n).property? name = if n = name then none else S.property? name := S.indexed.get?_erase n name

/-- A property takes the place of the one of its name. -/
theorem properties_put_of_getElem? (h : S.names[i]? = some p.name) : (S.put p).properties = S.properties.set i p :=
  congrArg PropertyTable.properties (PropertyTable.insert_of_some ((S.indexed p.name i).mpr h))

/-- A property of a new name comes last. -/
theorem properties_put_of_not_mem (h : p.name ∉ S.names) : (S.put p).properties = S.properties ++ [p] := by
  refine congrArg PropertyTable.properties (PropertyTable.insert_of_none ?_)
  refine Option.eq_none_iff_forall_ne_some.mpr fun i hi => h ?_
  exact List.mem_of_getElem? ((S.indexed p.name i).mp hi)

theorem properties_drop (S : Schema) (name : String) :
    (S.drop name).properties = S.properties.filter fun p => p.name != name := S.indexed.properties_erase name

/-- Only a schema that is not restricted is changed. -/
theorem change_eq_ok {f : Schema → Schema} (h : S.change name f = .ok T) : S.isRestricted = false ∧ T = f S := by
  unfold change at h
  split at h
  · cases h
  · rename_i hfree
    cases h
    exact ⟨Bool.eq_false_iff.mpr hfree, rfl⟩

theorem add_eq_ok (h : S.add p = .ok T) : S.isRestricted = false ∧ T = S.put p := change_eq_ok h

theorem remove_eq_ok (h : S.remove name = .ok T) : S.isRestricted = false ∧ T = S.drop name := change_eq_ok h

section
variable (h : S.isRestricted = false)
include h

theorem add_of_free (p : Property) : S.add p = .ok (S.put p) := by
  rw [add, change, h, if_neg Bool.false_ne_true]

theorem remove_of_free (name : String) : S.remove name = .ok (S.drop name) := by
  rw [remove, change, h, if_neg Bool.false_ne_true]

end

section
variable (h : S.isRestricted = true)
include h

theorem add_of_restricted (p : Property) : S.add p = .error (.restrictedSchema S.name p.name) := by
  rw [add, change, if_pos h]

theorem remove_of_restricted (name : String) : S.remove name = .error (.restrictedSchema S.name name) := by
  rw [remove, change, if_pos h]

end

/-! ### Schemas with given properties -/

theorem ofProperties_concat (name : String) (ps : List Property) (p : Property) :
    ofProperties name (ps ++ [p]) = (ofProperties name ps).put p := List.foldl_concat ..

theorem names_put (S : Schema) (p : Property) :
    (S.put p).names = if p.name ∈ S.names then S.names else S.names ++ [p.name] := by
  split
  · rename_i hold
    obtain ⟨i, hi⟩ := List.mem_iff_getElem?.mp hold
    have hset := S.indexed.names_set ((S.indexed p.name i).mpr hi)
    rwa [← properties, ← properties_put_of_getElem? hi] at hset
  · rename_i hnew
    change (S.put p).properties.map Property.name = _
    rw [properties_put_of_not_mem hnew, List.map_append]
    rfl

/-- The names stand in the order of their first occurrence. -/
theorem names_ofProperties (name : String) (ps : List Property) :
    (ofProperties name ps).names = (ps.map Property.name).eraseDups := by
  induction ps using List.reverseRecOn with
  | nil => rfl
  | append_singleton ps p ih =>
    rw [ofProperties_concat, names_put, ih, List.map_append, List.eraseDups_append]
    generalize ps.map Property.name = names
    by_cases hold : p.name ∈ names
    · rw [if_pos (List.mem_eraseDups.mpr hold)]
      simp [List.removeAll, hold]
    · rw [if_neg (mt List.mem_eraseDups.mp hold)]
      simp [List.removeAll, hold, List.eraseDups_cons]

theorem name_ofProperties (name : String) (ps : List Property) : (ofProperties name ps).name = name := by
  induction ps using List.reverseRecOn with
  | nil => rfl
  | append_singleton ps p ih =>
    rw [ofProperties_concat]
    exact ih

/-- The last property of a name is declared. -/
theorem property?_ofProperties (name : String) (ps : List Property) (n : String) :
    (ofProperties name ps).property? n = ps.reverse.find? fun p => p.name == n := by
  induction ps using List.reverseRecOn with
  | nil => rfl
  | append_singleton ps p ih =>
    rw [ofProperties_concat, property?_put, ih, List.reverse_concat]
    by_cases hn : p.name = n
    · rw [if_pos hn, List.find?_cons_of_pos]
      exact beq_iff_eq.mpr hn
    · rw [if_neg hn, List.find?_cons_of_neg]
      exact mt beq_iff_eq.mp hn

/-! ### Ordered tables -/

/-- What can be asked about a schema agrees with its list of properties, in which no name stands twice: the index
has each name at its place, and no others. -/
structure IsOrderedTable (S : Schema) : Prop where
  nodup : (S.properties.map Property.name).Nodup
  names : S.names = S.properties.map Property.name
  index : ∀ name i, S.table.index.get? name = some i ↔ S.names[i]? = some name
  property : ∀ name p, S.property? name = some p ↔ p ∈ S.properties ∧ p.name = name
  declares : ∀ name, S.declares name = true ↔ name ∈ S.names
  size : S.size = S.names.length
  isEmpty : S.isEmpty = true ↔ S.names = []

theorem isOrderedTable (S : Schema) : S.IsOrderedTable where
  nodup := S.indexed.nodup
  names := rfl
  index := S.indexed
  property _ _ := property?_eq_some_iff
  declares _ := declares_iff
  size := (List.length_map _).symm
  isEmpty := by rw [Schema.isEmpty, List.isEmpty_iff, Schema.names, PropertyTable.names, List.map_eq_nil_iff]; rfl

/-- After the removal of an earlier property the later ones are still found, and the removed one comes last when it
is declared again. -/
example : let S := (ofProperties "Row" [.untyped "a", .untyped "b", .untyped "c"]).drop "a"
    S.property? "c" = some (.untyped "c") ∧ S.table.index.get? "c" = some 1 ∧
      (S.put (.untyped "a")).names = ["b", "c", "a"] := ⟨rfl, rfl, rfl⟩

end Schema

namespace SharedSchema
variable {G : ClassGraph} {S : Handle .schema} {s s' : State G} {f : Schema → Except Error Schema} {T : Schema}

/-! ### Changes of a schema on the heap -/

/-- A change of a schema is made or refused, and leaves all other cells as they are. -/
theorem run_edit {r : Except Error Unit} (hedit : ExceptT.run (edit S f) s = (r, s')) :
    (∃ e, r = .error e ∧ s' = s) ∨
      ∃ T, r = .ok () ∧ f (s.heap.get S) = .ok T ∧ s' = { s with heap := s.heap.set S T } := by
  rw [edit, Op.run_tryWrite] at hedit
  cases hf : f (s.heap.get S) with
  | error e =>
    rw [hf] at hedit
    cases hedit
    exact .inl ⟨e, rfl, rfl⟩
  | ok T =>
    rw [hf] at hedit
    cases hedit
    exact .inr ⟨T, rfl, rfl, rfl⟩

theorem run_edit_of_ok (hf : f (s.heap.get S) = .ok T) :
    ExceptT.run (edit S f) s = (.ok (), { s with heap := s.heap.set S T }) := by
  rw [edit, Op.run_tryWrite, hf]
  rfl

theorem run_edit_of_error {e : Error} (hf : f (s.heap.get S) = .error e) :
    ExceptT.run (edit S f) s = (.error e, s) := by
  rw [edit, Op.run_tryWrite, hf]
  rfl

/-- What a holder of a schema may ask for. -/
inductive Change
  | add (name : String)
  | declare (p : Property)
  | remove (name : String)
  | restrict (isRestricted : Bool)

namespace Change

/-- What a change makes of a schema. -/
def apply : Change → Schema → Except Error Schema
  | add name, T => T.add (.untyped name)
  | declare p, T => T.add p
  | remove name, T => T.remove name
  | restrict isRestricted, T => .ok (T.restrict isRestricted)

/-- Asks for a change of a schema. -/
def request (S : Handle .schema) (c : Change) : Op G Unit := edit S c.apply

/-- The name that a change adds or removes. -/
def subject? : Change → Option String
  | add name | remove name => some name
  | declare p => some p.name
  | restrict _ => none

end Change

/-- Asks for changes of a schema, one after another, whether or not they are made. -/
def requests (S : Handle .schema) (s : State G) (cs : List Change) : State G :=
  cs.foldl (fun s c => (ExceptT.run (c.request S) s).2) s

/-- How a schema takes each change.  A restricted one refuses to add and to remove, and nothing is changed then.
Otherwise a property takes the place of the one of its name or comes last, and a removal keeps the order of the
rest; neither has an effect on the restriction, nor has that on the properties. -/
structure TakesChanges (S : Handle .schema) (s : State G) : Prop where
  refuse : (s.heap.get S).isRestricted = true → ∀ (c : Change) name, c.subject? = some name →
    ExceptT.run (c.request S) s = (.error (.restrictedSchema (s.heap.get S).name name), s)
  add : ∀ name, ExceptT.run ((Change.add name).request S) s =
    ExceptT.run ((Change.declare (.untyped name)).request S) s
  declare : (s.heap.get S).isRestricted = false → ∀ p, ∃ T,
    ExceptT.run ((Change.declare p).request S) s = (.ok (), { s with heap := s.heap.set S T }) ∧
    (∀ i : Nat, (s.heap.get S).names[i]? = some p.name → T.properties = (s.heap.get S).properties.set i p) ∧
    (p.name ∉ (s.heap.get S).names → T.properties = (s.heap.get S).properties ++ [p]) ∧ T.isRestricted = false
  remove : (s.heap.get S).isRestricted = false → ∀ name, ∃ T,
    ExceptT.run ((Change.remove name).request S) s = (.ok (), { s with heap := s.heap.set S T }) ∧
    T.properties = ((s.heap.get S).properties.filter fun p => p.name != name) ∧ T.isRestricted = false
  restrict : ∀ b, ∃ T,
    ExceptT.run ((Change.restrict b).request S) s = (.ok (), { s with heap := s.heap.set S T }) ∧
    T.properties = (s.heap.get S).properties ∧ T.isRestricted = b

theorem takesChanges (S : Handle .schema) (s : State G) : TakesChanges S s where
  refuse hr c name hname := by
    cases c with
    | add n =>
      cases hname
      exact run_edit_of_error (Schema.add_of_restricted hr _)
    | declare p =>
      cases hname
      exact run_edit_of_error (Schema.add_of_restricted hr _)
    | remove n =>
      cases hname
      exact run_edit_of_error (Schema.remove_of_restricted hr _)
    | restrict b => cases hname
  add _ := rfl
  declare hf p := ⟨_, run_edit_of_ok (Schema.add_of_free hf p), fun _ => Schema.properties_put_of_getElem?,
    Schema.properties_put_of_not_mem, hf⟩
  remove hf name := ⟨_, run_edit_of_ok (Schema.remove_of_free hf name), Schema.properties_drop _ name, hf⟩
  restrict b := ⟨_, run_edit_of_ok rfl, rfl, rfl⟩

/-- No change renames a schema. -/
theorem name_request (c : Change) (s : State G) :
    ((ExceptT.run (c.request S) s).2.heap.get S).name = (s.heap.get S).name := by
  obtain ⟨_, -, hsame⟩ | ⟨T, -, hT, hafter⟩ := run_edit (f := c.apply) (S := S) (s := s) rfl
  · exact congrArg (fun t : State G => (t.heap.get S).name) hsame
  · refine (congrArg (fun t : State G => (t.heap.get S).name) hafter).trans ?_
    refine (congrArg Schema.name (s.heap.get_set_self S T)).trans ?_
    cases c with
    | add n => rw [(Schema.add_eq_ok hT).2]; rfl
    | declare p => rw [(Schema.add_eq_ok hT).2]; rfl
    | remove n => rw [(Schema.remove_eq_ok hT).2]; rfl
    | restrict b => cases hT; rfl

theorem name_requests (cs : List Change) (s : State G) :
    ((requests S s cs).heap.get S).name = (s.heap.get S).name := by
  induction cs generalizing s with
  | nil => rfl
  | cons c cs ih => exact (ih _).trans (name_request c s)

/-- However a schema is made and changed, it is an ordered table.  It begins with the given properties, in the order
in which their names first occur, each name with its last property. -/
theorem is_ordered_table (name : String) (ps : List Property) (s₀ : State G) : ∃ S s₁,
    ExceptT.run (create name ps : Op G (Handle .schema)) s₀ = (.ok S, s₁) ∧
    (s₁.heap.get S).names = (ps.map Property.name).eraseDups ∧
    (∀ n, (s₁.heap.get S).property? n = ps.reverse.find? fun p => p.name == n) ∧
    ∀ cs, ((requests S s₁ cs).heap.get S).name = name ∧ ((requests S s₁ cs).heap.get S).IsOrderedTable ∧
      TakesChanges S (requests S s₁ cs) := by
  have hnew := s₀.heap.get_alloc_self (k := .schema) (.ofProperties name ps)
  refine ⟨_, _, Op.run_change s₀ _, ?_, fun n => ?_, fun cs => ⟨?_, Schema.isOrderedTable _, takesChanges _ _⟩⟩
  · exact (congrArg Schema.names hnew).trans (Schema.names_ofProperties name ps)
  · exact (congrArg (Schema.property? · n) hnew).trans (Schema.property?_ofProperties name ps n)
  · exact (name_requests cs _).trans ((congrArg Schema.name hnew).trans (Schema.name_ofProperties name ps))

end SharedSchema

end ObjectGraph
