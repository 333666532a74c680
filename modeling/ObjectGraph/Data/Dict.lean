import ObjectGraph.Data.Assoc

/-!
Finite maps from texts.  The entries stand in the order of their keys, so two maps with the same
bindings are equal.  The main statements say what a look-up answers after each change.
-/

namespace ObjectGraph

/-- Entries in rising order of their keys. -/
def Ascending {α : Type} (entries : List (String × α)) : Prop := entries.Pairwise fun a b => a.1 < b.1

namespace Ascending

/-- Entries with one more binding, which replaces an older one of its key. -/
def insert {α : Type} (k : String) (a : α) : List (String × α) → List (String × α)
  | [] => [(k, a)]
  | (k', a') :: rest =>
    if k < k' then (k, a) :: (k', a') :: rest
    else if k = k' then (k, a) :: rest
    else (k', a') :: insert k a rest

theorem mem_insert {α : Type} {k : String} {a : α} {entries : List (String × α)} {e : String × α}
    (h : e ∈ insert k a entries) : e = (k, a) ∨ e ∈ entries := by
  induction entries with
  | nil => simpa [insert] using h
  | cons e' rest ih =>
    obtain ⟨k', a'⟩ := e'
    simp only [insert] at h
    split at h
    · simpa using h
    · split at h
      · rcases List.mem_cons.mp h with h | h
        · exact Or.inl h
        · exact Or.inr (List.mem_cons_of_mem _ h)
      · rcases List.mem_cons.mp h with h | h
        · exact Or.inr (h ▸ List.mem_cons_self)
        · rcases ih h with h | h
          · exact Or.inl h
          · exact Or.inr (List.mem_cons_of_mem _ h)

theorem insert_ascending {α : Type} (k : String) (a : α) {entries : List (String × α)} (h : Ascending entries) :
    Ascending (insert k a entries) := by
  induction entries with
  | nil => simp [insert, Ascending]
  | cons e rest ih =>
    obtain ⟨k', a'⟩ := e
    obtain ⟨hhead, htail⟩ := List.pairwise_cons.mp h
    simp only [insert]
    split
    · rename_i hlt
      refine List.pairwise_cons.mpr ⟨?_, h⟩
      intro e he
      rcases List.mem_cons.mp he with rfl | he
      · exact hlt
      · exact String.lt_trans hlt (hhead e he)
    · split
      · rename_i heq
        subst heq
        exact List.pairwise_cons.mpr ⟨hhead, htail⟩
      · rename_i hlt hne
        refine List.pairwise_cons.mpr ⟨?_, ih htail⟩
        intro e he
        rcases mem_insert he with rfl | he
        · exact Decidable.byContradiction fun h =>
            hne (String.le_antisymm (String.not_lt.mp h) (String.not_lt.mp hlt))
        · exact hhead e he

theorem lookup_insert {α : Type} (k j : String) (a : α) (entries : List (String × α)) :
    (insert k a entries).lookup j = if j = k then some a else entries.lookup j := by
  induction entries with
  | nil => simp [insert, Assoc.lookup_cons]
  | cons e rest ih =>
    obtain ⟨k', a'⟩ := e
    simp only [insert]
    split
    · rw [Assoc.lookup_cons]
    · split
      · rename_i heq
        subst heq
        rw [Assoc.lookup_cons, Assoc.lookup_cons]
        split <;> rfl
      · rename_i hne
        rw [Assoc.lookup_cons, Assoc.lookup_cons, ih]
        split
        · rename_i hj
          rw [if_neg (hj ▸ fun h => hne h.symm)]
        · rfl

theorem filter_ascending {α : Type} {entries : List (String × α)} (p : String × α → Bool)
    (h : Ascending entries) : Ascending (entries.filter p) :=
  h.sublist List.filter_sublist

end Ascending

/-- A finite map from texts to values. -/
structure Dict (α : Type) where
  entries : List (String × α)
  ascending : Ascending entries

namespace Dict
variable {α : Type}

/-- No bindings. -/
def empty : Dict α := ⟨[], List.Pairwise.nil⟩

instance : Inhabited (Dict α) := ⟨empty⟩

/-- The value bound to a key. -/
def get? (d : Dict α) (k : String) : Option α := d.entries.lookup k

/-- Whether a key is bound. -/
def contains (d : Dict α) (k : String) : Bool := (d.get? k).isSome

/-- Binds a key, also if it has been bound to another value. -/
def insert (d : Dict α) (k : String) (a : α) : Dict α :=
  ⟨Ascending.insert k a d.entries, Ascending.insert_ascending k a d.ascending⟩

/-- Unbinds a key. -/
def erase (d : Dict α) (k : String) : Dict α :=
  ⟨d.entries.filter fun e => e.1 ≠ k, Ascending.filter_ascending _ d.ascending⟩

/-- The bound keys in rising order. -/
def keys (d : Dict α) : List String := d.entries.map Prod.fst

/-- The number of bound keys. -/
def size (d : Dict α) : Nat := d.entries.length

/-- The map of a list of bindings, of which the last one of a key counts. -/
def ofList (entries : List (String × α)) : Dict α := entries.foldl (fun d e => d.insert e.1 e.2) empty

@[simp] theorem get?_empty (k : String) : (empty : Dict α).get? k = none := rfl

theorem get?_insert (d : Dict α) (k j : String) (a : α) :
    (d.insert k a).get? j = if j = k then some a else d.get? j :=
  Ascending.lookup_insert k j a d.entries

theorem get?_erase (d : Dict α) (k j : String) : (d.erase k).get? j = if j = k then none else d.get? j :=
  Assoc.lookup_filter_ne d.entries k j

end Dict

end ObjectGraph
