/-!
Finite maps from keys of any type with decidable equality, in which order does not matter.  The main
statements say what a look-up answers after each change.
-/

namespace ObjectGraph

/-- A finite map. -/
structure Assoc (κ υ : Type) where
  entries : List (κ × υ)

namespace Assoc
variable {κ υ : Type} [DecidableEq κ]

/-- No bindings. -/
def empty : Assoc κ υ := ⟨[]⟩

/-- The value bound to a key. -/
def get? (m : Assoc κ υ) (k : κ) : Option υ := m.entries.lookup k

/-- Whether a key is bound. -/
def contains (m : Assoc κ υ) (k : κ) : Bool := (m.get? k).isSome

/-- Unbinds a key. -/
def erase (m : Assoc κ υ) (k : κ) : Assoc κ υ := ⟨m.entries.filter fun e => e.1 ≠ k⟩

/-- Binds a key, also if it has been bound to another value. -/
def insert (m : Assoc κ υ) (k : κ) (v : υ) : Assoc κ υ := ⟨(k, v) :: (m.erase k).entries⟩

/-- Changes all bound values. -/
def mapValues (f : υ → υ) (m : Assoc κ υ) : Assoc κ υ := ⟨m.entries.map fun e => (e.1, f e.2)⟩

/-- The number of bound keys. -/
def size (m : Assoc κ υ) : Nat := m.entries.length

@[simp] theorem get?_empty (k : κ) : (empty : Assoc κ υ).get? k = none := rfl

theorem lookup_cons (e : κ × υ) (entries : List (κ × υ)) (j : κ) :
    (e :: entries).lookup j = if j = e.1 then some e.2 else entries.lookup j := by
  obtain ⟨i, v⟩ := e
  by_cases h : j = i
  · simp [h]
  · have : (j == i) = false := by simpa using h
    simp [List.lookup_cons, this, h]

theorem lookup_filter_ne (entries : List (κ × υ)) (k j : κ) :
    (entries.filter fun e => e.1 ≠ k).lookup j = if j = k then none else entries.lookup j := by
  induction entries with
  | nil => simp
  | cons e rest ih =>
    by_cases hek : e.1 = k
    · rw [List.filter_cons_of_neg (by simpa using hek), ih, lookup_cons, hek]
      split <;> rfl
    · rw [List.filter_cons_of_pos (by simpa using hek), lookup_cons, lookup_cons, ih]
      by_cases hj : j = e.1
      · rw [if_pos hj, if_pos hj, if_neg (hj ▸ hek)]
      · rw [if_neg hj, if_neg hj]

theorem get?_erase (m : Assoc κ υ) (k j : κ) : (m.erase k).get? j = if j = k then none else m.get? j :=
  lookup_filter_ne m.entries k j

theorem get?_insert (m : Assoc κ υ) (k j : κ) (v : υ) :
    (m.insert k v).get? j = if j = k then some v else m.get? j := by
  rw [get?, insert, lookup_cons]
  split
  · rfl
  · rename_i h
    exact (get?_erase m k j).trans (if_neg h)

theorem get?_mapValues (f : υ → υ) (m : Assoc κ υ) (k : κ) : (m.mapValues f).get? k = (m.get? k).map f := by
  obtain ⟨entries⟩ := m
  show (entries.map fun e => (e.1, f e.2)).lookup k = (entries.lookup k).map f
  induction entries with
  | nil => rfl
  | cons e rest ih =>
    rw [List.map_cons, lookup_cons, lookup_cons, ih]
    split <;> rfl

end Assoc

end ObjectGraph
