/-!
Growing tables of cells.  Every index has a content: where nothing has been written it is the
default, so that a write is read back at its index and nowhere else, without conditions.
-/

namespace ObjectGraph

/-- Cells by index. -/
structure Table (α : Type) where
  cells : Array α

namespace Table
variable {α : Type}

/-- No cells. -/
def empty : Table α := ⟨#[]⟩

/-- The number of cells, which is the index of the next new one. -/
def size (t : Table α) : Nat := t.cells.size

/-- The content at an index. -/
def get [Inhabited α] (t : Table α) (i : Nat) : α := t.cells[i]?.getD default

/-- Adds a cell at the next index. -/
def push (t : Table α) (a : α) : Table α := ⟨t.cells.push a⟩

/-- Writes at an index. -/
def set [Inhabited α] (t : Table α) (i : Nat) (a : α) : Table α :=
  if h : i < t.cells.size then ⟨t.cells.set i a h⟩
  else ⟨(t.cells ++ Array.replicate (i - t.cells.size) default).push a⟩

theorem get_set_self [Inhabited α] (t : Table α) (i : Nat) (a : α) : (t.set i a).get i = a := by
  unfold get set
  split
  · simp_all
  · rename_i h
    have : t.cells.size + (i - t.cells.size) = i := by omega
    rw [Array.getElem?_push]
    simp [this]

theorem get_set_ne [Inhabited α] (t : Table α) {i j : Nat} (a : α) (h : i ≠ j) : (t.set i a).get j = t.get j := by
  unfold get set
  split
  · rw [Array.getElem?_set_ne _ h]
  · rename_i hi
    simp only [Array.getElem?_push, Array.size_append, Array.size_replicate, Array.getElem?_append,
      Array.getElem?_replicate]
    grind

theorem get_push_self [Inhabited α] (t : Table α) (a : α) : (t.push a).get t.size = a := by
  simp [get, push, size]

theorem get_push_of_ne [Inhabited α] (t : Table α) {j : Nat} (a : α) (h : j ≠ t.size) :
    (t.push a).get j = t.get j := by
  simp [get, push, Array.getElem?_push, size] at h ⊢
  grind

end Table

end ObjectGraph
