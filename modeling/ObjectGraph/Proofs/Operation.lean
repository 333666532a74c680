import ObjectGraph.Operation

/-!
Runs of operations that follow one another, by what the first of them answers.
-/

namespace ObjectGraph

theorem Value.isNull_iff {v : Value} : v.isNull = true ↔ v = .null := by
  cases v <;> simp [Value.isNull]

theorem Value.isNull_eq_false_iff {v : Value} : v.isNull = false ↔ v ≠ .null := by
  rw [ne_eq, ← Value.isNull_iff, Bool.not_eq_true]

/-- What may fail twice in a row succeeds if it does so both times. -/
theorem bind_eq_ok {ε α β : Type} {x : Except ε α} {k : α → Except ε β} {b : β} :
    x >>= k = .ok b ↔ ∃ a, x = .ok a ∧ k a = .ok b := by
  cases x with
  | error e =>
    constructor
    · intro h
      cases h
    · rintro ⟨_, h, -⟩
      cases h
  | ok a =>
    constructor
    · exact fun h => ⟨a, rfl, h⟩
    · rintro ⟨_, h, hk⟩
      cases h
      exact hk

namespace Op
variable {G : ClassGraph} {α β : Type} {s t u : State G} {x : Op G α} {k : α → Op G β}

theorem run_bind_of_ok {a : α} (h : ExceptT.run x s = (.ok a, t)) :
    ExceptT.run (x >>= k) s = ExceptT.run (k a) t := by
  rw [run_bind, h]

theorem run_bind_of_error {e : Error} (h : ExceptT.run x s = (.error e, t)) :
    ExceptT.run (x >>= k) s = (.error e, t) := by
  rw [run_bind, h]

theorem run_attempt_bind {res : Except Error α} {k : Except Error α → Op G β} (h : ExceptT.run x s = (res, t)) :
    ExceptT.run (attempt x >>= k) s = ExceptT.run (k res) t := by
  rw [run_bind_of_ok (run_attempt s x), h]

theorem run_bind_congr {y : Op G α} (h : ExceptT.run x s = ExceptT.run y s) :
    ExceptT.run (x >>= k) s = ExceptT.run (y >>= k) s := by
  rw [run_bind, run_bind, h]

theorem run_bind_eq_ok {b : β} : ExceptT.run (x >>= k) s = (.ok b, u) ↔
    ∃ a t, ExceptT.run x s = (.ok a, t) ∧ ExceptT.run (k a) t = (.ok b, u) := by
  rcases hx : ExceptT.run x s with ⟨_ | a, t⟩
  · rw [run_bind_of_error hx]
    constructor
    · intro h
      cases h
    · rintro ⟨_, _, h, -⟩
      cases h
  · rw [run_bind_of_ok hx]
    constructor
    · exact fun h => ⟨a, t, rfl, h⟩
    · rintro ⟨_, _, h, hk⟩
      cases h
      exact hk

/-- What is done only with a value that is not null succeeds only then. -/
theorem run_unlessNull_eq_ok {v : Value} {e : Error} {a : α} :
    ExceptT.run (if v.isNull then throw e else x) s = (.ok a, t) ↔ v ≠ .null ∧ ExceptT.run x s = (.ok a, t) := by
  cases hv : v.isNull with
  | true =>
    rw [if_pos rfl, run_throw]
    constructor
    · intro h
      cases h
    · rintro ⟨hne, -⟩
      exact absurd (Value.isNull_iff.mp hv) hne
  | false =>
    rw [if_neg Bool.false_ne_true]
    exact ⟨fun h => ⟨Value.isNull_eq_false_iff.mp hv, h⟩, fun h => h.2⟩

theorem run_tryChange_eq_ok {f : Heap → Except Error (α × Heap)} {a : α} :
    ExceptT.run (tryChange f : Op G α) s = (.ok a, t) ↔ ∃ H, f s.heap = .ok (a, H) ∧ t = { s with heap := H } := by
  rcases h : f s.heap with e | ⟨a', H'⟩
  · rw [run_tryChange_of_error s h]
    exact ⟨nofun, nofun⟩
  · rw [run_tryChange_of_ok s h]
    constructor
    · intro h'
      cases h'
      exact ⟨H', rfl, rfl⟩
    · rintro ⟨_, h', rfl⟩
      cases h'
      rfl

/-- A change that may fail succeeds with the new heap, or leaves the state as it is. -/
theorem run_tryWrite (f : Heap → Except Error Heap) : ExceptT.run (tryWrite f : Op G Unit) s =
    match f s.heap with
    | .ok H => (.ok (), { s with heap := H })
    | .error e => (.error e, s) := by
  cases hf : f s.heap with
  | ok H =>
    refine run_tryChange_of_ok s ?_
    rw [hf]
    rfl
  | error e =>
    refine run_tryChange_of_error s ?_
    rw [hf]
    rfl

end Op

end ObjectGraph
