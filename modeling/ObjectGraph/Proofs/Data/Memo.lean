import Mathlib.Data.Set.Card
import ObjectGraph.Data.Memo

/-!
Memo tables as finite maps.  Who uses a table may look up, bind, unbind and count keys, and may ask for a
key together with a computation, which may itself use the table in all these ways.  The table holds the
cells of its values, and shares them with those to whom it has handed a value.

The main statement says that every use of an empty table is answered as by a finite map, that a computation
runs exactly if its key is absent when it is asked for, and that a value that was handed out stays as it was.
-/

namespace ObjectGraph

/-! ### Keys -/

namespace Assoc
variable {κ υ : Type} [DecidableEq κ]

/-- The bound keys. -/
def keys (m : Assoc κ υ) : List κ := m.entries.map Prod.fst

theorem mem_keys_iff (m : Assoc κ υ) (k : κ) : k ∈ m.keys ↔ m.get? k ≠ none := by
  obtain ⟨entries⟩ := m
  show k ∈ entries.map Prod.fst ↔ entries.lookup k ≠ none
  induction entries with
  | nil => simp
  | cons e rest ih =>
    rw [List.map_cons, List.mem_cons, lookup_cons, ih]
    split <;> simp_all

/-- No key is bound twice. -/
def Distinct (m : Assoc κ υ) : Prop := m.keys.Nodup

omit [DecidableEq κ] in
theorem distinct_empty : (empty : Assoc κ υ).Distinct := List.nodup_nil

theorem Distinct.erase {m : Assoc κ υ} (h : m.Distinct) (k : κ) : (m.erase k).Distinct :=
  h.sublist (List.filter_sublist.map Prod.fst)

theorem Distinct.insert {m : Assoc κ υ} (h : m.Distinct) (k : κ) (v : υ) : (m.insert k v).Distinct := by
  refine List.nodup_cons.mpr ⟨fun hk => ?_, h.erase k⟩
  have := (mem_keys_iff (m.erase k) k).mp hk
  simp [get?_erase] at this

/-- The size of a map without double keys is the number of keys that a look-up finds. -/
theorem Distinct.encard_bound {m : Assoc κ υ} (h : m.Distinct) : {k | m.get? k ≠ none}.encard = m.size := by
  have hkeys : {k | m.get? k ≠ none} = (m.keys.toFinset : Set κ) := by
    ext k
    simp [mem_keys_iff]
  rw [hkeys, Set.encard_coe_eq_coe_finsetCard, List.toFinset_card_of_nodup h, keys, List.length_map, size]

end Assoc

namespace Memo
variable {κ υ α : Type}

/-! ### Uses -/

/-- What is done with a table, step by step.  Each step may depend on all answers before it.  A step looks
up a key, or asks whether it is bound; binds, unbinds or forgets keys; counts them; looks again at a value
that was handed out; or has a key computed, by a computation that may fail or by one that does not. -/
inductive Use (κ υ : Type) : Type → Type 1
  | done {α : Type} (a : α) : Use κ υ α
  | get {α : Type} (k : κ) (next : Option υ → Use κ υ α) : Use κ υ α
  | contains {α : Type} (k : κ) (next : Bool → Use κ υ α) : Use κ υ α
  | insert {α : Type} (k : κ) (x : υ) (next : υ → Use κ υ α) : Use κ υ α
  | remove {α : Type} (k : κ) (next : Option υ → Use κ υ α) : Use κ υ α
  | clear {α : Type} (next : Use κ υ α) : Use κ υ α
  | size {α : Type} (next : Nat → Use κ υ α) : Use κ υ α
  | again {α : Type} (i : Nat) (next : Option υ → Use κ υ α) : Use κ υ α
  | compute {α : Type} (k : κ) (computation : Use κ υ υ) (next : υ → Use κ υ α) : Use κ υ α
  | tryCompute {α ε : Type} (k : κ) (computation : Use κ υ (Except ε υ)) (next : Except ε υ → Use κ υ α) : Use κ υ α

/-! ### Finite maps -/

/-- A finite map, with the values that were handed out and the keys whose computation ran. -/
structure View (κ υ : Type) where
  bound : κ → Option υ
  handed : List υ
  ran : List κ

namespace View

def blank : View κ υ := ⟨fun _ => none, [], []⟩

variable (v : View κ υ)

def hand (x : υ) : View κ υ := { v with handed := v.handed ++ [x] }

def handAny : Option υ → View κ υ
  | none => v
  | some x => v.hand x

def clear : View κ υ := { v with bound := fun _ => none }

def begun (k : κ) : View κ υ := { v with ran := v.ran ++ [k] }

/-- Binds a key, also if it is bound, or unbinds it. -/
def put [DecidableEq κ] (k : κ) (o : Option υ) : View κ υ := { v with bound := Function.update v.bound k o }

end View

/-- What a use of a finite map does: its answer, and the map after it. -/
inductive Does [DecidableEq κ] : {α : Type} → Use κ υ α → View κ υ → α → View κ υ → Prop
  | done {α : Type} {a : α} {v : View κ υ} : Does (.done a) v a v
  | get {α : Type} {k : κ} {next : Option υ → Use κ υ α} {v w : View κ υ} {b : α} :
      Does (next (v.bound k)) (v.handAny (v.bound k)) b w → Does (.get k next) v b w
  | contains {α : Type} {k : κ} {next : Bool → Use κ υ α} {v w : View κ υ} {b : α} :
      Does (next (v.bound k).isSome) v b w → Does (.contains k next) v b w
  | insert {α : Type} {k : κ} {x : υ} {next : υ → Use κ υ α} {v w : View κ υ} {b : α} :
      Does (next x) ((v.put k (some x)).hand x) b w → Does (.insert k x next) v b w
  | remove {α : Type} {k : κ} {next : Option υ → Use κ υ α} {v w : View κ υ} {b : α} :
      Does (next (v.bound k)) ((v.put k none).handAny (v.bound k)) b w → Does (.remove k next) v b w
  | clear {α : Type} {next : Use κ υ α} {v w : View κ υ} {b : α} : Does next v.clear b w → Does (.clear next) v b w
  | size {α : Type} {next : Nat → Use κ υ α} {v w : View κ υ} {b : α} {n : Nat} :
      {k | v.bound k ≠ none}.encard = n → Does (next n) v b w → Does (.size next) v b w
  | again {α : Type} {i : Nat} {next : Option υ → Use κ υ α} {v w : View κ υ} {b : α} :
      Does (next v.handed[i]?) v b w → Does (.again i next) v b w
  /-- A key that is bound is answered, and the computation does not run. -/
  | compute_bound {α : Type} {k : κ} {c : Use κ υ υ} {next : υ → Use κ υ α} {v w : View κ υ} {b : α} {x : υ} :
      v.bound k = some x → Does (next x) (v.hand x) b w → Does (.compute k c next) v b w
  /-- The key is bound after all that the computation does, and whatever it does. -/
  | compute_absent {α : Type} {k : κ} {c : Use κ υ υ} {next : υ → Use κ υ α} {v u w : View κ υ} {b : α} {x : υ} :
      v.bound k = none → Does c (v.begun k) x u → Does (next x) ((u.put k (some x)).hand x) b w →
        Does (.compute k c next) v b w
  | try_bound {α ε : Type} {k : κ} {c : Use κ υ (Except ε υ)} {next : Except ε υ → Use κ υ α} {v w : View κ υ}
      {b : α} {x : υ} :
      v.bound k = some x → Does (next (.ok x)) (v.hand x) b w → Does (.tryCompute k c next) v b w
  | try_absent {α ε : Type} {k : κ} {c : Use κ υ (Except ε υ)} {next : Except ε υ → Use κ υ α}
      {v u w : View κ υ} {b : α} {x : υ} :
      v.bound k = none → Does c (v.begun k) (.ok x) u → Does (next (.ok x)) ((u.put k (some x)).hand x) b w →
        Does (.tryCompute k c next) v b w
  /-- A computation that fails leaves what it did itself. -/
  | try_failed {α ε : Type} {k : κ} {c : Use κ υ (Except ε υ)} {next : Except ε υ → Use κ υ α}
      {v u w : View κ υ} {b : α} {e : ε} :
      v.bound k = none → Does c (v.begun k) (.error e) u → Does (next (.error e)) u b w →
        Does (.tryCompute k c next) v b w

/-! ### Cells -/

/-- A table of cells.  The table and those to whom it has handed a value share the cell of the value. -/
structure Shelf (κ υ : Type) where
  table : Memo κ Nat
  cells : List υ
  held : List Nat
  ran : List κ

namespace Shelf

def empty : Shelf κ υ := ⟨.empty, [], [], []⟩

/-- The shelf when the computation of a key begins. -/
def begun (s : Shelf κ υ) (k : κ) : Shelf κ υ := { s with ran := s.ran ++ [k] }

/-- The shelf after a key has been bound to a cell. -/
def bind [DecidableEq κ] (s : Shelf κ υ) (k : κ) (c : Nat) : Shelf κ υ := { s with table := s.table.insert k c }

/-- Computations with a shelf.  They fail on a cell that does not exist. -/
abbrev Run (κ υ : Type) := StateT (Shelf κ υ) Option

instance : MonadStateOf (Memo κ Nat) (Run κ υ) where
  get := do return (← getThe (Shelf κ υ)).table
  set table := modifyThe (Shelf κ υ) fun s => { s with table := table }
  modifyGet f := modifyGetThe (Shelf κ υ) fun s => ((f s.table).1, { s with table := (f s.table).2 })

/-- Makes a cell. -/
def fresh (x : υ) : Run κ υ Nat :=
  modifyGetThe (Shelf κ υ) fun s => (s.cells.length, { s with cells := s.cells ++ [x] })

def read (c : Nat) : Run κ υ υ := do
  liftM ((← getThe (Shelf κ υ)).cells[c]?)

def readAny : Option Nat → Run κ υ (Option υ)
  | none => return none
  | some c => do return some (← read c)

/-- Hands out a cell. -/
def hand (c : Nat) : Run κ υ υ := do
  modifyThe (Shelf κ υ) fun s => { s with held := s.held ++ [c] }
  read c

def handAny : Option Nat → Run κ υ (Option υ)
  | none => return none
  | some c => do return some (← hand c)

/-- Runs the computation of a key, and makes a cell for its value. -/
def compute (k : κ) (computation : Run κ υ υ) : Run κ υ Nat := do
  modifyThe (Shelf κ υ) fun s => s.begun k
  fresh (← computation)

/-- Runs the computation of a key, and makes a cell for its value unless it fails. -/
def tryCompute {ε : Type} (k : κ) (computation : Run κ υ (Except ε υ)) : ExceptT ε (Run κ υ) Nat := do
  ExceptT.lift (modifyThe (Shelf κ υ) fun s => s.begun k)
  ExceptT.lift (fresh (← ExceptT.mk computation))

end Shelf

namespace Use
variable [DecidableEq κ]

/-- Runs a use on a shelf.  The keys are bound to cells, and a value gets its cell when it is bound. -/
def run {α : Type} : Use κ υ α → Shelf.Run κ υ α
  | .done a => return a
  | .get k next => do
    let found := (← getThe (Memo κ Nat)).get? k
    run (next (← Shelf.handAny found))
  | .contains k next => do run (next ((← getThe (Memo κ Nat)).contains k))
  | .insert k x next => do
    let c ← Memo.publishIn k (← Shelf.fresh x)
    run (next (← Shelf.hand c))
  | .remove k next => do
    let found := (← getThe (Memo κ Nat)).get? k
    modifyThe (Memo κ Nat) fun table => table.erase k
    run (next (← Shelf.handAny found))
  | .clear next => do
    set (Assoc.empty : Memo κ Nat)
    run next
  | .size next => do run (next (← getThe (Memo κ Nat)).size)
  | .again i next => do
    let c := (← getThe (Shelf κ υ)).held[i]?
    run (next (← Shelf.readAny c))
  | .compute k computation next => do
    let c ← Memo.getOrComputeIn k (Shelf.compute k (run computation))
    run (next (← Shelf.hand c))
  | .tryCompute k computation next => do
    match ← (Memo.getOrTryIn k (Shelf.tryCompute k (run computation))).run with
    | .ok c => run (next (.ok (← Shelf.hand c)))
    | .error e => run (next (.error e))

end Use

/-! ### Refinement -/

section
variable [DecidableEq κ] {s : Shelf κ υ} {v : View κ υ} {k : κ} {x : υ} {c : Nat}

/-- A cell that there may be holds a value that there may be. -/
def Shelf.Shares (s : Shelf κ υ) (c : Option Nat) (o : Option υ) : Prop := o.map some = c.map (s.cells[·]?)

omit [DecidableEq κ] in
theorem Shelf.Shares.cases {c : Option Nat} {o : Option υ} (h : s.Shares c o) :
    (c = none ∧ o = none) ∨ ∃ a x, c = some a ∧ o = some x ∧ s.cells[a]? = some x := by
  unfold Shelf.Shares at h
  cases o with
  | none => exact Or.inl ⟨by simpa using h.symm, rfl⟩
  | some x =>
    obtain ⟨a, rfl, ha⟩ := Option.map_eq_some_iff.mp h.symm
    exact Or.inr ⟨a, x, rfl, rfl, ha⟩

/-- A shelf shows a finite map if its cells hold what the map says, and no key is bound twice. -/
structure Shows (s : Shelf κ υ) (v : View κ υ) : Prop where
  distinct : s.table.Distinct
  bound : ∀ k, s.Shares (s.table.get? k) (v.bound k)
  handed : v.handed.map some = s.held.map (s.cells[·]?)
  ran : v.ran = s.ran

theorem shows_empty : Shows (Shelf.empty : Shelf κ υ) View.blank :=
  ⟨Assoc.distinct_empty, fun _ => rfl, rfl, rfl⟩

namespace Shows

theorem held (h : Shows s v) (i : Nat) : s.Shares s.held[i]? v.handed[i]? := by
  have hi := congrArg (·[i]?) h.handed
  rw [List.getElem?_map, List.getElem?_map] at hi
  exact hi

theorem contains (h : Shows s v) (k : κ) : s.table.contains k = (v.bound k).isSome := by
  rw [Assoc.contains]
  obtain ⟨hs, hv⟩ | ⟨c, x, hs, hv, -⟩ := (h.bound k).cases <;> simp [hv, hs]

theorem size (h : Shows s v) : {k | v.bound k ≠ none}.encard = s.table.size := by
  rw [← h.distinct.encard_bound]
  congr 1
  ext k
  obtain ⟨hs, hv⟩ | ⟨c, x, hs, hv, -⟩ := (h.bound k).cases <;> simp [hv, hs]

theorem bind (h : Shows s v) (k : κ) (hc : s.cells[c]? = some x) :
    Shows (s.bind k c) (v.put k (some x)) where
  distinct := h.distinct.insert k c
  bound j := by
    have hj := h.bound j
    by_cases hjk : j = k <;> simp_all [View.put, Shelf.Shares, Shelf.bind, Assoc.get?_insert]
  handed := h.handed
  ran := h.ran

theorem unbind (h : Shows s v) (k : κ) : Shows { s with table := s.table.erase k } (v.put k none) where
  distinct := h.distinct.erase k
  bound j := by
    have hj := h.bound j
    by_cases hjk : j = k <;> simp_all [View.put, Shelf.Shares, Assoc.get?_erase]
  handed := h.handed
  ran := h.ran

theorem clear (h : Shows s v) : Shows { s with table := .empty } v.clear :=
  ⟨Assoc.distinct_empty, fun _ => rfl, h.handed, h.ran⟩

theorem begun (h : Shows s v) (k : κ) : Shows (s.begun k) (v.begun k) :=
  ⟨h.distinct, h.bound, h.handed, congrArg (· ++ [k]) h.ran⟩

/-- A new cell is none of the cells before it, so what they hold stays. -/
theorem fresh (h : Shows s v) (x : υ) : Shows { s with cells := s.cells ++ [x] } v := by
  have hold : ∀ c y, s.cells[c]? = some y → (s.cells ++ [x])[c]? = some y := fun c y hc =>
    (List.getElem?_append_left (List.getElem?_eq_some_iff.mp hc).1).trans hc
  refine ⟨h.distinct, fun k => ?_, ?_, h.ran⟩
  · obtain ⟨hs, hv⟩ | ⟨c, y, hs, hv, hc⟩ := (h.bound k).cases
    · simp [Shelf.Shares, hv, hs]
    · simp [Shelf.Shares, hv, hs, hold c y hc]
  · refine h.handed.trans (List.map_congr_left fun c hc => ?_)
    obtain ⟨y, -, hy⟩ := List.mem_map.mp (h.handed ▸ List.mem_map_of_mem hc)
    exact hy.symm.trans (hold c y hy.symm).symm

theorem hand (h : Shows s v) (hc : s.cells[c]? = some x) :
    ∃ s', Shelf.hand c s = some (x, s') ∧ Shows s' (v.hand x) := by
  refine ⟨{ s with held := s.held ++ [c] }, ?_, h.distinct, h.bound, ?_, h.ran⟩
  · show (s.cells[c]?.bind fun y => some (y, _)) = _
    rw [hc]
    rfl
  · simp [View.hand, h.handed, hc]

theorem handAny (h : Shows s v) {c : Option Nat} {o : Option υ} (ho : s.Shares c o) :
    ∃ s', Shelf.handAny c s = some (o, s') ∧ Shows s' (v.handAny o) := by
  obtain ⟨rfl, rfl⟩ | ⟨c, x, rfl, rfl, hc⟩ := ho.cases
  · exact ⟨s, rfl, h⟩
  · obtain ⟨s', hrun, h'⟩ := h.hand hc
    refine ⟨s', ?_, h'⟩
    show (Shelf.hand c s).bind _ = _
    rw [hrun]
    rfl

theorem readAny (h : Shows s v) (i : Nat) : Shelf.readAny s.held[i]? s = some (v.handed[i]?, s) := by
  obtain ⟨hs, hv⟩ | ⟨c, x, hs, hv, hc⟩ := (h.held i).cases <;> rw [hs, hv]
  · rfl
  · show (s.cells[c]?.bind fun y => some (y, s)).bind _ = _
    rw [hc]
    rfl

/-- A value that is published gets a new cell, to which its key is bound, and which is handed out. -/
theorem publish (h : Shows s v) (k : κ) (x : υ) :
    ∃ c s₁ s₂, Shelf.fresh x s = some (c, s₁) ∧ Shelf.hand c (s₁.bind k c) = some (x, s₂) ∧
      Shows s₂ ((v.put k (some x)).hand x) := by
  have hc : (s.cells ++ [x])[s.cells.length]? = some x := by simp
  obtain ⟨s₂, hhand, h₂⟩ := ((h.fresh x).bind k hc).hand hc
  exact ⟨_, _, s₂, rfl, hhand, h₂⟩

end Shows

section
variable {α β ε : Type} {s' : Shelf κ υ} {a : α}

omit [DecidableEq κ] in
theorem run_bind_of_some {m : Shelf.Run κ υ α} {f : α → Shelf.Run κ υ β} (h : m s = some (a, s')) :
    (m >>= f) s = f a s' := by
  show (m s).bind _ = _
  rw [h]
  rfl

omit [DecidableEq κ] in
theorem run_bind_of_ok {m : ExceptT ε (Shelf.Run κ υ) α} {f : α → ExceptT ε (Shelf.Run κ υ) β}
    (h : m.run s = some (.ok a, s')) : (m >>= f).run s = (f a).run s' :=
  run_bind_of_some h

omit [DecidableEq κ] in
theorem run_bind_of_error {m : ExceptT ε (Shelf.Run κ υ) α} {f : α → ExceptT ε (Shelf.Run κ υ) β} {e : ε}
    (h : m.run s = some (.error e, s')) : (m >>= f).run s = some (.error e, s') :=
  run_bind_of_some h

omit [DecidableEq κ] in
theorem run_lift_of_some {m : Shelf.Run κ υ α} (h : m s = some (a, s')) :
    (ExceptT.lift m : ExceptT ε (Shelf.Run κ υ) α).run s = some (.ok a, s') := by
  show (m s).bind _ = _
  rw [h]
  rfl

omit [DecidableEq κ] in
theorem run_getThe (s : Shelf κ υ) : (getThe (Memo κ Nat) : Shelf.Run κ υ _) s = some (s.table, s) := rfl

omit [DecidableEq κ] in
theorem run_getThe_fallible (s : Shelf κ υ) :
    (getThe (Memo κ Nat) : ExceptT ε (Shelf.Run κ υ) _).run s = some (.ok s.table, s) := rfl

theorem run_publishIn (s : Shelf κ υ) (k : κ) (c : Nat) :
    (Memo.publishIn k c : Shelf.Run κ υ Nat) s = some (c, s.bind k c) := rfl

theorem run_getOrComputeIn_of_bound {compute : Shelf.Run κ υ Nat} (hc : s.table.get? k = some c) :
    Memo.getOrComputeIn k compute s = some (c, s) := by
  rw [Memo.getOrComputeIn, run_bind_of_some (run_getThe s), hc]
  rfl

theorem run_getOrComputeIn_of_absent {compute : Shelf.Run κ υ Nat} (hk : s.table.get? k = none)
    (hc : compute s = some (c, s')) : Memo.getOrComputeIn k compute s = some (c, s'.bind k c) := by
  rw [Memo.getOrComputeIn, run_bind_of_some (run_getThe s), hk]
  exact run_bind_of_some hc

theorem run_getOrTryIn_of_bound {compute : ExceptT ε (Shelf.Run κ υ) Nat} (hc : s.table.get? k = some c) :
    (Memo.getOrTryIn k compute).run s = some (.ok c, s) := by
  rw [Memo.getOrTryIn, run_bind_of_ok (run_getThe_fallible s), hc]
  rfl

theorem run_getOrTryIn_of_ok {compute : ExceptT ε (Shelf.Run κ υ) Nat} (hk : s.table.get? k = none)
    (hc : compute.run s = some (.ok c, s')) :
    (Memo.getOrTryIn k compute).run s = some (.ok c, s'.bind k c) := by
  rw [Memo.getOrTryIn, run_bind_of_ok (run_getThe_fallible s), hk]
  exact run_bind_of_ok hc

theorem run_getOrTryIn_of_error {compute : ExceptT ε (Shelf.Run κ υ) Nat} {e : ε} (hk : s.table.get? k = none)
    (hc : compute.run s = some (.error e, s')) : (Memo.getOrTryIn k compute).run s = some (.error e, s') := by
  rw [Memo.getOrTryIn, run_bind_of_ok (run_getThe_fallible s), hk]
  exact run_bind_of_error hc

omit [DecidableEq κ] in
theorem run_compute {computation : Shelf.Run κ υ υ} {s₁ s₂ : Shelf κ υ} (h : computation (s.begun k) = some (x, s₁))
    (hfresh : Shelf.fresh x s₁ = some (c, s₂)) : Shelf.compute k computation s = some (c, s₂) :=
  (run_bind_of_some (s := s.begun k) h).trans hfresh

omit [DecidableEq κ] in
theorem run_tryCompute_of_ok {computation : Shelf.Run κ υ (Except ε υ)} {s₁ s₂ : Shelf κ υ}
    (h : computation (s.begun k) = some (.ok x, s₁)) (hfresh : Shelf.fresh x s₁ = some (c, s₂)) :
    (Shelf.tryCompute k computation).run s = some (.ok c, s₂) :=
  (run_bind_of_ok (m := ExceptT.mk computation) (s := s.begun k) h).trans (run_lift_of_some hfresh)

omit [DecidableEq κ] in
theorem run_tryCompute_of_error {computation : Shelf.Run κ υ (Except ε υ)} {e : ε}
    (h : computation (s.begun k) = some (.error e, s')) :
    (Shelf.tryCompute k computation).run s = some (.error e, s') :=
  run_bind_of_error (m := ExceptT.mk computation) (s := s.begun k) h

end

/-- Every use of a shelf is one of the finite map that it shows. -/
theorem Shows.run {α : Type} (p : Use κ υ α) (h : Shows s v) :
    ∃ b s' w, p.run s = some (b, s') ∧ Shows s' w ∧ Does p v b w := by
  -- A computation is a use of its own, so there are two hypotheses where one runs: for it and for what follows.
  induction p generalizing s v with
  | done a => exact ⟨a, s, v, rfl, h, .done⟩
  | get k next ih =>
    obtain ⟨s₁, hhand, h₁⟩ := h.handAny (h.bound k)
    obtain ⟨b, s', w, hrun, h', hdoes⟩ := ih _ h₁
    refine ⟨b, s', w, ?_, h', .get hdoes⟩
    exact (run_bind_of_some (f := fun found => (next found).run) hhand).trans hrun
  | contains k next ih =>
    obtain ⟨b, s', w, hrun, h', hdoes⟩ := ih (s.table.contains k) h
    exact ⟨b, s', w, hrun, h', .contains (h.contains k ▸ hdoes)⟩
  | insert k x next ih =>
    obtain ⟨c, s₁, s₂, hfresh, hhand, h₂⟩ := h.publish k x
    obtain ⟨b, s', w, hrun, h', hdoes⟩ := ih x h₂
    refine ⟨b, s', w, ?_, h', .insert hdoes⟩
    rw [Use.run, run_bind_of_some hfresh, run_bind_of_some (run_publishIn s₁ k c), run_bind_of_some hhand, hrun]
  | remove k next ih =>
    obtain ⟨s₁, hhand, h₁⟩ := (h.unbind k).handAny (h.bound k)
    obtain ⟨b, s', w, hrun, h', hdoes⟩ := ih _ h₁
    refine ⟨b, s', w, ?_, h', .remove hdoes⟩
    exact (run_bind_of_some (f := fun found => (next found).run) hhand).trans hrun
  | clear next ih =>
    obtain ⟨b, s', w, hrun, h', hdoes⟩ := ih h.clear
    exact ⟨b, s', w, hrun, h', .clear hdoes⟩
  | size next ih =>
    obtain ⟨b, s', w, hrun, h', hdoes⟩ := ih s.table.size h
    exact ⟨b, s', w, hrun, h', .size h.size hdoes⟩
  | again i next ih =>
    obtain ⟨b, s', w, hrun, h', hdoes⟩ := ih v.handed[i]? h
    refine ⟨b, s', w, ?_, h', .again hdoes⟩
    exact (run_bind_of_some (f := fun found => (next found).run) (h.readAny i)).trans hrun
  | compute k computation next ihc ih =>
    obtain ⟨hs, hv⟩ | ⟨c, x, hs, hv, hc⟩ := (h.bound k).cases
    · obtain ⟨x, s₁, u, hrunc, h₁, hdoesc⟩ := ihc (h.begun k)
      obtain ⟨c, s₂, s₃, hfresh, hhand, h₃⟩ := h₁.publish k x
      obtain ⟨b, s', w, hrun, h', hdoes⟩ := ih x h₃
      refine ⟨b, s', w, ?_, h', .compute_absent hv hdoesc hdoes⟩
      have hfound := run_getOrComputeIn_of_absent hs (run_compute hrunc hfresh)
      rw [Use.run, run_bind_of_some hfound, run_bind_of_some hhand, hrun]
    · obtain ⟨s₁, hhand, h₁⟩ := h.hand hc
      obtain ⟨b, s', w, hrun, h', hdoes⟩ := ih x h₁
      refine ⟨b, s', w, ?_, h', .compute_bound hv hdoes⟩
      rw [Use.run, run_bind_of_some (run_getOrComputeIn_of_bound hs), run_bind_of_some hhand, hrun]
  | tryCompute k computation next ihc ih =>
    obtain ⟨hs, hv⟩ | ⟨c, x, hs, hv, hc⟩ := (h.bound k).cases
    · obtain ⟨r, s₁, u, hrunc, h₁, hdoesc⟩ := ihc (h.begun k)
      cases r with
      | ok x =>
        obtain ⟨c, s₂, s₃, hfresh, hhand, h₃⟩ := h₁.publish k x
        obtain ⟨b, s', w, hrun, h', hdoes⟩ := ih (.ok x) h₃
        refine ⟨b, s', w, ?_, h', .try_absent hv hdoesc hdoes⟩
        have hfound := run_getOrTryIn_of_ok hs (run_tryCompute_of_ok hrunc hfresh)
        rw [Use.run, run_bind_of_some hfound]
        exact (run_bind_of_some hhand).trans hrun
      | error e =>
        obtain ⟨b, s', w, hrun, h', hdoes⟩ := ih (.error e) h₁
        refine ⟨b, s', w, ?_, h', .try_failed hv hdoesc hdoes⟩
        rw [Use.run, run_bind_of_some (run_getOrTryIn_of_error hs (run_tryCompute_of_error hrunc))]
        exact hrun
    · obtain ⟨s₁, hhand, h₁⟩ := h.hand hc
      obtain ⟨b, s', w, hrun, h', hdoes⟩ := ih (.ok x) h₁
      refine ⟨b, s', w, ?_, h', .try_bound hv hdoes⟩
      rw [Use.run, run_bind_of_some (run_getOrTryIn_of_bound hs)]
      exact (run_bind_of_some hhand).trans hrun

end

/-! ### One outcome -/

theorem Does.unique [DecidableEq κ] {p : Use κ υ α} {v u w : View κ υ} {a b : α} (h : Does p v a u)
    (h' : Does p v b w) : a = b ∧ u = w := by
  induction h generalizing w with
  | done =>
    cases h'
    exact ⟨rfl, rfl⟩
  | get _ ih | contains _ ih | insert _ ih | remove _ ih | clear _ ih | again _ ih =>
    cases h'
    exact ih ‹_›
  | size hn _ ih =>
    cases h' with
    | size hn' h' =>
      have : _ = _ := Nat.cast_inj.mp (hn.symm.trans hn')
      subst this
      exact ih h'
  | compute_bound hx _ ih =>
    cases h' with
    | compute_bound hx' h' =>
      cases hx.symm.trans hx'
      exact ih h'
    | compute_absent hx' => cases hx.symm.trans hx'
  | compute_absent hx _ _ ihc ih =>
    cases h' with
    | compute_bound hx' => cases hx.symm.trans hx'
    | compute_absent _ hc' h' =>
      obtain ⟨rfl, rfl⟩ := ihc hc'
      exact ih h'
  | try_bound hx _ ih =>
    cases h' with
    | try_bound hx' h' =>
      cases hx.symm.trans hx'
      exact ih h'
    | try_absent hx' | try_failed hx' => cases hx.symm.trans hx'
  | try_absent hx _ _ ihc ih =>
    cases h' with
    | try_bound hx' => cases hx.symm.trans hx'
    | try_absent _ hc' h' =>
      obtain ⟨hr, rfl⟩ := ihc hc'
      cases hr
      exact ih h'
    | try_failed _ hc' => cases (ihc hc').1
  | try_failed hx _ _ ihc ih =>
    cases h' with
    | try_bound hx' => cases hx.symm.trans hx'
    | try_absent _ hc' => cases (ihc hc').1
    | try_failed _ hc' h' =>
      obtain ⟨hr, rfl⟩ := ihc hc'
      cases hr
      exact ih h'

/-- Every use of an empty table has the one outcome that it has on an empty finite map: it gives the same answers, runs
the same computations, leaves the same bindings and has handed out the same values.  No step misses a cell,
and a look at a value that was handed out finds the value of that time, whatever happened to its key since. -/
theorem every_use_is_one_of_a_finite_map [DecidableEq κ] (p : Use κ υ α) :
    ∃ b s w, p.run .empty = some (b, s) ∧ Shows s w ∧ ∀ b' w', Does p .blank b' w' ↔ b' = b ∧ w' = w := by
  obtain ⟨b, s, w, hrun, hshows, hdoes⟩ := shows_empty.run p
  refine ⟨b, s, w, hrun, hshows, fun b' w' => ⟨fun h => h.unique hdoes, ?_⟩⟩
  rintro ⟨rfl, rfl⟩
  exact hdoes

end Memo

end ObjectGraph
