import ObjectGraph.Data.Assoc

/-!
Memo tables: a finite map that is asked for a key together with a way to compute its value.  The
computation runs only if the key is absent, and may itself use the table.
-/

namespace ObjectGraph

/-- A table of values that have been computed. -/
abbrev Memo := Assoc

namespace Memo
variable {κ υ : Type} [DecidableEq κ]

section
variable {m : Type → Type} [Monad m] [MonadStateOf (Memo κ υ) m]

/-- Binds a key and answers the value, where a computation has a table among other things. -/
def publishIn (k : κ) (v : υ) : m υ := do
  modifyThe (Memo κ υ) fun table => table.insert k v
  return v

/-- The value of a key, which is computed and bound if it is absent. -/
def getOrComputeIn (k : κ) (compute : m υ) : m υ := do
  match (← getThe (Memo κ υ)).get? k with
  | some v => return v
  | none => publishIn k (← compute)

/-- The value of a key, which is computed and bound if it is absent.  Failures are not bound. -/
def getOrTryIn {ε : Type} (k : κ) (compute : ExceptT ε m υ) : ExceptT ε m υ := do
  match (← getThe (Memo κ υ)).get? k with
  | some v => return v
  | none => publishIn k (← compute)

end

/-- Binds a key and answers the value. -/
def publish (k : κ) (v : υ) : StateM (Memo κ υ) υ := publishIn k v

/-- The value of a key, which is computed and bound if it is absent. -/
def getOrCompute (k : κ) (compute : StateM (Memo κ υ) υ) : StateM (Memo κ υ) υ := getOrComputeIn k compute

/-- The value of a key, which is computed and bound if it is absent.  Failures are not bound. -/
def getOrTry {ε : Type} (k : κ) (compute : ExceptT ε (StateM (Memo κ υ)) υ) : ExceptT ε (StateM (Memo κ υ)) υ :=
  getOrTryIn k compute

end Memo

end ObjectGraph
