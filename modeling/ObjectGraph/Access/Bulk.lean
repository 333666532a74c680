import ObjectGraph.Access.Question

/-!
All properties of a value at once: reading them, and copying them to the properties of the same names
of another value, in the order of the names.
-/

namespace ObjectGraph.Resolver
variable {G : ClassGraph}

/-- Ignores a failure that says that a property is absent or may not be read or written. -/
def unlessMissing (x : Op G Unit) : Op G Unit := do
  match ← Op.attempt x with
  | .error e => if e.isMissing then return else throw e
  | .ok () => return

/-- Reads named properties into a map. -/
def collect (readOne : String → Op G Value) (d : Dict Value) : List String → Op G (Dict Value)
  | [] => return d
  | name :: names => do
    let v ← readOne name
    collect readOne (d.insert name v) names

/-- Calls getters and adds what they answer to a map. -/
def collectGetters (o : Handle .object) (d : Dict Value) : List (String × Method) → Op G (Dict Value)
  | [] => return d
  | (name, m) :: rest => do
    let v ← call m o []
    collectGetters o (d.insert name v) rest

/-- All properties that can be read, with their values. -/
def describe (r : Resolver) (target : Value) : Op G (Dict Value) := do
  match target with
  | .null => throw .nullTarget
  | .record h => do
    let names ← Record.names h
    collect (Record.read h) .empty names
  | .map m => Op.read fun H => H.get m
  | .object o => do
    let stored ← Op.read fun H => ((H.get o).storage).getD .empty
    let ds ← r.descriptors (← classOf o)
    collectGetters o stored (ds.filterMap fun d => d.read.map fun m => (d.name, m))
  | _ => throw (.unsupported "describe" (← Op.read fun H => H.targetName G target))

/-- Writes entries to the properties of their names, as long as these can be written. -/
def copyEntries (r : Resolver) (dest : Value) (writeOne : String → Value → Op G Unit) :
    List (String × Value) → Op G Unit
  | [] => return
  | (name, v) :: rest => do
    if ← r.isWriteable dest name then unlessMissing (writeOne name v)
    copyEntries r dest writeOne rest

/-- Copies all properties that can be read to those of the same names that can be written, without conversion. -/
def copyProperties (r : Resolver) (dest orig : Value) : Op G Unit := do
  if dest.isNull || orig.isNull then throw .nullTarget
  let d ← r.describe orig
  r.copyEntries dest (r.writeName dest) d.entries

end ObjectGraph.Resolver
