import ObjectGraph.Access.Target

/-!
Whole paths: every segment but the last leads to a value that must not be null, and the last one is
read or written there.
-/

namespace ObjectGraph

/-- The expression as a segment that has to have an index. -/
def indexedSegment (text : String) : Except Error (String × Nat) :=
  match Segment.parse text with
  | .error e => .error (.invalidPath e)
  | .ok ⟨name, .index i⟩ => .ok (name, i)
  | .ok _ => .error (.invalidPath ⟨Utf8.length text.toList, text, .indexedExpected⟩)

/-- The expression as a segment that has to have a key. -/
def keyedSegment (text : String) : Except Error (String × String) :=
  match Segment.parse text with
  | .error e => .error (.invalidPath e)
  | .ok ⟨name, .key k⟩ => .ok (name, k)
  | .ok _ => .error (.invalidPath ⟨Utf8.length text.toList, text, .mappedExpected⟩)

/-- The path of a text. -/
def parsePath (text : String) : Except Error Path := (Path.parse text).mapError .invalidPath

namespace Resolver
variable {G : ClassGraph}

/-- Follows segments.  Those before them have been followed; they say where a null value stands. -/
def walk (r : Resolver) (full : String) (passed : List Segment) (target : Value) : List Segment → Op G Value
  | [] => return target
  | s :: rest => do
    if target.isNull then throw (.nullIntermediate (Path.join passed) full)
    let next ← r.readSegment target s
    walk r full (passed ++ [s]) next rest

/-- The value that holds the property at a path, and the last segment. -/
def owner (r : Resolver) (target : Value) (path : String) : Op G (Value × Segment) := do
  if target.isNull then throw .nullTarget
  let p ← Op.tryRead fun _ => parsePath path
  let parent ← r.walk path [] target p.parents
  if parent.isNull then throw (.nullIntermediate (Path.join p.parents) path)
  return (parent, p.last)

/-- Reads the property at a path. -/
def read (r : Resolver) (target : Value) (path : String) : Op G Value := do
  if target.isNull then throw .nullTarget
  let p ← Op.tryRead fun _ => parsePath path
  r.walk path [] target p.segments

/-- Writes the property at a path. -/
def write (r : Resolver) (target : Value) (path : String) (v : Value) : Op G Unit := do
  let (parent, s) ← r.owner target path
  r.writeSegment parent s v

/-- Reads a property by its name. -/
def readSimple (r : Resolver) (target : Value) (name : String) : Op G Value := do
  Op.tryRead fun _ => checkSimpleName name
  r.readName target name

/-- Reads what a name with an index says. -/
def readIndexed (r : Resolver) (target : Value) (text : String) : Op G Value := do
  let (name, i) ← Op.tryRead fun _ => indexedSegment text
  r.readElement target name i

/-- Reads what a name with a key says. -/
def readKeyed (r : Resolver) (target : Value) (text : String) : Op G Value := do
  let (name, key) ← Op.tryRead fun _ => keyedSegment text
  r.readEntry target name key

/-- Writes a property by its name. -/
def writeSimple (r : Resolver) (target : Value) (name : String) (v : Value) : Op G Unit := do
  Op.tryRead fun _ => checkSimpleName name
  r.writeName target name v

/-- Writes what a name with an index says. -/
def writeIndexed (r : Resolver) (target : Value) (text : String) (v : Value) : Op G Unit := do
  let (name, i) ← Op.tryRead fun _ => indexedSegment text
  r.writeElement target name i v

/-- Writes what a name with a key says. -/
def writeKeyed (r : Resolver) (target : Value) (text : String) (v : Value) : Op G Unit := do
  let (name, key) ← Op.tryRead fun _ => keyedSegment text
  r.writeEntry target name key v

end Resolver

end ObjectGraph
