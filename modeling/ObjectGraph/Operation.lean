import ObjectGraph.Class.Cache
import ObjectGraph.Heap

/-!
Operations on a heap of containers and the caches of its resolvers.  A failed operation keeps what it
has changed before the failure.  The lemmas say what each operation does to a state.
-/

namespace ObjectGraph

/-- The containers of a program, and the caches of its resolvers. -/
structure State (G : ClassGraph) where
  heap : Heap
  caches : Table (SoundCache G)

/-- No containers and no caches. -/
def State.empty (G : ClassGraph) : State G := ⟨.empty, .empty⟩

/-- What may change the state and may fail. -/
abbrev Op (G : ClassGraph) := ExceptT Error (StateM (State G))

namespace Op
variable {G : ClassGraph} {α : Type}

/-- Reads the heap. -/
def read (f : Heap → α) : Op G α := ExceptT.mk fun s => (.ok (f s.heap), s)

/-- Reads the heap, unless that fails. -/
def tryRead (f : Heap → Except Error α) : Op G α := ExceptT.mk fun s => (f s.heap, s)

/-- Changes the heap and answers something. -/
def change (f : Heap → α × Heap) : Op G α := ExceptT.mk fun s =>
  (.ok (f s.heap).1, { s with heap := (f s.heap).2 })

/-- Changes the heap and answers something, or fails and changes nothing. -/
def tryChange (f : Heap → Except Error (α × Heap)) : Op G α := ExceptT.mk fun s =>
  match f s.heap with
  | .ok (a, H) => (.ok a, { s with heap := H })
  | .error e => (.error e, s)

/-- Changes the heap, or fails and changes nothing. -/
def tryWrite (f : Heap → Except Error Heap) : Op G Unit := tryChange fun H => (f H).map fun H => ((), H)

/-- Changes the heap. -/
def write (f : Heap → Heap) : Op G Unit := change fun H => ((), f H)

/-- Asks the cache of a resolver. -/
def ask (r : Resolver) (f : SoundCache G → α × SoundCache G) : Op G α := ExceptT.mk fun s =>
  (.ok (f (s.caches.get r.cache)).1, { s with caches := s.caches.set r.cache (f (s.caches.get r.cache)).2 })

/-- Runs an operation and answers whether and with what it succeeded.  What it has changed stays. -/
def attempt (x : Op G α) : Op G (Except Error α) := ExceptT.mk fun s =>
  let (a, s) := x.run s
  (.ok a, s)

/-! ### What a run does to a state -/

variable {β : Type} (s : State G)

@[simp] theorem run_pure (a : α) : ExceptT.run (pure a : Op G α) s = (.ok a, s) := rfl

@[simp] theorem run_throw (e : Error) : ExceptT.run (throw e : Op G α) s = (.error e, s) := rfl

/-- What follows a failure does not run. -/
theorem run_bind (x : Op G α) (k : α → Op G β) :
    ExceptT.run (x >>= k) s =
      match ExceptT.run x s with
      | (.ok a, t) => ExceptT.run (k a) t
      | (.error e, t) => (.error e, t) := by
  have hbind : ExceptT.run (x >>= k) s = ExceptT.bindCont k (ExceptT.run x s).1 (ExceptT.run x s).2 := rfl
  rw [hbind]
  rcases ExceptT.run x s with ⟨_ | a, t⟩ <;> rfl

@[simp] theorem run_read (f : Heap → α) : ExceptT.run (read f : Op G α) s = (.ok (f s.heap), s) := rfl

@[simp] theorem run_tryRead (f : Heap → Except Error α) : ExceptT.run (tryRead f : Op G α) s = (f s.heap, s) := rfl

@[simp] theorem run_change (f : Heap → α × Heap) :
    ExceptT.run (change f : Op G α) s = (.ok (f s.heap).1, { s with heap := (f s.heap).2 }) := rfl

theorem run_tryChange_of_ok {f : Heap → Except Error (α × Heap)} {a : α} {H : Heap} (h : f s.heap = .ok (a, H)) :
    ExceptT.run (tryChange f : Op G α) s = (.ok a, { s with heap := H }) := by
  simp [tryChange, ExceptT.run, ExceptT.mk, h]

/-- A refused change leaves the state as it is. -/
theorem run_tryChange_of_error {f : Heap → Except Error (α × Heap)} {e : Error} (h : f s.heap = .error e) :
    ExceptT.run (tryChange f : Op G α) s = (.error e, s) := by
  simp [tryChange, ExceptT.run, ExceptT.mk, h]

@[simp] theorem run_ask (r : Resolver) (f : SoundCache G → α × SoundCache G) :
    ExceptT.run (ask r f : Op G α) s =
      (.ok (f (s.caches.get r.cache)).1, { s with caches := s.caches.set r.cache (f (s.caches.get r.cache)).2 }) := rfl

/-- An attempt changes what the operation changes, and never fails. -/
@[simp] theorem run_attempt (x : Op G α) :
    ExceptT.run (attempt x) s = (.ok (ExceptT.run x s).1, (ExceptT.run x s).2) := rfl

end Op

/-- A new resolver with an empty cache. -/
def Resolver.create {G : ClassGraph} : Op G Resolver := ExceptT.mk fun s =>
  (.ok ⟨s.caches.size⟩, { s with caches := s.caches.push .empty })

namespace Resolver
variable {G : ClassGraph}

/-- The properties of a class. -/
def descriptors (r : Resolver) (c : ClassId) : Op G (List Descriptor) := Op.ask r (SoundCache.askDescriptors c)

/-- The method that a search finds. -/
def method (r : Resolver) (q : MethodQuery) : Op G (Option Method) := Op.ask r (SoundCache.askMethod q)

/-- The keyed property of a class with a name. -/
def keyed (r : Resolver) (c : ClassId) (property : String) : Op G (Option KeyedDescriptor) := do
  match ← Op.ask r (SoundCache.askKeyed c property) with
  | .ok d => return d
  | .error e => throw e

/-- The number of classes whose properties the cache holds. -/
def classCount (r : Resolver) : Op G Nat := Op.ask r fun s => (s.classCount, s)

/-- Forgets all that the cache holds. -/
def forget (r : Resolver) : Op G Unit := Op.ask r fun _ => ((), .empty)

end Resolver

end ObjectGraph
