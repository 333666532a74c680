import ObjectGraph.Proofs.Operation

/-!
Runs of calls on a cache of descriptors.  Whatever calls came before, through whichever resolvers, each
call is answered as an empty cache would answer it.  What is kept only saves the search: every bound
answer is the one that the classes give, and a call keeps this.
-/

namespace ObjectGraph

/-- A call on a cache of descriptors. -/
inductive CacheCall
  | descriptors (c : ClassId)
  | keyed (c : ClassId) (property : String)
  | method (q : MethodQuery)
  | forget

/-- What a call on a cache answers.  A keyed property may be absent, or an error. -/
inductive CacheAnswer
  | descriptors (ds : List Descriptor)
  | keyed (found : Except Error (Option KeyedDescriptor))
  | method (found : Option Method)
  | done

namespace DescriptorCache
variable {G : ClassGraph} {s : DescriptorCache}

/-- Answers a call. -/
def serve (G : ClassGraph) (s : DescriptorCache) : CacheCall → CacheAnswer × DescriptorCache
  | .descriptors c => ((.descriptors (s.askDescriptors G c).1), (s.askDescriptors G c).2)
  | .keyed c property => (.keyed (s.askKeyed G c property).1, (s.askKeyed G c property).2)
  | .method q => (.method (s.askMethod G q).1, (s.askMethod G q).2)
  | .forget => (.done, empty)

/-- Answers calls, one after the other. -/
def serveAll (G : ClassGraph) (s : DescriptorCache) : List CacheCall → List CacheAnswer × DescriptorCache
  | [] => ([], s)
  | call :: calls =>
    ((s.serve G call).1 :: ((s.serve G call).2.serveAll G calls).1, ((s.serve G call).2.serveAll G calls).2)

/-- The answer of a cache in which nothing is kept. -/
def freshAnswer (G : ClassGraph) (call : CacheCall) : CacheAnswer := (empty.serve G call).1

theorem Sound.serve (h : s.Sound G) (call : CacheCall) :
    (s.serve G call).1 = freshAnswer G call ∧ (s.serve G call).2.Sound G := by
  have hempty := sound_empty G
  cases call with
  | descriptors c =>
    refine ⟨congrArg CacheAnswer.descriptors ?_, (h.askDescriptors c).2⟩
    exact (h.askDescriptors c).1.trans (hempty.askDescriptors c).1.symm
  | keyed c property =>
    refine ⟨congrArg CacheAnswer.keyed ?_, (h.askKeyed c property).2⟩
    exact (h.askKeyed c property).1.trans (hempty.askKeyed c property).1.symm
  | method q =>
    refine ⟨congrArg CacheAnswer.method ?_, (h.askMethod q).2⟩
    exact (h.askMethod q).1.trans (hempty.askMethod q).1.symm
  | forget => exact ⟨rfl, hempty⟩

theorem Sound.serveAll (h : s.Sound G) (calls : List CacheCall) :
    (s.serveAll G calls).1 = calls.map (freshAnswer G) ∧ (s.serveAll G calls).2.Sound G := by
  induction calls generalizing s with
  | nil => exact ⟨rfl, h⟩
  | cons call calls ih =>
    obtain ⟨hanswer, hsound⟩ := h.serve call
    obtain ⟨hanswers, hrest⟩ := ih hsound
    refine ⟨?_, hrest⟩
    rw [DescriptorCache.serveAll, List.map_cons, hanswer, hanswers]

end DescriptorCache

namespace Resolver
variable {G : ClassGraph} {s : State G}

/-- Makes a call on the cache of a resolver. -/
def serve (r : Resolver) : CacheCall → Op G CacheAnswer
  | .descriptors c => do return .descriptors (← r.descriptors c)
  | .keyed c property => do return .keyed (← Op.attempt (r.keyed c property))
  | .method q => do return .method (← r.method q)
  | .forget => do
    r.forget
    return .done

/-- Makes calls, each through a resolver of its own. -/
def serveAll : List (Resolver × CacheCall) → Op G (List CacheAnswer)
  | [] => return []
  | (r, call) :: calls => do
    let a ← r.serve call
    let as ← serveAll calls
    return a :: as

/-- The search for a keyed property fails if what the cache answers is an error. -/
theorem run_keyed (r : Resolver) (c : ClassId) (property : String) :
    ExceptT.run (r.keyed c property) s =
      (((s.caches.get r.cache).askKeyed c property).1,
        { s with caches := s.caches.set r.cache ((s.caches.get r.cache).askKeyed c property).2 }) := by
  rw [keyed, Op.run_bind_of_ok (Op.run_ask s r _)]
  cases ((s.caches.get r.cache).askKeyed c property).1 <;> rfl

/-- A call through a resolver is one on its cache, and nothing else changes. -/
theorem run_serve (r : Resolver) (call : CacheCall) : ∃ cache : SoundCache G,
    cache.table = ((s.caches.get r.cache).table.serve G call).2 ∧
      ExceptT.run (r.serve call) s =
        (.ok ((s.caches.get r.cache).table.serve G call).1, { s with caches := s.caches.set r.cache cache }) := by
  cases call with
  | descriptors c => exact ⟨((s.caches.get r.cache).askDescriptors c).2, rfl, rfl⟩
  | keyed c property =>
    refine ⟨((s.caches.get r.cache).askKeyed c property).2, rfl, ?_⟩
    rw [serve, Op.run_bind_of_ok (Op.run_attempt s _), run_keyed]
    rfl
  | method q => exact ⟨((s.caches.get r.cache).askMethod q).2, rfl, rfl⟩
  | forget => exact ⟨.empty, rfl, rfl⟩

theorem run_serveAll (calls : List (Resolver × CacheCall)) : ∃ s' : State G, s'.heap = s.heap ∧
    ExceptT.run (serveAll calls) s = (.ok (calls.map fun call => DescriptorCache.freshAnswer G call.2), s') := by
  induction calls generalizing s with
  | nil => exact ⟨s, rfl, rfl⟩
  | cons call calls ih =>
    obtain ⟨cache, -, hrun⟩ := run_serve (s := s) call.1 call.2
    obtain ⟨s', hheap, hrest⟩ := ih (s := { s with caches := s.caches.set call.1.cache cache })
    have hanswer := ((s.caches.get call.1.cache).sound.serve call.2).1
    refine ⟨s', hheap, ?_⟩
    rw [serveAll, Op.run_bind_of_ok hrun, Op.run_bind_of_ok hrest, hanswer, List.map_cons]
    rfl

end Resolver

namespace DescriptorCache

/-- No sequence of calls on one cache, nor through resolvers in any state, tells a used cache from an
empty one: all answers are those of a cache in which nothing is kept, also absent ones and errors. -/
theorem answers_as_if_empty (G : ClassGraph) :
    (∀ calls : List CacheCall, (empty.serveAll G calls).1 = calls.map fun call => (empty.serve G call).1) ∧
    ∀ (calls : List (Resolver × CacheCall)) (s : State G), ∃ s' : State G, s'.heap = s.heap ∧
      ExceptT.run (Resolver.serveAll calls) s = (.ok (calls.map fun call => (empty.serve G call.2).1), s') :=
  ⟨fun calls => ((sound_empty G).serveAll calls).1, fun calls _ => Resolver.run_serveAll calls⟩

end DescriptorCache

end ObjectGraph
