import ObjectGraph.Proofs.Access.Composition
import ObjectGraph.Proofs.Access.SegmentWrite

/-!
Reading and writing whole paths in a tree of maps, lists and arrays.  A path reads where its steps lead,
and writes one slot.  So what was written is read back at every path with the same steps, and a path
that parts from the written one on the way reads what it read before.
-/

namespace ObjectGraph

namespace Path
variable {p : Path} {text : String}

/-- The steps of a path: its names, indices and keys.  Empty names are left out. -/
def steps (p : Path) : List Step := p.segments.flatMap Segment.steps

theorem steps_eq_append (p : Path) : p.steps = p.parents.flatMap Segment.steps ++ p.last.steps := by
  have hsplit : p.segments = p.parents ++ [p.last] := (List.dropLast_append_getLast p.nonempty).symm
  rw [steps, hsplit, List.flatMap_append, List.flatMap_singleton]

theorem hasStep_of_parse (h : parse text = .ok p) : ∀ g ∈ p.segments, g.HasStep :=
  fun g hg => ((renderable_of_parse h).readable g hg).spelled.nonempty

theorem steps_ne_nil (h : parse text = .ok p) : p.steps ≠ [] := by
  have hlast : p.last ∈ p.segments := List.getLast_mem p.nonempty
  rw [steps_eq_append]
  exact List.append_ne_nil_of_right_ne_nil _ ((hasStep_of_parse h p.last hlast).steps_ne_nil)

end Path

namespace Resolver
variable {G : ClassGraph} {r : Resolver} {s s' : State G} {t u v : Value} {cs : List Value} {full path : String}
  {as : List Segment} {p : Path}

/-! ### Reading paths -/

theorem reads_walk : ∀ {as passed : List Segment} {t : Value} {cs : List Value}, s.heap.Spans t cs →
    (∀ g ∈ as, g.HasStep) → Heap.Alike G s.heap s'.heap →
    s.heap.SameAlong s'.heap t (as.flatMap Segment.steps) →
    Op.Reads (r.walk full passed t as) s s' (s.heap.follow? t (as.flatMap Segment.steps)) := by
  intro as
  induction as with
  | nil =>
    intro passed t cs _ _ _ _
    exact Op.Reads.pure t
  | cons g as ih =>
    intro passed t cs hspans has ha hsame
    have hg := has g List.mem_cons_self
    rw [List.flatMap_cons] at hsame ⊢
    cases ht : t.isNull with
    | true =>
      obtain rfl := Value.isNull_iff.mp ht
      rw [Heap.follow?_null (List.append_ne_nil_of_left_ne_nil hg.steps_ne_nil _)]
      exact ⟨_, run_walk_cons_of_null rfl, run_walk_cons_of_null rfl⟩
    | false =>
      rw [walk_cons ht, Heap.follow?_append]
      refine (reads_readSegment hspans hg ha hsame.of_append).bind fun u hu => ?_
      obtain ⟨ds, hds, -⟩ := hspans.follow? hu
      exact ih hds (fun g' hg' => has g' (List.mem_cons_of_mem g hg')) ha (hsame.rest g.steps hu)

theorem run_walk_of_follow? : ∀ {as passed : List Segment} {t : Value},
    (∀ g ∈ as, g.HasStep) → s.heap.follow? t (as.flatMap Segment.steps) = some v →
    ExceptT.run (r.walk full passed t as) s = (.ok v, s) := by
  intro as
  induction as with
  | nil =>
    intro passed t _ h
    cases h
    rfl
  | cons g as ih =>
    intro passed t has h
    have hg := has g List.mem_cons_self
    rw [List.flatMap_cons, Heap.follow?_append, Option.bind_eq_some_iff] at h
    obtain ⟨u, hu, hrest⟩ := h
    have ht : t.isNull = false := by
      refine Value.isNull_eq_false_iff.mpr ?_
      rintro rfl
      rw [Heap.follow?_null hg.steps_ne_nil] at hu
      cases hu
    rw [walk_cons ht, Op.run_bind_of_ok (run_readSegment_of_follow? hg hu)]
    exact ih (fun g' hg' => has g' (List.mem_cons_of_mem g hg')) hrest

theorem reads_read (h : Path.parse path = .ok p) (hspans : s.heap.Spans t cs) (ha : Heap.Alike G s.heap s'.heap)
    (hsame : s.heap.SameAlong s'.heap t p.steps) :
    Op.Reads (r.read t path) s s' (s.heap.follow? t p.steps) := by
  by_cases ht : t = .null
  · subst ht
    rw [Heap.follow?_null (Path.steps_ne_nil h)]
    exact ⟨_, run_read_of_null, run_read_of_null⟩
  · have hwalk : Op.Reads (r.walk path [] t p.segments) s s' (s.heap.follow? t p.steps) :=
      reads_walk hspans (Path.hasStep_of_parse h) ha hsame
    unfold Op.Reads at hwalk ⊢
    rw [run_read h ht, run_read h ht]
    exact hwalk

/-- Where the steps of a path lead to a value, the path reads it. -/
theorem run_read_of_follow? (h : Path.parse path = .ok p) (hv : s.heap.follow? t p.steps = some v) :
    ExceptT.run (r.read t path) s = (.ok v, s) := by
  have ht : t ≠ .null := by
    rintro rfl
    rw [Heap.follow?_null (Path.steps_ne_nil h)] at hv
    cases hv
  rw [run_read h ht]
  exact run_walk_of_follow? (Path.hasStep_of_parse h) hv

/-! ### Writing paths -/

/-- Writing a path in a tree is storing at its steps. -/
theorem writesAt_write (h : Path.parse path = .ok p) (hspans : s.heap.Spans t cs) :
    Op.WritesAt (r.write t path v) s t p.steps v := by
  by_cases ht : t = .null
  · subst ht
    exact Or.inl ⟨_, run_write_of_null⟩
  · have hsteps_of := Path.hasStep_of_parse h
    have hwalk : Op.Reads (r.walk path [] t p.parents) s s (s.heap.follow? t (p.parents.flatMap Segment.steps)) :=
      reads_walk hspans (fun g hg => hsteps_of g (List.mem_of_mem_dropLast hg)) Heap.alike_refl
        (Heap.SameAlong.refl s.heap t _)
    unfold Op.WritesAt
    rw [run_write h ht]
    cases hparent : s.heap.follow? t (p.parents.flatMap Segment.steps) with
    | none =>
      rw [hparent] at hwalk
      obtain ⟨e, herror, -⟩ := hwalk
      exact Or.inl ⟨e, Op.run_bind_of_error herror⟩
    | some u =>
      rw [hparent] at hwalk
      rw [Op.run_bind_of_ok hwalk.1]
      cases hu : u.isNull with
      | true => exact Or.inl ⟨_, rfl⟩
      | false =>
        obtain ⟨ds, hds, -⟩ := hspans.follow? hparent
        rw [Path.steps_eq_append]
        exact (writesAt_writeSegment hds (hsteps_of p.last (List.getLast_mem p.nonempty))).after hparent

/-- A container is not held by what a sequence of steps leads to that is no beginning of its own. -/
theorem not_reaches_of_steps {H : Heap} {steps before : List Step} {c : Value} (hspans : H.Spans t cs)
    (hunique : ∀ as, H.follow? t as = some c → as = before) (hu : H.follow? t steps = some u)
    (hpart : ¬ steps <+: before) : ¬ H.Reaches u c := by
  intro hreach
  obtain ⟨ds, hds, -⟩ := hspans.follow? hu
  obtain ⟨bs, hbs⟩ := hds.exists_follow?_of_reaches hreach
  have hwhole : H.follow? t (steps ++ bs) = some c := by
    rw [Heap.follow?_append, hu]
    exact hbs
  exact hpart (hunique _ hwhole ▸ List.prefix_append steps bs)

/-- In a tree in which no container occurs twice, a value that shares no container with the tree is
written to one slot: the path reads what was stored there, and a path whose steps part from the written
ones reads as before, with all that the value holds.  A failing write changes nothing. -/
theorem write_in_tree (r : Resolver) (h : Path.parse path = .ok p) (hspans : s.heap.Spans t cs)
    (hnodup : cs.Nodup) (hfresh : ∀ c ∈ cs, ¬ s.heap.Reaches v c) :
    (∀ s', ExceptT.run (r.write t path v) s = (.ok (), s') →
      (∃ c w, s.heap.follow? t p.steps.dropLast = some c ∧ s.heap.Stores G c v w ∧
        ExceptT.run (r.read t path) s' = (.ok w, s') ∧ s.heap.SameBelow s'.heap w) ∧
      ∀ other q, Path.parse other = .ok q → ¬ p.steps <+: q.steps → ¬ q.steps <+: p.steps →
        ∃ a, ExceptT.run (r.read t other) s = (a, s) ∧ ExceptT.run (r.read t other) s' = (a, s') ∧
          ∀ u, a = .ok u → s.heap.SameBelow s'.heap u) ∧
    ∀ e s', ExceptT.run (r.write t path v) s = (.error e, s') → s' = s := by
  rcases writesAt_write (r := r) (v := v) h hspans with ⟨e, hrun⟩ | ⟨H, hstored, hrun⟩
  · rw [hrun]
    refine ⟨fun s' hok => ?_, fun e' s' herror => ?_⟩
    · cases hok
    · cases herror
      rfl
  · obtain ⟨before, st, c, old, w, hsteps, hbefore, hold, hw, rfl⟩ := hstored
    have hc := Heap.isContainer_of_slot? hold
    -- No other steps lead to the written container, so all others miss the written slot.
    have hunique : ∀ as, s.heap.follow? t as = some c → as = before := fun as has =>
      hspans.follow?_unique hnodup hc has hbefore
    rw [hrun]
    refine ⟨fun s' hok => ?_, fun e' s' herror => ?_⟩
    · cases hok
      refine ⟨⟨c, w, ?_, hw, ?_, ?_⟩, fun other q hq hpq hqp => ?_⟩
      · rw [hsteps, List.dropLast_concat]
        exact hbefore
      · -- What was written may hold objects, so reading back does not go by the tree but by the steps.
        refine run_read_of_follow? h ?_
        rw [hsteps]
        exact Heap.follow?_setSlot_self hunique hbefore hold
      · have hv : ¬ s.heap.Reaches v c := hfresh c (hspans.mem_of_follow? hc hbefore)
        exact Heap.sameBelow_setSlot (hw.not_reaches hc hv)
      · rw [hsteps] at hpq hqp
        have hreads : Op.Reads (r.read t other) s { s with heap := s.heap.setSlot c st w } (s.heap.follow? t q.steps) :=
          reads_read hq hspans Heap.alike_setSlot (Heap.sameAlong_setSlot hunique hpq)
        obtain ⟨a, hs, hs', hvalue⟩ := hreads.exists_outcome
        refine ⟨a, hs, hs', fun u hu => ?_⟩
        have hpart : ¬ q.steps <+: before := fun hpre => hqp (hpre.trans (List.prefix_append before [st]))
        exact Heap.sameBelow_setSlot (not_reaches_of_steps hspans hunique (hvalue u hu) hpart)
    · cases herror

/-- A map of a list of two texts and of an array of one long integer. -/
def mapOfTwo : State .empty where
  heap := {
    Heap.empty with
    lists := ⟨#[[.text "x", .text "y"]]⟩
    arrays := ⟨#[⟨.primitive (.int .w64), [.int .w64 (.zero 64)]⟩]⟩
    maps := ⟨#[Dict.ofList [("a", .list ⟨0⟩), ("b", .array ⟨0⟩)]]⟩ }
  caches := .empty

theorem spans_mapOfTwo : mapOfTwo.heap.Spans (.map ⟨0⟩) [.map ⟨0⟩, .list ⟨0⟩, .array ⟨0⟩] := by
  have hlist : mapOfTwo.heap.Spans (.list ⟨0⟩) [.list ⟨0⟩] :=
    @Heap.Spans.container _ _ [[], []] rfl (.cons (.scalar rfl) (.cons (.scalar rfl) .nil))
  have harray : mapOfTwo.heap.Spans (.array ⟨0⟩) [.array ⟨0⟩] :=
    @Heap.Spans.container _ _ [[]] rfl (.cons (.scalar rfl) .nil)
  exact @Heap.Spans.container _ _ [[.list ⟨0⟩], [.array ⟨0⟩]] rfl (.cons hlist (.cons harray .nil))

/-- A short integer written to the array becomes a long one, and the list stays. -/
theorem write_in_tree_widened : ∃ s' : State .empty,
    ExceptT.run (write ⟨0⟩ (.map ⟨0⟩) "b[0]" (.int .w32 ⟨5, by decide⟩)) mapOfTwo = (.ok (), s') ∧
      ExceptT.run (read ⟨0⟩ (.map ⟨0⟩) "b[0]") s' = (.ok (.int .w64 ⟨5, by decide⟩), s') ∧
        ExceptT.run (read ⟨0⟩ (.map ⟨0⟩) "(a).[1]") s' = (.ok (.text "y"), s') := by
  have hparse : Path.parse "b[0]" = .ok ⟨[⟨"b", .index 0⟩], by simp⟩ := rfl
  have hother : Path.parse "(a).[1]" = .ok ⟨[⟨"", .key "a"⟩, ⟨"", .index 1⟩], by simp⟩ := rfl
  have hwrite : ∃ s', ExceptT.run (write (G := .empty) ⟨0⟩ (.map ⟨0⟩) "b[0]" (.int .w32 ⟨5, by decide⟩)) mapOfTwo =
      (.ok (), s') := ⟨_, rfl⟩
  have hread : ExceptT.run (read (G := .empty) ⟨0⟩ (.map ⟨0⟩) "(a).[1]") mapOfTwo = (.ok (.text "y"), mapOfTwo) :=
    run_read_of_follow? hother rfl
  have hcontainers : ∀ c ∈ [Value.map ⟨0⟩, .list ⟨0⟩, .array ⟨0⟩], c.isContainer = true := by
    simp [Value.isContainer]
  have hfresh : ∀ c ∈ [Value.map ⟨0⟩, .list ⟨0⟩, .array ⟨0⟩],
      ¬ mapOfTwo.heap.Reaches (.int .w32 ⟨5, by decide⟩) c := fun c hc =>
    Heap.not_reaches_of_isScalar rfl (hcontainers c hc)
  obtain ⟨s', hs'⟩ := hwrite
  obtain ⟨⟨c, w, hc, hw, hback, -⟩, hothers⟩ :=
    (write_in_tree ⟨0⟩ hparse spans_mapOfTwo (by simp) hfresh).1 s' hs'
  have hheld : mapOfTwo.heap.follow? (.map ⟨0⟩) [.key "b"] = some (.array ⟨0⟩) := rfl
  obtain rfl : Value.array ⟨0⟩ = c := Option.some.inj (hheld.symm.trans hc)
  obtain rfl : Value.int .w64 ⟨5, by decide⟩ = w := Except.ok.inj (hw "")
  obtain ⟨a, ha, ha', -⟩ := hothers "(a).[1]" _ hother (by decide) (by decide)
  have heq : Except.ok (Value.text "y") = a := congrArg Prod.fst (hread.symm.trans ha)
  exact ⟨s', hs', hback, heq ▸ ha'⟩

end Resolver

end ObjectGraph
