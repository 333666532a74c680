import ObjectGraph.Proofs.Access.Resolvers
import ObjectGraph.Proofs.Access.Single

/-!
Adapters.  What is read and written at a path of an adapter is read and written at that path of its object, with the
same answer or failure and the same heap after it.  The first segment goes through the adapter's own resolver, and a
name is checked once more on the way, which no segment of a path fails.
-/

namespace ObjectGraph.Resolver
open Op
variable {G : ClassGraph} {r r' : Resolver} {s : State G} {w : Handle .record} {o : Handle .object}
  {S : Handle .schema} {path full : String} {passed gs : List Segment} {p : Path} {g : Segment} {v : Value}

/-! ### The first segment -/

theorem run_readSegment_adapter (hcell : s.heap.get w = .adapter S o r')
    (hg : g.subscript = .none → Path.IsSimple g.name) :
    ExceptT.run (r.readSegment (.record w) g) s = ExceptT.run (r'.readSegment (.object o) g) s := by
  unfold readSegment
  cases hsub : g.subscript with
  | none =>
    change ExceptT.run (Record.read w g.name) s = _
    rw [Record.read, run_bind_of_ok (Op.run_read s _), hcell]
    dsimp only
    rw [run_bind_of_ok (by rw [run_tryRead, checkSimpleName_of_isSimple (hg hsub)])]
    rfl
  | index i =>
    change ExceptT.run (Record.readElement w g.name i) s = _
    rw [Record.readElement, run_bind_of_ok (Op.run_read s _), hcell]
    rfl
  | key k =>
    change ExceptT.run (Record.readEntry w g.name k) s = _
    rw [Record.readEntry, run_bind_of_ok (Op.run_read s _), hcell]
    rfl

theorem run_writeSegment_adapter (hcell : s.heap.get w = .adapter S o r')
    (hg : g.subscript = .none → Path.IsSimple g.name) :
    ExceptT.run (r.writeSegment (.record w) g v) s = ExceptT.run (r'.writeSegment (.object o) g v) s := by
  unfold writeSegment
  cases hsub : g.subscript with
  | none =>
    change ExceptT.run (Record.write w g.name v) s = _
    rw [Record.write, run_bind_of_ok (Op.run_read s _), hcell]
    dsimp only
    rw [run_bind_of_ok (by rw [run_tryRead, checkSimpleName_of_isSimple (hg hsub)])]
    rfl
  | index i =>
    change ExceptT.run (Record.writeElement w g.name i v) s = _
    rw [Record.writeElement, run_bind_of_ok (Op.run_read s _), hcell]
    rfl
  | key k =>
    change ExceptT.run (Record.writeEntry w g.name k v) s = _
    rw [Record.writeEntry, run_bind_of_ok (Op.run_read s _), hcell]
    rfl

section Coincide
variable {H : Heap} (r : Resolver)

theorem coincide_readSegment_adapter (hcell : H.get w = .adapter S o r')
    (hg : g.subscript = .none → Path.IsSimple g.name) :
    Coincide H (r.readSegment (.record w) g : Op G Value) (r.readSegment (.object o) g) := fun s t hheap hkeeps =>
  ⟨(outcome_of_run_eq (run_readSegment_adapter (hkeeps.adapter hcell) hg)).trans
    (coincide_readSegment r' r _ g s t hheap hkeeps).1, (coincide_readSegment r r _ g s s rfl hkeeps).2⟩

theorem coincide_writeSegment_adapter (v : Value) (hcell : H.get w = .adapter S o r')
    (hg : g.subscript = .none → Path.IsSimple g.name) :
    Coincide H (r.writeSegment (.record w) g v : Op G Unit) (r.writeSegment (.object o) g v) := fun s t hheap hkeeps =>
  ⟨(outcome_of_run_eq (run_writeSegment_adapter (hkeeps.adapter hcell) hg)).trans
    (coincide_writeSegment r' r _ v g s t hheap hkeeps).1, (coincide_writeSegment r r _ v g s s rfl hkeeps).2⟩

/-! ### Whole paths -/

/-- After the first segment the two walks are at the same value. -/
theorem coincide_walk_adapter (hcell : H.get w = .adapter S o r') (hg : g.subscript = .none → Path.IsSimple g.name) :
    Coincide H (r.walk full passed (.record w) (g :: gs) : Op G Value) (r.walk full passed (.object o) (g :: gs)) := by
  rw [walk_cons rfl, walk_cons rfl]
  exact .bind (coincide_readSegment_adapter r hcell hg) fun u => coincide_walk r r full _ gs

/-- The first of several segments is one of those that were read. -/
theorem exists_first_parent (hsize : 2 ≤ p.size) : ∃ g gs, p.parents = g :: gs ∧ g ∈ p.segments := by
  have hlength : p.parents.length = p.size - 1 := List.length_dropLast
  obtain ⟨g, gs, hgs⟩ := List.exists_cons_of_length_pos (l := p.parents) (by omega)
  have hg : g ∈ p.parents := hgs ▸ List.mem_cons_self
  exact ⟨g, gs, hgs, List.dropLast_subset _ hg⟩

/-- Unless a path has one segment only, an adapter and its object have the same owner of what it leads to. -/
theorem coincide_owner_adapter (hcell : H.get w = .adapter S o r')
    (hlong : ∀ p, Path.parse path = .ok p → 2 ≤ p.size) :
    Coincide H (r.owner (.record w) path : Op G (Value × Segment)) (r.owner (.object o) path) := by
  cases hparse : Path.parse path with
  | error e =>
    refine .of_run_eq (fun s => run_owner_of_parse_error (s := s) hparse nofun)
      (fun s => run_owner_of_parse_error (s := s) hparse nofun) (.throw (.invalidPath e))
  | ok p =>
    obtain ⟨g, gs, hgs, hg⟩ := exists_first_parent (hlong p hparse)
    refine .of_run_eq (fun s => run_owner (s := s) hparse nofun) (fun s => run_owner (s := s) hparse nofun) ?_
    rw [hgs]
    exact .bind (coincide_walk_adapter r hcell (Path.isSimple_of_parse hparse hg)) fun u => .ite (.throw _) (.pure _)

end Coincide

theorem run_walk_adapter (hcell : s.heap.get w = .adapter S o r) (hg : g.subscript = .none → Path.IsSimple g.name) :
    ExceptT.run (r.walk full passed (.record w) (g :: gs)) s =
      ExceptT.run (r.walk full passed (.object o) (g :: gs)) s := by
  rw [walk_cons rfl, walk_cons rfl]
  exact run_bind_congr (run_readSegment_adapter hcell hg)

theorem run_owner_adapter (hcell : s.heap.get w = .adapter S o r)
    (hlong : ∀ p, Path.parse path = .ok p → 2 ≤ p.size) :
    ExceptT.run (r.owner (.record w) path) s = ExceptT.run (r.owner (.object o) path) s := by
  cases hparse : Path.parse path with
  | error e =>
    rw [run_owner_of_parse_error (t := .record w) hparse nofun, run_owner_of_parse_error (t := .object o) hparse nofun]
  | ok p =>
    obtain ⟨g, gs, hgs, hg⟩ := exists_first_parent (hlong p hparse)
    rw [run_owner (t := .record w) hparse nofun, run_owner (t := .object o) hparse nofun, hgs]
    exact run_bind_congr (run_walk_adapter hcell (Path.isSimple_of_parse hparse hg))

/-- A path that is not one of two or more segments has one. -/
theorem exists_segment (hshort : ¬ ∀ p, Path.parse path = .ok p → 2 ≤ p.size) :
    ∃ p g, Path.parse path = .ok p ∧ p.segments = [g] ∧ (g.subscript = .none → Path.IsSimple g.name) := by
  push Not at hshort
  obtain ⟨p, hparse, hsize⟩ := hshort
  have hpos : 0 < p.segments.length := List.length_pos_iff.mpr p.nonempty
  have hlength : p.segments.length = 1 := by
    rw [Path.size] at hsize
    omega
  obtain ⟨g, hg⟩ := List.length_eq_one_iff.mp hlength
  exact ⟨p, g, hparse, hg, Path.isSimple_of_parse hparse (hg ▸ List.mem_singleton_self g)⟩

theorem outcome_read_adapter (r : Resolver) (hcell : s.heap.get w = .adapter S o r') (path : String) :
    outcome (r.read (.record w) path) s = outcome (r.read (.object o) path) s := by
  cases hparse : Path.parse path with
  | error e =>
    rw [outcome_of_run (run_read_of_parse_error (t := .record w) hparse nofun),
      outcome_of_run (run_read_of_parse_error (t := .object o) hparse nofun)]
  | ok p =>
    obtain ⟨g, gs, hgs⟩ := List.exists_cons_of_ne_nil p.nonempty
    rw [outcome_of_run_eq (run_read (t := .record w) hparse nofun),
      outcome_of_run_eq (run_read (t := .object o) hparse nofun), hgs]
    have hfirst := Path.isSimple_of_parse (g := g) hparse (hgs ▸ List.mem_cons_self)
    exact (coincide_walk_adapter r hcell hfirst s s rfl (.refl _)).1

theorem outcome_write_adapter (r : Resolver) (hcell : s.heap.get w = .adapter S o r') (path : String) (v : Value) :
    outcome (r.write (.record w) path v) s = outcome (r.write (.object o) path v) s := by
  by_cases hlong : ∀ p, Path.parse path = .ok p → 2 ≤ p.size
  · exact (Coincide.bind (coincide_owner_adapter r hcell hlong) (fun a => coincide_writeSegment r r a.1 v a.2)
      s s rfl (.refl _)).1
  · obtain ⟨p, g, hparse, hg, hsimple⟩ := exists_segment hlong
    rw [outcome_of_run_eq (run_write_single (t := .record w) hparse hg nofun),
      outcome_of_run_eq (run_write_single (t := .object o) hparse hg nofun)]
    exact (coincide_writeSegment_adapter r v hcell hsimple s s rfl (.refl _)).1

theorem run_read_adapter (hcell : s.heap.get w = .adapter S o r) (path : String) :
    ExceptT.run (r.read (.record w) path) s = ExceptT.run (r.read (.object o) path) s := by
  cases hparse : Path.parse path with
  | error e =>
    rw [run_read_of_parse_error (t := .record w) hparse nofun, run_read_of_parse_error (t := .object o) hparse nofun]
  | ok p =>
    obtain ⟨g, gs, hgs⟩ := List.exists_cons_of_ne_nil p.nonempty
    rw [run_read (t := .record w) hparse nofun, run_read (t := .object o) hparse nofun, hgs]
    exact run_walk_adapter hcell (Path.isSimple_of_parse hparse (hgs ▸ List.mem_cons_self))

theorem run_write_adapter (hcell : s.heap.get w = .adapter S o r) (path : String) (v : Value) :
    ExceptT.run (r.write (.record w) path v) s = ExceptT.run (r.write (.object o) path v) s := by
  by_cases hlong : ∀ p, Path.parse path = .ok p → 2 ≤ p.size
  · exact run_bind_congr (run_owner_adapter hcell hlong)
  · obtain ⟨p, g, hparse, hg, hsimple⟩ := exists_segment hlong
    rw [run_write_single (t := .record w) hparse hg nofun, run_write_single (t := .object o) hparse hg nofun]
    exact run_writeSegment_adapter hcell hsimple

/-- At every path, whether or not it is accepted, an adapter is read and written as its object: the answer or the
failure is the same, and so is the heap after it.  If the adapter has the very resolver that is asked, even the
caches are the same. -/
theorem adapter_accesses_its_object (r : Resolver) (hcell : s.heap.get w = .adapter S o r') (path : String)
    (v : Value) :
    outcome (r.read (.record w) path) s = outcome (r.read (.object o) path) s ∧
    outcome (r.write (.record w) path v) s = outcome (r.write (.object o) path v) s ∧
    (r' = r →
      ExceptT.run (r.read (.record w) path) s = ExceptT.run (r.read (.object o) path) s ∧
      ExceptT.run (r.write (.record w) path v) s = ExceptT.run (r.write (.object o) path v) s) := by
  refine ⟨outcome_read_adapter r hcell path, outcome_write_adapter r hcell path v, ?_⟩
  rintro rfl
  exact ⟨run_read_adapter hcell path, run_write_adapter hcell path v⟩

/-- An object with an entry, and an adapter of it with a resolver of its own. -/
def adaptedBag : State .empty :=
  let bag : Object := ⟨0, .empty, some (Dict.empty.insert "k" (.text "x"))⟩
  ⟨(Heap.empty.set (⟨0⟩ : Handle .object) bag).set (⟨0⟩ : Handle .record) (.adapter ⟨0⟩ ⟨0⟩ ⟨1⟩), .empty⟩

/-- The entry is read through the adapter by a subscript without a name. -/
theorem adapter_accesses_its_object_bag :
    outcome (read ⟨0⟩ (.record ⟨0⟩) "(k)") adaptedBag = (.ok (.text "x"), adaptedBag.heap) := by
  have hcell : adaptedBag.heap.get (⟨0⟩ : Handle .record) = .adapter ⟨0⟩ ⟨0⟩ ⟨1⟩ := rfl
  exact (adapter_accesses_its_object ⟨0⟩ hcell "(k)" .null).1.trans rfl

end ObjectGraph.Resolver
