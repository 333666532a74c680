import ObjectGraph.Access.Resolve
import ObjectGraph.Proofs.Operation
import ObjectGraph.Proofs.Path.RoundTrip

/-!
A path is followed in two parts.  Where its beginning leads to a value that is not null, reading or
writing the whole path is reading or writing the rest of it at that value, in the state that the
beginning left; where it leads to null, both fail and name the beginning.
-/

namespace ObjectGraph

/-- The text of the segments after the first `n`. -/
def Path.textAfter (p : Path) (n : Nat) : String := join (p.segments.drop n)

theorem Path.parse_textAfter {text : String} {p : Path} (h : parse text = .ok p) {n : Nat} (hn : n < p.size) :
    ∃ q, parse (p.textAfter n) = .ok q ∧ q.segments = p.segments.drop n :=
  ⟨_, ((renderable_of_parse h).drop hn).parse_join, rfl⟩

namespace Resolver
variable {G : ClassGraph} {r : Resolver} {s s' : State G} {t u v : Value} {full full' : String}
  {passed passed' as bs : List Segment} {path : String} {p : Path}

/-! ### Following segments -/

theorem run_walk_cons_of_null {g : Segment} (h : t.isNull = true) :
    ExceptT.run (r.walk full passed t (g :: bs) : Op G Value) s =
      (.error (.nullIntermediate (Path.join passed) full), s) := by
  simp only [walk, h, if_true]
  rfl

theorem walk_cons {g : Segment} (h : t.isNull = false) :
    (r.walk full passed t (g :: bs) : Op G Value) =
      r.readSegment t g >>= fun next => r.walk full (passed ++ [g]) next bs := by
  simp only [walk, h, Bool.false_eq_true, if_false]

/-- What follows after some segments begins at the value and in the state that they led to. -/
theorem run_walk_append : ∀ {passed : List Segment} {t : Value} {s : State G},
    ExceptT.run (r.walk full passed t (as ++ bs)) s =
      ExceptT.run (r.walk full passed t as >>= fun u => r.walk full (passed ++ as) u bs) s := by
  induction as with
  | nil =>
    intro passed t s
    rw [List.nil_append, walk, Op.run_bind_of_ok (Op.run_pure s t), List.append_nil]
  | cons g as ih =>
    intro passed t s
    rw [List.cons_append]
    cases ht : t.isNull with
    | true => rw [run_walk_cons_of_null ht, Op.run_bind_of_error (run_walk_cons_of_null ht)]
    | false =>
      rw [walk_cons ht]
      rcases hg : ExceptT.run (r.readSegment t g : Op G Value) s with ⟨e | next, s₁⟩
      · rw [Op.run_bind_of_error hg, Op.run_bind_of_error]
        rw [walk_cons ht, Op.run_bind_of_error hg]
      · rw [Op.run_bind_of_ok hg, ih, Op.run_bind, Op.run_bind, walk_cons ht, Op.run_bind_of_ok hg,
          List.append_assoc, List.singleton_append]

/-- Segments are not followed from null, nor is anything done at it; the failure names what led there. -/
theorem run_walk_bind_of_null {α : Type} {k : Value → Op G α} (h : t.isNull = true) :
    ExceptT.run (r.walk full passed t as >>= fun parent =>
        if parent.isNull then throw (.nullIntermediate (Path.join (passed ++ as)) full) else k parent) s =
      (.error (.nullIntermediate (Path.join passed) full), s) := by
  cases as with
  | nil =>
    rw [walk, Op.run_bind_of_ok (Op.run_pure s t), if_pos h, List.append_nil]
    rfl
  | cons g as => exact Op.run_bind_of_error (run_walk_cons_of_null h)

/-- The names of the path and of its beginning only show in failures. -/
theorem run_walk_eq_ok : ∀ {as : List Segment} {passed passed' : List Segment} {t : Value} {s : State G},
    ExceptT.run (r.walk full passed t as) s = (.ok v, s') →
      ExceptT.run (r.walk full' passed' t as) s = (.ok v, s') := by
  intro as
  induction as with
  | nil =>
    intro passed passed' t s h
    exact h
  | cons g as ih =>
    intro passed passed' t s h
    cases ht : t.isNull with
    | true =>
      rw [run_walk_cons_of_null ht] at h
      cases h
    | false =>
      rw [walk_cons ht, Op.run_bind_eq_ok] at h
      obtain ⟨next, s₁, hg, hrest⟩ := h
      rw [walk_cons ht, Op.run_bind_of_ok hg]
      exact ih hrest

/-! ### Reading and writing by the segments of a path -/

theorem run_tryRead_parsePath (h : Path.parse path = .ok p) :
    ExceptT.run (Op.tryRead (fun _ => parsePath path) : Op G Path) s = (.ok p, s) := by
  rw [Op.run_tryRead, parsePath, h]
  rfl

theorem run_read_of_null : ExceptT.run (r.read .null path : Op G Value) s = (.error .nullTarget, s) := rfl

theorem run_write_of_null : ExceptT.run (r.write .null path v : Op G Unit) s = (.error .nullTarget, s) := rfl

theorem run_read (h : Path.parse path = .ok p) (ht : t ≠ .null) :
    ExceptT.run (r.read t path) s = ExceptT.run (r.walk path [] t p.segments) s := by
  have hnull := Value.isNull_eq_false_iff.mpr ht
  have hread : ExceptT.run (r.read t path) s =
      ExceptT.run (Op.tryRead (fun _ => parsePath path) >>= fun p => r.walk path [] t p.segments) s := by
    simp only [read, hnull, Bool.false_eq_true, if_false]
  rw [hread, Op.run_bind_of_ok (run_tryRead_parsePath h)]

/-- The segments before the last one lead to its owner. -/
theorem run_owner (h : Path.parse path = .ok p) (ht : t ≠ .null) :
    ExceptT.run (r.owner t path) s =
      ExceptT.run (r.walk path [] t p.parents >>= fun parent =>
        if parent.isNull then throw (.nullIntermediate (Path.join p.parents) path) else return (parent, p.last)) s := by
  have hnull := Value.isNull_eq_false_iff.mpr ht
  simp only [owner, hnull, Bool.false_eq_true, if_false]
  rw [Op.run_bind_of_ok (run_tryRead_parsePath h)]
  refine congrArg (fun k => ExceptT.run (r.walk path [] t p.parents >>= k) s) (funext fun parent => ?_)
  cases parent.isNull <;> rfl

/-- A value is written at the last segment of what the segments before it lead to. -/
theorem run_write (h : Path.parse path = .ok p) (ht : t ≠ .null) :
    ExceptT.run (r.write t path v) s =
      ExceptT.run (r.walk path [] t p.parents >>= fun parent =>
        if parent.isNull then throw (.nullIntermediate (Path.join p.parents) path)
        else r.writeSegment parent p.last v) s := by
  rw [write, Op.run_bind_congr (run_owner h ht), bind_assoc]
  refine congrArg (fun k => ExceptT.run (r.walk path [] t p.parents >>= k) s) (funext fun parent => ?_)
  cases parent.isNull <;> rfl

/-- A text that is no path names no owner, nor anything to read. -/
theorem run_owner_of_parse_error {e : PathError} (h : Path.parse path = .error e) (ht : t ≠ .null) :
    ExceptT.run (r.owner t path : Op G (Value × Segment)) s = (.error (.invalidPath e), s) := by
  have hnull := Value.isNull_eq_false_iff.mpr ht
  simp only [owner, hnull, Bool.false_eq_true, if_false]
  exact Op.run_bind_of_error (by rw [Op.run_tryRead, parsePath, h]; rfl)

theorem run_read_of_parse_error {e : PathError} (h : Path.parse path = .error e) (ht : t ≠ .null) :
    ExceptT.run (r.read t path : Op G Value) s = (.error (.invalidPath e), s) := by
  have hnull := Value.isNull_eq_false_iff.mpr ht
  simp only [read, hnull, Bool.false_eq_true, if_false]
  exact Op.run_bind_of_error (by rw [Op.run_tryRead, parsePath, h]; rfl)

theorem run_walk_eq_ok_iff (full full' : String) (passed passed' : List Segment) :
    ExceptT.run (r.walk full passed t as) s = (.ok v, s') ↔
    ExceptT.run (r.walk full' passed' t as) s = (.ok v, s') :=
  ⟨run_walk_eq_ok, run_walk_eq_ok⟩

/-- Following all segments of a path is following the first ones and then the others. -/
theorem run_walk_split (n : Nat) : ExceptT.run (r.walk full [] t p.segments) s =
    ExceptT.run (r.walk full [] t (p.segments.take n) >>= fun u =>
      r.walk full (p.segments.take n) u (p.segments.drop n)) s := by
  have hsplit : ExceptT.run (r.walk full [] t (p.segments.take n ++ p.segments.drop n)) s =
      ExceptT.run (r.walk full [] t (p.segments.take n) >>= fun u =>
        r.walk full ([] ++ p.segments.take n) u (p.segments.drop n)) s := run_walk_append
  rwa [List.take_append_drop, List.nil_append] at hsplit

end Resolver

/-! ### The segments of the two parts -/

namespace Path
variable {p q : Path} {n : Nat}

theorem drop_ne_nil (hn : n < p.size) : p.segments.drop n ≠ [] := fun h => by
  have hle : p.segments.length ≤ n := List.drop_eq_nil_iff.mp h
  exact absurd hn (Nat.not_lt.mpr hle)

theorem parents_eq_append (hn : n < p.size) : p.parents = p.segments.take n ++ (p.segments.drop n).dropLast := by
  rw [parents, ← List.dropLast_append_of_ne_nil (drop_ne_nil hn), List.take_append_drop]

theorem last_eq_of_drop (hn : n < p.size) (hq : q.segments = p.segments.drop n) : q.last = p.last := by
  have hne := drop_ne_nil hn
  have hq' : q.last = (p.segments.drop n).getLast hne := by simp only [last, hq]
  rw [hq', List.getLast_drop]
  rfl

end Path

namespace Resolver
variable {G : ClassGraph} {r : Resolver} {s s' s₁ : State G} {t u v : Value} {path : String} {p : Path} {n : Nat}

/-! ### Reading and writing in two parts -/

theorem run_read_first (h : Path.parse path = .ok p) (hn : 1 ≤ n) (ht : t ≠ .null) :
    ExceptT.run (r.read t (p.textOfFirst n)) s =
      ExceptT.run (r.walk (p.textOfFirst n) [] t (p.segments.take n)) s := by
  obtain ⟨q, hq, hsegments⟩ := Path.parse_textOfFirst h hn
  rw [run_read hq ht, hsegments]

theorem read_eq_ok_iff (h : Path.parse path = .ok p) (hn : 1 ≤ n) (hlt : n < p.size) :
    ExceptT.run (r.read t path) s = (.ok v, s') ↔
      ∃ u s₁, ExceptT.run (r.read t (p.textOfFirst n)) s = (.ok u, s₁) ∧ u ≠ .null ∧
        ExceptT.run (r.read u (p.textAfter n)) s₁ = (.ok v, s') := by
  by_cases ht : t = .null
  · subst ht
    constructor
    · intro hread
      cases hread
    · rintro ⟨_, _, hread, -⟩
      cases hread
  · obtain ⟨q, hq, hsegments⟩ := Path.parse_textAfter h hlt
    rw [run_read h ht, run_walk_split n, Op.run_bind_eq_ok]
    refine exists_congr fun u => exists_congr fun s₁ => ?_
    rw [run_read_first h hn ht, run_walk_eq_ok_iff path (p.textOfFirst n) _ []]
    refine and_congr_right fun _ => ?_
    by_cases hu : u = .null
    · obtain ⟨g, rest, hdrop⟩ := List.exists_cons_of_ne_nil (Path.drop_ne_nil hlt)
      rw [hdrop, run_walk_cons_of_null (Value.isNull_iff.mpr hu)]
      constructor
      · intro hwalk
        cases hwalk
      · rintro ⟨hne, -⟩
        exact absurd hu hne
    · rw [run_read hq hu, hsegments, run_walk_eq_ok_iff path (p.textAfter n) _ []]
      exact ⟨fun hwalk => ⟨hu, hwalk⟩, fun hwalk => hwalk.2⟩

/-- Where the beginning leads to null, reading fails there. -/
theorem run_read_of_first_null (h : Path.parse path = .ok p) (hn : 1 ≤ n) (hlt : n < p.size)
    (hfirst : ExceptT.run (r.read t (p.textOfFirst n)) s = (.ok .null, s₁)) :
    ExceptT.run (r.read t path) s = (.error (.nullIntermediate (p.textOfFirst n) path), s₁) := by
  by_cases ht : t = .null
  · subst ht
    cases hfirst
  · rw [run_read_first h hn ht] at hfirst
    obtain ⟨g, rest, hdrop⟩ := List.exists_cons_of_ne_nil (Path.drop_ne_nil hlt)
    rw [run_read h ht, run_walk_split n, Op.run_bind_of_ok (run_walk_eq_ok hfirst), hdrop, run_walk_cons_of_null rfl]
    rfl

theorem run_write_split (h : Path.parse path = .ok p) (ht : t ≠ .null) (hlt : n < p.size) :
    ExceptT.run (r.write t path v) s =
      ExceptT.run (r.walk path [] t (p.segments.take n) >>= fun u =>
        r.walk path (p.segments.take n) u (p.segments.drop n).dropLast >>= fun parent =>
          if parent.isNull then
            throw (.nullIntermediate (Path.join (p.segments.take n ++ (p.segments.drop n).dropLast)) path)
          else r.writeSegment parent p.last v) s := by
  rw [run_write h ht, Path.parents_eq_append hlt, Op.run_bind_congr run_walk_append, bind_assoc, List.nil_append]

theorem write_eq_ok_iff (h : Path.parse path = .ok p) (hn : 1 ≤ n) (hlt : n < p.size) :
    ExceptT.run (r.write t path v) s = (.ok (), s') ↔
      ∃ u s₁, ExceptT.run (r.read t (p.textOfFirst n)) s = (.ok u, s₁) ∧ u ≠ .null ∧
        ExceptT.run (r.write u (p.textAfter n) v) s₁ = (.ok (), s') := by
  by_cases ht : t = .null
  · subst ht
    constructor
    · intro hwrite
      cases hwrite
    · rintro ⟨_, _, hread, -⟩
      cases hread
  · obtain ⟨q, hq, hsegments⟩ := Path.parse_textAfter h hlt
    rw [run_write_split h ht hlt, Op.run_bind_eq_ok]
    refine exists_congr fun u => exists_congr fun s₁ => ?_
    rw [run_read_first h hn ht, run_walk_eq_ok_iff path (p.textOfFirst n) _ []]
    refine and_congr_right fun _ => ?_
    by_cases hu : u = .null
    · rw [run_walk_bind_of_null (Value.isNull_iff.mpr hu)]
      constructor
      · intro hwalk
        cases hwalk
      · rintro ⟨hne, -⟩
        exact absurd hu hne
    · rw [run_write hq hu, Path.parents, hsegments, Path.last_eq_of_drop hlt hsegments, Op.run_bind_eq_ok,
        Op.run_bind_eq_ok, and_iff_right hu]
      refine exists_congr fun parent => exists_congr fun s₂ => ?_
      rw [run_walk_eq_ok_iff path (p.textAfter n) _ [], Op.run_unlessNull_eq_ok,
        Op.run_unlessNull_eq_ok]

/-- Where the beginning leads to null, nothing is written, and writing fails as reading does. -/
theorem run_write_of_first_null (h : Path.parse path = .ok p) (hn : 1 ≤ n) (hlt : n < p.size)
    (hfirst : ExceptT.run (r.read t (p.textOfFirst n)) s = (.ok .null, s₁)) :
    ExceptT.run (r.write t path v) s = (.error (.nullIntermediate (p.textOfFirst n) path), s₁) := by
  by_cases ht : t = .null
  · subst ht
    cases hfirst
  · rw [run_read_first h hn ht] at hfirst
    rw [run_write_split h ht hlt, Op.run_bind_of_ok (run_walk_eq_ok hfirst), run_walk_bind_of_null rfl]
    rfl

/-- A path of two or more segments is read and written by its first segments and then by the others,
at the value that the first ones lead to.  If that is null, both fail there. -/
theorem access_in_two_parts (r : Resolver) {path : String} {p : Path} (h : Path.parse path = .ok p) {n : Nat}
    (hn : 1 ≤ n) (hlt : n < p.size) (t : Value) (s : State G) :
    (∀ v s', ExceptT.run (r.read t path) s = (.ok v, s') ↔
      ∃ u s₁, ExceptT.run (r.read t (p.textOfFirst n)) s = (.ok u, s₁) ∧ u ≠ .null ∧
        ExceptT.run (r.read u (p.textAfter n)) s₁ = (.ok v, s')) ∧
    (∀ s₁, ExceptT.run (r.read t (p.textOfFirst n)) s = (.ok .null, s₁) →
      ExceptT.run (r.read t path) s = (.error (.nullIntermediate (p.textOfFirst n) path), s₁) ∧
      ∀ v, ExceptT.run (r.write t path v) s = (.error (.nullIntermediate (p.textOfFirst n) path), s₁)) ∧
    ∀ v s', ExceptT.run (r.write t path v) s = (.ok (), s') ↔
      ∃ u s₁, ExceptT.run (r.read t (p.textOfFirst n)) s = (.ok u, s₁) ∧ u ≠ .null ∧
        ExceptT.run (r.write u (p.textAfter n) v) s₁ = (.ok (), s') :=
  ⟨fun _ _ => read_eq_ok_iff h hn hlt,
    fun _ hfirst => ⟨run_read_of_first_null h hn hlt hfirst, fun _ => run_write_of_first_null h hn hlt hfirst⟩,
    fun _ _ => write_eq_ok_iff h hn hlt⟩

/-- The state with one growing record that holds nothing. -/
def oneGrowing : State .empty := (ExceptT.run (Record.newGrowing (.blank "LazyDynaBean")) (State.empty .empty)).2

/-- The first segment makes the record grow, and nothing is undone when the second one fails at null. -/
theorem access_in_two_parts_growing : ∃ s₁ : State .empty,
    ExceptT.run (read ⟨0⟩ (.record ⟨0⟩) "xs[2]") oneGrowing = (.ok .null, s₁) ∧
      ExceptT.run (read ⟨0⟩ (.record ⟨0⟩) "xs[2].y") oneGrowing =
        (.error (.nullIntermediate "xs[2]" "xs[2].y"), s₁) := by
  have hparse : Path.parse "xs[2].y" = .ok ⟨[⟨"xs", .index 2⟩, ⟨"y", .none⟩], by simp⟩ := rfl
  have hfirst : ∃ s₁, ExceptT.run (read (G := .empty) ⟨0⟩ (.record ⟨0⟩) "xs[2]") oneGrowing = (.ok .null, s₁) :=
    ⟨_, rfl⟩
  obtain ⟨s₁, hs⟩ := hfirst
  exact ⟨s₁, hs, ((access_in_two_parts ⟨0⟩ hparse (Nat.le_refl 1) (by decide) _ _).2.1 s₁ hs).1⟩

end Resolver

end ObjectGraph
