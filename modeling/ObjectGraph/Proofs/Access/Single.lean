import ObjectGraph.Access.Question
import ObjectGraph.Proofs.Access.Composition

/-!
Paths of one segment.  Nothing is followed on the way, so reading, writing and asking at such a path is
reading, writing and asking at the segment.
-/

namespace ObjectGraph

namespace Path

/-- Whether a text is a path of one segment without a subscript. -/
def IsSimple (name : String) : Prop := name ≠ "" ∧ ∀ c ∈ name.toList, isDelimiter c = false

-- The quantifier is bounded by the letters of the name: all characters are not enumerated.
instance (name : String) : Decidable (IsSimple name) :=
  @instDecidableAnd _ _ _ (List.decidableBAll (p := fun c => isDelimiter c = false) name.toList)

theorem parse_of_isSimple {name : String} (h : IsSimple name) :
    ∃ p, parse name = .ok p ∧ p.segments = [⟨name, .none⟩] := by
  have hprintable : Segment.Printable ⟨name, .none⟩ := ⟨h.2, fun _ => h.1, nofun, nofun⟩
  have hrenderable : Renderable [⟨name, .none⟩] :=
    ⟨nofun, by simpa using hprintable.scanned.1, by simp⟩
  have htext : join [⟨name, .none⟩] = name := by
    simp [join, Segment.text, Subscript.text]
  have hparse := hrenderable.parse_join
  rw [htext] at hparse
  exact ⟨_, hparse, rfl⟩

/-- A segment that was read has such a name, unless a subscript follows it. -/
theorem isSimple_of_parse {text : String} {p : Path} {g : Segment} (h : parse text = .ok p) (hg : g ∈ p.segments)
    (hnone : g.subscript = .none) : IsSimple g.name := by
  have hreadable := (renderable_of_parse h).readable g hg
  have hbrackets := hreadable.spelled.name
  have htext : g.text = g.name := by rw [Segment.text, hnone, Subscript.text, String.append_empty]
  have hpoint : '.' ∉ g.name.toList := (unsplit_iff_of_brackets hbrackets).mp (htext ▸ hreadable.unsplit)
  refine ⟨hreadable.spelled.nonempty hnone, fun c hc => ?_⟩
  have hne : c ≠ '.' := fun h => hpoint (h ▸ hc)
  rw [isDelimiter, Bool.or_assoc, Bool.or_eq_false_iff]
  exact ⟨beq_eq_false_iff_ne.mpr hne, hbrackets c hc⟩

end Path

theorem checkSimpleName_of_isSimple {name : String} (h : Path.IsSimple name) : checkSimpleName name = .ok () := by
  have hclean : name.toList.any Path.isDelimiter = false := List.any_eq_false.mpr fun c hc => by
    rw [h.2 c hc]
    exact Bool.false_ne_true
  rw [checkSimpleName, hclean]
  rfl

namespace Resolver
variable {G : ClassGraph} {r : Resolver} {s : State G} {t v : Value} {path name : String} {p : Path}
  {g : Segment}

theorem run_owner_single (h : Path.parse path = .ok p) (hp : p.segments = [g]) (ht : t ≠ .null) :
    ExceptT.run (r.owner t path) s = (.ok (t, g), s) := by
  have hnull := Value.isNull_eq_false_iff.mpr ht
  have hparents : p.parents = [] := by rw [Path.parents, hp, List.dropLast_singleton]
  have hlast : p.last = g := by simp only [Path.last, hp, List.getLast_singleton]
  simp only [owner, hnull, Bool.false_eq_true, if_false]
  rw [Op.run_bind_of_ok (run_tryRead_parsePath h), hparents, walk, Op.run_bind_of_ok (Op.run_pure s t), hnull, hlast]
  rfl

theorem run_read_single (h : Path.parse path = .ok p) (hp : p.segments = [g]) (ht : t ≠ .null) :
    ExceptT.run (r.read t path) s = ExceptT.run (r.readSegment t g) s := by
  rw [run_read h ht, hp, walk_cons (Value.isNull_eq_false_iff.mpr ht)]
  simp only [walk, bind_pure]

theorem run_write_single (h : Path.parse path = .ok p) (hp : p.segments = [g]) (ht : t ≠ .null) :
    ExceptT.run (r.write t path v) s = ExceptT.run (r.writeSegment t g v) s := by
  rw [write, Op.run_bind_of_ok (run_owner_single h hp ht)]

theorem run_isReadable_single (h : Path.parse path = .ok p) (hp : p.segments = [g]) (ht : t ≠ .null) :
    ExceptT.run (r.isReadable t path) s = ExceptT.run (r.segmentReadable t g) s := by
  rw [isReadable, Op.run_attempt_bind (run_owner_single h hp ht)]

theorem run_isWriteable_single (h : Path.parse path = .ok p) (hp : p.segments = [g]) (ht : t ≠ .null) :
    ExceptT.run (r.isWriteable t path) s = ExceptT.run (r.segmentWriteable t g) s := by
  rw [isWriteable, Op.run_attempt_bind (run_owner_single h hp ht)]

/-! ### Names without delimiters -/

theorem run_owner_of_isSimple (hname : Path.IsSimple name) (ht : t ≠ .null) :
    ExceptT.run (r.owner t name : Op G (Value × Segment)) s = (.ok (t, ⟨name, .none⟩), s) := by
  obtain ⟨q, hparse, hsegments⟩ := Path.parse_of_isSimple hname
  exact run_owner_single hparse hsegments ht

theorem run_read_of_isSimple (hname : Path.IsSimple name) (ht : t ≠ .null) :
    ExceptT.run (r.read t name : Op G Value) s = ExceptT.run (r.readName t name) s := by
  obtain ⟨q, hparse, hsegments⟩ := Path.parse_of_isSimple hname
  exact run_read_single hparse hsegments ht

theorem run_write_of_isSimple (hname : Path.IsSimple name) (ht : t ≠ .null) :
    ExceptT.run (r.write t name v : Op G Unit) s = ExceptT.run (r.writeName t name v) s := by
  obtain ⟨q, hparse, hsegments⟩ := Path.parse_of_isSimple hname
  exact run_write_single hparse hsegments ht

theorem run_isWriteable_of_isSimple (hname : Path.IsSimple name) (ht : t ≠ .null) :
    ExceptT.run (r.isWriteable t name : Op G Bool) s = ExceptT.run (r.segmentWriteable t ⟨name, .none⟩) s := by
  obtain ⟨q, hparse, hsegments⟩ := Path.parse_of_isSimple hname
  exact run_isWriteable_single hparse hsegments ht

end Resolver

end ObjectGraph
