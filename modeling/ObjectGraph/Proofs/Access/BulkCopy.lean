import ObjectGraph.Proofs.Access.Description
import ObjectGraph.Proofs.Record.OwnValues

/-!
Bulk copies to a record that keeps its values in itself.  The entries of the description that the record takes are
written in the order of their names, until one is refused by the type of its property.  What has been written before
stays, and nothing is written after that.
-/

namespace ObjectGraph

open Op

/-! ### What describing leaves as it is -/

namespace Heap

/-- Whether a value is a map, or a record that shows no object. -/
def IsStore (H : Heap) : Value → Prop
  | .map _ => True
  | .record h =>
    match H.get h with
    | .adapter .. => False
    | _ => True
  | _ => False

end Heap

namespace Resolver
variable {G : ClassGraph} {r : Resolver} {s t : State G} {readOne : String → Op G Value} {k : OwnKind}
  {h : Handle .record} {S : Handle .schema} {d : Dict Value} {orig : Value} {name : String} {e : String × Value}
  {es before after : List (String × Value)} {writeOne : String → Value → Op G Unit} {err : Error}

/-- Reading names one after another leads on to a later state, whatever comes of it, if each read does. -/
theorem later_collect (Later : State G → State G → Prop) (hrefl : ∀ s, Later s s)
    (htrans : ∀ {s s' s''}, Later s s' → Later s' s'' → Later s s'')
    (hread : ∀ name s, Later s (ExceptT.run (readOne name) s).2) (names : List String) (d : Dict Value) (s : State G) :
    Later s (ExceptT.run (collect readOne d names) s).2 := by
  induction names generalizing d s with
  | nil => exact hrefl s
  | cons name names ih =>
    have hfirst := hread name s
    rcases hrun : ExceptT.run (readOne name) s with ⟨e | v, s₁⟩ <;> rw [hrun] at hfirst
    · rw [collect, run_bind_of_error hrun]
      exact hfirst
    · rw [collect, run_bind_of_ok hrun]
      exact htrans hfirst (ih (d.insert name v) s₁)

theorem later_describe (Later : State G → State G → Prop) {g : GrowingRecord} (hrefl : ∀ s, Later s s)
    (htrans : ∀ {s s' s''}, Later s s' → Later s' s'' → Later s s'')
    (hread : ∀ name s, Later s (ExceptT.run (Record.read g.cell name : Op G Value) s).2) (r : Resolver)
    (hg : g.IsIn s.heap) : Later s (ExceptT.run (r.describe (.record g.cell) : Op G (Dict Value)) s).2 := by
  rw [describe, run_bind_of_ok (run_names_growing hg)]
  exact later_collect Later hrefl htrans hread _ _ s

theorem restores_describe {g : GrowingRecord} (r : Resolver) (hg : g.IsIn s.heap) :
    g.Restores s.heap (ExceptT.run (r.describe (.record g.cell) : Op G (Dict Value)) s).2.heap := by
  refine (later_describe (fun s s' => g.IsIn s.heap → g.IsIn s'.heap ∧ g.Restores s.heap s'.heap)
    (fun s hg => ⟨hg, .refl g s.heap⟩) (fun h h' hg => ?_) (fun name s hg => ?_) r hg hg).2
  · obtain ⟨hg', hrestores⟩ := h hg
    obtain ⟨hg'', hrestores'⟩ := h' hg'
    exact ⟨hg'', hrestores.trans hrestores'⟩
  · rw [run_read_growing hg]
    refine ⟨?_, g.restores_read name s⟩
    obtain ⟨v, s', hrun, hfills, -⟩ := GrowingRecord.run_read hg name
    rw [hrun]
    exact hfills.isIn hg

/-- A map or a record that shows no object is described, and another record is left as it is by that. -/
theorem run_describe_of_isStore (r : Resolver) (horig : s.heap.IsStore orig) (hwhole : s.heap.Whole orig)
    (hne : orig ≠ .record h) (hd : k.Stands h S d s.heap) :
    ∃ D s₁, ExceptT.run (r.describe orig) s = (.ok D, s₁) ∧ k.Stands h S d s₁.heap ∧
      s₁.heap.get S = s.heap.get S := by
  cases orig with
  | map m => exact ⟨s.heap.get m, s, rfl, hd, rfl⟩
  | record j =>
    rw [Heap.IsStore] at horig
    rw [Heap.Whole] at hwhole
    cases hcell : s.heap.get j with
    | fixed T c =>
      obtain ⟨D, hrun, -⟩ := run_describe_fixed r hcell
      exact ⟨D, s, hrun, hd, rfl⟩
    | growing T store =>
      rw [hcell] at hwhole
      obtain ⟨hg, hj⟩ := GrowingRecord.isIn_ofStore hcell hwhole.1 hwhole.2.1 hwhole.2.2
      obtain ⟨D, s₁, hrun, -⟩ := run_describe_growing r hg
      have hrestores := restores_describe r hg
      rw [hrun] at hrestores
      rw [hj] at hrun
      have hnot : ¬ (GrowingRecord.ofStore j T store).Stores .record h := fun heq =>
        hne (congrArg Value.record (heq.trans hj).symm)
      exact ⟨D, s₁, hrun, ⟨(hrestores.same hd.hasCell hnot).trans hd.cell, hrestores.has hd.hasCell,
        hrestores.has hd.hasSchema⟩, hrestores.same hd.hasSchema id⟩
    | adapter T o q =>
      rw [hcell] at horig
      exact horig.elim
  | _ => exact horig.elim

/-! ### Writing entries one after another -/

theorem run_isWriteable_own (r : Resolver) (hd : k.Stands h S d s.heap) (hname : Path.IsSimple name) :
    ExceptT.run (r.isWriteable (.record h) name : Op G Bool) s = (.ok (k.takes (s.heap.get S) name), s) := by
  have hne : Value.record h ≠ .null := nofun
  rw [run_isWriteable_of_isSimple hname hne, segmentWriteable, recordWriteable, run_bind_of_ok (Op.run_read s _),
    hd.cell]
  cases k with
  | fixed => rfl
  | growing =>
    have hproperty := hd.property?_growing name
    change ExceptT.run (Op.read (GrowingRecord.isWriteable ⟨h, S, none⟩ name) : Op G Bool) s = _
    rw [Op.run_read, GrowingRecord.isWriteable, hproperty, OwnKind.takes, ← Schema.declares_eq, Bool.or_comm]

/-- Whether an operation writes entries as a record does, as long as their names have not been written. -/
def WritesPlainly (writeOne : String → Value → Op G Unit) (k : OwnKind) (h : Handle .record) (S : Handle .schema)
    (es : List (String × Value)) (H : Heap) : Prop :=
  ∀ e ∈ es, ∀ t : State G, k.Awaits h S e.1 H t.heap →
    ExceptT.run (writeOne e.1 e.2) t = ExceptT.run (Record.write h e.1 e.2) t

/-- Whether entries can be written one after another: their names are different, and are paths of one segment. -/
structure Listed (es : List (String × Value)) : Prop where
  distinct : es.Pairwise fun e e' => e'.1 ≠ e.1
  simple : ∀ e ∈ es, Path.IsSimple e.1

theorem Listed.tail (hes : Listed (e :: es)) : Listed es :=
  ⟨hes.distinct.of_cons, fun e he => hes.simple e (List.mem_cons_of_mem _ he)⟩

section
variable (hd : k.Stands h S d s.heap) (hes : Listed (e :: es)) (hplain : WritesPlainly writeOne k h S (e :: es) s.heap)
include hd hes

theorem run_copyEntries_of_not_takes (htakes : k.takes (s.heap.get S) e.1 = false) :
    ExceptT.run (r.copyEntries (.record h) writeOne (e :: es)) s =
      ExceptT.run (r.copyEntries (.record h) writeOne es) s := by
  rw [copyEntries, run_bind_of_ok (run_isWriteable_own r hd (hes.simple e List.mem_cons_self)), htakes]
  rfl

include hplain

theorem run_copyEntries_of_error (htakes : k.takes (s.heap.get S) e.1 = true)
    (hw : OwnKind.fitted G S s.heap e = .error err) :
    ExceptT.run (r.copyEntries (.record h) writeOne (e :: es)) s = (.error err, s) := by
  have hwrite := (hplain e List.mem_cons_self s (.refl hd)).trans (hd.run_write_of_error htakes hw)
  have hmissing : err.isMissing = false := Heap.neverMissing_coerce err hw
  rw [copyEntries, run_bind_of_ok (run_isWriteable_own r hd (hes.simple e List.mem_cons_self)), htakes]
  refine run_bind_of_error ?_
  rw [unlessMissing, run_attempt_bind hwrite]
  dsimp only
  rw [hmissing]
  rfl

theorem run_copyEntries_of_ok (htakes : k.takes (s.heap.get S) e.1 = true) {w : Value}
    (hw : OwnKind.fitted G S s.heap e = .ok w) : ∃ H',
    ExceptT.run (r.copyEntries (.record h) writeOne (e :: es)) s =
      ExceptT.run (r.copyEntries (.record h) writeOne es) { s with heap := H' } ∧
    k.Filled G h S [e] d s.heap (d.insert e.1 w) H' ∧ (∀ e' ∈ es, k.Awaits h S e'.1 s.heap H') ∧
    WritesPlainly writeOne k h S es H' := by
  obtain ⟨H', hrun, hfilled⟩ := hd.run_write_of_ok htakes hw
  have hwrite := (hplain e List.mem_cons_self s (.refl hd)).trans hrun
  have hawaits : ∀ e' ∈ es, k.Awaits h S e'.1 s.heap H' := fun e' he' =>
    hfilled.awaits (List.rel_of_pairwise_cons hes.distinct he')
  refine ⟨H', ?_, hfilled, hawaits, fun e' he' t ht => ?_⟩
  · rw [copyEntries, run_bind_of_ok (run_isWriteable_own r hd (hes.simple e List.mem_cons_self)), htakes]
    exact run_bind_of_ok (run_unlessMissing hwrite)
  · exact hplain e' (List.mem_cons_of_mem _ he') t ((hawaits e' he').trans ht)

end

/-- The entries that a record takes. -/
def kept (k : OwnKind) (T : Schema) (es : List (String × Value)) : List (String × Value) :=
  es.filter fun e => k.takes T e.1

theorem kept_cons_of_not_takes {T : Schema} (htakes : k.takes T e.1 = false) : kept k T (e :: es) = kept k T es :=
  List.filter_cons_of_neg (Bool.eq_false_iff.mp htakes)

theorem kept_cons_of_takes {T : Schema} (htakes : k.takes T e.1 = true) : kept k T (e :: es) = e :: kept k T es :=
  List.filter_cons_of_pos htakes

theorem kept_of_awaits {H H' : Heap} (hawaits : ∀ e ∈ es, k.Awaits h S e.1 H H') :
    kept k (H'.get S) es = kept k (H.get S) es :=
  List.filter_congr fun e he => (hawaits e he).takes_eq

/-- If all entries that the record takes are accepted, they are written, and nothing else is done. -/
theorem run_copyEntries_of_all (hd : k.Stands h S d s.heap) (hes : Listed es)
    (hplain : WritesPlainly writeOne k h S es s.heap)
    (hall : ∀ e ∈ kept k (s.heap.get S) es, ∃ w, OwnKind.fitted G S s.heap e = .ok w) : ∃ d' s',
    ExceptT.run (r.copyEntries (.record h) writeOne es) s = (.ok (), s') ∧
      k.Filled G h S (kept k (s.heap.get S) es) d s.heap d' s'.heap := by
  induction es generalizing s d with
  | nil => exact ⟨d, s, rfl, .nil hd⟩
  | cons e es ih =>
    cases htakes : k.takes (s.heap.get S) e.1 with
    | false =>
      rw [kept_cons_of_not_takes htakes] at hall ⊢
      rw [run_copyEntries_of_not_takes hd hes htakes]
      exact ih hd hes.tail (fun e he => hplain e (List.mem_cons_of_mem _ he)) hall
    | true =>
      rw [kept_cons_of_takes htakes] at hall ⊢
      rw [List.forall_mem_cons] at hall
      obtain ⟨⟨w, hw⟩, hall⟩ := hall
      obtain ⟨H', hrun, hfilled, hawaits, hplain'⟩ := run_copyEntries_of_ok (r := r) hd hes hplain htakes hw
      have hkept := kept_of_awaits hawaits
      obtain ⟨d', s', hrest, hfilled'⟩ := ih (s := { s with heap := H' }) hfilled.stands hes.tail hplain' (by
        rw [hkept]
        intro e' he'
        obtain ⟨w, hw⟩ := hall e' he'
        exact ⟨w, (hawaits e' (List.mem_of_mem_filter he')).fitted_eq.trans hw⟩)
      rw [hkept] at hfilled'
      refine ⟨d', s', hrun.trans hrest, hfilled.cons hfilled' fun e' he' => ?_⟩
      exact List.rel_of_pairwise_cons hes.distinct (List.mem_of_mem_filter he')

/-- If some entry that the record takes is not accepted, those before the first such one are written, and the copy
fails for the reason that this one gives. -/
theorem run_copyEntries_of_first (hd : k.Stands h S d s.heap) (hes : Listed es)
    (hplain : WritesPlainly writeOne k h S es s.heap) (hfirst : kept k (s.heap.get S) es = before ++ e :: after)
    (hbefore : ∀ e' ∈ before, ∃ w, OwnKind.fitted G S s.heap e' = .ok w)
    (herror : OwnKind.fitted G S s.heap e = .error err) : ∃ d' s',
    ExceptT.run (r.copyEntries (.record h) writeOne es) s = (.error err, s') ∧
      k.Filled G h S before d s.heap d' s'.heap := by
  induction es generalizing s d before with
  | nil => exact absurd hfirst.symm (List.append_ne_nil_of_right_ne_nil before (List.cons_ne_nil e after))
  | cons e₀ es ih =>
    cases htakes : k.takes (s.heap.get S) e₀.1 with
    | false =>
      rw [kept_cons_of_not_takes htakes] at hfirst
      rw [run_copyEntries_of_not_takes hd hes htakes]
      exact ih hd hes.tail (fun e he => hplain e (List.mem_cons_of_mem _ he)) hfirst hbefore herror
    | true =>
      rw [kept_cons_of_takes htakes] at hfirst
      cases before with
      | nil =>
        obtain ⟨rfl, -⟩ := List.cons.inj hfirst
        exact ⟨d, s, run_copyEntries_of_error hd hes hplain htakes herror, .nil hd⟩
      | cons e₁ before =>
        rw [List.cons_append] at hfirst
        obtain ⟨rfl, htail⟩ := List.cons.inj hfirst
        rw [List.forall_mem_cons] at hbefore
        obtain ⟨⟨w, hw⟩, hbefore⟩ := hbefore
        obtain ⟨H', hrun, hfilled, hawaits, hplain'⟩ := run_copyEntries_of_ok (r := r) hd hes hplain htakes hw
        have hmem : ∀ e' ∈ before ++ e :: after, e' ∈ es := fun e' he' =>
          List.mem_of_mem_filter (htail.symm ▸ he')
        have hin : ∀ e' ∈ before, e' ∈ es := fun e' he' => hmem e' (List.mem_append_left _ he')
        obtain ⟨d', s', hrest, hfilled'⟩ := ih (s := { s with heap := H' }) hfilled.stands hes.tail hplain'
          ((kept_of_awaits hawaits).trans htail)
          (fun e' he' => by
            obtain ⟨w, hw⟩ := hbefore e' he'
            exact ⟨w, (hawaits e' (hin e' he')).fitted_eq.trans hw⟩)
          ((hawaits e (hmem e (List.mem_append_right _ List.mem_cons_self))).fitted_eq.trans herror)
        exact ⟨d', s', hrun.trans hrest, hfilled.cons hfilled' fun e' he' =>
          List.rel_of_pairwise_cons hes.distinct (hin e' he')⟩

/-! ### Copying -/

theorem listed_entries {D : Dict Value} (hnames : ∀ e ∈ D.entries, Path.IsSimple e.1) : Listed D.entries where
  distinct := (Dict.ascending D).imp fun hlt => (String.ne_of_lt hlt).symm
  simple := hnames

/-- What is described of a map, or of a record that shows no object, is copied to another record that keeps its values
in itself in the order of the names, as far as the record takes the names.  If the property of each name accepts the
value, all are written.  Otherwise the copy fails for the reason of the first name whose property does not, and exactly
those before it have been written.  Nothing else of the record has changed, and no other cell has, but for what the
description has changed. -/
theorem copyProperties_writes_prefix (r : Resolver) (s : State G) (orig : Value) (horig : s.heap.IsStore orig)
    (hwhole : s.heap.Whole orig) (k : OwnKind) (h : Handle .record) (S : Handle .schema) (d : Dict Value)
    (hd : k.Stands h S d s.heap) (hne : orig ≠ .record h)
    (hnames : ∀ D s₁, ExceptT.run (r.describe orig) s = (.ok D, s₁) → ∀ e ∈ D.entries, Path.IsSimple e.1) :
    ∃ D s₁, ExceptT.run (r.describe orig) s = (.ok D, s₁) ∧ k.Stands h S d s₁.heap ∧
      s₁.heap.get S = s.heap.get S ∧
      ((∀ e ∈ kept k (s.heap.get S) D.entries, ∃ w, OwnKind.fitted G S s₁.heap e = .ok w) →
        ∃ d' s', ExceptT.run (r.copyProperties (.record h) orig) s = (.ok (), s') ∧
          k.Filled G h S (kept k (s.heap.get S) D.entries) d s₁.heap d' s'.heap) ∧
      ∀ before e after err, kept k (s.heap.get S) D.entries = before ++ e :: after →
        (∀ e' ∈ before, ∃ w, OwnKind.fitted G S s₁.heap e' = .ok w) → OwnKind.fitted G S s₁.heap e = .error err →
        ∃ d' s', ExceptT.run (r.copyProperties (.record h) orig) s = (.error err, s') ∧
          k.Filled G h S before d s₁.heap d' s'.heap := by
  obtain ⟨D, s₁, hrun, hd₁, hschema⟩ := run_describe_of_isStore r horig hwhole hne hd
  have hes := listed_entries (hnames D s₁ hrun)
  have hplain : WritesPlainly (G := G) (r.writeName (.record h)) k h S D.entries s₁.heap := fun _ _ _ _ => rfl
  have hcopy : ExceptT.run (r.copyProperties (.record h) orig) s =
      ExceptT.run (r.copyEntries (.record h) (r.writeName (.record h)) D.entries) s₁ := by
    have hnull : orig.isNull = false := by cases orig <;> first | rfl | exact horig.elim
    rw [copyProperties, hnull]
    exact run_bind_of_ok hrun
  rw [hcopy, ← hschema]
  exact ⟨D, s₁, hrun, hd₁, rfl, run_copyEntries_of_all hd₁ hes hplain,
    fun _ _ _ _ => run_copyEntries_of_first hd₁ hes hplain⟩

/-- A map of three entries, and a growing record that declares the second of them as a number. -/
def threeEntries : State .empty where
  heap :=
    let (_, H) := Heap.empty.alloc .map (.ofList [("a", .text "x"), ("b", .bool true), ("c", .text "y")])
    let (S, H) := H.alloc .schema (.ofProperties "Row" [⟨"b", .boxed (.int .w32), none⟩])
    (H.alloc .record (.growing S (.own .empty))).2
  caches := .empty

/-- The first entry is written and declared, the second one is refused, and the third one is not written. -/
theorem copyProperties_writes_prefix_of_three : ∃ e d' s',
    ExceptT.run (copyProperties ⟨0⟩ (.record ⟨0⟩) (.map ⟨0⟩)) threeEntries = (.error e, s') ∧
      OwnKind.growing.Stands ⟨0⟩ ⟨0⟩ d' s'.heap ∧ d'.get? "a" = some (.text "x") ∧ d'.get? "b" = none ∧
      d'.get? "c" = none ∧ (s'.heap.get (⟨0⟩ : Handle .schema)).names = ["b", "a"] := by
  have hd : OwnKind.growing.Stands ⟨0⟩ ⟨0⟩ .empty threeEntries.heap := ⟨rfl, Nat.zero_lt_one, Nat.zero_lt_one⟩
  obtain ⟨D, s₁, hrun, -, -, -, hfirst⟩ := copyProperties_writes_prefix ⟨0⟩ threeEntries (.map ⟨0⟩) trivial trivial
    .growing ⟨0⟩ ⟨0⟩ .empty hd nofun (by
      rintro D s₁ ⟨⟩
      decide)
  cases hrun
  obtain ⟨d', s', hrun, hfilled⟩ := hfirst [("a", .text "x")] ("b", .bool true) [("c", .text "y")] _ rfl
    (List.forall_mem_singleton.mpr ⟨_, rfl⟩) rfl
  obtain ⟨w, hw, hstored⟩ := hfilled.written _ List.mem_cons_self
  cases hw
  refine ⟨_, d', s', hrun, hfilled.stands, hstored, ?_, ?_, ?_⟩
  · exact hfilled.kept "b" (List.forall_mem_singleton.mpr (by decide))
  · exact hfilled.kept "c" (List.forall_mem_singleton.mpr (by decide))
  · rw [hfilled.schema]
    rfl

end Resolver

end ObjectGraph
