import ObjectGraph.Proofs.Binder.Storage
import ObjectGraph.Proofs.Object.Outcome
import ObjectGraph.Proofs.Object.Questions

/-!
Entries of bulk writes that name no property with a setter.  Nothing is written for such an entry, but its value is
converted like any other before that is found out, so it is skipped only if the conversion succeeds.
-/

namespace ObjectGraph

/-- The entries whose keys satisfy a condition. -/
def Dict.restrict {α : Type} (d : Dict α) (p : String → Bool) : Dict α :=
  ⟨d.entries.filter fun e => p e.1, Ascending.filter_ascending _ d.ascending⟩

namespace ClassGraph
variable (G : ClassGraph)

/-- Whether a property of a class has a setter. -/
def isSettable (c : ClassId) (name : String) : Bool := ((G.descriptor? c name).bind Descriptor.write).isSome

/-- The declared type of a name of an object, if there is one.  The name of a keyed property counts as one of the
type of its values. -/
def declaredTy? (c : ClassId) (name : String) : Except Error (Option Ty) :=
  match G.descriptor? c name with
  | some d => .ok d.ty?
  | none => (G.keyed? c name).map (Option.map KeyedDescriptor.valueTy)

variable {G} {c : ClassId} {name : String}

theorem neverMissing_declaredTy? : NeverMissing (G.declaredTy? c name) := by
  unfold declaredTy?
  split
  · exact .ok _
  · exact Resolver.neverMissing_keyed?.map _

end ClassGraph

namespace Binder

open Resolver Op

variable {G : ClassGraph} {b : Binder} {s t : State G} {H : Heap} {o : Handle .object} {c : ClassId} {name : String}
  {v w : Value} {convert : Ty → Op G Value} {x : Op G Unit} {d : Dict Value}

/-- What a converting write makes of a value for a name of an object: the value is converted to the type of the name,
if there is one. -/
def fitted (c : ClassId) (name : String) (v : Value) (convert : Ty → Op G Value) : Op G Value := do
  match (← Op.tryRead fun _ => G.declaredTy? c name).filter (· ≠ .any) with
  | some t => convert t
  | none => return v

theorem grows_fitted (hconvert : ∀ t, (convert t).Grows) : (fitted c name v convert).Grows := by
  refine .bind ⟨fun H => (G.declaredTy? c name, H), fun s => ⟨rfl, .refl s.heap, ClassGraph.neverMissing_declaredTy?⟩⟩
    fun t? => ?_
  split
  · exact hconvert _
  · exact .pure v

/-! ### Writing to a name of an object -/

/-- What cannot be read has no type of its own. -/
theorem run_typeByValue_of_none (r : Resolver) (hbare : s.heap.Bare o) (hc : (s.heap.get o).cls = c)
    (hread : (G.descriptor? c name).bind Descriptor.read = none) : ∃ s₁ : State G, s₁.heap = s.heap ∧
      ExceptT.run (r.typeByValue (.object o) ⟨name, .none⟩) s = (.ok none, s₁) := by
  obtain ⟨e, s₁, hrun, -⟩ := run_readObject_of_none (r := r) hbare.storage hc hread
  have hheap := heap_readObject_of_none (r := r) hc hread
  rw [hrun] at hheap
  exact ⟨s₁, hheap, run_typeByValue_of_error hrun⟩

theorem run_objectTy_of_bare (r : Resolver) (name : String) (hbare : s.heap.Bare o)
    (hc : (s.heap.get o).cls = c) : ∃ s₁ : State G, s₁.heap = s.heap ∧
      ExceptT.run (r.objectTy o ⟨name, .none⟩) s = (G.declaredTy? c name, s₁) := by
  obtain ⟨s₁, hheap₁, hds⟩ := run_descriptors r c s
  obtain ⟨s₂, hheap₂, hkeyed⟩ := run_keyed_eq r c name s₁
  have hheap := hheap₂.trans hheap₁
  rw [objectTy, classOf, Op.run_bind_of_ok (Op.run_read s _), hc, Op.run_bind_of_ok hds, ClassGraph.declaredTy?,
    ClassGraph.descriptor?]
  cases hd : findDescriptor? (G.descriptors c) name with
  | some d => exact ⟨s₁, hheap₁, rfl⟩
  | none =>
    dsimp only
    cases hk : G.keyed? c name with
    | error e =>
      rw [hk] at hkeyed
      exact ⟨s₂, hheap, Op.run_bind_of_error hkeyed⟩
    | ok k? =>
      rw [hk] at hkeyed
      rw [Op.run_bind_of_ok hkeyed]
      cases k? with
      | some k => exact ⟨s₂, hheap, rfl⟩
      | none =>
        have hread : (G.descriptor? c name).bind Descriptor.read = none := by
          rw [ClassGraph.descriptor?, hd, Option.bind_none]
        obtain ⟨s₃, hheap₃, hty⟩ := run_typeByValue_of_none r (hheap.symm ▸ hbare) (hheap.symm ▸ hc) hread
        exact ⟨s₃, hheap₃.trans hheap, hty⟩

theorem run_targetTy_of_bare (b : Binder) (hname : Path.IsSimple name) (hbare : s.heap.Bare o)
    (hc : (s.heap.get o).cls = c) : ∃ s₁ : State G, s₁.heap = s.heap ∧
      ExceptT.run (b.targetTy (.object o) (.object o) name) s =
        ((G.declaredTy? c name).map (Option.filter (· ≠ .any)), s₁) := by
  obtain ⟨s₁, hheap, hty⟩ := run_objectTy_of_bare b.resolver name hbare hc
  have hobject : Value.object o ≠ .null := nofun
  have hpath : ExceptT.run (b.resolver.propertyTy (.object o) name : Op G (Option Ty)) s = _ :=
    (run_bind_of_ok (run_owner_of_isSimple hname hobject)).trans hty
  refine ⟨s₁, hheap, ?_⟩
  simp only [targetTy]
  cases hdeclared : G.declaredTy? c name with
  | error e =>
    rw [hdeclared] at hpath
    exact run_bind_of_error hpath
  | ok t? =>
    rw [hdeclared] at hpath
    exact run_bind_of_ok hpath

/-- What asks for the type of a name, and then converts a value if there is one, converts it to the declared type. -/
theorem run_targetTy_bind (hname : Path.IsSimple name) (hbare : s.heap.Bare o) (hc : (s.heap.get o).cls = c)
    {k : Option Ty → Op G Unit} {write : Value → Op G Unit} (hnone : k none = write v)
    (hsome : ∀ t, k (some t) = convert t >>= write) : ∃ s₁ : State G, s₁.heap = s.heap ∧
      ExceptT.run (b.targetTy (.object o) (.object o) name >>= k) s =
        ExceptT.run (fitted c name v convert >>= write) s₁ := by
  obtain ⟨s₁, hheap, hty⟩ := run_targetTy_of_bare b hname hbare hc
  refine ⟨s₁, hheap, ?_⟩
  rw [fitted, bind_assoc]
  cases hdeclared : G.declaredTy? c name with
  | error e =>
    rw [hdeclared] at hty
    rw [run_bind_of_error hty, run_bind_of_error (run_tryRead s₁ _)]
  | ok t? =>
    rw [hdeclared] at hty
    rw [run_bind_of_ok hty, run_bind_of_ok (run_tryRead s₁ fun _ => .ok t?)]
    cases t?.filter (· ≠ .any) with
    | none => rw [hnone, pure_bind]
    | some t => rw [hsome]

/-- A converting write to an object without entries is a conversion and then a write. -/
theorem run_setProperty_of_bare (b : Binder) (v : Value) (hname : Path.IsSimple name) (hbare : s.heap.Bare o)
    (hc : (s.heap.get o).cls = c) : ∃ s₁ : State G, s₁.heap = s.heap ∧
      ExceptT.run (b.setProperty (.object o) name v) s =
        ExceptT.run (fitted c name v (fun t => b.convertInput v t true) >>= b.resolver.writeObject o name) s₁ := by
  have hobject : Value.object o ≠ .null := nofun
  rw [setProperty, run_bind_of_ok (run_owner_of_isSimple hname hobject)]
  dsimp only
  rw [decide_eq_true rfl]
  exact run_targetTy_bind hname hbare hc rfl fun t => rfl

theorem run_copyProperty_of_bare (b : Binder) (v : Value) (hname : Path.IsSimple name) (hbare : s.heap.Bare o)
    (hc : (s.heap.get o).cls = c) : ∃ s₁ : State G, s₁.heap = s.heap ∧
      ExceptT.run (b.copyProperty (.object o) name v) s =
        ExceptT.run (fitted c name v (fun t => b.convertFor v t) >>= b.resolver.writeObject o name) s₁ := by
  have hobject : Value.object o ≠ .null := nofun
  rw [copyProperty, run_bind_of_ok (run_owner_of_isSimple hname hobject)]
  exact run_targetTy_bind hname hbare hc (pure_bind v _) fun t => rfl

/-! ### Entries one after the other -/

/-- What a bulk write does with an entry: the value is converted, and the result is written if there is a setter.
Only some names are tried at all. -/
def offer (b : Binder) (o : Handle .object) (c : ClassId) (tried : String → Bool) (convert : Value → Ty → Op G Value)
    (e : String × Value) : Op G Unit :=
  if tried e.1 then unlessMissing (fitted c e.1 e.2 (convert e.2) >>= b.resolver.writeObject o e.1) else return

/-- Whether an operation succeeds without changing anything, now and later. -/
def Idle {α : Type} (H : Heap) (x : Op G α) : Prop :=
  ∀ s : State G, H.ChangesFields s.heap → ∃ a, outcome x s = (.ok a, s.heap)

variable {tried : String → Bool} {make : Value → Ty → Op G Value} {e : String × Value} {es : List (String × Value)}

theorem tame_offer (hmake : ∀ v t, (make v t).Grows) (e : String × Value) : Tame o (b.offer o c tried make e) := by
  unfold offer
  split
  · exact Tame.unlessMissing ((grows_fitted fun t => hmake e.2 t).tame.bind fun w => tame_writeObject)
  · exact .pure ()

/-- Nothing is written without a setter. -/
theorem outcome_offer_of_ok (hbare : s.heap.Bare o) (hc : (s.heap.get o).cls = c)
    (hwrite : G.isSettable c e.1 = false) (hmade : outcome (fitted c e.1 e.2 (make e.2)) s = (.ok w, s.heap)) :
    outcome (b.offer o c tried make e) s = (.ok (), s.heap) := by
  rw [offer]
  split
  · have hm := Option.not_isSome_iff_eq_none.mp (Bool.eq_false_iff.mp hwrite)
    obtain ⟨s', hheap, hrun⟩ := run_of_outcome hmade
    have hc' := hheap.symm ▸ hc
    obtain ⟨err, s'', hwritten, hmissing⟩ := run_writeObject_of_none (r := b.resolver) (v := w)
      (hheap.symm ▸ hbare.storage) hc' hm
    have hheap' := heap_writeObject_of_none (r := b.resolver) (v := w) (hheap.symm ▸ hbare) hc' hm
    rw [hwritten] at hheap'
    rw [outcome_unlessMissing, outcome_of_run ((run_bind_of_ok hrun).trans hwritten)]
    dsimp only
    rw [if_pos hmissing, hheap', hheap]
  · rfl

/-- A conversion that fails does so for good, with or without a setter. -/
theorem outcome_offer_of_error {err : Error} (hmake : ∀ v t, (make v t).Grows) (htried : tried e.1 = true)
    (hmade : outcome (fitted c e.1 e.2 (make e.2)) s = (.error err, H)) :
    outcome (b.offer o c tried make e) s = (.error err, H) := by
  obtain ⟨s', rfl, hrun⟩ := run_of_outcome hmade
  have hmissing := ((grows_fitted fun t => hmake e.2 t).run_of_heap rfl hrun).2.2 err rfl
  rw [offer, if_pos htried, outcome_unlessMissing, outcome_of_run (run_bind_of_error hrun)]
  dsimp only
  rw [if_neg (Bool.eq_false_iff.mp hmissing)]

theorem outcome_unlessMissing_eq_offer (hmake : ∀ v t, (make v t).Grows) (htried : tried e.1 = true)
    (hrun : ∃ s₁ : State G, s₁.heap = s.heap ∧
      ExceptT.run x s = ExceptT.run (fitted c e.1 e.2 (make e.2) >>= b.resolver.writeObject o e.1) s₁) :
    outcome (unlessMissing x) s = outcome (b.offer o c tried make e) s := by
  obtain ⟨s₁, hheap, hrun⟩ := hrun
  rw [← (tame_offer hmake e).outcome hheap, offer, if_pos htried, outcome_unlessMissing, outcome_unlessMissing,
    outcome_of_run_eq hrun]

theorem outcome_setEntries (hnames : ∀ e ∈ es, Path.IsSimple e.1) (hbare : s.heap.Bare o)
    (hc : (s.heap.get o).cls = c) : outcome (b.setEntries (.object o) es) s =
      outcome (es.forM (b.offer o c (fun _ => true) fun v t => b.convertInput v t true)) s := by
  have hmake (v : Value) (t : Ty) : (b.convertInput v t true : Op G Value).Grows := b.grows_convertInput v t true
  refine outcome_loop (H := s.heap) rfl (fun e es => rfl) (tame_offer hmake) (fun e he t hbare' hlater => ?_)
    hbare (.refl _)
  have hc' := (hlater.cls hbare.hasCell).trans hc
  exact outcome_unlessMissing_eq_offer hmake rfl (run_setProperty_of_bare b e.2 (hnames e he) hbare' hc')

theorem run_isWriteable_of_bare (r : Resolver) (hname : Path.IsSimple name) (hbare : s.heap.Bare o)
    (hc : (s.heap.get o).cls = c) : ∃ s₁ : State G, s₁.heap = s.heap ∧
      ExceptT.run (r.isWriteable (.object o) name) s = (.ok (G.answersWriteable c ⟨name, .none⟩), s₁) := by
  have hobject : Value.object o ≠ .null := nofun
  obtain ⟨s₁, hrun⟩ := run_objectWriteable (r := r) hbare.storage hc ⟨name, .none⟩
  have hheap := asks_objectWriteable r o ⟨name, .none⟩ s
  rw [hrun] at hheap
  exact ⟨s₁, hheap, (run_isWriteable_of_isSimple hname hobject).trans hrun⟩

theorem copyEntries_cons (r : Resolver) (dest : Value) (writeOne : String → Value → Op G Unit) (e : String × Value)
    (es : List (String × Value)) : r.copyEntries dest writeOne (e :: es) =
      (r.isWriteable dest e.1 >>= fun answer => if answer then unlessMissing (writeOne e.1 e.2) else pure ()) >>=
        fun _ => r.copyEntries dest writeOne es := by
  rw [copyEntries, bind_assoc]
  congr 1
  funext answer
  cases answer <;> rfl

theorem outcome_copyEntries (hnames : ∀ e ∈ es, Path.IsSimple e.1) (hbare : s.heap.Bare o)
    (hc : (s.heap.get o).cls = c) : outcome (b.resolver.copyEntries (.object o) (b.copyProperty (.object o)) es) s =
      outcome (es.forM (b.offer o c (fun name => G.answersWriteable c ⟨name, .none⟩) b.convertFor)) s := by
  refine outcome_loop (H := s.heap) rfl (copyEntries_cons b.resolver _ _) (tame_offer b.grows_convertFor)
    (fun e he t hbare' hlater => ?_) hbare (.refl _)
  have hc' := (hlater.cls hbare.hasCell).trans hc
  obtain ⟨t₁, hheap, hasked⟩ := run_isWriteable_of_bare b.resolver (hnames e he) hbare' hc'
  rw [outcome_of_run_eq (run_bind_of_ok hasked), ← (tame_offer b.grows_convertFor e).outcome hheap]
  cases htried : G.answersWriteable c ⟨e.1, .none⟩ with
  | true =>
    exact outcome_unlessMissing_eq_offer b.grows_convertFor htried
      (run_copyProperty_of_bare b e.2 (hnames e he) (hheap.symm ▸ hbare') (hheap.symm ▸ hc'))
  | false =>
    rw [offer, htried]
    rfl

/-! ### Entries that can be left out -/

/-- Whether it makes no difference to a bulk write that tries some names whether it is given an entry without a setter:
the name has no declared type, or the value is converted without failing and without a new list or array. -/
def Skippable (H : Heap) (c : ClassId) (tried : String → Bool) (convert : Value → Ty → Op G Value)
    (e : String × Value) : Prop :=
  tried e.1 = true → G.declaredTy? c e.1 ≠ .ok none → Idle H (fitted c e.1 e.2 (convert e.2))

/-- Whether the value of an entry that a bulk write tries is never converted. -/
def Refused (H : Heap) (c : ClassId) (tried : String → Bool) (convert : Value → Ty → Op G Value)
    (e : String × Value) : Prop :=
  tried e.1 = true ∧ ∀ s : State G, H.ChangesFields s.heap →
    ∃ err H', outcome (fitted c e.1 e.2 (convert e.2)) s = (.error err, H')

theorem idle_fitted_of_no_type (hnone : G.declaredTy? c name = .ok none) : Idle H (fitted c name v convert) := by
  intro s _
  have htype : ExceptT.run (Op.tryRead fun _ => G.declaredTy? c name : Op G (Option Ty)) s = (.ok none, s) := by
    rw [run_tryRead, hnone]
  exact ⟨v, outcome_of_run (run_bind_of_ok htype)⟩

/-- Whether a bulk write does the same as another one, which is not given the entries without setters, as long as
these are skippable, and fails because of an entry whose value is never converted. -/
structure SkipsUnsettable (s : State G) (c : ClassId) (d : Dict Value) (tried : String → Bool)
    (convert : Value → Ty → Op G Value) (x y : Op G Unit) : Prop where
  same : (∀ e ∈ d.entries, G.isSettable c e.1 = false → Skippable s.heap c tried convert e) → outcome x s = outcome y s
  fails : ∀ e ∈ d.entries, Refused s.heap c tried convert e → ∃ err H, outcome x s = (.error err, H)

theorem outcome_fitted_of_type {ty : Ty} (hty : G.declaredTy? c name = .ok (some ty)) (hany : ty ≠ .any) :
    outcome (fitted c name v convert) s = outcome (convert ty) s := by
  have htype : ExceptT.run (Op.tryRead fun _ => G.declaredTy? c name : Op G (Option Ty)) s = (.ok (some ty), s) := by
    rw [run_tryRead, hty]
  rw [fitted, outcome_of_run_eq (run_bind_of_ok htype), Option.filter_some, if_pos (decide_eq_true hany)]

theorem outcome_offers_filter (hmake : ∀ v t, (make v t).Grows) (hbare : s.heap.Bare o)
    (hc : (s.heap.get o).cls = c)
    (hskip : ∀ e ∈ es, G.isSettable c e.1 = false → Skippable s.heap c tried make e) :
    outcome (es.forM (b.offer o c tried make)) s =
      outcome ((es.filter fun e => G.isSettable c e.1).forM (b.offer o c tried make)) s := by
  refine outcome_forM_filter (H := s.heap) (tame_offer hmake) (fun e he hwrite t hbare' hlater => ?_) hbare (.refl _)
  have hc' := (hlater.cls hbare.hasCell).trans hc
  by_cases htried : tried e.1 = true
  · have hidle : Idle s.heap (fitted c e.1 e.2 (make e.2)) := by
      by_cases hnone : G.declaredTy? c e.1 = .ok none
      · exact idle_fitted_of_no_type hnone
      · exact hskip e he hwrite htried hnone
    obtain ⟨w, hmade⟩ := hidle t hlater
    exact outcome_offer_of_ok hbare' hc' hwrite hmade
  · rw [offer, if_neg htried]
    rfl

theorem outcome_offers_of_refused (hmake : ∀ v t, (make v t).Grows) (hbare : s.heap.Bare o) (he : e ∈ es)
    (hrefused : Refused s.heap c tried make e) :
    ∃ err H', outcome (es.forM (b.offer o c tried make)) s = (.error err, H') := by
  refine outcome_forM_of_error (tame_offer hmake) he (fun t _ hlater => ?_) hbare (.refl _)
  obtain ⟨err, H', hmade⟩ := hrefused.2 t hlater
  exact ⟨err, H', outcome_offer_of_error hmake hrefused.1 hmade⟩

/-- What offers entries one after the other skips those without setters. -/
theorem skipsUnsettable_of_offers {y : Op G Unit} (hmake : ∀ v t, (make v t).Grows) (hbare : s.heap.Bare o)
    (hc : (s.heap.get o).cls = c) (hx : outcome x s = outcome (d.entries.forM (b.offer o c tried make)) s)
    (hy : outcome y s = outcome ((d.restrict (G.isSettable c)).entries.forM (b.offer o c tried make)) s) :
    SkipsUnsettable s c d tried make x y where
  same hskip := by
    rw [hx, hy]
    exact outcome_offers_filter hmake hbare hc hskip
  fails e he hrefused := by
    rw [hx]
    exact outcome_offers_of_refused hmake hbare he hrefused

theorem outcome_populate (hnames : ∀ e ∈ d.entries, Path.IsSimple e.1) (hbare : s.heap.Bare o)
    (hc : (s.heap.get o).cls = c) : outcome (b.populate (.object o) d) s =
      outcome (d.entries.forM (b.offer o c (fun _ => true) fun v t => b.convertInput v t true)) s := by
  have hentries : outcome (b.populate (.object o) d) s = outcome (b.setEntries (.object o) d.entries) s := rfl
  rw [hentries, outcome_setEntries hnames hbare hc]

theorem outcome_copyProperties_map {m : Handle .map} (hm : s.heap.get m = d)
    (hnames : ∀ e ∈ d.entries, Path.IsSimple e.1) (hbare : s.heap.Bare o) (hc : (s.heap.get o).cls = c) :
    outcome (b.copyProperties (.object o) (.map m)) s =
      outcome (d.entries.forM (b.offer o c (fun name => G.answersWriteable c ⟨name, .none⟩) b.convertFor)) s := by
  subst hm
  have hentries : outcome (b.copyProperties (.object o) (.map m)) s = outcome (b.resolver.copyEntries (.object o)
    (b.copyProperty (.object o)) (Dict.entries (s.heap.get m))) s := rfl
  rw [hentries, outcome_copyEntries hnames hbare hc]

theorem isSimple_of_mem_restrict {p : String → Bool} (hnames : ∀ e ∈ d.entries, Path.IsSimple e.1) :
    ∀ e ∈ (d.restrict p).entries, Path.IsSimple e.1 := fun e he => hnames e (List.mem_of_mem_filter he)

theorem skipsUnsettable_populate (b : Binder) (hnames : ∀ e ∈ d.entries, Path.IsSimple e.1) (hbare : s.heap.Bare o)
    (hc : (s.heap.get o).cls = c) : SkipsUnsettable s c d (fun _ => true) (fun v t => b.convertInput v t true)
      (b.populate (.object o) d) (b.populate (.object o) (d.restrict (G.isSettable c))) :=
  skipsUnsettable_of_offers (fun v t => b.grows_convertInput v t true) hbare hc (outcome_populate hnames hbare hc)
    (outcome_populate (isSimple_of_mem_restrict hnames) hbare hc)

theorem skipsUnsettable_copyProperties (b : Binder) {m m' : Handle .map} (hm : s.heap.get m = d)
    (hm' : s.heap.get m' = d.restrict (G.isSettable c)) (hnames : ∀ e ∈ d.entries, Path.IsSimple e.1)
    (hbare : s.heap.Bare o) (hc : (s.heap.get o).cls = c) :
    SkipsUnsettable s c d (fun name => G.answersWriteable c ⟨name, .none⟩) b.convertFor
      (b.copyProperties (.object o) (.map m)) (b.copyProperties (.object o) (.map m')) :=
  skipsUnsettable_of_offers b.grows_convertFor hbare hc (outcome_copyProperties_map hm hnames hbare hc)
    (outcome_copyProperties_map hm' (isSimple_of_mem_restrict hnames) hbare hc)

/-- The type of numbers. -/
def number : Ty := .boxed (.int .w32)

/-- A class with a getter of a number, and keyed accessors of numbers. -/
def rows : ClassGraph :=
  (ClassGraph.empty.define? ⟨"Row", true, false, none, [],
    [.getter 0 "id" number "id" false, .entryGetter 0 "tag" number "tag", .entrySetter 0 "tag" number "tag" none],
    true, false, [], false⟩).getD .empty

/-- A value for each name. -/
def both (v : Value) : Dict Value := ⟨[("id", v), ("tag", v)],
  List.pairwise_pair.mpr (show "id" < "tag" by decide)⟩

/-- An object, maps of a text and of a number for each name, and what is left of them without the names that have no
setter. -/
def row : State rows :=
  ⟨⟨.empty, .empty, ⟨#[both (.text "abc"), (both (.text "abc")).restrict (rows.isSettable 0), both three,
    (both three).restrict (rows.isSettable 0)]⟩, ⟨#[⟨0, .empty, none⟩]⟩, .empty, .empty⟩, .empty⟩

theorem bare_row : row.heap.Bare ⟨0⟩ := ⟨Nat.zero_lt_one, rfl⟩

theorem mem_both (he : e ∈ (both v).entries) : e.1 ∈ ["id", "tag"] ∧ e.2 = v := by
  rcases List.mem_cons.mp he with rfl | he
  · exact ⟨List.mem_cons_self, rfl⟩
  · obtain rfl := List.mem_singleton.mp he
    exact ⟨List.mem_cons_of_mem _ List.mem_cons_self, rfl⟩

theorem isSimple_both (v : Value) : ∀ e ∈ (both v).entries, Path.IsSimple e.1 := by
  have hnames : ∀ name ∈ ["id", "tag"], Path.IsSimple name := by decide
  exact fun e he => hnames e.1 (mem_both he).1

theorem declaredTy?_rows (hname : name ∈ ["id", "tag"]) : rows.declaredTy? 0 name = .ok (some number) := by
  have hall : ["id", "tag"].all (fun name => (rows.declaredTy? 0 name).toOption.any (· == some number)) = true := by
    decide +kernel
  have hname := List.all_eq_true.mp hall name hname
  cases h : rows.declaredTy? 0 name with
  | error e =>
    rw [h] at hname
    cases hname
  | ok t =>
    rw [h] at hname
    exact congrArg Except.ok (eq_of_beq hname)

theorem entries_restrict_both (v : Value) : ((both v).restrict (rows.isSettable 0)).entries = [] := by
  have hnames : ∀ name ∈ ["id", "tag"], rows.isSettable 0 name = false := by decide +kernel
  exact List.filter_eq_nil_iff.mpr fun e he => Bool.eq_false_iff.mp (hnames e.1 (mem_both he).1)

theorem outcome_fitted_row (he : e ∈ (both v).entries) (make : Value → Ty → Op rows Value) (s : State rows) :
    outcome (fitted 0 e.1 e.2 (make e.2)) s = outcome (make v number) s := by
  obtain ⟨hname, rfl⟩ := mem_both he
  exact outcome_fitted_of_type (declaredTy?_rows hname) nofun

/-- Converters that refuse what they cannot convert. -/
def strict : Binder := ofConfig ⟨true, false, 0⟩

theorem apply_strict_text (element : Conversion) (H : Heap) : ∃ err,
    (⟨.number (.int .w32), none⟩ : ConverterEntry).apply rows element number (.text "abc") H = .error err := by
  have htext : Value.text "abc" ≠ .null := nofun
  exact ⟨_, ConverterEntry.apply_of_strict rfl htext⟩

theorem outcome_convertInput_text (s : State rows) :
    ∃ err H, outcome (strict.convertInput (.text "abc") number true) s = (.error err, H) := by
  obtain ⟨err, herr⟩ := apply_strict_text (strict.registry.elementConversion rows number) s.heap
  have hlookup : strict.registry.lookup? number = _ := lookup?_strict
  have hconvert : strict.registry.convertText rows number "abc" s.heap = .error err := by
    rw [Registry.convertText, hlookup]
    exact herr
  refine ⟨err, s.heap, outcome_of_run ?_⟩
  simp only [convertInput]
  rw [run_bind_of_ok (run_read s _)]
  exact run_tryChange_of_error s hconvert

theorem outcome_convertFor_text (s : State rows) :
    ∃ err H, outcome (strict.convertFor (.text "abc") number) s = (.error err, H) := by
  obtain ⟨err, herr⟩ := apply_strict_text (strict.registry.elementConversion rows number) s.heap
  have hlookup : strict.registry.lookup? number = _ := lookup?_strict
  have hany : number ≠ .any := nofun
  have hconvert := Registry.convert_of_lookup? (G := rows) (H := s.heap) (v := .text "abc") hany hlookup (Or.inr rfl)
  exact ⟨err, s.heap, outcome_of_run (run_tryChange_of_error s (hconvert.trans herr))⟩

end Binder

end ObjectGraph
