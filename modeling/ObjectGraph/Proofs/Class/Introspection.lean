import Mathlib.Data.List.Nodup
import ObjectGraph.Proofs.Class.Accessor

/-!
The properties of a class are those that its accessible methods are accessors of, each with the accessors
that a look at the most derived methods first would choose.  The methods are read from the farthest
ancestor down, so what has been read of a property is what the less derived methods say, and a more
derived method only has to be set against that.
-/

namespace ObjectGraph

/-- The methods with a body that may be called on objects of a class, most derived first: those of the class
before those of its ancestors, and of the methods of one class those declared last. -/
def ClassGraph.inherited (G : ClassGraph) (c : ClassId) : List Method :=
  (G.ancestors c).flatMap fun d =>
    (G.get d).methods.reverse.filterMap fun m => if m.hasBody then G.accessible? c d m else none

namespace Descriptor

/-- The first writer that takes at a place what a reader answers; without a reader the first writer. -/
def writerFor (ms : List Method) (read : Option Method) (writes : Method → Bool) (place : Nat) : Option Method :=
  match read with
  | some r => ms.find? fun m => writes m && m.params[place]? == r.returns
  | none => ms.find? writes

/-- The reader of a property: the first question if there is one, else the first getter. -/
def reader? (property : String) (ms : List Method) : Option Method :=
  (ms.find? fun m => m.IsQuestion property).or (ms.find? fun m => m.IsGetter property)

/-- The accessors of a property that are chosen among methods. -/
def chosen (ms : List Method) (property : String) : Descriptor :=
  let readElement := ms.find? fun m => m.IsElementGetter property
  { name := property
    read := reader? property ms
    write := writerFor ms (reader? property ms) (fun m => m.IsSetter property) 0
    readElement := readElement
    writeElement := writerFor ms readElement (fun m => m.IsElementSetter property) 1 }

end Descriptor

namespace Draft
open Descriptor (reader? writerFor chosen)
variable {ms : List Method} {m : Method} {property : String} {d e : Draft} {ds : List Draft} {role : Role}

/-- Drafts with a method added to that of its property. -/
def take (m : Method) (ds : List Draft) : List Draft :=
  match m.accessor? with
  | some (property, role) => record property role m ds
  | none => ds

/-- The draft of a property with a method added, if it is an accessor of the property. -/
def absorb (property : String) (m : Method) (d : Draft) : Draft :=
  match m.accessor? with
  | some (other, role) => if other = property then d.add m role else d
  | none => d

/-- The draft of a property, of methods with the most derived one first. -/
def ofMethods (property : String) (ms : List Method) : Draft := ms.foldr (absorb property) (blank property)

/-! ### The draft of one property -/

@[simp] theorem name_add : (d.add m role).name = d.name := by
  cases role with
  | read =>
    rw [add]
    split <;> rfl
  | _ => rfl

@[simp] theorem ofMethods_nil : ofMethods property [] = blank property := rfl

@[simp] theorem ofMethods_cons : ofMethods property (m :: ms) = absorb property m (ofMethods property ms) := rfl

theorem absorb_of_accessor? (h : m.accessor? = some (property, role)) : absorb property m d = d.add m role := by
  simp [absorb, h]

theorem absorb_of_not_isAccessor (h : ¬ m.IsAccessor property) : absorb property m d = d := by
  unfold absorb
  split
  · rename_i other role hm
    rw [if_neg]
    rintro rfl
    exact h (Method.isAccessor_iff.mpr ⟨role, hm⟩)
  · rfl

theorem ofMethods_of_not_isAccessor (h : ∀ m ∈ ms, ¬ m.IsAccessor property) : ofMethods property ms = blank property := by
  induction ms with
  | nil => rfl
  | cons m ms ih =>
    rw [List.forall_mem_cons] at h
    rw [ofMethods_cons, absorb_of_not_isAccessor h.1, ih h.2]

theorem reader?_cons_of_not_accesses (h : ¬ m.Accesses property .read) :
    reader? property (m :: ms) = reader? property ms := by
  obtain ⟨hq, hg⟩ := not_or.mp h
  simp [reader?, hq, hg]

theorem reader?_cons_of_isQuestion (h : m.IsQuestion property) : reader? property (m :: ms) = some m := by
  simp [reader?, h]

/-- A getter is not read where there is a question, however derived. -/
theorem reader?_cons_of_isGetter (h : m.IsGetter property) :
    reader? property (m :: ms) =
      if (reader? property ms).any isQuestion then reader? property ms else some m := by
  have hm : ¬ m.IsQuestion property := fun hq => by simpa [hq.afterWord?] using h.afterWord?
  unfold reader?
  rw [List.find?_cons_of_neg (by simpa using hm), List.find?_cons_of_pos (by simpa using h)]
  cases hq : ms.find? fun m => m.IsQuestion property with
  | some q =>
    have hread : q.IsQuestion property := by simpa using List.find?_some hq
    have : isQuestion q = true := hread.afterWord?
    simp [this]
  | none =>
    cases hg : ms.find? fun m => m.IsGetter property with
    | some g =>
      have hread : g.IsGetter property := by simpa using List.find?_some hg
      have : isQuestion g = false := hread.afterWord?
      simp [this]
    | none => rfl

theorem read_add_of_accesses (h : m.Accesses property .read) (hd : d.read = reader? property ms) :
    d.add m .read = { d with read := reader? property (m :: ms) } := by
  rcases h with h | h
  · have : isQuestion m = true := h.afterWord?
    simp [add, this, reader?_cons_of_isQuestion h]
  · have : isQuestion m = false := h.afterWord?
    rw [reader?_cons_of_isGetter h, ← hd]
    simp only [add, this, Bool.not_false, Bool.and_true]
    split <;> rfl

/-- What has been read of a property: the reader, and all writers with the most derived one last. -/
theorem ofMethods_eq : ofMethods property ms =
    { name := property
      read := reader? property ms
      writes := (ms.filter fun m => m.IsSetter property).reverse
      readElement := ms.find? fun m => m.IsElementGetter property
      writeElements := (ms.filter fun m => m.IsElementSetter property).reverse } := by
  induction ms with
  | nil => rfl
  | cons m ms ih =>
    rw [ofMethods_cons]
    by_cases hm : m.IsAccessor property
    · -- The method is an accessor in one role only, so it changes one part of the draft.
      obtain ⟨role, hrole⟩ := Method.isAccessor_iff.mp hm
      have hiff {r : Role} : m.Accesses property r ↔ role = r := by
        rw [← Method.accessor?_eq_some_iff, hrole, Option.some_inj, Prod.mk.injEq, and_iff_right rfl]
      have hsetter : m.IsSetter property ↔ role = .write := hiff (r := .write)
      have hgetter : m.IsElementGetter property ↔ role = .readElement := hiff (r := .readElement)
      have helement : m.IsElementSetter property ↔ role = .writeElement := hiff (r := .writeElement)
      rw [absorb_of_accessor? hrole]
      cases role with
      | read =>
        rw [read_add_of_accesses (hiff.mpr rfl) (congrArg Draft.read ih), ih]
        simp [hsetter, hgetter, helement]
      | _ =>
        rw [ih, reader?_cons_of_not_accesses (by simp [hiff])]
        simp [add, hsetter, hgetter, helement]
    · rw [absorb_of_not_isAccessor hm, ih]
      simp only [Method.IsAccessor, not_or] at hm
      rw [reader?_cons_of_not_accesses (not_or.mpr ⟨hm.1, hm.2.1⟩)]
      simp [hm]

/-! ### The accessors that are chosen -/

/-- The last writer that agrees with a reader is the first one of the most derived. -/
theorem pickWrite?_eq {read : Option Method} {writes : Method → Bool} {place : Nat}
    (h : ∀ r ∈ read, r.returns ≠ none) :
    pickWrite? (read.bind Method.returns) (ms.filter writes).reverse place = writerFor ms read writes place := by
  cases read with
  | none => simp [pickWrite?, writerFor]
  | some r =>
    obtain ⟨t, ht⟩ := Option.ne_none_iff_exists'.mp (h r rfl)
    simp only [pickWrite?, writerFor, Option.bind_some, ht, List.reverse_reverse, List.find?_filter, Bool.decide_and,
      Bool.decide_eq_true]

theorem returns_of_reader? {r : Method} (h : reader? property ms = some r) : r.returns ≠ none := by
  rcases Option.or_eq_some_iff.mp h with hq | ⟨-, hg⟩
  · have hread : r.IsQuestion property := by simpa using List.find?_some hq
    simp [hread.2.2]
  · have hread : r.IsGetter property := by simpa using List.find?_some hg
    exact hread.2.2

theorem finish_ofMethods : (ofMethods property ms).finish = chosen ms property := by
  have hread : ∀ r ∈ reader? property ms, r.returns ≠ none := fun r => returns_of_reader?
  have helement : ∀ r ∈ ms.find? (fun m => m.IsElementGetter property), r.returns ≠ none := fun r hr => by
    have : r.IsElementGetter property := by simpa using List.find?_some hr
    exact this.2.2
  rw [ofMethods_eq, finish, pickWrite?_eq hread, pickWrite?_eq helement]
  rfl

/-! ### The drafts of all properties -/

/-- Whether drafts are those of the properties that methods are accessors of, one for each. -/
structure Collects (ms : List Method) (ds : List Draft) : Prop where
  nodup : (ds.map Draft.name).Nodup
  names : ∀ property, property ∈ ds.map Draft.name ↔ ∃ m ∈ ms, m.IsAccessor property
  drafts : ∀ d ∈ ds, d = ofMethods d.name ms

theorem names_record : (record property role m ds).map Draft.name =
    if property ∈ ds.map Draft.name then ds.map Draft.name else ds.map Draft.name ++ [property] := by
  induction ds with
  | nil => simp [record, blank]
  | cons d ds ih =>
    rw [record]
    by_cases hd : d.name = property
    · simp [hd]
    · rw [if_neg hd, List.map_cons, ih]
      have hne : property ≠ d.name := fun h => hd h.symm
      by_cases hmem : property ∈ ds.map Draft.name
      · simp [hmem]
      · simp [hmem, hne]

/-- The drafts after a method has been added: that of its property, and the others as they were. -/
theorem mem_record (hnodup : (ds.map Draft.name).Nodup) (h : d ∈ record property role m ds) :
    d ∈ ds ∧ d.name ≠ property ∨ (∃ e ∈ ds, e.name = property ∧ d = e.add m role) ∨
      property ∉ ds.map Draft.name ∧ d = (blank property).add m role := by
  induction ds with
  | nil => exact Or.inr (Or.inr ⟨List.not_mem_nil, List.mem_singleton.mp h⟩)
  | cons e ds ih =>
    rw [List.map_cons, List.nodup_cons] at hnodup
    rw [record] at h
    by_cases he : e.name = property
    · rw [if_pos he, List.mem_cons] at h
      rcases h with rfl | hd
      · exact Or.inr (Or.inl ⟨e, List.mem_cons_self, he, rfl⟩)
      · refine Or.inl ⟨List.mem_cons_of_mem e hd, fun hname => hnodup.1 ?_⟩
        rw [he, ← hname]
        exact List.mem_map_of_mem hd
    · rw [if_neg he, List.mem_cons] at h
      rcases h with rfl | hd
      · exact Or.inl ⟨List.mem_cons_self, he⟩
      · rcases ih hnodup.2 hd with ⟨hd, hname⟩ | ⟨e', he', hname, rfl⟩ | ⟨hnot, rfl⟩
        · exact Or.inl ⟨List.mem_cons_of_mem e hd, hname⟩
        · exact Or.inr (Or.inl ⟨e', List.mem_cons_of_mem e he', hname, rfl⟩)
        · refine Or.inr (Or.inr ⟨?_, rfl⟩)
          rw [List.map_cons, List.mem_cons, not_or]
          exact ⟨fun h => he h.symm, hnot⟩

theorem Collects.record (h : Collects ms ds) (hm : m.accessor? = some (property, role)) :
    Collects (m :: ms) (Draft.record property role m ds) where
  nodup := by
    rw [names_record]
    split
    · exact h.nodup
    · rename_i hnot
      exact List.nodup_append.mpr ⟨h.nodup, by simp, fun a ha b hb => by
        rw [List.mem_singleton.mp hb]
        rintro rfl
        exact hnot ha⟩
  names := fun other => by
    have hself : m.IsAccessor other ↔ other = property := by
      rw [Method.isAccessor_iff, hm]
      simp [eq_comm]
    simp only [names_record, List.mem_cons, exists_eq_or_imp, hself, ← h.names]
    split
    · rename_i hmem
      exact ⟨Or.inr, fun h => h.elim (fun h => h ▸ hmem) id⟩
    · rw [List.mem_append, List.mem_singleton, or_comm]
  drafts := fun d hd => by
    rcases mem_record h.nodup hd with ⟨hd, hname⟩ | ⟨e, he, hname, rfl⟩ | ⟨hnot, rfl⟩
    · have hother : ¬ m.IsAccessor d.name := by
        rw [Method.isAccessor_iff, hm]
        simpa [eq_comm] using hname
      rw [ofMethods_cons, absorb_of_not_isAccessor hother]
      exact h.drafts d hd
    · rw [name_add, hname, ofMethods_cons, absorb_of_accessor? hm, ← hname, ← h.drafts e he]
    · have hnone : ∀ m ∈ ms, ¬ m.IsAccessor property := fun m hm h' => hnot ((h.names property).mpr ⟨m, hm, h'⟩)
      rw [name_add, ofMethods_cons]
      show _ = absorb property m _
      rw [absorb_of_accessor? hm]
      exact congrArg (add · m role) (ofMethods_of_not_isAccessor hnone).symm

theorem Collects.cons_of_none (h : Collects ms ds) (hm : m.accessor? = none) : Collects (m :: ms) ds := by
  have hnot (property : String) : ¬ m.IsAccessor property := by simp [Method.isAccessor_iff, hm]
  refine ⟨h.nodup, fun property => ?_, fun d hd => ?_⟩
  · simp only [h.names, List.mem_cons, exists_eq_or_imp, hnot, false_or]
  · rw [ofMethods_cons, absorb_of_not_isAccessor (hnot d.name)]
    exact h.drafts d hd

/-- Reading methods, the most derived one last, collects the drafts of all their properties. -/
theorem collects_foldr (ms : List Method) : Collects ms (ms.foldr take []) := by
  induction ms with
  | nil => exact ⟨List.nodup_nil, fun _ => by simp, fun d hd => absurd hd List.not_mem_nil⟩
  | cons m ms ih =>
    rw [List.foldr_cons, take]
    split
    · exact ih.record ‹_›
    · exact ih.cons_of_none ‹_›

end Draft

/-- Among properties of different names, the one of a name is the one that is found by it. -/
theorem findDescriptor?_eq_some {ds : List Descriptor} (h : (ds.map Descriptor.name).Nodup) {property : String}
    {d : Descriptor} : findDescriptor? ds property = some d ↔ d ∈ ds ∧ d.name = property := by
  unfold findDescriptor?
  constructor
  · intro hd
    exact ⟨List.mem_of_find?_eq_some hd, by simpa using List.find?_some hd⟩
  · rintro ⟨hd, rfl⟩
    have hfound : (ds.find? fun e => e.name == d.name).isSome := by
      rw [List.find?_isSome]
      exact ⟨d, hd, beq_self_eq_true d.name⟩
    obtain ⟨e, he⟩ := Option.isSome_iff_exists.mp hfound
    have hname : e.name = d.name := by simpa using List.find?_some he
    rw [he, List.inj_on_of_nodup_map h (List.mem_of_find?_eq_some he) hd hname]

namespace ClassGraph
variable {G : ClassGraph} {c d : ClassId} {m m' : Method}

/-- A method as it may be called has the name and the signature of the declared one. -/
theorem accessor?_of_accessible? (h : G.accessible? c d m = some m') : m'.accessor? = m.accessor? := by
  simp only [accessible?] at h
  split at h
  · cases h
    rfl
  · split at h <;> cases h
    rfl

/-- The accessors of a class are those among its methods, read with the most derived ones last. -/
theorem accessors_eq (G : ClassGraph) (c : ClassId) : G.accessors c =
    (G.inherited c).reverse.filterMap fun m => m.accessor?.map fun a => (a.1, a.2, m) := by
  unfold accessors inherited
  rw [List.reverse_flatMap, List.filterMap_flatMap]
  refine congrArg (List.flatMap · _) (funext fun d => ?_)
  rw [Function.comp_apply, ← List.filterMap_reverse, List.reverse_reverse, List.filterMap_filterMap]
  refine congrArg (List.filterMap · _) (funext fun m => ?_)
  cases m.hasBody with
  | false => rfl
  | true =>
    cases ha : G.accessible? c d m with
    | none => simp
    | some m' =>
      rw [if_pos rfl, if_pos rfl, Option.bind_some, accessor?_of_accessible? ha]
      cases m.accessor? <;> rfl

theorem descriptors_eq (G : ClassGraph) (c : ClassId) :
    G.descriptors c = ((G.inherited c).foldr Draft.take []).map Draft.finish := by
  rw [descriptors, accessors_eq, List.foldl_filterMap, List.foldl_reverse]
  congr 1
  refine congrArg (List.foldr · [] _) (funext fun m => funext fun ds => ?_)
  rw [Draft.take]
  cases m.accessor? <;> rfl

theorem nodup_descriptors (G : ClassGraph) (c : ClassId) : ((G.descriptors c).map Descriptor.name).Nodup := by
  rw [descriptors_eq, List.map_map]
  exact (Draft.collects_foldr (G.inherited c)).nodup

/-- No property is without a name. -/
theorem findDescriptor?_empty (G : ClassGraph) (c : ClassId) : findDescriptor? (G.descriptors c) "" = none := by
  refine List.find?_eq_none.mpr fun d hd hname => ?_
  rw [descriptors_eq] at hd
  obtain ⟨e, he, rfl⟩ := List.mem_map.mp hd
  have hempty : e.name = "" := beq_iff_eq.mp hname
  obtain ⟨m, -, haccessor⟩ := ((Draft.collects_foldr (G.inherited c)).names "").mp (List.mem_map.mpr ⟨e, he, hempty⟩)
  exact Method.not_isAccessor_empty haccessor

/-- The properties of a class are those that its methods are accessors of, each once and with the accessors
that are chosen among them, and each is found by its name. -/
theorem descriptors_spec (G : ClassGraph) (c : ClassId) :
    ((G.descriptors c).map Descriptor.name).Nodup ∧
    (∀ property, property ∈ (G.descriptors c).map Descriptor.name ↔ ∃ m ∈ G.inherited c, m.IsAccessor property) ∧
    (∀ d ∈ G.descriptors c, d = .chosen (G.inherited c) d.name) ∧
    ∀ property d, findDescriptor? (G.descriptors c) property = some d ↔ d ∈ G.descriptors c ∧ d.name = property := by
  have hcollects := Draft.collects_foldr (G.inherited c)
  have hnames : (G.descriptors c).map Descriptor.name = ((G.inherited c).foldr Draft.take []).map Draft.name := by
    rw [descriptors_eq, List.map_map]
    rfl
  have hnodup : ((G.descriptors c).map Descriptor.name).Nodup := hnames ▸ hcollects.nodup
  refine ⟨hnodup, fun property => ?_, fun d hd => ?_, fun property d => ?_⟩
  · rw [hnames, hcollects.names]
  · rw [descriptors_eq] at hd
    obtain ⟨e, he, rfl⟩ := List.mem_map.mp hd
    have hdraft := congrArg Draft.finish (hcollects.drafts e he)
    rw [Draft.finish_ofMethods] at hdraft
    exact hdraft
  · exact findDescriptor?_eq_some hnodup

end ClassGraph

end ObjectGraph
