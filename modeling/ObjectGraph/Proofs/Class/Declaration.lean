import ObjectGraph.Class.Builder
import ObjectGraph.Proofs.Access.Single
import ObjectGraph.Proofs.Class.Inheritance
import ObjectGraph.Proofs.Class.Naming
import ObjectGraph.Proofs.Object.Outcome

/-!
What a class makes of a property that it declares with a getter and a setter.  Both are found under one name, which
is the declared one put through the naming of accessors and back, and reading and writing at that name calls them.
Methods of the class itself come before inherited ones; only an inherited question can stand before the getter.
-/

namespace ObjectGraph

namespace Method
variable {c : ClassId} {p field : String} {t : Ty} {fresh : Bool} {refusal : Option String}

theorem named_capitalize (word : String) {m : Method} (hp : p ≠ "") (h : m.name = word ++ capitalize p) :
    m.Named word (foundName p) :=
  ⟨capitalize p, h, capitalize_ne_empty hp, rfl⟩

/-- A getter is a question if it answers a primitive boolean, and a getter by its name otherwise. -/
theorem getter_reads (hp : p ≠ "") : (getter c p t field fresh).IsQuestion (foundName p) ∨
    (getter c p t field fresh).IsGetter (foundName p) ∧ ¬ (getter c p t field fresh).IsQuestion (foundName p) := by
  by_cases ht : t = .primitive .bool
  · subst ht
    exact .inl ⟨named_capitalize "is" hp rfl, rfl, rfl⟩
  · refine .inr ⟨⟨named_capitalize "get" hp (by rw [getter, if_neg ht]), rfl, nofun⟩, fun hquestion => ht ?_⟩
    exact Option.some.inj hquestion.2.2

theorem setter_writes (hp : p ≠ "") : (setter c p t field refusal).IsSetter (foundName p) :=
  ⟨named_capitalize "set" hp rfl, rfl, rfl⟩

end Method

namespace Path

theorem IsSimple.foundName {p : String} (h : IsSimple p) : IsSimple (foundName p) :=
  ⟨foundName_ne_empty h.1, not_isDelimiter_of_mem_foundName h.2⟩

end Path

namespace ClassGraph
variable {G : ClassGraph} {c d : ClassId} {p : String} {t : Ty} {getter setter m : Method} {fits : Method → Bool}

/-- Whether a public class declares a property with a getter and a setter.  Of its own methods only these are
accessors of what is found, and no other method above asks for it. -/
structure Declares (G : ClassGraph) (c : ClassId) (p : String) (t : Ty) (getter setter : Method) : Prop where
  isPublic : (G.get c).isPublic = true
  hasGetter : getter ∈ (G.get c).methods ∧ ∃ field fresh, getter = .getter c p t field fresh
  hasSetter : setter ∈ (G.get c).methods ∧ ∃ field refusal, setter = .setter c p t field refusal
  alone : ∀ m ∈ (G.get c).methods, m.IsAccessor (foundName p) → m = getter ∨ m = setter
  unasked : ∀ d ∈ G.ancestors c, ∀ m ∈ (G.get d).methods, m.IsQuestion (foundName p) → m = getter

/-! ### Own methods come first -/

theorem isAccessor_of_accessible? {property : String} {m' : Method} (h : G.accessible? c d m = some m') :
    m'.IsAccessor property ↔ m.IsAccessor property := by
  rw [Method.isAccessor_iff, Method.isAccessor_iff, accessor?_of_accessible? h]

theorem isQuestion_of_accessible? {property : String} {m' : Method} (h : G.accessible? c d m = some m') :
    m'.IsQuestion property ↔ m.IsQuestion property := by
  rw [accessible?_eq, Option.ite_none_right_eq_some] at h
  rw [← Option.some.inj h.2]
  exact Iff.rfl

theorem ancestors_eq_cons (G : ClassGraph) (c : ClassId) : ∃ ds, G.ancestors c = c :: ds := by
  rw [ancestors]
  split <;> exact ⟨_, rfl⟩

/-- The methods of a class itself that may be called on its objects, the one declared last first. -/
def own (G : ClassGraph) (c : ClassId) : List Method :=
  (G.get c).methods.reverse.filterMap fun m => if m.hasBody then G.accessible? c c m else none

theorem inherited_eq_own_append (G : ClassGraph) (c : ClassId) : ∃ rest, G.inherited c = G.own c ++ rest := by
  obtain ⟨ds, hds⟩ := G.ancestors_eq_cons c
  exact ⟨_, by rw [inherited, hds, List.flatMap_cons]; rfl⟩

theorem accessible?_of_isPublic (hc : (G.get d).isPublic = true) (hm : m.isPublic = true) :
    G.accessible? c d m = some m := by
  rw [accessible?, hm, hc]
  rfl

theorem mem_own (hc : (G.get c).isPublic = true) (hmem : m ∈ (G.get c).methods) (hm : m.isPublic = true)
    (hbody : m.hasBody = true) : m ∈ G.own c := by
  refine List.mem_filterMap.mpr ⟨m, List.mem_reverse.mpr hmem, ?_⟩
  rw [if_pos hbody, accessible?_of_isPublic hc hm]

theorem exists_of_mem_own (h : m ∈ G.own c) : ∃ n ∈ (G.get c).methods, G.accessible? c c n = some m := by
  obtain ⟨n, hn, hallowed⟩ := List.mem_filterMap.mp h
  rw [Option.ite_none_right_eq_some] at hallowed
  exact ⟨n, List.mem_reverse.mp hn, hallowed.2⟩

/-- A search that only one method of the class itself passes finds that method. -/
theorem find?_inherited (hm : m ∈ G.own c) (hfits : fits m = true) (honly : ∀ n ∈ G.own c, fits n = true → n = m) :
    (G.inherited c).find? fits = some m := by
  obtain ⟨rest, hrest⟩ := G.inherited_eq_own_append c
  have hsome : ((G.own c).find? fits).isSome = true := List.find?_isSome.mpr ⟨m, hm, hfits⟩
  obtain ⟨n, hn⟩ := Option.isSome_iff_exists.mp hsome
  rw [hrest, List.find?_append, hn, honly n (List.mem_of_find?_eq_some hn) (List.find?_some hn), Option.some_or]

/-! ### The property -/

namespace Declares

theorem getter_own (h : G.Declares c p t getter setter) : getter ∈ G.own c := by
  obtain ⟨hmem, field, fresh, rfl⟩ := h.hasGetter
  exact mem_own h.isPublic hmem rfl rfl

theorem setter_own (h : G.Declares c p t getter setter) : setter ∈ G.own c := by
  obtain ⟨hmem, field, refusal, rfl⟩ := h.hasSetter
  exact mem_own h.isPublic hmem rfl rfl

/-- The accessors among the methods of the class itself are the getter and the setter. -/
theorem eq_of_mem_own (h : G.Declares c p t getter setter) (hm : m ∈ G.own c) (haccessor : m.IsAccessor (foundName p)) :
    m = getter ∨ m = setter := by
  obtain ⟨n, hn, hallowed⟩ := exists_of_mem_own hm
  have hpublic (hbuilt : n.isPublic = true) : n = m :=
    Option.some.inj ((accessible?_of_isPublic h.isPublic hbuilt).symm.trans hallowed)
  rcases h.alone n hn ((isAccessor_of_accessible? hallowed).mp haccessor) with rfl | rfl
  · obtain ⟨-, field, fresh, rfl⟩ := h.hasGetter
    exact .inl (hpublic rfl).symm
  · obtain ⟨-, field, refusal, rfl⟩ := h.hasSetter
    exact .inr (hpublic rfl).symm

theorem returns_getter (h : G.Declares c p t getter setter) : getter.returns = some t := by
  obtain ⟨-, field, fresh, rfl⟩ := h.hasGetter
  rfl

theorem setter_takes (h : G.Declares c p t getter setter) : setter.params = [t] ∧ setter.returns = none := by
  obtain ⟨-, field, refusal, rfl⟩ := h.hasSetter
  exact ⟨rfl, rfl⟩

theorem not_isSetter_getter (h : G.Declares c p t getter setter) : ¬ getter.IsSetter (foundName p) := fun hsetter => by
  rw [Method.IsSetter, h.returns_getter] at hsetter
  cases hsetter.2.2

theorem not_isGetter_setter (h : G.Declares c p t getter setter) : ¬ setter.IsGetter (foundName p) :=
  fun hgetter => hgetter.2.2 h.setter_takes.2

/-- A question that is inherited under the name is the getter. -/
theorem eq_of_isQuestion (h : G.Declares c p t getter setter) (hm : m ∈ G.inherited c)
    (hquestion : m.IsQuestion (foundName p)) : m = getter := by
  obtain ⟨d, hd, hmem⟩ := List.mem_flatMap.mp hm
  obtain ⟨n, hn, hallowed⟩ := List.mem_filterMap.mp hmem
  rw [Option.ite_none_right_eq_some] at hallowed
  obtain ⟨-, hallowed⟩ := hallowed
  have hsame := h.unasked d hd n (List.mem_reverse.mp hn) ((isQuestion_of_accessible? hallowed).mp hquestion)
  subst hsame
  rw [accessible?_eq, Option.ite_none_right_eq_some] at hallowed
  obtain ⟨-, field, fresh, rfl⟩ := h.hasGetter
  exact (Option.some.inj hallowed.2).symm

theorem reader? (h : G.Declares c p t getter setter) (hp : p ≠ "") :
    Descriptor.reader? (foundName p) (G.inherited c) = some getter := by
  obtain ⟨rest, hrest⟩ := G.inherited_eq_own_append c
  have hinherited : getter ∈ G.inherited c := hrest ▸ List.mem_append_left _ h.getter_own
  obtain ⟨-, field, fresh, hgetter⟩ := h.hasGetter
  have hreads : (Method.getter c p t field fresh).IsQuestion (foundName p) ∨ _ := Method.getter_reads hp
  rw [← hgetter] at hreads
  rw [Descriptor.reader?]
  rcases hreads with hquestion | ⟨hreads, hnot⟩
  · have hsome : ((G.inherited c).find? fun m => m.IsQuestion (foundName p)).isSome = true :=
      List.find?_isSome.mpr ⟨getter, hinherited, decide_eq_true hquestion⟩
    obtain ⟨m, hm⟩ := Option.isSome_iff_exists.mp hsome
    have hasks := List.find?_some hm
    rw [decide_eq_true_eq] at hasks
    rw [hm, Option.some_or, h.eq_of_isQuestion (List.mem_of_find?_eq_some hm) hasks]
  · -- Nothing asks, since the getter would be the only one to do so.
    have hnone : (G.inherited c).find? (fun m => m.IsQuestion (foundName p)) = none := by
      refine List.find?_eq_none.mpr fun m hm hasks => hnot ?_
      have hasks := of_decide_eq_true hasks
      rwa [h.eq_of_isQuestion hm hasks] at hasks
    rw [hnone, Option.none_or]
    refine find?_inherited h.getter_own (decide_eq_true hreads) fun m hm hgets => ?_
    have hgets : m.IsGetter (foundName p) := of_decide_eq_true hgets
    rcases h.eq_of_mem_own hm (.inr (.inl hgets)) with rfl | rfl
    · rfl
    · exact absurd hgets h.not_isGetter_setter

theorem writerFor (h : G.Declares c p t getter setter) (hp : p ≠ "") :
    Descriptor.writerFor (G.inherited c) (some getter) (fun m => m.IsSetter (foundName p)) 0 = some setter := by
  have hwrites : setter.IsSetter (foundName p) := by
    obtain ⟨-, field, refusal, rfl⟩ := h.hasSetter
    exact Method.setter_writes hp
  refine find?_inherited h.setter_own ?_ fun m hm hfits => ?_
  · rw [Bool.and_eq_true, decide_eq_true_eq, beq_iff_eq, h.returns_getter, h.setter_takes.1]
    exact ⟨hwrites, rfl⟩
  · rw [Bool.and_eq_true, decide_eq_true_eq] at hfits
    rcases h.eq_of_mem_own hm (.inr (.inr (.inl hfits.1))) with rfl | rfl
    · exact absurd hfits.1 h.not_isSetter_getter
    · rfl

/-- The property is found with the getter and the setter. -/
theorem descriptor? (h : G.Declares c p t getter setter) (hp : p ≠ "") : ∃ a,
    G.descriptor? c (foundName p) = some a ∧ a.name = foundName p ∧ a.read = some getter ∧ a.write = some setter := by
  have hread := h.reader? hp
  refine ⟨.chosen (G.inherited c) (foundName p), descriptor?_eq_some.mpr ⟨?_, rfl⟩, rfl, hread, ?_⟩
  · obtain ⟨m, hm, hreads⟩ := Descriptor.isSome_read.mp (Option.isSome_of_eq_some hread)
    exact ⟨m, hm, Method.isAccessor_iff.mpr ⟨.read, Method.accessor?_eq_some_iff.mpr hreads⟩⟩
  · rw [Descriptor.chosen, hread]
    exact h.writerFor hp

end Declares

theorem descriptor?_eq_none (h : ∀ d ∈ G.ancestors c, ∀ m ∈ (G.get d).methods, ¬ m.IsAccessor p) :
    G.descriptor? c p = none := by
  refine Option.eq_none_iff_forall_not_mem.mpr fun a ha => ?_
  obtain ⟨⟨m, hm, haccessor⟩, -⟩ := descriptor?_eq_some.mp ha
  obtain ⟨d, hd, hmem⟩ := List.mem_flatMap.mp hm
  obtain ⟨n, hn, hallowed⟩ := List.mem_filterMap.mp hmem
  rw [Option.ite_none_right_eq_some] at hallowed
  exact h d hd n (List.mem_reverse.mp hn) ((isAccessor_of_accessible? hallowed.2).mp haccessor)

end ClassGraph

/-! ### Access -/

namespace Resolver
open ClassGraph
variable {G : ClassGraph} {s : State G} {o : Handle .object} {c : ClassId} {name p : String} {t : Ty}
  {m getter setter : Method}

/-- Reading at the name of a property has the outcome of a call of its getter. -/
theorem outcome_read_of_getter (r : Resolver) (hname : Path.IsSimple name) (hc : (s.heap.get o).cls = c)
    (hm : (G.descriptor? c name).bind Descriptor.read = some m) :
    Op.outcome (r.read (.object o) name) s = Op.outcome (call m o []) s := by
  obtain ⟨s₁, hheap, hread⟩ := run_readObject_of_read (r := r) hc hm
  rw [Op.outcome_of_run_eq ((run_read_of_isSimple hname (t := .object o) nofun).trans hread), (tame_call (o := o) []).outcome hheap]

/-- Writing at the name of a property has the outcome of a call of its setter. -/
theorem outcome_write_of_setter (r : Resolver) (v : Value) (hname : Path.IsSimple name) (hc : (s.heap.get o).cls = c)
    (hm : (G.descriptor? c name).bind Descriptor.write = some m) :
    Op.outcome (r.write (.object o) name v) s = Op.outcome (callWith m o name [] v) s := by
  obtain ⟨s₁, hheap, hwrite⟩ := run_writeObject_of_write (r := r) (v := v) hc hm
  rw [Op.outcome_of_run_eq ((run_write_of_isSimple hname (t := .object o) nofun).trans hwrite), (tame_callWith (o := o) []).outcome hheap]

/-- A property that a class declares with a getter and a setter is found, with both of them, and reading and writing
on an object of the class call them.  The name that it is found under is the declared one exactly if that survives
the naming of accessors; otherwise nothing is found under the declared one. -/
theorem declared_property_is_found (h : G.Declares c p t getter setter) (hp : Path.IsSimple p) :
    (∃ a, G.descriptor? c (foundName p) = some a ∧ a.name = foundName p ∧ a.read = some getter ∧
      a.write = some setter) ∧
    (foundName p = p ↔ KeepsName p) ∧
    ((∀ d ∈ G.ancestors c, ∀ m ∈ (G.get d).methods, ¬ m.IsAccessor p) → G.descriptor? c p = none) ∧
    ∀ (r : Resolver) (s : State G) (o : Handle .object), (s.heap.get o).cls = c →
      Op.outcome (r.read (.object o) (foundName p)) s = Op.outcome (call getter o []) s ∧
      ∀ v, Op.outcome (r.write (.object o) (foundName p) v) s =
        Op.outcome (callWith setter o (foundName p) [] v) s := by
  obtain ⟨a, ha, hname, hread, hwrite⟩ := h.descriptor? hp.1
  refine ⟨⟨a, ha, hname, hread, hwrite⟩, foundName_eq_iff p, descriptor?_eq_none, fun r s o hc => ⟨?_, fun v => ?_⟩⟩
  · exact outcome_read_of_getter r hp.foundName hc (by rw [ha, Option.bind_some, hread])
  · exact outcome_write_of_setter r v hp.foundName hc (by rw [ha, Option.bind_some, hwrite])

/-- A class that declares one property, in a field of the same name. -/
def declaring (p : String) (t : Ty) : ClassGraph :=
  (ClassGraph.empty.define? ⟨"Row", true, false, none, [], [.getter 0 p t p false, .setter 0 p t p none], true, false,
    [], false⟩).getD .empty

theorem declares_declaring (p : String) (t : Ty) :
    (declaring p t).Declares 0 p t (.getter 0 p t p false) (.setter 0 p t p none) := by
  have hmethods : ((declaring p t).get 0).methods = [.getter 0 p t p false, .setter 0 p t p none] := rfl
  have hancestors : (declaring p t).ancestors 0 = [0] := by
    rw [ancestors]
    rfl
  refine ⟨rfl, ⟨?_, p, false, rfl⟩, ⟨?_, p, none, rfl⟩, ?_, ?_⟩
  · rw [hmethods]
    exact List.mem_cons_self
  · rw [hmethods]
    exact List.mem_cons_of_mem _ List.mem_cons_self
  · rw [hmethods]
    intro m hm _
    simpa using hm
  · rw [hancestors]
    intro d hd m hm hquestion
    obtain rfl := List.mem_singleton.mp hd
    rw [hmethods, List.mem_cons, List.mem_singleton] at hm
    rcases hm with rfl | rfl
    · rfl
    · cases hquestion.2.2

/-- A class that declares a name below one that answers a question of that name. -/
def asked : ClassGraph :=
  let classes : List Class := [
    ⟨"Base", true, false, none, [], [.getter 0 "name" (.primitive .bool) "named" false], true, false, [], false⟩,
    ⟨"Row", true, false, some 0, [], [.getter 1 "name" .text "name" false, .setter 1 "name" .text "name" none], true,
      true, [], false⟩]
  classes.foldl (fun G c => (G.define? c).getD G) .empty

/-- A name of a small letter and a capital is not found, nor is one of a capital and a small letter; and below a class
that answers a question the setter is not found. -/
theorem declared_property_is_not_found :
    ((declaring "aB" .text).Declares 0 "aB" .text (.getter 0 "aB" .text "aB" false) (.setter 0 "aB" .text "aB" none) ∧
      Path.IsSimple "aB" ∧ (declaring "aB" .text).descriptor? 0 "aB" = none) ∧
    ((declaring "Name" .text).Declares 0 "Name" .text (.getter 0 "Name" .text "Name" false)
        (.setter 0 "Name" .text "Name" none) ∧
      Path.IsSimple "Name" ∧ (declaring "Name" .text).descriptor? 0 "Name" = none) ∧
    ((asked.get 1).methods = [.getter 1 "name" .text "name" false, .setter 1 "name" .text "name" none] ∧
      (asked.descriptor? 1 "name").map (fun a => a.write.isSome) = some false) := by
  refine ⟨⟨declares_declaring _ _, by decide +kernel, ?_⟩, ⟨declares_declaring _ _, by decide +kernel, ?_⟩, rfl, ?_⟩
  · exact Option.isNone_iff_eq_none.mp (by decide +kernel)
  · exact Option.isNone_iff_eq_none.mp (by decide +kernel)
  · decide +kernel

/-- A name of small letters is found, and so is one that begins with two capitals. -/
theorem declared_property_is_found_row :
    ((declaring "name" .text).Declares 0 "name" .text (.getter 0 "name" .text "name" false)
        (.setter 0 "name" .text "name" none) ∧ Path.IsSimple "name" ∧
      ((declaring "name" .text).descriptor? 0 "name").isSome = true) ∧
    foundName "URL" = "URL" := by
  have hdeclares := declares_declaring "name" .text
  have hsimple : Path.IsSimple "name" := by decide +kernel
  have hname : foundName "name" = "name" := by decide +kernel
  obtain ⟨⟨a, ha, -⟩, -⟩ := declared_property_is_found hdeclares hsimple
  rw [hname] at ha
  exact ⟨⟨hdeclares, hsimple, Option.isSome_of_eq_some ha⟩, by decide +kernel⟩

end Resolver

end ObjectGraph
