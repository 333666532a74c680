import ObjectGraph.Proofs.Class.Accessibility

/-!
What a class takes over from the classes above it.  Whether a method may be called is judged from the class of the
object, and the more classes and interfaces there are above it, the more methods may be called; so nothing that can be
read of a class is lost below it.  Where a class adds neither interfaces nor accessors of a property, the judgements
on the accessors of the property are those of its parent, and so is what is chosen among them.
-/

namespace ObjectGraph

namespace Method
variable {m : Method} {property : String}

/-- Whether a method is named like an accessor of a property, whatever its signature. -/
def IsNamedFor (m : Method) (property : String) : Prop := ∃ word ∈ ["get", "is", "set"], m.Named word property

instance : Decidable (m.IsNamedFor property) := inferInstanceAs (Decidable (∃ word ∈ _, _))

theorem IsAccessor.isNamedFor (h : m.IsAccessor property) : m.IsNamedFor property := by
  rcases h with h | h | h | h | h
  · exact ⟨"is", by simp, h.1⟩
  · exact ⟨"get", by simp, h.1⟩
  · exact ⟨"set", by simp, h.1⟩
  · exact ⟨"get", by simp, h.1⟩
  · exact ⟨"set", by simp, h.1⟩

end Method

namespace Descriptor
variable {ms : List Method} {property : String}

/-- There is a reader among methods if there is a question or a getter. -/
theorem isSome_read :
    (chosen ms property).read.isSome = true ↔ ∃ m ∈ ms, m.Accesses property .read := by
  simp only [chosen, reader?, Option.isSome_or, Bool.or_eq_true, List.find?_isSome, decide_eq_true_eq, ← exists_or,
    ← and_or_left, Method.Accesses]

theorem isSome_readElement :
    (chosen ms property).readElement.isSome = true ↔ ∃ m ∈ ms, m.Accesses property .readElement := by
  simp only [chosen, List.find?_isSome, decide_eq_true_eq, Method.Accesses]

/-- A search among the methods named for a property finds what a search among all finds, if it is for one of them. -/
theorem find?_filter_isNamedFor {fits : Method → Bool} (h : ∀ m, fits m = true → m.IsNamedFor property) :
    (ms.filter fun m => m.IsNamedFor property).find? fits = ms.find? fits := by
  rw [List.find?_filter]
  refine congrArg (List.find? · ms) (funext fun m => ?_)
  cases hfits : fits m with
  | false => simp
  | true => simpa using h m hfits

theorem writerFor_filter_isNamedFor {read : Option Method} {writes : Method → Bool} {place : Nat}
    (h : ∀ m, writes m = true → m.IsNamedFor property) :
    writerFor (ms.filter fun m => m.IsNamedFor property) read writes place = writerFor ms read writes place := by
  cases read with
  | none => exact find?_filter_isNamedFor h
  | some r => exact find?_filter_isNamedFor fun m hm => h m (Bool.and_eq_true _ _ ▸ hm).1

/-- Only the methods named for a property matter to what is chosen for it. -/
theorem chosen_filter_isNamedFor : chosen (ms.filter fun m => m.IsNamedFor property) property = chosen ms property := by
  have hreader : reader? property (ms.filter fun m => m.IsNamedFor property) = reader? property ms := by
    rw [reader?, find?_filter_isNamedFor, find?_filter_isNamedFor, reader?]
    · exact fun m hm => Method.IsAccessor.isNamedFor (.inr (.inl (of_decide_eq_true hm)))
    · exact fun m hm => Method.IsAccessor.isNamedFor (.inl (of_decide_eq_true hm))
  have helement : (ms.filter fun m => m.IsNamedFor property).find? (fun m => m.IsElementGetter property) =
      ms.find? fun m => m.IsElementGetter property :=
    find?_filter_isNamedFor fun m hm =>
      Method.IsAccessor.isNamedFor (.inr (.inr (.inr (.inl (of_decide_eq_true hm)))))
  rw [chosen, hreader, helement, writerFor_filter_isNamedFor, writerFor_filter_isNamedFor, chosen]
  · exact fun m hm => Method.IsAccessor.isNamedFor (.inr (.inr (.inr (.inr (of_decide_eq_true hm)))))
  · exact fun m hm => Method.IsAccessor.isNamedFor (.inr (.inr (.inl (of_decide_eq_true hm))))

end Descriptor

namespace ClassGraph
open Relation
variable {G : ClassGraph} {c p d : ClassId} {m m' : Method} {property : String}

/-- A property of a class is what is chosen for it among the methods of the class, if one of them is an accessor. -/
theorem descriptor?_eq_some {a : Descriptor} : G.descriptor? c property = some a ↔
    (∃ m ∈ G.inherited c, m.IsAccessor property) ∧ a = .chosen (G.inherited c) property := by
  obtain ⟨-, hnames, -, hfind⟩ := descriptors_spec G c
  rw [descriptor?, hfind, ← hnames]
  constructor
  · rintro ⟨ha, rfl⟩
    exact ⟨List.mem_map_of_mem ha, eq_chosen_of_mem ha⟩
  · rintro ⟨hmem, rfl⟩
    obtain ⟨b, hb, rfl⟩ := List.mem_map.mp hmem
    exact ⟨eq_chosen_of_mem hb ▸ hb, rfl⟩

/-! ### Classes above -/

theorem ancestors_of_extends (h : G.Extends c p) : G.ancestors c = c :: G.ancestors p := by
  rw [ancestors, parent?_eq_some_iff (p := ⟨p, h.lt⟩) |>.mpr h]

theorem mem_ancestors_trans (h : p ∈ G.ancestors c) (hd : d ∈ G.ancestors p) : d ∈ G.ancestors c :=
  mem_ancestors_iff.mpr ((mem_ancestors_iff.mp h).trans (mem_ancestors_iff.mp hd))

theorem interfaces_eq_nil (h : ∀ i, ¬ G.Implements c i) : G.interfaces c = [] :=
  List.eq_nil_iff_forall_not_mem.mpr fun i hi => h i.1 (mem_interfaces_iff.mp hi)

/-! ### More above, more to call -/

/-- What may be called on objects of a class may be called on objects of the classes below. -/
theorem accessible?_of_mem_ancestors (hp : p ∈ G.ancestors c) (h : G.accessible? p d m = some m') :
    G.accessible? c d m = some m' := by
  have hany (f : ClassId → Bool) : (G.ancestors p).any f = true → (G.ancestors c).any f = true := by
    simp only [List.any_eq_true]
    exact fun ⟨e, he, hf⟩ => ⟨e, mem_ancestors_trans hp he, hf⟩
  rw [accessible?_eq, Option.ite_none_right_eq_some, Bool.or_eq_true, Bool.or_eq_true] at h ⊢
  exact h.imp_left (Or.imp (Or.imp_right (hany _)) (hany _))

theorem inherited_of_mem_ancestors (hp : p ∈ G.ancestors c) (h : m ∈ G.inherited p) : m ∈ G.inherited c := by
  obtain ⟨d, hd, hm⟩ := List.mem_flatMap.mp h
  obtain ⟨n, hn, hallowed⟩ := List.mem_filterMap.mp hm
  rw [Option.ite_none_right_eq_some] at hallowed
  refine List.mem_flatMap.mpr ⟨d, mem_ancestors_trans hp hd, List.mem_filterMap.mpr ⟨n, hn, ?_⟩⟩
  rw [if_pos hallowed.1, accessible?_of_mem_ancestors hp hallowed.2]

/-! ### Nothing added -/

/-- A class without interfaces of its own that declares no method of a name judges methods of the name like its
parent. -/
theorem accessible?_of_extends (hp : G.Extends c p) (hi : ∀ i, ¬ G.Implements c i)
    (hm : ∀ n ∈ (G.get c).methods, n.name ≠ m.name) : G.accessible? c d m = G.accessible? p d m := by
  have hdeclared : (G.get c).declared? m.name m.params = none := by
    refine List.find?_eq_none.mpr fun n hn hsame => hm n hn ?_
    rw [Bool.and_eq_true, beq_iff_eq] at hsame
    exact hsame.1
  have hown : G.declaresPublicly c m = false := by
    rw [declaresPublicly, hdeclared, Option.any_none, Bool.and_false]
  rw [accessible?_eq, accessible?_eq, ancestors_of_extends hp, List.any_cons, List.any_cons, interfaces_eq_nil hi, hown,
    List.any_nil, Bool.false_or, Bool.and_false, Bool.false_or]

theorem isNamedFor_of_accessible? (h : G.accessible? c d m = some m') :
    m'.IsNamedFor property ↔ m.IsNamedFor property := by
  rw [accessible?_eq, Option.ite_none_right_eq_some] at h
  rw [← Option.some.inj h.2]
  exact Iff.rfl

/-- Such a class has the methods named for a property that its parent has. -/
theorem filter_inherited_of_extends (hp : G.Extends c p) (hi : ∀ i, ¬ G.Implements c i)
    (hm : ∀ m ∈ (G.get c).methods, ¬ m.IsNamedFor property) :
    (G.inherited c).filter (fun m => m.IsNamedFor property) =
      (G.inherited p).filter fun m => m.IsNamedFor property := by
  have hother {c d : ClassId} {m : Method} (h : ¬ m.IsNamedFor property) :
      (G.accessible? c d m).filter (fun m => m.IsNamedFor property) = none := by
    refine Option.filter_eq_none_iff.mpr fun m' hm' hnamed => h ?_
    exact (isNamedFor_of_accessible? hm').mp (of_decide_eq_true hnamed)
  have hsame (d : ClassId) (m : Method) : (G.accessible? c d m).filter (fun m => m.IsNamedFor property) =
      (G.accessible? p d m).filter fun m => m.IsNamedFor property := by
    by_cases h : m.IsNamedFor property
    · rw [accessible?_of_extends hp hi]
      rintro n hn hname
      refine hm n hn ?_
      unfold Method.IsNamedFor Method.Named at h ⊢
      rwa [hname]
    · rw [hother h, hother h]
  have hown : (G.get c).methods.reverse.filterMap (fun m =>
      (if m.hasBody then G.accessible? c c m else none).filter fun m => m.IsNamedFor property) = [] := by
    refine List.filterMap_eq_nil_iff.mpr fun m hmem => ?_
    split
    · exact hother (hm m (List.mem_reverse.mp hmem))
    · rfl
  rw [inherited, ancestors_of_extends hp, List.flatMap_cons, List.filter_append, List.filter_filterMap, hown,
    List.nil_append, inherited, List.filter_flatMap, List.filter_flatMap]
  refine congrArg (List.flatMap · _) (funext fun d => ?_)
  rw [List.filter_filterMap, List.filter_filterMap]
  refine congrArg (List.filterMap · _) (funext fun m => ?_)
  split
  · exact hsame d m
  · rfl

theorem descriptor?_of_extends (hp : G.Extends c p) (hi : ∀ i, ¬ G.Implements c i)
    (hm : ∀ m ∈ (G.get c).methods, ¬ m.IsNamedFor property) : G.descriptor? c property = G.descriptor? p property := by
  have hnamed : ∀ {c}, (∃ m ∈ G.inherited c, m.IsAccessor property) ↔
      ∃ m ∈ (G.inherited c).filter fun m => m.IsNamedFor property, m.IsAccessor property := by
    refine fun {c} => exists_congr fun m => ?_
    rw [List.mem_filter, decide_eq_true_eq, and_assoc]
    exact and_congr_right fun _ => ⟨fun h => ⟨h.isNamedFor, h⟩, And.right⟩
  refine Option.ext fun a => ?_
  rw [descriptor?_eq_some, descriptor?_eq_some, hnamed, hnamed, ← Descriptor.chosen_filter_isNamedFor,
    filter_inherited_of_extends hp hi hm, Descriptor.chosen_filter_isNamedFor]

/-! ### Properties below -/

/-- A class has an accessor in a role that any method fit for the role fills if one of its methods is fit. -/
theorem isSome_descriptor?_bind {accessor? : Descriptor → Option Method} {role : Role}
    (h : ∀ ms, (accessor? (.chosen ms property)).isSome = true ↔ ∃ m ∈ ms, m.Accesses property role) :
    ((G.descriptor? c property).bind accessor?).isSome = true ↔ ∃ m ∈ G.inherited c, m.Accesses property role := by
  rw [Option.isSome_bind, Option.any_eq_true]
  simp only [descriptor?_eq_some]
  constructor
  · rintro ⟨a, ⟨-, rfl⟩, hsome⟩
    exact (h _).mp hsome
  · rintro ⟨m, hm, haccesses⟩
    refine ⟨_, ⟨⟨m, hm, ?_⟩, rfl⟩, (h _).mpr ⟨m, hm, haccesses⟩⟩
    exact Method.isAccessor_iff.mpr ⟨role, Method.accessor?_eq_some_iff.mpr haccesses⟩

/-- What can be read of a class, whole or by index, can be read of each class below it.  A class without interfaces of
its own and without a method named for a property has the property exactly as its parent has it. -/
theorem inheritance_keeps_properties (G : ClassGraph) (c p : ClassId) (property : String) :
    (ReflTransGen G.Extends c p →
      (((G.descriptor? p property).bind Descriptor.read).isSome = true →
        ((G.descriptor? c property).bind Descriptor.read).isSome = true) ∧
      (((G.descriptor? p property).bind Descriptor.readElement).isSome = true →
        ((G.descriptor? c property).bind Descriptor.readElement).isSome = true)) ∧
    (G.Extends c p → (∀ i, ¬ G.Implements c i) → (∀ m ∈ (G.get c).methods, ¬ m.IsNamedFor property) →
      G.descriptor? c property = G.descriptor? p property) := by
  refine ⟨fun hp => ?_, descriptor?_of_extends⟩
  have hkept (role : Role) : (∃ m ∈ G.inherited p, m.Accesses property role) →
      ∃ m ∈ G.inherited c, m.Accesses property role := fun ⟨m, hm, haccesses⟩ =>
    ⟨m, inherited_of_mem_ancestors (mem_ancestors_iff.mpr hp) hm, haccesses⟩
  constructor
  · rw [isSome_descriptor?_bind fun _ => Descriptor.isSome_read,
      isSome_descriptor?_bind fun _ => Descriptor.isSome_read]
    exact hkept .read
  · rw [isSome_descriptor?_bind fun _ => Descriptor.isSome_readElement,
      isSome_descriptor?_bind fun _ => Descriptor.isSome_readElement]
    exact hkept .readElement

/-- A hidden class, whose name is read through the interface that it implements, and a class below it that adds a
salary. -/
def staff : ClassGraph :=
  let classes : List Class := [
    ⟨"Named", true, true, none, [], [⟨"getName", [], some .text, true, none⟩], false, false, [], false⟩,
    ⟨"Person", false, false, none, [0], [⟨"getName", [], some .text, false, some (.getField 1 "name" false)⟩],
      true, false, [], false⟩,
    ⟨"Employee", true, false, some 1, [], [⟨"getSalary", [], some .text, true, some (.getField 2 "salary" false)⟩],
      true, false, [], false⟩]
  classes.foldl (fun G c => (G.define? c).getD G) .empty

/-- The class below has the name as the hidden class has it, and it can be read. -/
theorem inheritance_keeps_properties_staff :
    ((staff.descriptor? 2 "name").bind Descriptor.read).isSome = true ∧
      staff.descriptor? 2 "name" = staff.descriptor? 1 "name" := by
  have hextends : staff.Extends 2 1 := by
    unfold Extends
    decide +kernel
  have hinterfaces : (staff.get 2).interfaces = [] := rfl
  have himplements (i : ClassId) : ¬ staff.Implements 2 i := by
    rw [Implements, hinterfaces]
    exact List.not_mem_nil
  have hkept := inheritance_keeps_properties staff 2 1 "name"
  exact ⟨(hkept.1 (.single hextends)).1 (by decide +kernel), hkept.2 hextends himplements (by decide +kernel)⟩

end ClassGraph

end ObjectGraph
