import ObjectGraph.Access.Question
import ObjectGraph.Proofs.Class.Accessibility

/-!
Which accessors a keyed property has.  The methods that may be called on the objects of a class are written out as two
lists, those of the chain of classes and those of the interfaces along it, and each accessor is the first method of its
name and parameters in the first list, or else in the second.  The keyed property is made of these two accessors.
-/

namespace ObjectGraph

namespace ClassGraph
variable {G : ClassGraph} {c d i : ClassId} {m m' : Method} {name property : String} {fits : Method → Bool}

/-- The methods with a body that may be called on objects of a class, in the order in which the class and then each of
its ancestors declares them. -/
def chainMethods (G : ClassGraph) (c : ClassId) : List Method :=
  (G.ancestors c).flatMap fun d => ((G.get d).methods.filter Method.hasBody).filterMap (G.accessible? c d)

/-- The public methods with a body that an interface declares if it is public, and then those that the interfaces it
extends offer, each with what is above it. -/
def interfaceMethods (G : ClassGraph) (i : ClassId) : List Method :=
  (if (G.get i).isPublic then (G.get i).methods.filter fun m => m.isPublic && m.hasBody else []) ++
    (G.interfaces i).flatMap fun j => interfaceMethods G j.1
termination_by i
decreasing_by exact j.2

/-- The public methods with a body of the interfaces along the chain of a class. -/
def offeredMethods (G : ClassGraph) (c : ClassId) : List Method :=
  (G.ancestors c).flatMap fun d => (G.interfaces d).flatMap fun i => G.interfaceMethods i.1

/-- The first method of a kind that classes have, or else that interfaces offer. -/
def firstMethod? (G : ClassGraph) (c : ClassId) (kind : Method → Bool) : Option Method :=
  ((G.chainMethods c).find? kind).or ((G.offeredMethods c).find? kind)

/-- The getter of a keyed property: the first method named for it that takes one text, if it answers something. -/
def keyedGetter? (G : ClassGraph) (c : ClassId) (property : String) : Option Method :=
  (G.firstMethod? c fun m => m.name = "get" ++ capitalize property ∧ m.params = [.text]).filter fun m =>
    m.returns.isSome

/-- The setter of a keyed property: the first method named for it that takes a text and something else, if it answers
nothing. -/
def keyedSetter? (G : ClassGraph) (c : ClassId) (property : String) : Option Method :=
  (G.firstMethod? c fun m => m.name = "set" ++ capitalize property ∧ m.params.length = 2 ∧
    m.params[0]? = some .text).filter fun m => m.returns.isNone

/-! ### Searches -/

/-- A search of one class finds the first of the methods that it has for callers. -/
theorem findSome?_accessible? (hfits : ∀ m : Method, fits m.exposed = fits m) :
    (((G.get d).methods.filter fun m => m.name == name && m.hasBody && fits m).findSome? fun m => G.accessible? c d m) =
      (((G.get d).methods.filter Method.hasBody).filterMap (G.accessible? c d)).find? fun m =>
        m.name == name && fits m := by
  rw [← List.head?_filterMap, ← List.head?_filter, List.filter_filterMap, List.filterMap_filter, List.filterMap_filter]
  refine congrArg (fun f => (List.filterMap f _).head?) (funext fun m => ?_)
  have hallowed : ∀ m' ∈ G.accessible? c d m, (m'.name == name && fits m') = (m.name == name && fits m) := by
    intro m' h
    rw [accessible?_eq, Option.mem_def, Option.ite_none_right_eq_some] at h
    rw [← Option.some.inj h.2, hfits]
    rfl
  cases m.hasBody with
  | false => simp
  | true =>
    cases h : G.accessible? c d m with
    | none => simp
    | some m' => simp [Option.filter, hallowed m' h]

theorem findInInterface?_eq : G.findInInterface? name fits i =
    (G.interfaceMethods i).find? fun m => m.name == name && fits m := by
  induction i using Nat.strongRecOn with
  | _ i ih =>
    have hown : (if (G.get i).isPublic then
        (G.get i).methods.find? fun m => m.name == name && m.isPublic && m.hasBody && fits m else none) =
        (if (G.get i).isPublic then (G.get i).methods.filter fun m => m.isPublic && m.hasBody else []).find?
          fun m => m.name == name && fits m := by
      split
      · rw [List.find?_filter]
        refine congrArg (List.find? · _) (funext fun m => ?_)
        cases m.name == name <;> simp
      · rfl
    have hrest : ((G.interfaces i).findSome? fun j => G.findInInterface? name fits j.1) =
        (G.interfaces i).findSome? fun j => (G.interfaceMethods j.1).find? fun m => m.name == name && fits m :=
      congrArg (List.findSome? · _) (funext fun j => ih j.1 j.2)
    rw [findInInterface?, interfaceMethods, List.find?_append, List.find?_flatMap, Option.orElse_eq_orElse,
      Option.orElse_eq_or, hown, hrest]

/-- A search along the chain of a class finds the first method of a name. -/
theorem findMethod?_eq (hfits : ∀ m : Method, fits m.exposed = fits m) :
    G.findMethod? c name fits = G.firstMethod? c fun m => m.name == name && fits m := by
  simp only [findMethod?, firstMethod?, chainMethods, offeredMethods, List.find?_flatMap, findSome?_accessible? hfits,
    findInInterface?_eq, Option.orElse_eq_orElse, Option.orElse_eq_or]

/-- A search for a method by its parameters finds the first one that has them. -/
theorem method?_eq {arity : Nat} {leading : Option (List Ty)} {kind : Method → Bool}
    (hkind : ∀ m, kind m = (m.name == name && (m.arity == arity && leading.all fun ts => ts.isPrefixOf m.params))) :
    G.method? c name arity leading = G.firstMethod? c kind := by
  rw [method?, findMethod?_eq fun _ => rfl, funext hkind]

theorem answer_readQuery : G.answer (KeyedDescriptor.readQuery c property) =
    G.firstMethod? c fun m => m.name = "get" ++ capitalize property ∧ m.params = [.text] := by
  refine method?_eq fun m => ?_
  obtain ⟨name, params, returns, isPublic, body⟩ := m
  rcases params with _ | ⟨t, _ | ⟨u, rest⟩⟩ <;>
    simp [Method.arity, KeyedDescriptor.readQuery, List.isPrefixOf, Bool.beq_eq_decide_eq, eq_comm]

theorem answer_writeQuery : G.answer (KeyedDescriptor.writeQuery c property) =
    G.firstMethod? c fun m => m.name = "set" ++ capitalize property ∧ m.params.length = 2 ∧
      m.params[0]? = some .text := by
  refine method?_eq fun m => ?_
  obtain ⟨name, params, returns, isPublic, body⟩ := m
  rcases params with _ | ⟨t, _ | ⟨u, _ | ⟨v, rest⟩⟩⟩ <;>
    simp [Method.arity, KeyedDescriptor.writeQuery, List.isPrefixOf, Bool.beq_eq_decide_eq, eq_comm]

theorem of_firstMethod? {kind : Method → Bool} (h : G.firstMethod? c kind = some m) : kind m = true := by
  obtain h | ⟨-, h⟩ := Option.or_eq_some_iff.mp h <;> exact List.find?_some h

end ClassGraph

/-- What a getter and a setter of a keyed property make: nothing if both are absent, a mismatch if both are there and
do not agree on the type of the values, and the property with both and the type that they agree on otherwise. -/
structure KeyedDescriptor.MadeOf (G : ClassGraph) (c : ClassId) (property : String) (read write : Option Method)
    (found : Except Error (Option KeyedDescriptor)) : Prop where
  absent : found = .ok none ↔ read = none ∧ write = none
  mismatch : ∀ e, found = .error e ↔ ∃ g w t u, read = some g ∧ write = some w ∧ g.returns = some t ∧
    w.params[1]? = some u ∧ t ≠ u ∧ e = .descriptorMismatch (G.nameOf c) property (G.typeName t) (G.typeName u)
  present : ∀ k, found = .ok (some k) ↔ (read ≠ none ∨ write ≠ none) ∧ k.name = property ∧ k.read = read ∧
    k.write = write ∧ (∀ g ∈ read, g.returns = some k.valueTy) ∧ ∀ w ∈ write, w.params[1]? = some k.valueTy

namespace KeyedDescriptor
variable {G : ClassGraph} {c : ClassId} {property : String} {read write : Option Method}

theorem mk_eq_iff {name : String} {t : Ty} {k : KeyedDescriptor} : ⟨name, t, read, write⟩ = k ↔
    k.name = name ∧ k.read = read ∧ k.write = write ∧ t = k.valueTy := by
  constructor
  · rintro rfl
    exact ⟨rfl, rfl, rfl, rfl⟩
  · rintro ⟨rfl, rfl, rfl, rfl⟩
    rfl

theorem madeOf_ofMethods (hwrite : ∀ w ∈ write, w.params.length = 2) :
    MadeOf G c property (read.filter fun m => m.returns.isSome) (write.filter fun m => m.returns.isNone)
      (ofMethods G c property read write) := by
  have hreads : ∀ g ∈ read.filter fun m => m.returns.isSome, ∃ t, g.returns = some t := fun g hg =>
    Option.isSome_iff_exists.mp (Option.filter_eq_some_iff.mp hg).2
  have hwrites : ∀ w ∈ write.filter fun m => m.returns.isNone, ∃ u, w.params[1]? = some u := fun w hw => by
    have hlength := hwrite w (Option.filter_eq_some_iff.mp hw).1
    exact ⟨_, List.getElem?_eq_getElem (by omega)⟩
  unfold ofMethods
  -- What is kept of the two is all that matters.
  generalize read.filter (fun m => m.returns.isSome) = read at hreads
  generalize write.filter (fun m => m.returns.isNone) = write at hwrites
  cases read with
  | none =>
    cases write with
    | none => exact ⟨by simp, by simp, by simp⟩
    | some w =>
      obtain ⟨u, hu⟩ := hwrites w rfl
      exact ⟨by simp, by simp, fun k => by simp [hu, mk_eq_iff]⟩
  | some g =>
    obtain ⟨t, ht⟩ := hreads g rfl
    cases write with
    | none => exact ⟨by simp, by simp, fun k => by simp [ht, mk_eq_iff]⟩
    | some w =>
      obtain ⟨u, hu⟩ := hwrites w rfl
      by_cases htu : t = u
      · subst htu
        exact ⟨by simp [ht, hu], by simp [ht, hu], fun k => by simp [ht, hu, mk_eq_iff]⟩
      · refine ⟨by simp [ht, hu, htu], fun e => by simp [ht, hu, htu, eq_comm], fun k => ?_⟩
        simp only [Option.bind_some, ht, hu, Option.some_inj, if_neg htu, reduceCtorEq, false_iff]
        rintro ⟨-, -, -, -, hread, hwrite⟩
        exact htu (Option.some.inj ((ht.symm.trans (hread g rfl)).trans ((hwrite w rfl).symm.trans hu)))

end KeyedDescriptor

namespace ClassGraph
variable {G : ClassGraph} {c : ClassId} {property : String}

theorem madeOf_keyed? (hproperty : property ≠ "") :
    KeyedDescriptor.MadeOf G c property (G.keyedGetter? c property) (G.keyedSetter? c property)
      (G.keyed? c property) := by
  rw [keyed?, if_neg (by simpa using hproperty), answer_readQuery, answer_writeQuery]
  exact KeyedDescriptor.madeOf_ofMethods fun w hw => (of_decide_eq_true (of_firstMethod? hw)).2.1

end ClassGraph

namespace Resolver
open ClassGraph

/-- A resolver, whatever its cache holds, answers what the getter and the setter that come first in the reference
lists make, asked for a class as asked for an object of the class. -/
theorem keyed_accessors_discovered (G : ClassGraph) (c : ClassId) (property : String) (hproperty : property ≠ "") :
    ∃ found, KeyedDescriptor.MadeOf G c property (G.keyedGetter? c property) (G.keyedSetter? c property) found ∧
      ∀ (r : Resolver) (s : State G),
        (∃ s', s'.heap = s.heap ∧ ExceptT.run (r.keyed c property) s = (found, s')) ∧
        ∀ o : Handle .object, (s.heap.get o).cls = c →
          ∃ s', s'.heap = s.heap ∧ ExceptT.run (r.keyedDescriptor? (.object o) property) s = (found, s') := by
  refine ⟨G.keyed? c property, madeOf_keyed? hproperty, fun r s => ⟨run_keyed_eq r c property s, fun o ho => ?_⟩⟩
  obtain ⟨s', hheap, hrun⟩ := run_keyed_eq r c property s
  refine ⟨s', hheap, ?_⟩
  rw [keyedDescriptor?, classOf, Op.run_bind_of_ok (Op.run_read s _), ho, hrun]

/-- A label that can be read by a key, from a body that an interface gives. -/
def plaques : ClassGraph :=
  let classes : List Class := [
    ⟨"Labeled", true, true, none, [],
      [⟨"getLabel", [.text], some .text, true, some .label⟩], false, false, [], false⟩,
    ⟨"Plaque", true, false, none, [0], [⟨"setLabel", [.text], none, true, some (.setField 1 "label" "label" none)⟩],
      true, false, [], false⟩]
  classes.foldl (fun G c => (G.define? c).getD G) .empty

/-- The label of a class has the getter of the interface and no setter. -/
theorem keyed_accessors_discovered_plaques : "label" ≠ "" ∧ ∀ (r : Resolver) (s : State plaques), ∃ k s',
    ExceptT.run (r.keyed 1 "label") s = (.ok (some k), s') ∧ k.read.isSome = true ∧ k.write.isNone = true := by
  have hname : "label" ≠ "" := by decide
  obtain ⟨found, hmade, hrun⟩ := keyed_accessors_discovered plaques 1 "label" hname
  refine ⟨hname, fun r s => ?_⟩
  obtain ⟨s', -, hkeyed⟩ := (hrun r s).1
  have hread : (plaques.keyedGetter? 1 "label").isSome = true := by decide +kernel
  have hwrite : (plaques.keyedSetter? 1 "label").isNone = true := by decide +kernel
  cases hfound : found with
  | error e =>
    obtain ⟨g, w, t, u, -, hw, -⟩ := (hmade.mismatch e).mp hfound
    rw [hw] at hwrite
    cases hwrite
  | ok k? =>
    cases k? with
    | none =>
      rw [(hmade.absent.mp hfound).1] at hread
      cases hread
    | some k =>
      obtain ⟨-, -, hkread, hkwrite, -⟩ := (hmade.present k).mp hfound
      exact ⟨k, s', by rw [hkeyed, hfound], by rw [hkread, hread], by rw [hkwrite, hwrite]⟩

end Resolver

end ObjectGraph
