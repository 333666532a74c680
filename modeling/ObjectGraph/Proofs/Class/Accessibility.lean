import ObjectGraph.Proofs.Class.Hierarchy
import ObjectGraph.Proofs.Class.Introspection
import ObjectGraph.Proofs.Object.Access

/-!
Which methods may be called from outside.  Whatever a look-up of properties, of keyed properties or of single
methods answers has a body and is declared publicly by a public class above, or by a public interface that one of
those implements or that such an interface extends.  Where no class declares two methods alike, each method that is
so declared passes the check; otherwise a hidden declaration may stand before the public one of the same class.
-/

namespace ObjectGraph

/-- The accessors of a keyed property are among the methods that it is made of. -/
theorem KeyedDescriptor.methods_of_ofMethods {G : ClassGraph} {c : ClassId} {property : String}
    {read write : Option Method} {k : KeyedDescriptor} (h : ofMethods G c property read write = .ok (some k)) :
    k.read = read.filter (fun m => m.returns.isSome) ∧ k.write = write.filter fun m => m.returns.isNone := by
  unfold ofMethods at h
  dsimp only at h
  split at h
  · cases h
  · split at h <;> cases h
    exact ⟨rfl, rfl⟩
  · cases h
    exact ⟨rfl, rfl⟩
  · cases h
    exact ⟨rfl, rfl⟩

namespace Descriptor
variable {ms : List Method} {m : Method} {property : String}

theorem mem_of_writerFor {read : Option Method} {writes : Method → Bool} {place : Nat}
    (h : writerFor ms read writes place = some m) : m ∈ ms := by
  unfold writerFor at h
  split at h <;> exact List.mem_of_find?_eq_some h

/-- The accessors of a property are among the methods that they are chosen from. -/
theorem mem_of_chosen (h : some m ∈ [(chosen ms property).read, (chosen ms property).write,
    (chosen ms property).readElement, (chosen ms property).writeElement]) : m ∈ ms := by
  simp only [List.mem_cons, List.not_mem_nil, or_false] at h
  obtain h | h | h | h := h
  · obtain hquestion | ⟨-, hgetter⟩ := Option.or_eq_some_iff.mp h.symm
    · exact List.mem_of_find?_eq_some hquestion
    · exact List.mem_of_find?_eq_some hgetter
  · exact mem_of_writerFor h.symm
  · exact List.mem_of_find?_eq_some h.symm
  · exact mem_of_writerFor h.symm

end Descriptor

namespace ClassGraph
open Relation
variable {G : ClassGraph} {c d i : ClassId} {m m' : Method} {name : String} {fits : Method → Bool}

/-- Whether a class is public and declares a name with parameters publicly. -/
def Publishes (G : ClassGraph) (c : ClassId) (m : Method) : Prop :=
  (G.get c).isPublic = true ∧ ∃ n ∈ (G.get c).methods, n.isPublic = true ∧ n.name = m.name ∧ n.params = m.params

/-- Whether a name with parameters is declared publicly by a public class that a class extends, or is, or by a public
interface to which interfaces lead from one of those. -/
def Published (G : ClassGraph) (c : ClassId) (m : Method) : Prop :=
  ∃ d, ReflTransGen G.Extends c d ∧ (G.Publishes d m ∨ ∃ i, TransGen G.Implements d i ∧ G.Publishes i m)

/-- Whether no class declares two methods with the same name and parameters. -/
def HasDistinctSignatures (G : ClassGraph) : Prop :=
  ∀ c, ((G.get c).methods.map fun m => (m.name, m.params)).Nodup

/-! ### Declarations -/

theorem publishes_of_mem (hc : (G.get c).isPublic = true) (hm : m ∈ (G.get c).methods) (hpublic : m.isPublic = true) :
    G.Publishes c m := ⟨hc, m, hm, hpublic, rfl, rfl⟩

theorem publishes_of_declaresPublicly (h : G.declaresPublicly c m = true) : G.Publishes c m := by
  rw [declaresPublicly, Bool.and_eq_true, Option.any_eq_true] at h
  obtain ⟨hc, n, hn, hpublic⟩ := h
  have hsame := List.find?_some hn
  rw [Bool.and_eq_true, beq_iff_eq, beq_iff_eq] at hsame
  exact ⟨hc, n, List.mem_of_find?_eq_some hn, hpublic, hsame⟩

theorem HasDistinctSignatures.eq_of_same (hG : G.HasDistinctSignatures) (hm : m ∈ (G.get c).methods)
    (hm' : m' ∈ (G.get c).methods) (hname : m.name = m'.name) (hparams : m.params = m'.params) : m = m' :=
  List.inj_on_of_nodup_map (hG c) hm hm' (by rw [hname, hparams])

/-- The declaration that the check finds is the public one. -/
theorem HasDistinctSignatures.declaresPublicly (hG : G.HasDistinctSignatures) (h : G.Publishes c m) :
    G.declaresPublicly c m = true := by
  obtain ⟨hc, n, hn, hpublic, hname, hparams⟩ := h
  have hfound : ((G.get c).declared? m.name m.params).isSome = true := by
    rw [Class.declared?, List.find?_isSome]
    exact ⟨n, hn, by rw [hname, hparams, BEq.rfl, BEq.rfl]; rfl⟩
  obtain ⟨n', hn'⟩ := Option.isSome_iff_exists.mp hfound
  have hsame := List.find?_some hn'
  rw [Bool.and_eq_true, beq_iff_eq, beq_iff_eq] at hsame
  obtain rfl := hG.eq_of_same hn (List.mem_of_find?_eq_some hn') (hname.trans hsame.1.symm) (hparams.trans hsame.2.symm)
  rw [ClassGraph.declaresPublicly, hc, hn', Option.any_some, hpublic]
  rfl

/-! ### The check -/

theorem accessible?_eq (G : ClassGraph) (c d : ClassId) (m : Method) : G.accessible? c d m =
    if (m.isPublic && (G.get d).isPublic) || (G.ancestors c).any (fun c => (G.interfaces c).any fun i =>
      G.interfaceDeclares i.1 m) || (G.ancestors c).any fun c => c != d && G.declaresPublicly c m
    then some m.exposed else none := by
  rw [accessible?]
  cases hpublic : m.isPublic with
  | false => rfl
  | true =>
    have hsame : m.exposed = m := by rw [Method.exposed, ← hpublic]
    cases (G.get d).isPublic with
    | false => rfl
    | true => rw [hsame]; rfl

/-- A method passes the check as a public one with the same body, and only if it is published. -/
theorem accessible?_sound (hd : ReflTransGen G.Extends c d) (hm : m ∈ (G.get d).methods)
    (h : G.accessible? c d m = some m') : m' = m.exposed ∧ G.Published c m := by
  rw [accessible?_eq, Option.ite_none_right_eq_some, Bool.or_eq_true, Bool.or_eq_true, Bool.and_eq_true, any_ancestors,
    any_ancestors] at h
  obtain ⟨(⟨hpublic, hclass⟩ | ⟨e, he, hdeclared⟩) | ⟨e, he, hdeclared⟩, hm'⟩ := h
  · exact ⟨(Option.some.inj hm').symm, d, hd, .inl (publishes_of_mem hclass hm hpublic)⟩
  · obtain ⟨i, hi, hdeclared⟩ := any_interfaceDeclares.mp hdeclared
    exact ⟨(Option.some.inj hm').symm, e, he, .inr ⟨i, hi, publishes_of_declaresPublicly hdeclared⟩⟩
  · rw [Bool.and_eq_true] at hdeclared
    exact ⟨(Option.some.inj hm').symm, e, he, .inl (publishes_of_declaresPublicly hdeclared.2)⟩

/-- A published method of a class above passes the check. -/
theorem HasDistinctSignatures.accessible?_complete (hG : G.HasDistinctSignatures) (hm : m ∈ (G.get d).methods)
    (h : G.Published c m) : G.accessible? c d m = some m.exposed := by
  rw [accessible?_eq, if_pos]
  rw [Bool.or_eq_true, Bool.or_eq_true, Bool.and_eq_true, any_ancestors, any_ancestors]
  obtain ⟨e, he, hpublishes | ⟨i, hi, hpublishes⟩⟩ := h
  · by_cases hsame : e = d
    · -- The class that declares the method publishes it, and has no other declaration of it.
      subst hsame
      obtain ⟨hclass, n, hn, hpublic, hname, hparams⟩ := hpublishes
      obtain rfl := hG.eq_of_same hn hm hname hparams
      exact .inl (.inl ⟨hpublic, hclass⟩)
    · exact .inr ⟨e, he, by rw [hG.declaresPublicly hpublishes, bne_iff_ne.mpr hsame]; rfl⟩
  · exact .inl (.inr ⟨e, he, any_interfaceDeclares.mpr ⟨i, hi, hG.declaresPublicly hpublishes⟩⟩)

/-! ### Look-ups -/

/-- Whether a method may be called on objects of a class from outside: it has a body, and it is published. -/
structure Callable (G : ClassGraph) (c : ClassId) (m : Method) : Prop where
  hasBody : m.hasBody = true
  published : G.Published c m

theorem callable_of_accessible? (hd : d ∈ G.ancestors c) (hm : m ∈ (G.get d).methods) (hbody : m.hasBody = true)
    (h : G.accessible? c d m = some m') : G.Callable c m' := by
  obtain ⟨rfl, hpublished⟩ := accessible?_sound (mem_ancestors_iff.mp hd) hm h
  exact ⟨hbody, hpublished⟩

/-- What is found in an interface is published by it, or by one that it extends. -/
theorem findInInterface?_sound (h : G.findInInterface? name fits i = some m) :
    m.hasBody = true ∧ ∃ j, ReflTransGen G.Implements i j ∧ G.Publishes j m := by
  induction i using Nat.strongRecOn with
  | _ i ih =>
    rw [findInInterface?, Option.orElse_eq_orElse, Option.orElse_eq_or, Option.or_eq_some_iff] at h
    obtain hown | ⟨-, hrest⟩ := h
    · rw [Option.ite_none_right_eq_some] at hown
      obtain ⟨hclass, hfound⟩ := hown
      have htests := List.find?_some hfound
      simp only [Bool.and_eq_true] at htests
      obtain ⟨⟨⟨-, hpublic⟩, hbody⟩, -⟩ := htests
      exact ⟨hbody, i, .refl, publishes_of_mem hclass (List.mem_of_find?_eq_some hfound) hpublic⟩
    · obtain ⟨k, hk, hfound⟩ := List.exists_of_findSome?_eq_some hrest
      obtain ⟨hbody, j, hkj, hpublishes⟩ := ih k.1 k.2 hfound
      exact ⟨hbody, j, .head (mem_interfaces_iff.mp hk) hkj, hpublishes⟩

theorem callable_of_findMethod? (h : G.findMethod? c name fits = some m) : G.Callable c m := by
  rw [findMethod?, Option.orElse_eq_orElse, Option.orElse_eq_or, Option.or_eq_some_iff] at h
  obtain hclasses | ⟨-, hinterfaces⟩ := h
  · obtain ⟨d, hd, hfound⟩ := List.exists_of_findSome?_eq_some hclasses
    obtain ⟨n, hn, hallowed⟩ := List.exists_of_findSome?_eq_some hfound
    rw [List.mem_filter, Bool.and_eq_true, Bool.and_eq_true] at hn
    exact callable_of_accessible? hd hn.1 hn.2.1.2 hallowed
  · obtain ⟨d, hd, hfound⟩ := List.exists_of_findSome?_eq_some hinterfaces
    obtain ⟨i, hi, hfound⟩ := List.exists_of_findSome?_eq_some hfound
    obtain ⟨hbody, j, hij, hpublishes⟩ := findInInterface?_sound hfound
    exact ⟨hbody, d, mem_ancestors_iff.mp hd, .inr ⟨j, .head' (mem_interfaces_iff.mp hi) hij, hpublishes⟩⟩

theorem callable_of_answer {q : MethodQuery} (h : G.answer q = some m) : G.Callable q.cls m := callable_of_findMethod? h

theorem callable_of_inherited (h : m ∈ G.inherited c) : G.Callable c m := by
  obtain ⟨d, hd, hm⟩ := List.mem_flatMap.mp h
  obtain ⟨n, hn, hallowed⟩ := List.mem_filterMap.mp hm
  rw [Option.ite_none_right_eq_some] at hallowed
  exact callable_of_accessible? hd (List.mem_reverse.mp hn) hallowed.1 hallowed.2

theorem callable_of_keyed? {property : String} {k : KeyedDescriptor} (h : G.keyed? c property = .ok (some k))
    (hm : k.read = some m ∨ k.write = some m) : G.Callable c m := by
  rw [keyed?, if_neg (Bool.eq_false_iff.mp (isEmpty_eq_false_of_keyed? h))] at h
  obtain ⟨hread, hwrite⟩ := KeyedDescriptor.methods_of_ofMethods h
  obtain hm | hm := hm
  · rw [hread, Option.filter_eq_some_iff] at hm
    exact callable_of_answer hm.1
  · rw [hwrite, Option.filter_eq_some_iff] at hm
    exact callable_of_answer hm.1

theorem eq_chosen_of_mem {a : Descriptor} (ha : a ∈ G.descriptors c) : a = .chosen (G.inherited c) a.name := by
  rw [descriptors_eq] at ha
  obtain ⟨e, he, rfl⟩ := List.mem_map.mp ha
  rw [← Draft.finish_ofMethods]
  exact congrArg Draft.finish ((Draft.collects_foldr (G.inherited c)).drafts e he)

theorem callable_of_descriptors {a : Descriptor} (ha : a ∈ G.descriptors c)
    (hm : some m ∈ [a.read, a.write, a.readElement, a.writeElement]) : G.Callable c m := by
  rw [eq_chosen_of_mem ha] at hm
  exact callable_of_inherited (Descriptor.mem_of_chosen hm)

end ClassGraph

namespace Resolver
open ClassGraph Relation
variable {G : ClassGraph}

/-- Each method that a look-up answers, whatever the cache of the resolver holds, has a body and is declared publicly
above the class; and a method with a body on the chain of classes that is so declared is never rejected, if no class
declares two methods with the same name and parameters. -/
theorem accessible_exactly_if_published (G : ClassGraph) (c : ClassId) :
    (∀ (r : Resolver) (s : State G),
      (∃ ds s', ExceptT.run (r.descriptors c) s = (.ok ds, s') ∧ ∀ a ∈ ds, ∀ m,
        some m ∈ [a.read, a.write, a.readElement, a.writeElement] → G.Callable c m) ∧
      (∀ name arity leading, ∃ found s', ExceptT.run (r.method ⟨c, name, arity, leading⟩) s = (.ok found, s') ∧
        ∀ m, found = some m → G.Callable c m) ∧
      ∀ property, ∃ found s', ExceptT.run (r.keyed c property) s = (found, s') ∧
        ∀ k m, found = .ok (some k) → k.read = some m ∨ k.write = some m → G.Callable c m) ∧
    (G.HasDistinctSignatures → ∀ d m, ReflTransGen G.Extends c d → m ∈ (G.get d).methods → m.hasBody = true →
      G.Published c m → G.accessible? c d m = some m.exposed) := by
  refine ⟨fun r s => ⟨?_, fun name arity leading => ?_, fun property => ?_⟩, fun hG d m _ hm _ => ?_⟩
  · obtain ⟨s', -, hrun⟩ := run_descriptors r c s
    exact ⟨_, s', hrun, fun a ha m hm => callable_of_descriptors ha hm⟩
  · obtain ⟨s', -, hrun⟩ := run_method r ⟨c, name, arity, leading⟩ s
    exact ⟨_, s', hrun, fun m hm => callable_of_answer hm⟩
  · obtain ⟨s', -, hrun⟩ := run_keyed_eq r c property s
    exact ⟨_, s', hrun, fun k m hk hm => callable_of_keyed? hk hm⟩
  · exact hG.accessible?_complete hm

/-- A getter that its class does not make public. -/
def hiddenGetter : Method := ⟨"getTitle", [], some .text, false, some (.getField 2 "title" false)⟩

/-- A hidden class, with a hidden interface that extends a public one, in which alone the getter is public. -/
def badges : ClassGraph :=
  let classes : List Class := [
    ⟨"Titled", true, true, none, [], [⟨"getTitle", [], some .text, true, none⟩], false, false, [], false⟩,
    ⟨"Badge", false, true, none, [0], [], false, false, [], false⟩,
    ⟨"Card", false, false, none, [1], [hiddenGetter], true, false, [], false⟩]
  classes.foldl (fun G c => (G.define? c).getD G) .empty

theorem hasDistinctSignatures_badges : badges.HasDistinctSignatures
  | 0 => by decide +kernel
  | 1 => by decide +kernel
  | 2 => by decide +kernel
  | c + 3 => by
    have hsize : badges.classes.size = 3 := by decide +kernel
    have hnone : badges.get (c + 3) = default := by
      rw [ClassGraph.get, Class.atPlace, Array.getElem?_eq_none (by omega), Option.getD_none]
    rw [hnone]
    exact List.nodup_nil

/-- The getter may be called, two interfaces away from its only public declaration. -/
theorem accessible_exactly_if_published_badges :
    badges.HasDistinctSignatures ∧ badges.accessible? 2 2 hiddenGetter = some hiddenGetter.exposed := by
  have hmethods : (badges.get 2).methods = [hiddenGetter] := rfl
  have hmem : hiddenGetter ∈ (badges.get 2).methods := hmethods ▸ List.mem_singleton_self _
  have hlower : badges.Implements 2 1 := by
    unfold Implements
    decide +kernel
  have hupper : badges.Implements 1 0 := by
    unfold Implements
    decide +kernel
  have hpublishes : badges.Publishes 0 hiddenGetter := by
    unfold Publishes
    decide +kernel
  exact ⟨hasDistinctSignatures_badges, (accessible_exactly_if_published badges 2).2 hasDistinctSignatures_badges 2 _
    .refl hmem rfl ⟨2, .refl, .inr ⟨0, .tail (.single hlower) hupper, hpublishes⟩⟩⟩

end Resolver

end ObjectGraph
