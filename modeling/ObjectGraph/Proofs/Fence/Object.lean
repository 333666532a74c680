import ObjectGraph.Proofs.Class.Accessibility
import ObjectGraph.Proofs.Fence.Operation

/-!
Objects behind a fence.  The accessors that are found for a class do what methods of classes do, so they answer only
what their object leads to, what they are given, or what their class mentions.  Reading and writing an object
therefore leads nowhere outside.
-/

namespace ObjectGraph

namespace ClassGraph
variable {G : ClassGraph} {c d i : ClassId} {m m' : Method} {name : String} {fits : Method → Bool}

/-- Whether a method does what a method of a class does. -/
def Backs (G : ClassGraph) (m : Method) : Prop := ∃ c, ∃ n ∈ (G.get c).methods, m.body = n.body

theorem body_of_accessible? (h : G.accessible? c d m = some m') : m'.body = m.body := by
  rw [accessible?_eq, Option.ite_none_right_eq_some] at h
  rw [← Option.some.inj h.2]
  rfl

theorem backs_of_findInInterface? (h : G.findInInterface? name fits i = some m) : G.Backs m := by
  induction i using Nat.strongRecOn with
  | _ i ih =>
    rw [findInInterface?, Option.orElse_eq_orElse, Option.orElse_eq_or, Option.or_eq_some_iff] at h
    obtain hown | ⟨-, hrest⟩ := h
    · rw [Option.ite_none_right_eq_some] at hown
      exact ⟨i, m, List.mem_of_find?_eq_some hown.2, rfl⟩
    · obtain ⟨k, -, hfound⟩ := List.exists_of_findSome?_eq_some hrest
      exact ih k.1 k.2 hfound

theorem backs_of_findMethod? (h : G.findMethod? c name fits = some m) : G.Backs m := by
  rw [findMethod?, Option.orElse_eq_orElse, Option.orElse_eq_or, Option.or_eq_some_iff] at h
  obtain hclasses | ⟨-, hinterfaces⟩ := h
  · obtain ⟨d, -, hfound⟩ := List.exists_of_findSome?_eq_some hclasses
    obtain ⟨n, hn, hallowed⟩ := List.exists_of_findSome?_eq_some hfound
    exact ⟨d, n, (List.mem_filter.mp hn).1, body_of_accessible? hallowed⟩
  · obtain ⟨d, -, hfound⟩ := List.exists_of_findSome?_eq_some hinterfaces
    obtain ⟨i, -, hfound⟩ := List.exists_of_findSome?_eq_some hfound
    exact backs_of_findInInterface? hfound

theorem backs_of_inherited (h : m ∈ G.inherited c) : G.Backs m := by
  obtain ⟨d, -, hm⟩ := List.mem_flatMap.mp h
  obtain ⟨n, hn, hallowed⟩ := List.mem_filterMap.mp hm
  rw [Option.ite_none_right_eq_some] at hallowed
  exact ⟨d, n, List.mem_reverse.mp hn, body_of_accessible? hallowed.2⟩

theorem backs_of_keyed? {property : String} {k : KeyedDescriptor} (h : G.keyed? c property = .ok (some k))
    (hm : k.read = some m ∨ k.write = some m) : G.Backs m := by
  rw [keyed?, if_neg (Bool.eq_false_iff.mp (isEmpty_eq_false_of_keyed? h))] at h
  obtain ⟨hread, hwrite⟩ := KeyedDescriptor.methods_of_ofMethods h
  obtain hm | hm := hm
  · rw [hread, Option.filter_eq_some_iff] at hm
    exact backs_of_findMethod? hm.1
  · rw [hwrite, Option.filter_eq_some_iff] at hm
    exact backs_of_findMethod? hm.1

theorem backs_of_descriptors {a : Descriptor} (ha : a ∈ G.descriptors c)
    (hm : some m ∈ [a.read, a.write, a.readElement, a.writeElement]) : G.Backs m := by
  rw [eq_chosen_of_mem ha] at hm
  exact backs_of_inherited (Descriptor.mem_of_chosen hm)

end ClassGraph

namespace Fence
variable {F : Fence} {G : ClassGraph} {H H' : Heap} {o : Handle .object} {m : Method} {args : List Value}
  {name : String} {v : Value}

/-! ### Bodies of methods -/

namespace Encloses

theorem constant (h : F.Encloses G H) (ho : F.Inside (.object o)) (hm : G.Backs m) {t : Template}
    (hbody : m.body = some (.constant t)) (hv : t.Mentions v) : F.Inside v := by
  obtain ⟨c, n, hn, hsame⟩ := hm
  exact h.classes ho v ⟨c, Or.inr ⟨n, hn, t, hsame.symm.trans hbody, hv⟩⟩

theorem inside_field (h : F.Encloses G H) (ho : F.Inside (.object o)) (name : String) : F.Inside (H.field o name) :=
  (h.holdsObject ho).fields.getD name

theorem setField (h : F.Encloses G H) (ho : F.Inside (.object o)) (hv : F.Inside v) :
    F.Encloses G (H.setField o name v) :=
  h.setObject ho ⟨(h.holdsObject ho).fields.insert hv, (h.holdsObject ho).storage⟩

/-- Where objects are inside, a list or an array may be made of any values inside. -/
theorem newLike (h : F.Encloses G H) (ho : F.Inside (.object o)) {items : List Value}
    (hitems : ∀ w ∈ items, F.Inside w) : F.Encloses G (H.newLike v items).2 ∧ F.Inside (H.newLike v items).1 := by
  cases v with
  | array a => exact h.newArray hitems (Or.inl ho) (Or.inl ho)
  | _ => exact ⟨h.newList hitems, trivial⟩

theorem copyItems (h : F.Encloses G H) (ho : F.Inside (.object o)) (hv : F.Inside v) :
    F.Encloses G (H.copyItems v).2 ∧ F.Inside (H.copyItems v).1 := by
  cases v with
  | list l => exact ⟨h.newList (h.held hv), trivial⟩
  | array a => exact h.newArray (h.held hv) (Or.inl ho) (Or.inl ho)
  | _ => exact ⟨h, hv⟩

theorem inside_getD_items (h : F.Encloses G H) (hv : F.Inside v) : ∀ w ∈ (H.items? v).getD [], F.Inside w := by
  intro w hw
  cases hitems : H.items? v with
  | none =>
    rw [hitems] at hw
    cases hw
  | some items =>
    rw [hitems] at hw
    exact h.held hv w (Heap.mem_held_of_items? hitems hw)

/-- The elements of the list or array in a field, with null after them if there have to be more. -/
theorem inside_of_mem_lengthened (h : F.Encloses G H) (ho : F.Inside (.object o)) {field : String} {grows : Bool}
    {n : Nat} (hw : w ∈ if grows then (H.items? (H.field o field)).getD [] ++ List.replicate n .null
      else (H.items? (H.field o field)).getD []) : F.Inside w := by
  have hold := h.inside_getD_items (h.inside_field ho field)
  split at hw
  · rcases List.mem_append.mp hw with hw | hw
    · exact hold w hw
    · obtain rfl := List.eq_of_mem_replicate hw
      trivial
  · exact hold w hw

theorem inside_of_getD {items : List Value} {found : Option Value} (hitems : ∀ w ∈ items, F.Inside w)
    (hfound : ∀ w, found = some w → w ∈ items) : F.Inside (found.getD .null) := by
  cases found with
  | none => trivial
  | some w => exact hitems w (hfound w rfl)

section Bodies
variable {owner : ClassId} {property field : String}

theorem run_getField {fresh : Bool} (h : F.Encloses G H) (ho : F.Inside (.object o))
    (hrun : Method.run G name o args H (.getField owner field fresh) = .ok (v, H')) : F.Encloses G H' ∧ F.Inside v := by
  obtain ⟨_, -, hrun⟩ := bind_eq_ok.mp hrun
  have hfield := h.inside_field ho field
  cases fresh with
  | false =>
    cases hrun
    exact ⟨h, hfield⟩
  | true =>
    have hcopy := h.copyItems ho hfield
    have hsame : H.copyItems (H.field o field) = (v, H') := Except.ok.inj hrun
    rwa [hsame] at hcopy

theorem run_setElement {grows : Bool} (h : F.Encloses G H) (ho : F.Inside (.object o))
    (hargs : ∀ a ∈ args, F.Inside a)
    (hrun : Method.run G name o args H (.setElement owner property field grows) = .ok (v, H')) :
    F.Encloses G H' ∧ F.Inside v := by
  obtain ⟨i, -, hrun⟩ := bind_eq_ok.mp hrun
  obtain ⟨_, -, hrun⟩ := bind_eq_ok.mp hrun
  obtain ⟨items, hitems, hrun⟩ := bind_eq_ok.mp hrun
  have hinside : ∀ w ∈ items, F.Inside w := fun w hw => by
    obtain ⟨-, rfl⟩ := Heap.replaceAt_eq_ok hitems
    rcases List.mem_or_eq_of_mem_set hw with hw | rfl
    · exact h.inside_of_mem_lengthened ho hw
    · exact inside_of_getD hargs fun _ => List.mem_of_getElem?
  obtain ⟨hnew, hlike⟩ := h.newLike (v := H.field o field) ho hinside
  have hanswer : (Value.null, (H.newLike (H.field o field) items).2.setField o field
      (H.newLike (H.field o field) items).1) = (v, H') := Except.ok.inj hrun
  cases hanswer
  exact ⟨hnew.setField ho hlike, trivial⟩

theorem run_setEntry {refusal : Option String} (h : F.Encloses G H) (ho : F.Inside (.object o))
    (hargs : ∀ a ∈ args, F.Inside a)
    (hrun : Method.run G name o args H (.setEntry owner property field refusal) = .ok (v, H')) :
    F.Encloses G H' ∧ F.Inside v := by
  obtain ⟨key, -, hrun⟩ := bind_eq_ok.mp hrun
  obtain ⟨_, -, hrun⟩ := bind_eq_ok.mp hrun
  obtain ⟨_, -, hrun⟩ := bind_eq_ok.mp hrun
  have harg : F.Inside (args[1]?.getD .null) := inside_of_getD hargs fun _ => List.mem_of_getElem?
  split at hrun
  · cases hrun
    exact ⟨h.setMap ((h.holds_map _).insert harg), trivial⟩
  · cases hrun
    exact ⟨(h.newMap (holds_empty.insert harg)).setField ho trivial, trivial⟩

end Bodies

/-- What a body does with an object inside and arguments inside leads nowhere outside. -/
theorem run (h : F.Encloses G H) (ho : F.Inside (.object o)) (hargs : ∀ a ∈ args, F.Inside a) {body : Body}
    (hbody : ∀ t v, body = .constant t → t.Mentions v → F.Inside v)
    (hrun : Method.run G name o args H body = .ok (v, H')) : F.Encloses G H' ∧ F.Inside v := by
  cases body with
  | getField owner field fresh => exact h.run_getField ho hrun
  | setField owner property field refusal =>
    obtain ⟨_, -, hrun⟩ := bind_eq_ok.mp hrun
    obtain ⟨_, -, hrun⟩ := bind_eq_ok.mp hrun
    cases hrun
    exact ⟨h.setField ho (inside_of_getD hargs fun _ => List.mem_of_head?), trivial⟩
  | getElement owner property field =>
    obtain ⟨_, -, hrun⟩ := bind_eq_ok.mp hrun
    obtain ⟨i, -, hrun⟩ := bind_eq_ok.mp hrun
    dsimp only at hrun
    split at hrun
    · rename_i hi
      cases hrun
      exact ⟨h, h.inside_getD_items (h.inside_field ho field) _ (List.mem_of_getElem? hi)⟩
    · cases hrun
  | setElement owner property field grows => exact h.run_setElement ho hargs hrun
  | getEntry owner field =>
    obtain ⟨_, -, hrun⟩ := bind_eq_ok.mp hrun
    obtain ⟨key, -, hrun⟩ := bind_eq_ok.mp hrun
    split at hrun
    · cases hrun
      exact ⟨h, (h.holds_map _).getD key⟩
    · cases hrun
      exact ⟨h, trivial⟩
  | setEntry owner property field refusal => exact h.run_setEntry ho hargs hrun
  | answerField field =>
    cases hrun
    exact ⟨h, h.inside_field ho field⟩
  | storeLast field =>
    cases hrun
    exact ⟨h.setField ho (inside_of_getD hargs fun _ => List.mem_of_getLast?), trivial⟩
  | constant t =>
    have hbuilt := h.build ho fun v hv => hbody t v rfl hv
    have hsame : G.build t H = (v, H') := Except.ok.inj hrun
    rwa [hsame] at hbuilt
  | label =>
    cases hrun
    exact ⟨h, trivial⟩
  | arguments =>
    cases hrun
    exact ⟨h.newList hargs, trivial⟩
  | fail reason => cases hrun
  | reenter field =>
    simp only [Method.run] at hrun
    split at hrun
    · split at hrun <;> cases hrun
      exact ⟨h, trivial⟩
    · cases hrun
      exact ⟨h, trivial⟩

theorem invoke (h : F.Encloses G H) (ho : F.Inside (.object o)) (hargs : ∀ a ∈ args, F.Inside a) (hm : G.Backs m)
    (hrun : m.invoke G o args H = .ok (v, H')) : F.Encloses G H' ∧ F.Inside v := by
  unfold Method.invoke at hrun
  split at hrun
  · cases hrun
  · rename_i body hbody
    split at hrun
    · exact h.run ho hargs (fun t v hsame hv => h.constant ho hm (hsame ▸ hbody) hv) hrun
    · cases hrun

end Encloses

end Fence

namespace Resolver
open Fence
variable {F : Fence} {G : ClassGraph} {s : State G} {r : Resolver} {c : ClassId} {o : Handle .object} {m : Method}
  {args : List Value} {name : String} {i : Nat} {v : Value}

/-! ### Accessors of a class -/

theorem inside_indexArgument (hv : indexArgument name i = .ok v) : F.Inside v := by
  unfold indexArgument at hv
  split at hv
  · split at hv <;> cases hv
    trivial
  · cases hv

section Accessors
variable (h : F.Encloses G s.heap)
include h

theorem keeps_descriptors : F.Keeps s (r.descriptors c) (· = G.descriptors c) := by
  obtain ⟨t, hheap, hrun⟩ := run_descriptors r c s
  exact h.keeps_of_heap hheap hrun fun heq => (Except.ok.inj heq).symm

theorem keeps_keyed : F.Keeps s (r.keyed c name) fun k? => G.keyed? c name = .ok k? := by
  obtain ⟨t, hheap, hrun⟩ := run_keyed_eq r c name s
  exact h.keeps_of_heap hheap hrun id

theorem keeps_call (ho : F.Inside (.object o)) (hm : G.Backs m) (hargs : ∀ a ∈ args, F.Inside a) :
    F.Keeps s (call m o args) F.Inside := h.keeps_tryChange (h.invoke ho hargs hm)

theorem keeps_callWith (ho : F.Inside (.object o)) (hm : G.Backs m) (hargs : ∀ a ∈ args, F.Inside a) (hv : F.Inside v) :
    F.Keeps s (callWith m o name args v) fun _ => True := by
  have hcall {w : Value} {t : State G} (ht : F.Encloses G t.heap) (hw : F.Inside w) :
      F.Keeps t (call m o (args ++ [w]) >>= fun _ => pure () : Op G Unit) fun _ => True := by
    refine (keeps_call ht ho hm fun a ha => ?_).bind fun hu _ => hu.keeps_pure trivial
    rcases List.mem_append.mp ha with ha | ha
    · exact hargs a ha
    · obtain rfl := List.mem_singleton.mp ha
      exact hw
  unfold callWith
  split
  · exact (h.keeps_tryRead (Q := F.Inside) (inside_of_coerce hv)).bind hcall
  · exact hcall h hv

theorem inside_stored (ho : F.Inside (.object o)) (hv : s.heap.storedEntry? o name = some v) : F.Inside v := by
  obtain ⟨d, hd, rfl⟩ := Option.map_eq_some_iff.mp hv
  exact ((h.holdsObject ho).storage hd).getD name

end Accessors

theorem backs_of_findDescriptor? {d : Descriptor} (hd : findDescriptor? (G.descriptors c) name = some d)
    (hm : some m ∈ [d.read, d.write, d.readElement, d.writeElement]) : G.Backs m :=
  ClassGraph.backs_of_descriptors (List.mem_of_find?_eq_some hd) hm

theorem backs_of_read (hm : (findDescriptor? (G.descriptors c) name).bind Descriptor.read = some m) :
    G.Backs m := by
  obtain ⟨d, hd, hread⟩ := Option.bind_eq_some_iff.mp hm
  exact backs_of_findDescriptor? hd (by simp [hread])

theorem backs_of_write (hm : (findDescriptor? (G.descriptors c) name).bind Descriptor.write = some m) :
    G.Backs m := by
  obtain ⟨d, hd, hwrite⟩ := Option.bind_eq_some_iff.mp hm
  exact backs_of_findDescriptor? hd (by simp [hwrite])

/-! ### Reading and writing objects -/

section Access
variable (h : F.Encloses G s.heap) (ho : F.Inside (.object o))
include h ho

theorem keeps_readObject (name : String) : F.Keeps s (r.readObject o name) F.Inside := by
  unfold readObject
  refine .read ((keeps_descriptors h).bind fun {ds t} ht hds => ?_)
  subst hds
  dsimp only
  split
  · rename_i m hm
    exact keeps_call ht ho (backs_of_read hm) (List.forall_mem_nil _)
  · refine .read ?_
    split
    · rename_i v hv
      exact ht.keeps_pure (inside_stored ht ho hv)
    · exact ht.keeps_throw

theorem keeps_readObjectElement (name : String) (i : Nat) : F.Keeps s (r.readObjectElement o name i) F.Inside := by
  unfold readObjectElement
  refine .read (.ite h.keeps_throw ((keeps_descriptors h).bind fun {ds t} ht hds => ?_))
  subst hds
  split
  · rename_i d hd
    split
    · rename_i m hm
      refine (ht.keeps_tryRead (Q := F.Inside) fun hj => inside_indexArgument hj).bind fun {j u} hu hj => ?_
      exact keeps_call hu ho (backs_of_findDescriptor? hd (by simp [hm])) (List.forall_mem_singleton.mpr hj)
    · rename_i m hm
      refine (keeps_call ht ho (backs_of_findDescriptor? hd (by simp [hm])) (List.forall_mem_nil _)).bind ?_
      exact fun hu hv => hu.keeps_tryRead (hu.inside_elementOf hv)
    · exact ht.keeps_throw
  · refine (keeps_keyed ht).bind fun {k? u} hu _ => .ite hu.keeps_throw (.read ?_)
    split
    · rename_i v hv
      exact hu.keeps_tryRead (hu.inside_elementOf (inside_stored hu ho hv))
    · exact hu.keeps_throw

theorem keeps_readObjectEntry (name key : String) : F.Keeps s (r.readObjectEntry o name key) F.Inside := by
  unfold readObjectEntry
  refine .read (.ite (h.keeps_tryRead (h.inside_entry ho)) ((keeps_descriptors h).bind fun {ds t} ht hds => ?_))
  subst hds
  dsimp only
  split
  · rename_i m hm
    refine (keeps_call ht ho (backs_of_read hm) (List.forall_mem_nil _)).bind fun hu hv => ?_
    exact hu.keeps_tryRead (hu.inside_entryOf hv)
  · refine (keeps_keyed ht).bind fun {k? u} hu hk => ?_
    split
    · split
      · rename_i m hm
        exact keeps_call hu ho (ClassGraph.backs_of_keyed? hk (Or.inl hm)) (List.forall_mem_singleton.mpr trivial)
      · exact hu.keeps_throw
    · refine .read ?_
      split
      · rename_i v hv
        exact hu.keeps_tryRead (hu.inside_entryOf (inside_stored hu ho hv))
      · exact hu.keeps_throw

theorem keeps_writeObject (name : String) (hv : F.Inside v) :
    F.Keeps s (r.writeObject o name v) fun _ => True := by
  unfold writeObject
  refine .read ((keeps_descriptors h).bind fun {ds t} ht hds => ?_)
  subst hds
  dsimp only
  split
  · rename_i m hm
    exact keeps_callWith ht ho (backs_of_write hm) (List.forall_mem_nil _) hv
  · exact .read (.ite (ht.keeps_tryWrite (ht.setEntry ho hv)) ht.keeps_throw)

theorem keeps_writeObjectElement (name : String) (i : Nat) (hv : F.Inside v) :
    F.Keeps s (r.writeObjectElement o name i v) fun _ => True := by
  unfold writeObjectElement
  refine .read (.ite h.keeps_throw ((keeps_descriptors h).bind fun {ds t} ht hds => ?_))
  subst hds
  split
  · rename_i d hd
    split
    · rename_i m hm
      refine (ht.keeps_tryRead (Q := F.Inside) fun hj => inside_indexArgument hj).bind fun {j u} hu hj => ?_
      exact keeps_callWith hu ho (backs_of_findDescriptor? hd (by simp [hm])) (List.forall_mem_singleton.mpr hj) hv
    · rename_i m hm
      refine (keeps_call ht ho (backs_of_findDescriptor? hd (by simp [hm])) (List.forall_mem_nil _)).bind ?_
      exact fun hu hw => hu.keeps_tryWrite (hu.setElementOf hw hv)
    · exact ht.keeps_throw
  · refine (keeps_keyed ht).bind fun {k? u} hu _ => .ite hu.keeps_throw (.read ?_)
    split
    · rename_i w hw
      exact hu.keeps_tryWrite (hu.setElementOf (inside_stored hu ho hw) hv)
    · exact hu.keeps_throw

theorem keeps_writeObjectEntry (name key : String) (hv : F.Inside v) :
    F.Keeps s (r.writeObjectEntry o name key v) fun _ => True := by
  unfold writeObjectEntry
  refine .read (.ite (h.keeps_tryWrite (h.setEntry ho hv)) ((keeps_descriptors h).bind fun {ds t} ht hds => ?_))
  subst hds
  dsimp only
  split
  · rename_i m hm
    refine (keeps_call ht ho (backs_of_read hm) (List.forall_mem_nil _)).bind fun hu hw => ?_
    exact hu.keeps_tryWrite (hu.setEntryOf hw hv)
  · refine (keeps_keyed ht).bind fun {k? u} hu hk => ?_
    split
    · split
      · rename_i m hm
        have hmethod := ClassGraph.backs_of_keyed? hk (Or.inr hm)
        exact keeps_callWith hu ho hmethod (List.forall_mem_singleton.mpr trivial) hv
      · exact hu.keeps_throw
    · refine .read ?_
      split
      · rename_i w hw
        exact hu.keeps_tryWrite (hu.setEntryOf (inside_stored hu ho hw) hv)
      · exact hu.keeps_throw

end Access

end Resolver

end ObjectGraph
