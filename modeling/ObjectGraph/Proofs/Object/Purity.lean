import ObjectGraph.Proofs.Object.Outcome

/-!
Getters without effects.  Such a getter never fails and changes no container that is there, and asked again it repeats
its answer: the same value, or a new container in which everything is repeated.
-/

namespace ObjectGraph

namespace Heap
variable {H H' : Heap} {v w : Value}

/-- Whether a value repeats another one: it is the same value, or a list, an array or a map whose elements or entries
repeat those of the other. -/
inductive Repeats (H : Heap) : Value → Value → Prop
  | same (v : Value) : Repeats H v v
  | list {a b : Handle .list} (ha : H.Has a) (hb : H.Has b) (hsize : (H.get a).length = (H.get b).length)
      (hitems : ∀ i : Nat, Repeats H ((H.get a).getD i .null) ((H.get b).getD i .null)) : Repeats H (.list a) (.list b)
  | array {a b : Handle .array} (ha : H.Has a) (hb : H.Has b) (hcomponent : (H.get a).component = (H.get b).component)
      (hsize : (H.get a).items.length = (H.get b).items.length)
      (hitems : ∀ i : Nat, Repeats H ((H.get a).items.getD i .null) ((H.get b).items.getD i .null)) :
      Repeats H (.array a) (.array b)
  | map {a b : Handle .map} (ha : H.Has a) (hb : H.Has b) (hkeys : (H.get a).keys = (H.get b).keys)
      (hentries : ∀ key, Repeats H (((H.get a).get? key).getD .null) (((H.get b).get? key).getD .null)) :
      Repeats H (.map a) (.map b)

theorem Repeats.symm (h : H.Repeats v w) : H.Repeats w v := by
  induction h with
  | same v => exact .same v
  | list ha hb hsize _ ih => exact .list hb ha hsize.symm ih
  | array ha hb hcomponent hsize _ ih => exact .array hb ha hcomponent.symm hsize.symm ih
  | map ha hb hkeys _ ih => exact .map hb ha hkeys.symm ih

/-- What is repeated stays so when cells are added. -/
theorem OnlyAdds.repeats (h : H.OnlyAdds H') (hv : H.Repeats v w) : H'.Repeats v w := by
  induction hv with
  | same v => exact .same v
  | list ha hb hsize _ ih =>
    have hsame := h.same ha
    have hsame' := h.same hb
    exact .list (h.has ha) (h.has hb) (by rw [hsame, hsame', hsize]) (by rw [hsame, hsame']; exact ih)
  | array ha hb hcomponent hsize _ ih =>
    have hsame := h.same ha
    have hsame' := h.same hb
    exact .array (h.has ha) (h.has hb) (by rw [hsame, hsame', hcomponent]) (by rw [hsame, hsame', hsize])
      (by rw [hsame, hsame']; exact ih)
  | map ha hb hkeys _ ih =>
    have hsame := h.same ha
    have hsame' := h.same hb
    exact .map (h.has ha) (h.has hb) (by rw [hsame, hsame', hkeys]) (by rw [hsame, hsame']; exact ih)

theorem Repeats.list_of_eq {a b : Handle .list} (ha : H.Has a) (hb : H.Has b) (h : H.get a = H.get b) :
    H.Repeats (.list a) (.list b) := .list ha hb (by rw [h]) fun _ => by rw [h]; exact .same _

theorem Repeats.array_of_eq {a b : Handle .array} (ha : H.Has a) (hb : H.Has b) (h : H.get a = H.get b) :
    H.Repeats (.array a) (.array b) := .array ha hb (by rw [h]) (by rw [h]) fun _ => by rw [h]; exact .same _

/-! ### Copies -/

/-- Two copies of a cell that are made one after the other hold the same. -/
theorem get_copy {k : CellKind} {a : Handle k} (ha : H.Has a) (h : (H.alloc k (H.get a)).2.OnlyAdds H') :
    (H'.alloc k (H'.get a)).2.get (H.alloc k (H.get a)).1 =
      (H'.alloc k (H'.get a)).2.get (H'.alloc k (H'.get a)).1 :=
  calc (H'.alloc k (H'.get a)).2.get (H.alloc k (H.get a)).1
    _ = H.get a := ((h.trans (H'.onlyAdds_alloc _)).same (has_alloc _)).trans (H.get_alloc_self _)
    _ = H'.get a := (((H.onlyAdds_alloc _).trans h).same ha).symm
    _ = _ := (H'.get_alloc_self _).symm

/-- A later copy repeats an earlier one. -/
theorem repeats_copyItems (hv : H.Live v) (h : (H.copyItems v).2.OnlyAdds H') :
    (H'.copyItems v).2.Repeats (H.copyItems v).1 (H'.copyItems v).1 := by
  have hadds := H'.onlyAdds_copyItems v
  cases v with
  | list a =>
    exact .list_of_eq (hadds.has (h.has (has_alloc (k := .list) _))) (has_alloc (k := .list) _)
      (get_copy (k := .list) hv h)
  | array a =>
    exact .array_of_eq (hadds.has (h.has (has_alloc (k := .array) _))) (has_alloc (k := .array) _)
      (get_copy (k := .array) hv h)
  | _ => exact .same _

end Heap

namespace Method
variable {G : ClassGraph} {m : Method} {o : Handle .object} {H H₁ H₂ H₃ H₄ : Heap} {v w : Value}

/-- Whether a getter of an object has no effects, from a heap on: it never fails, it only makes new containers, and
asked again it repeats its answer. -/
def PureOn (m : Method) (G : ClassGraph) (o : Handle .object) (H : Heap) : Prop :=
  ∀ H₁, H.OnlyAdds H₁ → ∃ v H₂, m.invoke G o [] H₁ = .ok (v, H₂) ∧ H₁.OnlyAdds H₂ ∧
    ∀ H₃, H₂.OnlyAdds H₃ → ∃ w H₄, m.invoke G o [] H₃ = .ok (w, H₄) ∧ H₄.Repeats v w

namespace PureOn

theorem later (hm : m.PureOn G o H) (h : H.OnlyAdds H₁) : m.PureOn G o H₁ := fun H₂ h₂ => hm H₂ (h.trans h₂)

theorem invoked (hm : m.PureOn G o H) (h : H.OnlyAdds H₁) :
    ∃ v H₂, m.invoke G o [] H₁ = .ok (v, H₂) ∧ H₁.OnlyAdds H₂ := by
  obtain ⟨v, H₂, hinvoke, hadds, -⟩ := hm H₁ h
  exact ⟨v, H₂, hinvoke, hadds⟩

theorem onlyAdds (hm : m.PureOn G o H) (h : H.OnlyAdds H₁) (hinvoke : m.invoke G o [] H₁ = .ok (v, H₂)) :
    H₁.OnlyAdds H₂ := by
  obtain ⟨v', H', hinvoke', hadds⟩ := hm.invoked h
  cases hinvoke.symm.trans hinvoke'
  exact hadds

/-- The later one of two answers repeats the earlier one. -/
theorem repeats (hm : m.PureOn G o H) (h : H.OnlyAdds H₁) (hfirst : m.invoke G o [] H₁ = .ok (v, H₂))
    (hlater : H₂.OnlyAdds H₃) (hsecond : m.invoke G o [] H₃ = .ok (w, H₄)) : H₄.Repeats v w := by
  obtain ⟨v', H₂', hfirst', -, hagain⟩ := hm H₁ h
  cases hfirst.symm.trans hfirst'
  obtain ⟨w', H₄', hsecond', hrepeats⟩ := hagain H₃ hlater
  cases hsecond.symm.trans hsecond'
  exact hrepeats

end PureOn

theorem invoke_getField {owner : ClassId} {field : String} {fresh : Bool}
    (hbody : m.body = some (.getField owner field fresh)) (hparams : m.params = [])
    (hexposes : G.exposes (H.get o).cls owner = true) :
    m.invoke G o [] H = .ok (if fresh then H.copyItems (H.field o field) else (H.field o field, H)) := by
  have hexposing : exposing G H o owner = .ok () := if_pos hexposes
  have harity : ([] : List Value).length = m.arity := by rw [arity, hparams]; rfl
  rw [invoke, hbody]
  dsimp only
  rw [if_pos harity, run, hexposing]
  rfl

/-- Getters of fields have no effects, whether they answer the field itself or a copy. -/
theorem pureOn_getField {owner : ClassId} {field : String} {fresh : Bool}
    (hbody : m.body = some (.getField owner field fresh)) (hparams : m.params = [])
    (hexposes : G.exposes (H.get o).cls owner = true) (ho : H.Has o) (hlive : H.Live (H.field o field)) :
    m.PureOn G o H := by
  intro H₁ h₁
  have hfield {H' : Heap} (h : H.OnlyAdds H') : H'.field o field = H.field o field := by
    rw [Heap.field, h.same ho, Heap.field]
  have hinvoke {H' : Heap} (h : H.OnlyAdds H') :
      m.invoke G o [] H' = .ok (if fresh then H'.copyItems (H.field o field) else (H.field o field, H')) := by
    rw [invoke_getField hbody hparams (by rwa [h.same ho]), hfield h]
  refine ⟨_, _, hinvoke h₁, ?_, fun H₃ h₃ => ?_⟩
  · cases fresh with
    | true => exact Heap.onlyAdds_copyItems H₁ _
    | false => exact .refl H₁
  · cases fresh with
    | true =>
      have hadds := h₁.trans ((Heap.onlyAdds_copyItems H₁ (H.field o field)).trans h₃)
      exact ⟨_, _, hinvoke hadds, Heap.repeats_copyItems (h₁.keepsTypes.live hlive) h₃⟩
    | false => exact ⟨_, _, hinvoke (h₁.trans h₃), .same _⟩

end Method

end ObjectGraph
