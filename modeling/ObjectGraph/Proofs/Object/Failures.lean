import ObjectGraph.Object.Access
import ObjectGraph.Proofs.Operation

/-!
Failures that do not say that a property is absent.  Only the search for an accessor fails in that way; methods,
conversions of what is written, and the elements and entries of containers fail for other causes.
-/

namespace ObjectGraph

/-- Whether a result is none of the failures that say that a property is absent or may not be read or written. -/
def NeverMissing {α : Type} (x : Except Error α) : Prop := ∀ e, x = .error e → e.isMissing = false

namespace NeverMissing
variable {α β : Type} {x : Except Error α}

theorem ok (a : α) : NeverMissing (.ok a) := nofun

theorem error {e : Error} (h : e.isMissing = false) : NeverMissing (.error e : Except Error α) := by
  rintro _ ⟨⟩
  exact h

theorem bind {k : α → Except Error β} (hx : NeverMissing x) (hk : ∀ a, NeverMissing (k a)) :
    NeverMissing (x >>= k) := by
  cases x with
  | error e => exact error (hx e rfl)
  | ok a => exact hk a

theorem map (f : α → β) (hx : NeverMissing x) : NeverMissing (x.map f) := by
  cases x with
  | error e => exact error (hx e rfl)
  | ok a => exact ok (f a)

end NeverMissing

open NeverMissing

variable {G : ClassGraph} {H : Heap} {o : Handle .object} {name key property : String} {i : Nat} {v w : Value} {t : Ty}
  {args : List Value}

/-! ### Containers -/

namespace Heap

theorem neverMissing_subscripted {sub : Subscript} : NeverMissing (v.subscripted name sub) := by
  unfold Value.subscripted
  split
  · exact error rfl
  · exact ok v

theorem neverMissing_coerce : NeverMissing (H.coerce G t property v) := by
  unfold coerce
  split
  · split
    · exact error rfl
    · exact ok Value.null
  · dsimp only
    split
    · exact ok _
    · exact error rfl

theorem neverMissing_replaceAt {items : List Value} : NeverMissing (replaceAt property i v items) := by
  unfold replaceAt
  split
  · exact ok _
  · exact error rfl

theorem neverMissing_entries : NeverMissing (H.entries name v) := by
  unfold entries
  split
  · exact ok _
  · exact error rfl

theorem neverMissing_elementOf : NeverMissing (H.elementOf name i v) := by
  refine neverMissing_subscripted.bind fun c => ?_
  unfold element
  split
  · exact error rfl
  · split
    · exact ok _
    · exact error rfl

theorem neverMissing_setElementOf : NeverMissing (H.setElementOf G name i w t v) := by
  refine neverMissing_subscripted.bind fun c => ?_
  unfold setElement
  split
  · exact neverMissing_coerce.bind fun w => neverMissing_replaceAt.bind fun items => ok _
  · exact neverMissing_coerce.bind fun w => neverMissing_replaceAt.bind fun items => ok _
  · exact error rfl

theorem neverMissing_entry : NeverMissing (H.entry name key v) := neverMissing_entries.bind fun _ => ok _

theorem neverMissing_entryOf : NeverMissing (H.entryOf name key v) :=
  neverMissing_subscripted.bind fun _ => neverMissing_entry

theorem neverMissing_setEntry : NeverMissing (H.setEntry name key w v) := neverMissing_entries.bind fun _ => ok _

theorem neverMissing_setEntryOf : NeverMissing (H.setEntryOf name key w v) :=
  neverMissing_subscripted.bind fun _ => neverMissing_setEntry

end Heap

/-! ### Methods -/

namespace Method

theorem neverMissing_exposing {owner : ClassId} : NeverMissing (exposing G H o owner) := by
  unfold exposing
  dsimp only
  split
  · exact ok ()
  · exact error rfl

theorem neverMissing_indexArgument : NeverMissing (indexArgument name args) := by
  unfold indexArgument
  split
  · split
    · exact ok _
    · exact error rfl
  · exact error rfl

theorem neverMissing_keyArgument : NeverMissing (keyArgument name args) := by
  unfold keyArgument
  split
  · exact ok _
  · exact error rfl

theorem neverMissing_unlessRefused {refusal : Option String} : NeverMissing (unlessRefused property refusal) := by
  cases refusal with
  | some reason => exact error rfl
  | none => exact ok ()

/-- What a method does on an object never fails as an absent property does. -/
theorem neverMissing_run (body : Body) : NeverMissing (run G name o args H body) := by
  cases body with
  | getField owner field fresh => exact neverMissing_exposing.bind fun _ => ok _
  | setField owner property field refusal =>
    exact neverMissing_exposing.bind fun _ => neverMissing_unlessRefused.bind fun _ => ok _
  | getElement owner property field =>
    refine neverMissing_exposing.bind fun _ => neverMissing_indexArgument.bind fun i => ?_
    dsimp only
    split
    · exact ok _
    · exact error rfl
  | setElement owner property field grows =>
    exact neverMissing_indexArgument.bind fun i => neverMissing_exposing.bind fun _ =>
      Heap.neverMissing_replaceAt.bind fun items => ok _
  | getEntry owner field =>
    refine neverMissing_exposing.bind fun _ => neverMissing_keyArgument.bind fun key => ?_
    split <;> exact ok _
  | setEntry owner property field refusal =>
    refine neverMissing_keyArgument.bind fun key => neverMissing_exposing.bind fun _ =>
      neverMissing_unlessRefused.bind fun _ => ?_
    dsimp only
    split <;> exact ok _
  | fail reason => exact error rfl
  | reenter field =>
    simp only [run]
    split
    · split
      · exact error rfl
      · exact ok _
    · exact ok _
  | _ => exact ok _

theorem neverMissing_invoke (m : Method) : NeverMissing (m.invoke G o args H) := by
  unfold invoke
  split
  · exact error rfl
  · split
    · exact neverMissing_run _
    · exact error rfl

end Method

/-! ### Operations -/

namespace Resolver
variable {α β : Type} {s : State G} {m : Method}

theorem neverMissing_run_bind {x : Op G α} {k : α → Op G β} (hx : NeverMissing (ExceptT.run x s).1)
    (hk : ∀ a s', NeverMissing (ExceptT.run (k a) s').1) : NeverMissing (ExceptT.run (x >>= k) s).1 := by
  rw [Op.run_bind]
  rcases h : ExceptT.run x s with ⟨e | a, s'⟩
  · rw [h] at hx
    exact error (hx e rfl)
  · exact hk a s'

theorem neverMissing_call : NeverMissing (ExceptT.run (call m o args) s).1 := by
  have hinvoke : NeverMissing (m.invoke G o args s.heap) := m.neverMissing_invoke
  rw [call]
  cases h : m.invoke G o args s.heap with
  | error e =>
    rw [Op.run_tryChange_of_error s h]
    exact error (hinvoke e h)
  | ok a =>
    rw [Op.run_tryChange_of_ok s h]
    exact ok _

theorem neverMissing_tryRead {f : Heap → Except Error α} (h : NeverMissing (f s.heap)) :
    NeverMissing (ExceptT.run (Op.tryRead f : Op G α) s).1 := h

theorem neverMissing_tryWrite {f : Heap → Except Error Heap} (h : NeverMissing (f s.heap)) :
    NeverMissing (ExceptT.run (Op.tryWrite f : Op G Unit) s).1 := by
  rw [Op.run_tryWrite]
  cases hf : f s.heap with
  | error e => exact error (h e hf)
  | ok H => exact ok ()

theorem neverMissing_indexArgument : NeverMissing (indexArgument name i) := by
  unfold indexArgument
  split
  · split
    · exact ok _
    · exact error rfl
  · exact error rfl

theorem neverMissing_callWith : NeverMissing (ExceptT.run (callWith m o property args v) s).1 := by
  have hcall (w : Value) (s' : State G) :
      NeverMissing (ExceptT.run (call m o (args ++ [w]) >>= fun _ => pure () : Op G Unit) s').1 :=
    neverMissing_run_bind neverMissing_call fun _ _ => ok ()
  unfold callWith
  split
  · exact neverMissing_run_bind (neverMissing_tryRead Heap.neverMissing_coerce) hcall
  · exact neverMissing_run_bind (ok v) hcall

end Resolver

end ObjectGraph
