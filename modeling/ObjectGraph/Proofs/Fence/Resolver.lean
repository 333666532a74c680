import ObjectGraph.Access.Resolve
import ObjectGraph.Proofs.Fence.Record

/-!
Resolvers behind a fence.  Each segment of a path leads from a value inside to another one, and only into values
inside is anything written.  So a path from inside stays inside, however it is followed and whatever fails on it.
-/

namespace ObjectGraph.Resolver
open Fence
variable {F : Fence} {G : ClassGraph} {s : State G} {r : Resolver} {t v : Value}

section Segments
variable (h : F.Encloses G s.heap)
include h

theorem keeps_unknown {α : Type} {Q : α → Prop} (name : String) (t : Value) : F.Keeps s (unknown name t : Op G α) Q :=
  .read h.keeps_throw

theorem keeps_readName (ht : F.Inside t) (name : String) : F.Keeps s (r.readName t name) F.Inside := by
  cases t with
  | null => exact h.keeps_throw
  | object o => exact keeps_readObject h ht name
  | record j => exact Record.keeps_read h j name
  | map m => exact h.keeps_read ((h.holds_map m).getD name)
  | _ => exact keeps_unknown h name _

theorem keeps_readElement (ht : F.Inside t) (name : String) (i : Nat) :
    F.Keeps s (r.readElement t name i) F.Inside := by
  cases t with
  | null => exact h.keeps_throw
  | object o => exact keeps_readObjectElement h ht name i
  | record j => exact Record.keeps_readElement h j name i
  | map m =>
    refine .ite (h.keeps_tryRead (h.inside_element ht)) (h.keeps_tryRead ?_)
    exact h.inside_elementOf ((h.holds_map m).getD name)
  | _ => exact .ite (h.keeps_tryRead (h.inside_element ht)) (keeps_unknown h name _)

theorem keeps_readEntry (ht : F.Inside t) (name key : String) : F.Keeps s (r.readEntry t name key) F.Inside := by
  cases t with
  | null => exact h.keeps_throw
  | object o => exact keeps_readObjectEntry h ht name key
  | record j => exact Record.keeps_readEntry h j name key
  | map m =>
    exact .ite (h.keeps_tryRead (h.inside_entry ht)) (h.keeps_tryRead (h.inside_entryOf ((h.holds_map m).getD name)))
  | _ => exact .ite (h.keeps_tryRead (h.inside_entry ht)) (keeps_unknown h name _)

theorem keeps_writeName (ht : F.Inside t) (name : String) (hv : F.Inside v) :
    F.Keeps s (r.writeName t name v) fun _ => True := by
  cases t with
  | null => exact h.keeps_throw
  | object o => exact keeps_writeObject h ht name hv
  | record j => exact Record.keeps_write h j name hv
  | map m => exact keeps_write (h.setMap ((h.holds_map m).insert hv))
  | _ => exact keeps_unknown h name _

theorem keeps_writeElement (ht : F.Inside t) (name : String) (i : Nat) (hv : F.Inside v) :
    F.Keeps s (r.writeElement t name i v) fun _ => True := by
  cases t with
  | null => exact h.keeps_throw
  | object o => exact keeps_writeObjectElement h ht name i hv
  | record j => exact Record.keeps_writeElement h j name i hv
  | map m =>
    refine .ite (h.keeps_tryWrite (h.setElement ht hv)) (h.keeps_tryWrite ?_)
    exact h.setElementOf ((h.holds_map m).getD name) hv
  | _ => exact .ite (h.keeps_tryWrite (h.setElement ht hv)) (keeps_unknown h name _)

theorem keeps_writeEntry (ht : F.Inside t) (name key : String) (hv : F.Inside v) :
    F.Keeps s (r.writeEntry t name key v) fun _ => True := by
  cases t with
  | null => exact h.keeps_throw
  | object o => exact keeps_writeObjectEntry h ht name key hv
  | record j => exact Record.keeps_writeEntry h j name key hv
  | map m =>
    exact .ite (h.keeps_tryWrite (h.setEntry ht hv)) (h.keeps_tryWrite (h.setEntryOf ((h.holds_map m).getD name) hv))
  | _ => exact .ite (h.keeps_tryWrite (h.setEntry ht hv)) (keeps_unknown h name _)

theorem keeps_readSegment (ht : F.Inside t) (g : Segment) : F.Keeps s (r.readSegment t g) F.Inside := by
  unfold readSegment
  split
  · exact keeps_readName h ht _
  · exact keeps_readElement h ht _ _
  · exact keeps_readEntry h ht _ _

theorem keeps_writeSegment (ht : F.Inside t) (g : Segment) (hv : F.Inside v) :
    F.Keeps s (r.writeSegment t g v) fun _ => True := by
  unfold writeSegment
  split
  · exact keeps_writeName h ht _ hv
  · exact keeps_writeElement h ht _ _ hv
  · exact keeps_writeEntry h ht _ _ hv

end Segments

/-! ### Paths -/

theorem keeps_walk (h : F.Encloses G s.heap) (ht : F.Inside t) (full : String) (passed gs : List Segment) :
    F.Keeps s (r.walk full passed t gs) F.Inside := by
  induction gs generalizing passed t s with
  | nil => exact h.keeps_pure ht
  | cons g gs ih =>
    rw [walk]
    exact .ite h.keeps_throw ((keeps_readSegment h ht g).bind fun hu hv => ih hu hv _)

theorem keeps_owner (h : F.Encloses G s.heap) (ht : F.Inside t) (path : String) :
    F.Keeps s (r.owner t path) fun a => F.Inside a.1 := by
  unfold owner
  refine .ite h.keeps_throw ((h.keeps_tryRead (Q := fun _ => True) fun _ => trivial).bind fun hp _ => ?_)
  exact (keeps_walk hp ht _ _ _).bind fun hu hv => .ite hu.keeps_throw (hu.keeps_pure hv)

theorem keeps_read (h : F.Encloses G s.heap) (ht : F.Inside t) (path : String) :
    F.Keeps s (r.read t path) F.Inside := by
  unfold read
  refine .ite h.keeps_throw ((h.keeps_tryRead (Q := fun _ => True) fun _ => trivial).bind fun hp _ => ?_)
  exact keeps_walk hp ht _ _ _

theorem keeps_write (h : F.Encloses G s.heap) (ht : F.Inside t) (path : String) (hv : F.Inside v) :
    F.Keeps s (r.write t path v) fun _ => True := by
  unfold write
  exact (keeps_owner h ht path).bind fun hu ha => keeps_writeSegment hu ha _ hv

end ObjectGraph.Resolver
