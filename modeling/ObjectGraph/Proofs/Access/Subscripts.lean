import ObjectGraph.Class.Builder
import ObjectGraph.Proofs.Access.Single
import ObjectGraph.Proofs.Fence.Heap
import ObjectGraph.Proofs.Object.Outcome

/-!
Subscripts of properties that only have accessors for the whole.  An element or entry is read from what the getter
answers, and written into it; the setter is not called.  So what is written is read back if the getter hands out a
container that was there before, and it is lost if the getter makes one.
-/

namespace ObjectGraph

/-! ### Slots of a container -/

namespace Heap
variable {G : ClassGraph} {H H' : Heap} {name : String} {t : Ty} {c v w : Value} {k : CellKind} {h : Handle k}

/-- Reads what a subscript leads to in a container. -/
def readAt (H : Heap) (name : String) (c : Value) : Subscript → Except Error Value
  | .none => .ok c
  | .index i => H.elementOf name i c
  | .key key => H.entryOf name key c

/-- Writes what a subscript leads to in a container. -/
def writeAt (G : ClassGraph) (H : Heap) (name : String) (t : Ty) (c v : Value) : Subscript → Except Error Heap
  | .none => .ok H
  | .index i => H.setElementOf G name i v t c
  | .key key => H.setEntryOf name key v c

/-- The type of the slot that a subscript leads to.  An array knows that of its elements, and entries are of any. -/
def slotTy (H : Heap) (t : Ty) (c : Value) : Subscript → Ty
  | .index _ =>
    match c with
    | .array a => (H.get a).component
    | _ => t
  | _ => .any

/-- Whether two heaps differ at most in what one container holds. -/
structure DiffersIn (c : Value) (H H' : Heap) : Prop where
  has : ∀ {k : CellKind} {h : Handle k}, H.Has h → H'.Has h
  other : ∀ {k : CellKind} {h : Handle k}, h.toValue ≠ c → H'.get h = H.get h
  cls : ∀ o : Handle .object, (H'.get o).cls = (H.get o).cls
  fields : ∀ o : Handle .object, (H'.get o).fields = (H.get o).fields

theorem Puts.differsIn {a : Cell k} (hp : H.Puts h a H') (hk : k ≠ .object) : H.DiffersIn h.toValue H' where
  has := hp.has
  other := hp.get_of_ne
  cls o := congrArg Object.cls (hp.kind (j := o) hk.symm)
  fields o := congrArg Object.fields (hp.kind (j := o) hk.symm)

theorem differsIn_setEntries (d : Dict Value) (hc : H.entries? c ≠ none) : H.DiffersIn c (H.setEntries d c) := by
  cases c with
  | map m => exact (H.puts_set (k := .map) m d).differsIn nofun
  | object p =>
    have hput := H.puts_set (k := .object) p { H.get p with storage := some d }
    have hsame (o : Handle .object) : ((H.setEntries d (.object p)).get o).cls = (H.get o).cls ∧
        ((H.setEntries d (.object p)).get o).fields = (H.get o).fields := by
      by_cases ho : o = p
      · subst ho
        rw [setEntries, hput.self]
        exact ⟨rfl, rfl⟩
      · rw [setEntries, hput.other ho]
        exact ⟨rfl, rfl⟩
    exact ⟨hput.has, hput.get_of_ne, fun o => (hsame o).1, fun o => (hsame o).2⟩
  | _ => exact absurd rfl hc

/-- A new container is all that differs if nothing that was there does. -/
theorem DiffersIn.onlyAdds {H₀ : Heap} (hd : H.DiffersIn c H') (hadds : H₀.OnlyAdds H) (hc : ¬ H₀.Live c) :
    H₀.OnlyAdds H' where
  has hh := hd.has (hadds.has hh)
  same {k h} hh := by
    refine (hd.other ?_).trans (hadds.same hh)
    rintro rfl
    cases k <;> first | exact hc hh | exact hc trivial

theorem setElement_eq_ok {i : Nat} (h : H.setElement G name i v t c = .ok H') :
    ∃ w, H.coerce G (H.slotTy t c (.index i)) name v = .ok w ∧ H.DiffersIn c H' ∧ H'.element name i c = .ok w := by
  cases c with
  | list l =>
    obtain ⟨w, hw, h⟩ := bind_eq_ok.mp h
    obtain ⟨items, hitems, h⟩ := bind_eq_ok.mp h
    cases h
    obtain ⟨⟨old, hold⟩, rfl⟩ := replaceAt_eq_ok hitems
    have hput := H.puts_set (k := .list) l ((H.get l).set i w)
    obtain ⟨hi, -⟩ := List.getElem?_eq_some_iff.mp hold
    exact ⟨w, hw, hput.differsIn nofun, element_of_items (congrArg some hput.self) (List.getElem?_set_self hi)⟩
  | array a =>
    obtain ⟨w, hw, h⟩ := bind_eq_ok.mp h
    obtain ⟨items, hitems, h⟩ := bind_eq_ok.mp h
    cases h
    obtain ⟨⟨old, hold⟩, rfl⟩ := replaceAt_eq_ok hitems
    have hput := H.puts_set (k := .array) a { H.get a with items := (H.get a).items.set i w }
    obtain ⟨hi, -⟩ := List.getElem?_eq_some_iff.mp hold
    have hitems := congrArg (fun A : TypedArray => some A.items) hput.self
    exact ⟨w, hw, hput.differsIn nofun, element_of_items hitems (List.getElem?_set_self hi)⟩
  | _ => cases h

theorem setEntry_eq_ok {key : String} (h : H.setEntry name key v c = .ok H') :
    H.DiffersIn c H' ∧ H'.entry name key c = .ok v := by
  obtain ⟨d, hd, h⟩ := bind_eq_ok.mp h
  cases h
  have hentries : H.entries? c ≠ none := by
    intro hnone
    rw [entries, hnone] at hd
    cases hd
  refine ⟨differsIn_setEntries _ hentries, ?_⟩
  have hstored : (H.setEntries (d.insert key v) c).entries? c = some (d.insert key v) := by
    cases c with
    | map m => exact congrArg some (H.get_set_self (k := .map) m _)
    | object p => exact congrArg Object.storage (H.get_set_self (k := .object) p _)
    | _ => exact absurd rfl hentries
  rw [entry, entries, hstored]
  show Except.ok (((d.insert key v).get? key).getD .null) = _
  rw [Dict.get?_insert, if_pos rfl]
  rfl

/-- What is written into a container is kept as a slot there takes it, and all else stays as it was. -/
theorem writeAt_eq_ok {u : Subscript} (hu : u ≠ .none) (h : H.writeAt G name t c v u = .ok H') :
    c ≠ .null ∧ ∃ w, H.coerce G (H.slotTy t c u) name v = .ok w ∧ H.DiffersIn c H' ∧ H'.readAt name c u = .ok w := by
  have hc : c ≠ .null := by
    rintro rfl
    cases u with
    | none => exact hu rfl
    | _ => cases h
  refine ⟨hc, ?_⟩
  cases u with
  | none => exact absurd rfl hu
  | index i =>
    rw [writeAt, setElementOf_of_ne hc] at h
    rw [readAt, elementOf_of_ne hc]
    exact setElement_eq_ok h
  | key key =>
    rw [writeAt, setEntryOf_of_ne hc] at h
    rw [readAt, entryOf_of_ne hc]
    exact ⟨v, coerce_any, setEntry_eq_ok h⟩

end Heap

/-! ### What getters hand out -/

namespace Method
variable {G : ClassGraph} {m : Method} {o : Handle .object} {H H₁ K : Heap} {name : String} {c : Value} {k : CellKind}

/-- Whether a call without arguments hands out what it would hand out again as long as the object stays as it is, or
a container that it has made. -/
inductive HandsOut (call : Heap → CallResult) (o : Handle .object) (H : Heap) (c : Value) (H₁ : Heap) : Prop
  | held (hsame : H₁ = H) (hagain : ∀ H', (H'.get o).cls = (H.get o).cls → (H'.get o).fields = (H.get o).fields →
      call H' = .ok (c, H'))
  | made (hadds : H.OnlyAdds H₁) (hlive : H₁.Live c) (hnew : ¬ H.Live c)

theorem exposing_congr {H' : Heap} (hcls : (H'.get o).cls = (H.get o).cls) (owner : ClassId) :
    exposing G H' o owner = exposing G H o owner := by
  rw [exposing, exposing, hcls]

theorem field_congr {H' : Heap} (hfields : (H'.get o).fields = (H.get o).fields) (field : String) :
    H'.field o field = H.field o field := by
  rw [Heap.field, Heap.field, hfields]

theorem handsOut_newList {call : Heap → CallResult} (hadds : H.OnlyAdds K) (items : List Value) :
    HandsOut call o H (K.newList items).1 (K.newList items).2 :=
  .made (hadds.trans (K.onlyAdds_alloc (k := .list) items)) (Heap.has_alloc (k := .list) items)
    fun hlive => K.not_has_next .list (hadds.has hlive)

theorem handsOut_newArray {call : Heap → CallResult} (hadds : H.OnlyAdds K) (t : Ty) (items : List Value) :
    HandsOut call o H (K.newArray t items).1 (K.newArray t items).2 :=
  .made (hadds.trans (K.onlyAdds_alloc (k := .array) _)) (Heap.has_alloc (k := .array) _)
    fun hlive => K.not_has_next .array (hadds.has hlive)

theorem handsOut_getField {owner : ClassId} {field : String} {fresh : Bool}
    (h : run G name o [] H (.getField owner field fresh) = .ok (c, H₁)) :
    HandsOut (fun H' => run G name o [] H' (.getField owner field fresh)) o H c H₁ := by
  obtain ⟨_, hexposing, h⟩ := bind_eq_ok.mp h
  have hagain (hplain : ∀ H' : Heap, (if fresh then H'.copyItems (H.field o field) else (H.field o field, H')) =
      (H.field o field, H')) :
      HandsOut (fun H' => run G name o [] H' (.getField owner field fresh)) o H c H₁ := by
    cases h.symm.trans (congrArg Except.ok (hplain H))
    refine .held rfl fun H' hcls hfields => ?_
    rw [run, exposing_congr hcls, hexposing, field_congr hfields]
    exact congrArg Except.ok (hplain H')
  cases fresh with
  | false => exact hagain fun _ => rfl
  | true =>
    cases hfield : H.field o field with
    | list l =>
      rw [hfield] at h
      cases h
      exact handsOut_newList (.refl H) _
    | array a =>
      rw [hfield] at h
      cases h
      exact handsOut_newArray (.refl H) _ _
    | _ => exact hagain fun _ => by rw [hfield]; rfl

/-- A template builds a new container, unless it is a value. -/
theorem handsOut_constant {t : Template} (h : run G name o [] H (.constant t) = .ok (c, H₁)) :
    HandsOut (fun H' => run G name o [] H' (.constant t)) o H c H₁ := by
  have hblank : ∀ (c : ClassId) (H : Heap), H.OnlyAdds (G.defaultObject c H).2 := G.onlyAdds_blankObject _
  cases t with
  | value v =>
    cases h
    exact .held rfl fun _ _ _ => rfl
  | list items =>
    cases h
    exact handsOut_newList (Template.onlyAdds_buildItems hblank H items) _
  | array component items =>
    cases h
    exact handsOut_newArray (Template.onlyAdds_buildItems hblank H items) _ _
  | map entries =>
    cases h
    have hadds := Template.onlyAdds_buildEntries hblank H entries
    exact .made (hadds.trans (Heap.onlyAdds_alloc (k := .map) _ _)) (Heap.has_alloc (k := .map) _)
      fun hlive => Heap.not_has_next _ .map (hadds.has hlive)
  | object cls fields storage =>
    cases h
    have hadds := ((hblank cls H).trans (Template.onlyAdds_buildEntries hblank _ fields)).trans
      (Template.onlyAdds_buildEntries hblank _ storage)
    exact .made (hadds.trans (Heap.onlyAdds_alloc (k := .object) _ _)) (Heap.has_alloc (k := .object) _)
      fun hlive => Heap.not_has_next _ .object (hadds.has hlive)

theorem handsOut_run {body : Body} (h : run G name o [] H body = .ok (c, H₁)) (hc : c ≠ .null) :
    HandsOut (fun H' => run G name o [] H' body) o H c H₁ := by
  cases body with
  | getField owner field fresh => exact handsOut_getField h
  | setField owner property field refusal =>
    obtain ⟨_, -, h⟩ := bind_eq_ok.mp h
    obtain ⟨_, -, h⟩ := bind_eq_ok.mp h
    cases h
    exact absurd rfl hc
  | getElement owner property field =>
    obtain ⟨_, -, h⟩ := bind_eq_ok.mp h
    cases h
  | setElement => cases h
  | getEntry owner field =>
    obtain ⟨_, -, h⟩ := bind_eq_ok.mp h
    cases h
  | setEntry => cases h
  | answerField field =>
    cases h
    refine .held rfl fun H' hcls hfields => ?_
    rw [run, field_congr hfields]
    rfl
  | storeLast field =>
    cases h
    exact absurd rfl hc
  | constant t => exact handsOut_constant h
  | label =>
    cases h
    refine .held rfl fun H' hcls hfields => ?_
    rw [run, hcls]
    rfl
  | arguments =>
    cases h
    exact handsOut_newList (.refl H) []
  | fail reason => cases h
  | reenter field =>
    rw [run] at h
    split at h
    · rename_i p hfield
      split at h
      · cases h
      · rename_i hp
        cases h
        refine .held rfl fun H' hcls hfields => ?_
        rw [run, field_congr hfields, hfield]
        exact if_neg hp
    · cases h
      exact absurd rfl hc

theorem handsOut_invoke (h : m.invoke G o [] H = .ok (c, H₁)) (hc : c ≠ .null) :
    HandsOut (m.invoke G o []) o H c H₁ := by
  cases hbody : m.body with
  | none =>
    rw [invoke, hbody] at h
    cases h
  | some body =>
    by_cases harity : ([] : List Value).length = m.arity
    · have hinvoke : m.invoke G o [] = fun H' => run G m.name o [] H' body := funext fun H' => by
        rw [invoke, hbody]
        exact if_pos harity
      rw [hinvoke] at h ⊢
      exact handsOut_run h hc
    · rw [invoke, hbody] at h
      dsimp only at h
      rw [if_neg harity] at h
      cases h

end Method

/-! ### Reading and writing through a getter -/

namespace Resolver
variable {G : ClassGraph} {r : Resolver} {s s' : State G} {o : Handle .object} {cls : ClassId} {g : Segment} {v : Value}
  {d : Descriptor} {m : Method}

section
variable (hcls : (s.heap.get o).cls = cls) (hname : g.name.isEmpty = false) (hsubscript : g.subscript ≠ .none)
  (hd : G.descriptor? cls g.name = some d) (hm : d.read = some m)
include hcls hname hsubscript hd hm

theorem run_readSegment_of_read (hnone : d.readElement = none) : ∃ s₁ : State G, s₁.heap = s.heap ∧
    ExceptT.run (r.readSegment (.object o) g) s =
      ExceptT.run (call m o [] >>= fun c => Op.tryRead fun H => H.readAt g.name c g.subscript) s₁ := by
  obtain ⟨s₁, hheap, hds⟩ := run_descriptors r cls s
  refine ⟨s₁, hheap, ?_⟩
  rw [ClassGraph.descriptor?] at hd
  rw [readSegment]
  cases hsub : g.subscript with
  | none => exact absurd hsub hsubscript
  | index i =>
    show ExceptT.run (r.readObjectElement o g.name i) s = _
    rw [readObjectElement, classOf, Op.run_bind_of_ok (Op.run_read s _), hcls, hname, if_neg Bool.false_ne_true]
    dsimp only
    rw [Op.run_bind_of_ok hds, hd]
    simp only [hnone, hm]
    rfl
  | key key =>
    show ExceptT.run (r.readObjectEntry o g.name key) s = _
    rw [readObjectEntry, classOf, Op.run_bind_of_ok (Op.run_read s _), hcls, hname, if_neg Bool.false_ne_true,
      Op.run_bind_of_ok hds, hd]
    simp only [Option.bind_some, hm]
    rfl

theorem run_writeSegment_of_read (hnone : d.writeElement = none) : ∃ s₁ : State G, s₁.heap = s.heap ∧
    ExceptT.run (r.writeSegment (.object o) g v) s = ExceptT.run (call m o [] >>= fun c =>
      Op.tryWrite fun H => H.writeAt G g.name (d.elementTy?.getD .any) c v g.subscript) s₁ := by
  obtain ⟨s₁, hheap, hds⟩ := run_descriptors r cls s
  refine ⟨s₁, hheap, ?_⟩
  rw [ClassGraph.descriptor?] at hd
  rw [writeSegment]
  cases hsub : g.subscript with
  | none => exact absurd hsub hsubscript
  | index i =>
    show ExceptT.run (r.writeObjectElement o g.name i v) s = _
    rw [writeObjectElement, classOf, Op.run_bind_of_ok (Op.run_read s _), hcls, hname, if_neg Bool.false_ne_true]
    dsimp only
    rw [Op.run_bind_of_ok hds, hd]
    simp only [hnone, hm]
    rfl
  | key key =>
    show ExceptT.run (r.writeObjectEntry o g.name key v) s = _
    rw [writeObjectEntry, classOf, Op.run_bind_of_ok (Op.run_read s _), hcls, hname, if_neg Bool.false_ne_true,
      Op.run_bind_of_ok hds, hd]
    simp only [Option.bind_some, hm]
    rfl

end

/-- Without a name a subscript is one of the object itself, which has no storage to be written into. -/
theorem name_ne_empty_of_write (hstorage : (s.heap.get o).storage = none) (hsubscript : g.subscript ≠ .none)
    (h : ExceptT.run (r.writeSegment (.object o) g v) s = (.ok (), s')) : g.name.isEmpty = false := by
  cases hname : g.name.isEmpty with
  | false => rfl
  | true =>
    rw [writeSegment] at h
    cases hsub : g.subscript with
    | none => exact absurd hsub hsubscript
    | index i =>
      rw [hsub] at h
      change ExceptT.run (r.writeObjectElement o g.name i v) s = _ at h
      rw [writeObjectElement, classOf, Op.run_bind_of_ok (Op.run_read s _), hname, if_pos rfl] at h
      cases h
    | key key =>
      rw [hsub] at h
      change ExceptT.run (r.writeObjectEntry o g.name key v) s = _ at h
      rw [writeObjectEntry, classOf, Op.run_bind_of_ok (Op.run_read s _), hname, if_pos rfl, Op.run_tryWrite,
        Heap.setEntry, Heap.entries, Heap.entries?, hstorage] at h
      cases h

/-- A class whose getter answers a copy of the list that its setter takes, and one whose getter answers that list. -/
def listHolders : ClassGraph :=
  let holder (c : ClassId) (name : String) (fresh : Bool) : Class :=
    ⟨name, true, false, none, [], [.getter c "xs" .list "xs" fresh, .setter c "xs" .list "xs" none], true, false, [], false⟩
  [holder 0 "Copying" true, holder 1 "Keeping" false].foldl (fun G c => (G.define? c).getD G) .empty

/-- An object of each of the classes, with a list of one text. -/
def heldLists : State listHolders where
  heap := {
    Heap.empty with
    lists := ⟨#[[.text "a"], [.text "a"]]⟩
    objects := ⟨#[⟨0, .ofList [("xs", .list ⟨0⟩)], none⟩, ⟨1, .ofList [("xs", .list ⟨1⟩)], none⟩]⟩ }
  caches := .empty

end Resolver

end ObjectGraph
