import Mathlib.Logic.Relation
import ObjectGraph.Proofs.Convert.Origin
import ObjectGraph.Proofs.Fence.Resolver
import ObjectGraph.Proofs.Record.Runs
import ObjectGraph.Value.Content

/-!
Programs that convert values and write what they are given.  The array that a type falls back to is given away itself
and no copy of it, so a program that has converted null to the type may write an element of the array, and null is
converted to something else from then on.  But nothing else leads to that array: a program that does not convert null
to the type cannot change what null is converted to, and no program can where the array has no elements.
-/

namespace ObjectGraph

namespace Heap
variable {H : Heap} {v : Value} {a : Handle .array}

theorem content_of_isScalar (hv : v.isScalar = true) : H.content v = .scalar v := by
  cases v <;> first | rfl | cases hv

/-- An array of scalars has the same content on any heap that has the same array. -/
theorem content_array (ha : H.Has a) (hitems : ∀ w ∈ (H.get a).items, w.isScalar = true) :
    H.content (.array a) = .array a (H.get a).component ((H.get a).items.map .scalar) := by
  have hsize : ∃ n, H.size = n + 1 := by
    have harrays : a.index < H.arrays.size := ha
    refine Nat.exists_eq_add_one.mpr ?_
    unfold size
    omega
  obtain ⟨n, hn⟩ := hsize
  have hunfold : ∀ w ∈ (H.get a).items, H.unfold false (n + 1) w = .scalar w := fun w hw => by
    have hscalar := hitems w hw
    cases w <;> first | rfl | cases hscalar
  rw [content, hn, unfold, List.map_congr_left hunfold]

end Heap

/-! ### A fence around an array -/

namespace Fence
variable {F : Fence} {G : ClassGraph} {H H' : Heap} {a : Handle .array} {v : Value}

/-- The fence that keeps out one array, if it has elements that could be written. -/
def aroundArray (H : Heap) (a : Handle .array) (ha : H.Has a) : Fence :=
  ⟨H, true, fun b => b = a ∧ (H.get a).items ≠ [], fun h => h.1 ▸ ha⟩

/-- The array is never changed. -/
theorem get_of_aroundArray {ha : H.Has a} (h : (aroundArray H a ha).Encloses G H') : H'.Has a ∧ H'.get a = H.get a := by
  obtain ⟨hhas, ⟨hcomponent, hlength⟩, hsame⟩ := h.kept ha
  refine ⟨hhas, ?_⟩
  by_cases hitems : (H.get a).items = []
  · have hitems' : (H'.get a).items = [] := List.eq_nil_of_length_eq_zero (hlength.trans (congrArg List.length hitems))
    exact congrArg₂ TypedArray.mk hcomponent (hitems'.trans hitems.symm)
  · exact hsame ⟨rfl, hitems⟩

/-- New cells may be made that hold only values inside. -/
theorem Encloses.of_onlyAdds (h : F.Encloses G H) (hobjects : F.withObjects = true) (hadds : H.OnlyAdds H')
    (hnew : ∀ v, ¬ H.Live v → ∀ w ∈ H'.held v, F.Inside w) : F.Encloses G H' where
  held {v} hv w hw := by
    by_cases hlive : H.Live v
    · refine h.held hv w ?_
      cases v with
      | list j => rwa [Heap.held, hadds.same (k := .list) hlive] at hw
      | array j => rwa [Heap.held, hadds.same (k := .array) hlive] at hw
      | map j => rwa [Heap.held, hadds.same (k := .map) hlive] at hw
      | object j => rwa [Heap.held, hadds.same (k := .object) hlive] at hw
      | record j => rwa [Heap.held, hadds.same (k := .record) hlive] at hw
      | _ => exact hw
    · exact hnew v hlive w hw
  component _ := Or.inl hobjects
  declared _ := Or.inl hobjects
  conforms := Or.inl hobjects
  kept {a} ha := by
    obtain ⟨hhas, hkept⟩ := h.kept ha
    rw [hadds.same (k := .array) hhas]
    exact ⟨hadds.has hhas, hkept⟩
  classes := h.classes

/-- What is not there is not kept out. -/
theorem Encloses.inside_of_not_live (h : F.Encloses G H) (hobjects : F.withObjects = true) (hv : ¬ H.Live v) :
    F.Inside v := by
  cases v with
  | array a => exact fun houtside => hv (h.kept (F.isThere houtside)).1
  | object o => exact hobjects
  | _ => trivial

end Fence

/-- The value that a call on a record is made with. -/
def Record.Call.value? : Record.Call → Option Value
  | .write _ v | .writeElement _ _ v | .writeEntry _ _ v => some v
  | _ => none

/-- A call on a record with a value inside stays inside. -/
theorem Record.Call.encloses_after {F : Fence} {G : ClassGraph} {s : State G} (h : F.Encloses G s.heap)
    (hobjects : F.withObjects = true) (j : Handle .record) {c : Call} (hc : ∀ v, c.value? = some v → F.Inside v) :
    F.Encloses G (c.after j s).heap := by
  cases c with
  | read name => exact (keeps_read h j name).encloses
  | write name v => exact (keeps_write h j name (hc v rfl)).encloses
  | readElement name i => exact (keeps_readElement h j name i).encloses
  | writeElement name i v => exact (keeps_writeElement h j name i (hc v rfl)).encloses
  | readEntry name key => exact (keeps_readEntry h j name key).encloses
  | writeEntry name key v => exact (keeps_writeEntry h j name key (hc v rfl)).encloses
  | hasEntry name key => exact (keeps_hasEntry h j name key).encloses
  | eraseEntry name key => exact (keeps_eraseEntry h j name key).encloses
  | size name => exact (keeps_size h j name).encloses
  | declare p => exact (keeps_declare h j (Or.inl hobjects)).encloses

/-! ### Conversions behind a fence -/

namespace Registry
open Fence
variable {F : Fence} {G : ClassGraph} {H H' H₀ : Heap} {config : RegistryConfig} {t c : Ty} {v w : Value}

/-- The arrays to fall back to hold scalars, and nothing else is made with them. -/
theorem held_putArrays {R : Registry} {ts : List Ty} (h : w ∈ (putArrays config R H ts).2.held v) :
    w ∈ H.held v ∨ w.isScalar = true := by
  induction ts generalizing R H with
  | nil => exact Or.inl h
  | cons c ts ih =>
    have hp := H.puts_alloc (k := .array) (.filled c config.arrayLength)
    have hrest : w ∈ (H.alloc .array (.filled c config.arrayLength)).2.held v ∨ w.isScalar = true := ih h
    refine hrest.elim (fun h => ?_) Or.inr
    by_cases hv : v = .array (H.next .array)
    · have hcell : (H.alloc .array (.filled c config.arrayLength)).2.get (H.next .array) = _ := hp.self
      rw [hv, Heap.held, hcell] at h
      obtain rfl := List.eq_of_mem_replicate h
      exact Or.inr (Ty.isScalar_zero c)
    · exact Or.inl (hp.held_of_ne hv ▸ h)

/-- At the start nothing that is held leads to an array that a type falls back to. -/
theorem encloses_withConfig {R : Registry} {a : Handle .array} (hstart : withConfig config H₀ = (R, H))
    (hheld : ∀ v, ∀ w ∈ H₀.held v, H₀.Live w) (hclasses : ∀ v, G.Mentions v → H₀.Live v) (ha : H.Has a)
    (hfresh : ¬ H₀.Has a) :
    (aroundArray H a ha).Encloses G H ∧ ∀ v, H₀.Live v → (aroundArray H a ha).Inside v := by
  have hold : ∀ v, H₀.Live v → (aroundArray H a ha).Inside v := fun v hv => by
    cases v with
    | array b =>
      rintro ⟨rfl, -⟩
      exact hfresh hv
    | object o => rfl
    | _ => trivial
  refine ⟨⟨fun {v} _ w hw => ?_, fun _ => Or.inl rfl, fun _ => Or.inl rfl, Or.inl rfl, fun hb => ?_, fun _ v hv => ?_⟩,
    hold⟩
  · have hputs : w ∈ (withConfig config H₀).2.held v := by rwa [hstart]
    rcases held_putArrays hputs with hw | hw
    · exact hold w (hheld v w hw)
    · exact inside_of_isScalar hw
  · exact ⟨hb, .refl _, fun _ => rfl⟩
  · exact hold v (hclasses v hv)

/-- What is there or has been made of scalars leads nowhere. -/
theorem encloses_newArray (h : F.Encloses G H) (hobjects : F.withObjects = true) {vs : List Value}
    (hnew : (w, H') = H.newArray c vs) (hvs : ∀ v ∈ vs, v.isScalar = true) : F.Encloses G H' ∧ F.Inside w := by
  have hboth := h.newArray (c := c) (fun v hv => inside_of_isScalar (hvs v hv)) (Or.inl hobjects) (Or.inl hobjects)
  rwa [← hnew] at hboth

theorem encloses_convert (h : F.Encloses G H) (hobjects : F.withObjects = true) (hv : F.Inside v)
    (hnull : v = .null → ∀ w, (withConfig config H₀).1.default? t = some w → F.Inside w)
    (hok : (withConfig config H₀).1.convert G t v H = .ok (w, H')) : F.Encloses G H' ∧ F.Inside w := by
  rcases convert_origin hok with ⟨rfl, rfl | hw⟩ | ⟨hvnull, rfl, hdefault⟩ | ⟨c, vs, hnew, hvs⟩
  · exact ⟨h, hv⟩
  · exact ⟨h, inside_of_isScalar hw⟩
  · exact ⟨h, hnull hvnull w hdefault⟩
  · exact encloses_newArray h hobjects hnew hvs

theorem encloses_convertText {text : String} (h : F.Encloses G H) (hobjects : F.withObjects = true)
    (hok : (withConfig config H₀).1.convertText G t text H = .ok (w, H')) : F.Encloses G H' ∧ F.Inside w := by
  rcases convertText_origin hok with ⟨rfl, hw⟩ | ⟨c, vs, hnew, hvs⟩
  · exact ⟨h, inside_of_isScalar hw⟩
  · exact encloses_newArray h hobjects hnew hvs

theorem encloses_convertTexts {texts : List String} (h : F.Encloses G H) (hobjects : F.withObjects = true)
    (hok : (withConfig config H₀).1.convertTexts G t texts H = .ok (w, H')) : F.Encloses G H' ∧ F.Inside w := by
  obtain ⟨⟨ws, H₁⟩, hall, hnew⟩ := bind_eq_ok.mp hok
  obtain ⟨hencloses, hws⟩ := Converter.keeps_convertAll (fun hH hw => encloses_convertText hH hobjects hw) h hall
  cases hnew
  exact hencloses.newArray hws (Or.inl hobjects) (Or.inl hobjects)

end Registry

/-! ### Programs -/

/-- A program at work: the state that it has brought about, and the containers that it knows. -/
structure Session (G : ClassGraph) where
  state : State G
  known : Value → Prop

namespace Session
open Fence Relation
variable {F : Fence} {G : ClassGraph} {config : RegistryConfig} {H₀ : Heap} {P P' : Session G} {nulls : Ty → Prop}
  {T : Ty}

/-- Whether a program can use a value: it is a scalar, or a container that the program knows. -/
def CanUse (P : Session G) (v : Value) : Prop := v.isScalar = true ∨ P.known v

/-- After an operation the program knows the answer, if there is one. -/
def ask (P : Session G) (x : Op G Value) : Session G :=
  ⟨(ExceptT.run x P.state).2, fun v => P.known v ∨ (ExceptT.run x P.state).1 = .ok v⟩

/-- After an operation without an answer the program knows what it knew. -/
def tell (P : Session G) (x : Op G Unit) : Session G := ⟨(ExceptT.run x P.state).2, P.known⟩

/-- What a program does next that converts null only to some types: it converts a value or texts, it reads or writes a
path or a single segment of one, it calls a record, or it makes new containers. -/
inductive Step (R : Registry) (nulls : Ty → Prop) : Session G → Session G → Prop
  | convert {P : Session G} {v : Value} (t : Ty) (hv : P.CanUse v) (hnull : v = .null → nulls t) :
      Step R nulls P (P.ask (Op.tryChange (R.convert G t v)))
  | convertText {P : Session G} (t : Ty) (text : String) :
      Step R nulls P (P.ask (Op.tryChange (R.convertText G t text)))
  | convertTexts {P : Session G} (t : Ty) (texts : List String) :
      Step R nulls P (P.ask (Op.tryChange (R.convertTexts G t texts)))
  | read {P : Session G} (r : Resolver) {t : Value} (path : String) (ht : P.CanUse t) :
      Step R nulls P (P.ask (r.read t path))
  | readSegment {P : Session G} (r : Resolver) {t : Value} (g : Segment) (ht : P.CanUse t) :
      Step R nulls P (P.ask (r.readSegment t g))
  | write {P : Session G} (r : Resolver) {t v : Value} (path : String) (ht : P.CanUse t) (hv : P.CanUse v) :
      Step R nulls P (P.tell (r.write t path v))
  | writeSegment {P : Session G} (r : Resolver) {t v : Value} (g : Segment) (ht : P.CanUse t) (hv : P.CanUse v) :
      Step R nulls P (P.tell (r.writeSegment t g v))
  | call {P : Session G} (j : Handle .record) (c : Record.Call) (hc : ∀ v, c.value? = some v → P.CanUse v) :
      Step R nulls P ⟨c.after j P.state, P.known⟩
  | make {P : Session G} {H : Heap} (hadds : P.state.heap.OnlyAdds H)
      (hnew : ∀ v, ¬ P.state.heap.Live v → ∀ w ∈ H.held v, P.CanUse w ∨ ¬ P.state.heap.Live w) :
      Step R nulls P ⟨{ P.state with heap := H }, fun v => P.known v ∨ ¬ P.state.heap.Live v⟩

/-- Whether a program is behind a fence, with all that it knows. -/
structure Within (P : Session G) (F : Fence) : Prop where
  encloses : F.Encloses G P.state.heap
  inside : ∀ {v}, P.known v → F.Inside v

namespace Within

theorem canUse (h : P.Within F) {v : Value} (hv : P.CanUse v) : F.Inside v := hv.elim inside_of_isScalar h.inside

theorem ask (h : P.Within F) {x : Op G Value} (hx : F.Keeps P.state x F.Inside) : (P.ask x).Within F :=
  ⟨hx.encloses, fun hv => hv.elim h.inside hx.answer⟩

theorem tell (h : P.Within F) {x : Op G Unit} (hx : F.Keeps P.state x fun _ => True) : (P.tell x).Within F :=
  ⟨hx.encloses, h.inside⟩

end Within

/-- A program stays behind a fence that lets through what it converts null to. -/
theorem Step.within (hobjects : F.withObjects = true)
    (hnulls : ∀ t w, nulls t → (Registry.withConfig config H₀).1.default? t = some w → F.Inside w)
    (hstep : Step (Registry.withConfig config H₀).1 nulls P P') (h : P.Within F) : P'.Within F := by
  have hP := h.encloses
  cases hstep with
  | convert t hv hnull =>
    refine h.ask (hP.keeps_tryChange fun hok => ?_)
    exact Registry.encloses_convert hP hobjects (h.canUse hv) (fun hvnull w => hnulls t w (hnull hvnull)) hok
  | convertText t text => exact h.ask (hP.keeps_tryChange fun hok => Registry.encloses_convertText hP hobjects hok)
  | convertTexts t texts => exact h.ask (hP.keeps_tryChange fun hok => Registry.encloses_convertTexts hP hobjects hok)
  | read r path ht => exact h.ask (Resolver.keeps_read hP (h.canUse ht) path)
  | readSegment r g ht => exact h.ask (Resolver.keeps_readSegment hP (h.canUse ht) g)
  | write r path ht hv => exact h.tell (Resolver.keeps_write hP (h.canUse ht) path (h.canUse hv))
  | writeSegment r g ht hv => exact h.tell (Resolver.keeps_writeSegment hP (h.canUse ht) g (h.canUse hv))
  | call j c hc => exact ⟨Record.Call.encloses_after hP hobjects j fun v hv => h.canUse (hc v hv), h.inside⟩
  | make hadds hnew =>
    refine ⟨hP.of_onlyAdds hobjects hadds fun v hv w hw => ?_, fun hv => ?_⟩
    · exact (hnew v hv w hw).elim h.canUse (hP.inside_of_not_live hobjects)
    · exact hv.elim h.inside (hP.inside_of_not_live hobjects)

theorem within_of_run (hobjects : F.withObjects = true)
    (hnulls : ∀ t w, nulls t → (Registry.withConfig config H₀).1.default? t = some w → F.Inside w)
    (hrun : ReflTransGen (Step (Registry.withConfig config H₀).1 nulls) P P') (h : P.Within F) : P'.Within F := by
  induction hrun with
  | refl => exact h
  | tail _ hstep ih => exact hstep.within hobjects hnulls ih

/-- However a program uses a new registry, null is converted to the same content as at the start, or fails as it did,
unless the program itself converts null to the type and the type falls back to an array with elements.  The heap is one
on which all that is held is there, and the program starts with what was there before the registry. -/
theorem convert_null_keeps_content {R : Registry} (hstart : Registry.withConfig config H₀ = (R, P.state.heap))
    (hheld : ∀ v, ∀ w ∈ H₀.held v, H₀.Live w) (hclasses : ∀ v, G.Mentions v → H₀.Live v)
    (hknown : ∀ v, P.known v → H₀.Live v) (hrun : ReflTransGen (Step R nulls) P P')
    (hT : config.isStrict = true ∨ T.component? = none ∨ config.arrayLength = 0 ∨ ¬ nulls T) :
    (∃ e, R.convert G T .null P.state.heap = .error e ∧ R.convert G T .null P'.state.heap = .error e) ∨
    ∃ v, R.convert G T .null P.state.heap = .ok (v, P.state.heap) ∧
      R.convert G T .null P'.state.heap = .ok (v, P'.state.heap) ∧
      P'.state.heap.content v = P.state.heap.content v := by
  have hR : (Registry.withConfig config H₀).1 = R := congrArg Prod.fst hstart
  rcases R.convert_null (G := G) T with ⟨e, he⟩ | ⟨v, hv, hdefault⟩
  · exact Or.inl ⟨e, he _, he _⟩
  refine Or.inr ⟨v, hv _, hv _, ?_⟩
  have hscalar (hv : v.isScalar = true) : P'.state.heap.content v = P.state.heap.content v :=
    (Heap.content_of_isScalar hv).trans (Heap.content_of_isScalar hv).symm
  rcases hdefault with rfl | hdefault
  · exact hscalar rfl
  have hfalls : Registry.FallsBack config.arrayLength H₀ R P.state.heap := by
    have hfalls := Registry.fallsBack_withConfig config H₀
    rwa [hstart] at hfalls
  rcases hfalls.origin hdefault with hv | ⟨c, a, rfl, rfl, hfresh, ha, hcell⟩
  · exact hscalar hv
  -- Without elements the array cannot be written, and the fence lets it through.
  have hnulls : ∀ t w, nulls t → R.default? t = some w → (aroundArray _ a ha).Inside w := by
    intro t w ht hw
    rcases hfalls.origin hw with hscalar | ⟨c', b, -, rfl, -, -, -⟩
    · exact inside_of_isScalar hscalar
    · rintro ⟨rfl, hitems⟩
      rcases hT with hstrict | hcomponent | hlength | hasked
      · rw [← hR, Registry.default?_of_strict hstrict] at hdefault
        cases hdefault
      · cases hcomponent
      · rw [hcell, hlength] at hitems
        exact hitems rfl
      · exact hasked (hfalls.distinct hdefault hw ▸ ht)
  obtain ⟨hencloses, hold⟩ := Registry.encloses_withConfig hstart hheld hclasses ha hfresh
  subst hR
  have hwithin : P'.Within (aroundArray _ a ha) :=
    within_of_run rfl hnulls hrun ⟨hencloses, fun hv => hold _ (hknown _ hv)⟩
  obtain ⟨hhas, hsame⟩ := get_of_aroundArray hwithin.encloses
  have hitems : ∀ w ∈ (P.state.heap.get a).items, w.isScalar = true := fun w hw => by
    rw [hcell] at hw
    obtain rfl := List.eq_of_mem_replicate hw
    exact Ty.isScalar_zero c
  rw [Heap.content_array ha hitems, Heap.content_array hhas (hsame.symm ▸ hitems), hsame]

/-- A registry with arrays of one element to fall back to. -/
def defaults : Registry × Heap := Registry.withConfig ⟨false, false, 1⟩ .empty

/-- A program with that registry that knows nothing yet. -/
def fresh : Session .empty := ⟨⟨defaults.2, .empty⟩, fun _ => False⟩

/-- The program after it has converted null to an array, and has written the first element of the array. -/
def written (a : Handle .array) (c : Ty) (v : Value) : Session .empty :=
  (fresh.ask (Op.tryChange (defaults.1.convert .empty (.array c) .null))).tell
    (Resolver.writeSegment ⟨0⟩ (.array a) ⟨"", .index 0⟩ v)

theorem run_written {a : Handle .array} {c : Ty} {v : Value} (hv : v.isScalar = true)
    (ha : defaults.1.convert .empty (.array c) .null defaults.2 = .ok (.array a, defaults.2)) :
    ReflTransGen (Step defaults.1 (· = .array c)) fresh (written a c v) := by
  have hasked : (fresh.ask (Op.tryChange (defaults.1.convert .empty (.array c) .null))).known (.array a) :=
    Or.inr (congrArg Prod.fst (Op.run_tryChange_of_ok (s := fresh.state) ha))
  exact (ReflTransGen.single (.convert (.array c) (Or.inl rfl) fun _ => rfl)).tail
    (.writeSegment ⟨0⟩ ⟨"", .index 0⟩ (Or.inr hasked) (Or.inl hv))

/-- After null has been converted to an array and its element has been written, null is converted to an array with
another content than before. -/
theorem convert_null_after_write : ∃ (P : Session .empty) (v : Value),
    ReflTransGen (Step defaults.1 (· = .array (.primitive (.int .w32)))) fresh P ∧
    defaults.1.convert .empty (.array (.primitive (.int .w32))) .null fresh.state.heap = .ok (v, fresh.state.heap) ∧
    defaults.1.convert .empty (.array (.primitive (.int .w32))) .null P.state.heap = .ok (v, P.state.heap) ∧
    P.state.heap.content v ≠ fresh.state.heap.content v := by
  have hconvert (H : Heap) : defaults.1.convert .empty (.array (.primitive (.int .w32))) .null H =
      .ok (.array ⟨8⟩, H) := rfl
  refine ⟨written ⟨8⟩ (.primitive (.int .w32)) (.int .w32 ⟨7, by decide⟩), .array ⟨8⟩, run_written rfl (hconvert _),
    hconvert _, hconvert _, fun hsame => ?_⟩
  have hseven := Heap.content_array (H := (written ⟨8⟩ (.primitive (.int .w32)) (.int .w32 ⟨7, by decide⟩)).state.heap)
    (a := ⟨8⟩) (by unfold Heap.Has; decide) (List.forall_mem_singleton.mpr rfl)
  have hzero := Heap.content_array (H := fresh.state.heap) (a := ⟨8⟩) (by unfold Heap.Has; decide)
    (List.forall_mem_singleton.mpr rfl)
  cases hseven.symm.trans (hsame.trans hzero)

/-- Whoever converts null to arrays of another type only may write these. -/
theorem convert_null_keeps_content_of_others : ∃ (P : Session .empty) (v : Value),
    P = written ⟨10⟩ (.primitive (.int .w64)) (.int .w64 ⟨7, by decide⟩) ∧
    defaults.1.convert .empty (.array (.primitive (.int .w32))) .null fresh.state.heap = .ok (v, fresh.state.heap) ∧
    defaults.1.convert .empty (.array (.primitive (.int .w32))) .null P.state.heap = .ok (v, P.state.heap) ∧
    P.state.heap.content v = fresh.state.heap.content v := by
  have hheld : ∀ v, ∀ w ∈ Heap.empty.held v, Heap.empty.Live w := fun v w hw => by
    cases v <;> cases hw
  have hclasses : ∀ v, ClassGraph.empty.Mentions v → Heap.empty.Live v := fun v hv => by
    obtain ⟨c, ⟨e, he, -⟩ | ⟨m, hm, -⟩⟩ := hv
    · cases he
    · cases hm
  have hother : ¬ Ty.array (.primitive (.int .w32)) = .array (.primitive (.int .w64)) := nofun
  have hstart : Registry.withConfig ⟨false, false, 1⟩ .empty = (defaults.1, fresh.state.heap) := rfl
  have hrun := run_written (a := ⟨10⟩) (c := .primitive (.int .w64)) (v := .int .w64 ⟨7, by decide⟩) rfl rfl
  rcases convert_null_keeps_content hstart hheld hclasses (fun _ hv => False.elim hv) hrun
    (Or.inr (Or.inr (Or.inr hother))) with ⟨e, he, -⟩ | ⟨v, hbefore, hafter, hsame⟩
  · cases he
  · exact ⟨_, v, rfl, hbefore, hafter, hsame⟩

end Session

end ObjectGraph
