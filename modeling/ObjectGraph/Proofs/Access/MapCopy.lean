import ObjectGraph.Proofs.Access.Lens
import ObjectGraph.Proofs.Object.Outcome

/-!
Copying one map to another.  An entry is written under its key as it stands, but whether it may be written is asked
with the key as a path: a key that is no path, or leads to no map, is left out.
-/

namespace ObjectGraph

/-- Whether an operation never fails. -/
def Op.Succeeds {G : ClassGraph} {α : Type} (x : Op G α) : Prop := ∀ s : State G, ∃ a s', ExceptT.run x s = (.ok a, s')

namespace Op.Succeeds
variable {G : ClassGraph} {α β : Type} {x : Op G α}

theorem bind {k : α → Op G β} (hx : x.Succeeds) (hk : ∀ a, (k a).Succeeds) : (x >>= k).Succeeds := by
  intro s
  obtain ⟨a, s', hrun⟩ := hx s
  rw [run_bind_of_ok hrun]
  exact hk a s'

theorem read (f : Heap → α) : (Op.read f : Op G α).Succeeds := fun _ => ⟨_, _, rfl⟩

theorem pure (a : α) : (Pure.pure a : Op G α).Succeeds := read fun _ => a

theorem ask (r : Resolver) (f : SoundCache G → α × SoundCache G) : (Op.ask r f).Succeeds := fun _ => ⟨_, _, rfl⟩

theorem attempt (x : Op G α) : (Op.attempt x).Succeeds := fun _ => ⟨_, _, rfl⟩

end Op.Succeeds

/-- Whether a value is a map. -/
def Value.isMap : Value → Bool
  | map _ => true
  | _ => false

namespace Heap
variable {H : Heap} {m n : Handle .map} {t u v : Value} {st : Step} {d : Dict Value} {key : String} {p : Path}

/-- Whether a value holds neither objects nor records, directly or through others, and is none itself. -/
def PlainBelow (H : Heap) (v : Value) : Prop := ∀ u, H.Reaches v u → u.isPlain = true

/-- Whether a key, read as a path, leads from a map to a property of a map. -/
def leads (H : Heap) (n : Handle .map) (key : String) : Bool :=
  match Path.parse key with
  | .error _ => false
  | .ok p => (H.follow? (.map n) (p.parents.flatMap Segment.steps)).any Value.isMap

/-- Adds an entry to a map if its key leads to a property of a map. -/
def put (H : Heap) (n : Handle .map) (e : String × Value) : Heap :=
  if H.leads n e.1 then H.set n ((H.get n).insert e.1 e.2) else H

/-- Adds entries to a map, one after the other. -/
def putAll (H : Heap) (n : Handle .map) (es : List (String × Value)) : Heap := es.foldl (fun H e => H.put n e) H

/-! ### Keys as paths -/

theorem leads_of_single (h : Path.parse key = .ok p) (hp : p.parents = []) : H.leads n key = true := by
  rw [leads, h]
  dsimp only
  rw [hp]
  rfl

theorem leads_of_error {e : PathError} (h : Path.parse key = .error e) : H.leads n key = false := by
  rw [leads, h]

theorem follow?_of_not_isContainer {steps : List Step} (hv : v.isContainer = false) (hu : H.follow? v steps = some u) :
    u = v := by
  cases steps with
  | nil => exact (Option.some.inj hu).symm
  | cons st steps =>
    obtain ⟨w, hw, -⟩ := follow?_cons_eq_some.mp hu
    rw [isContainer_of_slot? hw] at hv
    cases hv

/-- Nothing is reached through an entry that is no container. -/
theorem leads_of_not_isContainer {g : Segment} {gs : List Segment} (h : Path.parse key = .ok p)
    (hp : p.parents = g :: gs) (hname : g.name ≠ "")
    (hv : (((H.get n).get? g.name).getD .null).isContainer = false) : H.leads n key = false := by
  have hsteps : p.parents.flatMap Segment.steps = .key g.name :: (g.subscript.steps ++ gs.flatMap Segment.steps) := by
    rw [hp, List.flatMap_cons, Segment.steps, if_neg hname, List.cons_append]
  rw [leads, h]
  dsimp only
  rw [hsteps, Option.any_eq_false]
  intro u hu
  have hreached : H.follow? (((H.get n).get? g.name).getD .null) (g.subscript.steps ++ gs.flatMap Segment.steps) =
    some u := hu
  obtain rfl := follow?_of_not_isContainer hv hreached
  cases hu : ((H.get n).get? g.name).getD .null <;> first | rfl | (rw [hu] at hv; cases hv)

/-! ### Entries of the written map -/

theorem get?_put_of_ne {e : String × Value} (hne : key ≠ e.1) : Dict.get? ((H.put n e).get n) key =
    Dict.get? (H.get n) key := by
  unfold put
  split
  · rw [H.get_set_self (k := .map), Dict.get?_insert, if_neg hne]
  · rfl

theorem get?_put_self {e : String × Value} : Dict.get? ((H.put n e).get n) e.1 =
    if H.leads n e.1 then some e.2 else Dict.get? (H.get n) e.1 := by
  unfold put
  split
  · rw [H.get_set_self (k := .map), Dict.get?_insert, if_pos rfl]
  · rfl

/-- Whether all cells of two heaps are the same, except perhaps one map. -/
structure ChangesMap (H : Heap) (n : Handle .map) (H' : Heap) : Prop where
  map : ∀ {j : Handle .map}, j ≠ n → H'.get j = H.get j
  other : ∀ {k : CellKind} {j : Handle k}, k ≠ .map → H'.get j = H.get j

theorem changesMap_put (e : String × Value) : H.ChangesMap n (H.put n e) := by
  unfold put
  split
  · exact ⟨H.get_set_of_ne (k := .map) _, H.get_set_of_kind_ne (k := .map) _⟩
  · exact ⟨fun _ => rfl, fun _ => rfl⟩

theorem changesMap_putAll (es : List (String × Value)) : H.ChangesMap n (H.putAll n es) := by
  induction es generalizing H with
  | nil => exact ⟨fun _ => rfl, fun _ => rfl⟩
  | cons e es ih =>
    have hfirst := H.changesMap_put (n := n) e
    have hrest := ih (H := H.put n e)
    exact ⟨fun hj => (hrest.map hj).trans (hfirst.map hj), fun hk => (hrest.other hk).trans (hfirst.other hk)⟩

theorem get?_putAll_of_not_mem {es : List (String × Value)} (hkey : ∀ e ∈ es, key ≠ e.1) :
    Dict.get? ((H.putAll n es).get n) key = Dict.get? (H.get n) key := by
  induction es generalizing H with
  | nil => rfl
  | cons e es ih =>
    have hrest := ih (H := H.put n e) fun e he => hkey e (List.mem_cons_of_mem _ he)
    exact hrest.trans (get?_put_of_ne (hkey e List.mem_cons_self))

/-- What a map holds under a key has been there before, or has been added. -/
theorem get?_putAll_cases (key : String) (es : List (String × Value)) :
    Dict.get? ((H.putAll n es).get n) key = Dict.get? (H.get n) key ∨
      ∃ e ∈ es, e.1 = key ∧ Dict.get? ((H.putAll n es).get n) key = some e.2 := by
  induction es generalizing H with
  | nil => exact Or.inl rfl
  | cons e es ih =>
    rcases ih (H := H.put n e) with hsame | ⟨e', he', hkey, hadded⟩
    · by_cases hkey : key = e.1
      · subst hkey
        rw [get?_put_self] at hsame
        split at hsame
        · exact Or.inr ⟨e, List.mem_cons_self, rfl, hsame⟩
        · exact Or.inl hsame
      · exact Or.inl (hsame.trans (get?_put_of_ne hkey))
    · exact Or.inr ⟨e', List.mem_cons_of_mem _ he', hkey, hadded⟩

/-- Whether an entry is added is decided when those with smaller keys have been. -/
theorem get?_putAll_of_mem {es : List (String × Value)} (hes : Ascending es) (hmem : (key, v) ∈ es) :
    Dict.get? ((H.putAll n es).get n) key =
      if (H.putAll n (es.filter fun e => e.1 < key)).leads n key then some v else Dict.get? (H.get n) key := by
  induction es generalizing H with
  | nil => cases hmem
  | cons e es ih =>
    obtain ⟨hhead, htail⟩ := List.pairwise_cons.mp hes
    rcases List.mem_cons.mp hmem with rfl | hmem
    · have hlater : ∀ e ∈ es, key ≠ e.1 := fun e he => (String.ne_of_lt (hhead e he))
      have hnone : ((key, v) :: es).filter (fun e => e.1 < key) = [] := by
        refine List.filter_eq_nil_iff.mpr fun e he hsmaller => ?_
        have hlt := of_decide_eq_true hsmaller
        rcases List.mem_cons.mp he with rfl | he
        · exact String.lt_irrefl _ hlt
        · exact String.lt_irrefl _ (String.lt_trans hlt (hhead e he))
      rw [hnone]
      exact (get?_putAll_of_not_mem hlater).trans get?_put_self
    · have hlt := hhead _ hmem
      have hfilter : (e :: es).filter (fun e => e.1 < key) = e :: es.filter fun e => e.1 < key :=
        List.filter_cons_of_pos (decide_eq_true hlt)
      rw [hfilter]
      have hrest := ih (H := H.put n e) htail hmem
      rw [get?_put_of_ne (String.ne_of_lt hlt).symm] at hrest
      exact hrest

/-- Nothing is reached through a name under which there was no container and none has been added. -/
theorem leads_putAll_of_not_isContainer {g : Segment} {gs : List Segment} {es : List (String × Value)}
    (h : Path.parse key = .ok p) (hp : p.parents = g :: gs) (hname : g.name ≠ "")
    (hold : (((H.get n).get? g.name).getD .null).isContainer = false)
    (hadded : ∀ e ∈ es, e.1 = g.name → e.2.isContainer = false) : (H.putAll n es).leads n key = false := by
  refine leads_of_not_isContainer h hp hname ?_
  rcases get?_putAll_cases (H := H) (n := n) g.name es with hsame | ⟨e, he, hkey, hsome⟩
  · rwa [hsame]
  · rw [hsome]
    exact hadded e he hkey

/-! ### What is below a map -/

theorem PlainBelow.self (h : H.PlainBelow v) : v.isPlain = true := h v .refl

theorem plainBelow_null : H.PlainBelow .null := by
  intro u hu
  rcases hu.cases_head with rfl | ⟨w, hw, -⟩
  · rfl
  · cases hw

theorem PlainBelow.slot? (h : H.PlainBelow t) (hslot : H.slot? t st = some v) : H.PlainBelow v := by
  by_cases hv : v = .null
  · exact hv ▸ plainBelow_null
  · obtain ⟨i, hi, -⟩ := exists_place_of_slot? hslot hv
    exact fun u hu => h u (.head (List.mem_of_getElem? hi) hu)

theorem PlainBelow.follow? {steps : List Step} (h : H.PlainBelow t) (hv : H.follow? t steps = some v) :
    H.PlainBelow v := by
  induction steps generalizing t with
  | nil =>
    cases hv
    exact h
  | cons st steps ih =>
    obtain ⟨w, hw, hrest⟩ := follow?_cons_eq_some.mp hv
    exact ih (h.slot? hw) hrest

theorem mem_held_map {m : Handle .map} {e : String × Value} (he : e ∈ Dict.entries (H.get m)) :
    e.2 ∈ H.held (.map m) := List.mem_map_of_mem he

/-- What holds no handle of a written map holds what it held. -/
theorem held_set_map (hv : v ≠ .map n) : (H.set n d).held v = H.held v := by
  cases v with
  | map j =>
    have hj : j ≠ n := fun h => hv (congrArg Value.map h)
    exact congrArg (fun d : Dict Value => d.entries.map Prod.snd) (H.get_set_of_ne (k := .map) d hj)
  | list l => exact H.get_set_of_kind_ne (k := .map) (j := l) d (by decide)
  | array a => exact congrArg TypedArray.items (H.get_set_of_kind_ne (k := .map) (j := a) d (by decide))
  | object o => simp only [held, H.get_set_of_kind_ne (k := .map) (j := o) d (by decide)]
  | record r => simp only [held, H.get_set_of_kind_ne (k := .map) (j := r) d (by decide)]
  | _ => rfl

/-- An entry that is added brings below the map what is below its value. -/
theorem PlainBelow.put {e : String × Value} (hn : H.PlainBelow (.map n)) (he : H.PlainBelow e.2)
    (ht : H.PlainBelow t) : (H.put n e).PlainBelow t := by
  unfold Heap.put
  split
  · have hall : ∀ u, Relation.ReflTransGen (fun v u => u ∈ (H.set n ((H.get n).insert e.1 e.2)).held v) t u →
        H.PlainBelow u := by
      intro u hu
      induction hu with
      | refl => exact ht
      | @tail w u _ hmem ih =>
        by_cases hw : w = .map n
        · subst hw
          have hmem' : u ∈ ((H.get n).insert e.1 e.2).entries.map Prod.snd := by
            rwa [held, H.get_set_self (k := .map)] at hmem
          obtain ⟨e', he', rfl⟩ := List.mem_map.mp hmem'
          rcases Ascending.mem_insert he' with rfl | hold
          · exact he
          · exact fun u hu => hn u (.head (mem_held_map hold) hu)
        · rw [held_set_map hw] at hmem
          exact fun u hu => ih u (.head hmem hu)
    exact fun u hu => (hall u hu).self
  · exact ht

/-- Whether no object and no record is on the way where a key of one map, read as a path, is followed in another. -/
def Navigable (H : Heap) (m n : Handle .map) : Prop :=
  ∀ e ∈ Dict.entries (H.get m), ∀ p, Path.parse e.1 = .ok p → p.parents ≠ [] →
    H.PlainBelow (.map n) ∧ H.PlainBelow (.map m)

/-- Whether a heap is one after a map has been copied to another one.  What that one has under keys that the first one
lacks stays.  An entry whose key is a path of one segment is copied.  One whose key is no path is left out, and so is
one whose key has several segments, if neither map held a container under the first of the names.  In general an entry
is copied if its key leads to a property of a map when all entries with smaller keys have been dealt with. -/
structure CopiedInto (H : Heap) (m n : Handle .map) (H' : Heap) : Prop where
  changes : H.ChangesMap n H'
  absent : ∀ {key}, Dict.get? (H.get m) key = none → Dict.get? (H'.get n) key = Dict.get? (H.get n) key
  single : ∀ {key v p}, Dict.get? (H.get m) key = some v → Path.parse key = .ok p → p.parents = [] →
    Dict.get? (H'.get n) key = some v
  malformed : ∀ {key v e}, Dict.get? (H.get m) key = some v → Path.parse key = .error e →
    Dict.get? (H'.get n) key = Dict.get? (H.get n) key
  nested : ∀ {key v p g gs}, Dict.get? (H.get m) key = some v → Path.parse key = .ok p → p.parents = g :: gs →
    g.name ≠ "" → (((H.get m).get? g.name).getD .null).isContainer = false →
    (((H.get n).get? g.name).getD .null).isContainer = false → Dict.get? (H'.get n) key = Dict.get? (H.get n) key
  turn : ∀ {key v}, Dict.get? (H.get m) key = some v → Dict.get? (H'.get n) key =
    if (H.putAll n ((Dict.entries (H.get m)).filter fun e => e.1 < key)).leads n key then some v
    else Dict.get? (H.get n) key

theorem get?_putAll_of_get? (n : Handle .map) (hsome : Dict.get? (H.get m) key = some v) :
    Dict.get? ((H.putAll n (Dict.entries (H.get m))).get n) key =
      if (H.putAll n ((Dict.entries (H.get m)).filter fun e => e.1 < key)).leads n key then some v
      else Dict.get? (H.get n) key :=
  get?_putAll_of_mem (Dict.ascending (H.get m)) (Dict.mem_of_get? hsome)

theorem copiedInto_putAll (H : Heap) (m n : Handle .map) : H.CopiedInto m n (H.putAll n (Dict.entries (H.get m))) := by
  refine ⟨changesMap_putAll _, fun hnone => ?_, fun hsome hparse hparents => ?_, fun hsome hparse => ?_,
    fun hsome hparse hparents hname hm hn => ?_, get?_putAll_of_get? n⟩
  · refine get?_putAll_of_not_mem fun e he hkey => ?_
    rw [hkey, Dict.get?_of_mem he] at hnone
    cases hnone
  · rw [get?_putAll_of_get? n hsome, leads_of_single hparse hparents, if_pos rfl]
  · rw [get?_putAll_of_get? n hsome, leads_of_error hparse, if_neg Bool.false_ne_true]
  · rw [get?_putAll_of_get? n hsome, leads_putAll_of_not_isContainer hparse hparents hname hn,
      if_neg Bool.false_ne_true]
    intro e he hkey
    rw [← hkey, Dict.get?_of_mem (List.mem_of_mem_filter he)] at hm
    exact hm

theorem Navigable.put {e : String × Value} (h : H.Navigable m n) (hne : m ≠ n) (he : e ∈ Dict.entries (H.get m)) :
    (H.put n e).Navigable m n := by
  intro e' he' p hparse hparents
  rw [(changesMap_put e).map hne] at he'
  obtain ⟨hn, hm⟩ := h e' he' p hparse hparents
  have hvalue : H.PlainBelow e.2 := fun u hu => hm u (.head (mem_held_map he) hu)
  exact ⟨hn.put hvalue hn, hn.put hvalue hm⟩

end Heap

namespace Resolver
variable {G : ClassGraph} {r : Resolver} {s : State G} {t : Value} {full key : String} {m n : Handle .map} {p : Path}

/-! ### Asking with a key -/

/-- Where no object and no record is on the way, following segments changes nothing. -/
theorem reads_walk_of_plainBelow {as passed : List Segment} (ht : s.heap.PlainBelow t) (has : ∀ g ∈ as, g.HasStep) :
    Op.Reads (r.walk full passed t as) s s (s.heap.follow? t (as.flatMap Segment.steps)) := by
  induction as generalizing passed t with
  | nil => exact Op.Reads.pure t
  | cons g as ih =>
    have hg := has g List.mem_cons_self
    rw [List.flatMap_cons]
    cases hnull : t.isNull with
    | true =>
      obtain rfl := Value.isNull_iff.mp hnull
      rw [Heap.follow?_null (List.append_ne_nil_of_left_ne_nil hg.steps_ne_nil _)]
      exact ⟨_, run_walk_cons_of_null rfl, run_walk_cons_of_null rfl⟩
    | false =>
      rw [walk_cons hnull, Heap.follow?_append]
      refine (reads_readSegment_of_isPlain hg Heap.alike_refl ht.self (fun _ k _ u hu => (ht.slot? hu).self)
        (Heap.SameAlong.refl _ _ _)).bind fun u hu => ?_
      exact ih (ht.follow? hu) fun g' hg' => has g' (List.mem_cons_of_mem g hg')

theorem run_isWriteable_of_error {e : PathError} (h : Path.parse key = .error e) (ht : t ≠ .null) :
    ExceptT.run (r.isWriteable t key) s = (.ok false, s) := by
  have hnull := Value.isNull_eq_false_iff.mpr ht
  have howner : ExceptT.run (r.owner t key : Op G (Value × Segment)) s = (.error (.invalidPath e), s) := by
    simp only [owner, hnull, Bool.false_eq_true, if_false]
    refine Op.run_bind_of_error ?_
    rw [Op.run_tryRead, parsePath, h]
    rfl
  rw [isWriteable, Op.run_attempt_bind howner]
  rfl

/-- Of values that are neither objects nor records, only maps can be written. -/
theorem segmentWriteable_of_isPlain {v : Value} {g : Segment} (hv : v.isPlain = true) :
    (r.segmentWriteable v g : Op G Bool) = pure v.isMap := by
  cases v <;> first | rfl | cases hv

/-- Where no object and no record is on the way, a key is asked for at the value that its parents lead to. -/
theorem run_isWriteable_of_reads {o : Option Value} (h : Path.parse key = .ok p) (ht : t ≠ .null)
    (hwalk : Op.Reads (r.walk key [] t p.parents) s s o) (ho : ∀ v, o = some v → v.isPlain = true) :
    ExceptT.run (r.isWriteable t key) s = (.ok (o.any Value.isMap), s) := by
  have hnull := Value.isNull_eq_false_iff.mpr ht
  rw [isWriteable, Op.run_bind_of_ok (Op.run_attempt s _)]
  simp only [owner, hnull, Bool.false_eq_true, if_false]
  rw [Op.run_bind_of_ok (run_tryRead_parsePath h)]
  cases o with
  | none =>
    obtain ⟨e, hfails, -⟩ := hwalk
    rw [Op.run_bind_of_error hfails]
    rfl
  | some v =>
    rw [Op.run_bind_of_ok hwalk.1]
    cases hv : v.isNull with
    | true =>
      obtain rfl := Value.isNull_iff.mp hv
      rfl
    | false =>
      rw [if_neg Bool.false_ne_true, Op.run_pure]
      dsimp only
      rw [segmentWriteable_of_isPlain (ho v rfl)]
      rfl

/-- A map is asked if a key leads to a property of a map. -/
theorem run_isWriteable_map (hplain : ∀ p, Path.parse key = .ok p → p.parents ≠ [] → s.heap.PlainBelow (.map n)) :
    ExceptT.run (r.isWriteable (.map n) key) s = (.ok (s.heap.leads n key), s) := by
  have ht : Value.map n ≠ .null := nofun
  cases hparse : Path.parse key with
  | error e => rw [Heap.leads_of_error hparse, run_isWriteable_of_error hparse ht]
  | ok p =>
    by_cases hparents : p.parents = []
    · have hwalk : Op.Reads (r.walk key [] (.map n) p.parents : Op G Value) s s (some (.map n)) := by
        rw [hparents]
        exact Op.Reads.pure (.map n)
      rw [Heap.leads_of_single hparse hparents]
      refine run_isWriteable_of_reads hparse ht hwalk fun v hv => ?_
      cases hv
      rfl
    · have hsteps : ∀ g ∈ p.parents, g.HasStep := fun g hg =>
        Path.hasStep_of_parse hparse g (List.mem_of_mem_dropLast hg)
      have hn := hplain p hparse hparents
      rw [Heap.leads, hparse]
      exact run_isWriteable_of_reads hparse ht (reads_walk_of_plainBelow hn hsteps) fun v hv => (hn.follow? hv).self

/-! ### Copying -/

theorem run_copyEntries_map {es : List (String × Value)} (hne : m ≠ n)
    (hes : ∀ e ∈ es, e ∈ Dict.entries (s.heap.get m)) (hnavigable : s.heap.Navigable m n) :
    ExceptT.run (r.copyEntries (.map n) (r.writeName (.map n)) es) s =
      (.ok (), { s with heap := s.heap.putAll n es }) := by
  induction es generalizing s with
  | nil => rfl
  | cons e es ih =>
    have he := hes e List.mem_cons_self
    have hasked := run_isWriteable_map (r := r) fun p hparse hparents => (hnavigable e he p hparse hparents).1
    have hstep : ExceptT.run (r.copyEntries (.map n) (r.writeName (.map n)) (e :: es)) s =
        ExceptT.run (r.copyEntries (.map n) (r.writeName (.map n)) es) { s with heap := s.heap.put n e } := by
      rw [copyEntries, Op.run_bind_of_ok hasked, Heap.put]
      cases s.heap.leads n e.1 <;> rfl
    rw [hstep, ih (s := { s with heap := s.heap.put n e })]
    · rfl
    · intro e' he'
      rw [(Heap.changesMap_put e).map hne]
      exact hes e' (List.mem_cons_of_mem _ he')
    · exact hnavigable.put hne he

/-! ### Questions and writes that never fail -/

theorem succeeds_objectWriteable (o : Handle .object) (g : Segment) :
    Op.Succeeds (r.objectWriteable o g : Op G Bool) := by
  unfold objectWriteable
  refine .bind (.read _) fun isKeyed => ?_
  split
  · exact .pure true
  · refine .bind (.read _) fun c => .bind (.ask r _) fun ds => ?_
    split
    · split <;> exact .pure _
    · refine .bind (.bind (.attempt _) fun k? => ?_) fun k? => .pure _
      split <;> exact .pure _

theorem succeeds_segmentWriteable (t : Value) (g : Segment) : Op.Succeeds (r.segmentWriteable t g : Op G Bool) := by
  cases t with
  | record h =>
    refine .bind (.read _) fun record => ?_
    split
    · exact .read _
    · exact .read _
    · split
      · exact .pure _
      · exact succeeds_objectWriteable _ _
  | object o => exact succeeds_objectWriteable o g
  | _ => exact .pure _

theorem succeeds_isWriteable (t : Value) (key : String) : Op.Succeeds (r.isWriteable t key : Op G Bool) := by
  refine .bind (.attempt _) fun found => ?_
  split
  · exact succeeds_segmentWriteable _ _
  · exact .pure false

theorem succeeds_unlessMissing {x : Op G Unit} (hx : x.Succeeds) : (unlessMissing x).Succeeds := by
  intro s
  obtain ⟨⟨⟩, s', hrun⟩ := hx s
  exact ⟨(), s', run_unlessMissing hrun⟩

theorem succeeds_copyEntries_map (n : Handle .map) (es : List (String × Value)) :
    Op.Succeeds (r.copyEntries (.map n) (r.writeName (.map n)) es : Op G Unit) := by
  induction es with
  | nil => exact .pure ()
  | cons e es ih =>
    have hwrite : (r.writeName (.map n) e.1 e.2 : Op G Unit).Succeeds := fun _ => ⟨(), _, rfl⟩
    refine .bind (succeeds_isWriteable _ _) fun answer => ?_
    cases answer with
    | true => exact .bind (succeeds_unlessMissing hwrite) fun _ => ih
    | false => exact ih

theorem run_copyProperties_map (r : Resolver) (s : State G) (m n : Handle .map) :
    ExceptT.run (r.copyProperties (.map n) (.map m)) s =
      ExceptT.run (r.copyEntries (.map n) (r.writeName (.map n)) (Dict.entries (s.heap.get m))) s := rfl

/-- Copying a map to another one never fails.  As long as no object and no record is on the way where a key of the map
is followed, so always if no key has several segments, it copies each entry under its key or leaves it out, by what
the key says as a path, and changes nothing else. -/
theorem copyProperties_of_maps (r : Resolver) (s : State G) (m n : Handle .map) (hne : m ≠ n) :
    (∃ s', ExceptT.run (r.copyProperties (.map n) (.map m)) s = (.ok (), s')) ∧
    (s.heap.Navigable m n → ∃ s', ExceptT.run (r.copyProperties (.map n) (.map m)) s = (.ok (), s') ∧
      s.heap.CopiedInto m n s'.heap) := by
  refine ⟨?_, fun hnavigable => ?_⟩
  · obtain ⟨⟨⟩, s', hrun⟩ := succeeds_copyEntries_map (r := r) n (Dict.entries (s.heap.get m)) s
    exact ⟨s', (run_copyProperties_map r s m n).trans hrun⟩
  · have hentries := run_copyEntries_map (r := r) hne (fun e he => he) hnavigable
    exact ⟨_, (run_copyProperties_map r s m n).trans hentries, Heap.copiedInto_putAll s.heap m n⟩

/-- A map with a text under some keys, and an empty map. -/
def oneFilled (keys : List String) : State .empty :=
  ⟨⟨.empty, .empty, ⟨#[.ofList (keys.map fun key => (key, .text "x")), .empty]⟩, .empty, .empty, .empty⟩, .empty⟩

/-- The key of two segments and the empty key are lost: nothing is copied, and that is no failure. -/
theorem copyProperties_of_maps_with_point : ∃ s' : State .empty,
    ExceptT.run (copyProperties ⟨0⟩ (.map ⟨1⟩) (.map ⟨0⟩)) (oneFilled ["", "a.b"]) = (.ok (), s') ∧
      ∀ key ∈ ["", "a.b"], Dict.get? ((oneFilled ["", "a.b"]).heap.get (⟨0⟩ : Handle .map)) key = some (.text "x") ∧
        Dict.get? (s'.heap.get (⟨1⟩ : Handle .map)) key = none := by
  refine ⟨oneFilled ["", "a.b"], rfl, ?_⟩
  intro key hkey
  rcases List.mem_cons.mp hkey with rfl | hkey
  · exact ⟨rfl, rfl⟩
  · obtain rfl := List.mem_singleton.mp hkey
    exact ⟨rfl, rfl⟩

theorem parse_of_one_letter : Path.parse "k" = .ok ⟨[⟨"k", .none⟩], by simp⟩ := rfl

/-- The key of one segment is copied. -/
theorem copyProperties_of_maps_with_name : ∃ s' : State .empty,
    ExceptT.run (copyProperties ⟨0⟩ (.map ⟨1⟩) (.map ⟨0⟩)) (oneFilled ["k"]) = (.ok (), s') ∧
      Dict.get? (s'.heap.get (⟨1⟩ : Handle .map)) "k" = some (.text "x") := by
  have hnavigable : (oneFilled ["k"]).heap.Navigable ⟨0⟩ ⟨1⟩ := by
    intro e he p hparse hparents
    obtain rfl : e = ("k", .text "x") := List.mem_singleton.mp he
    cases hparse.symm.trans parse_of_one_letter
    exact absurd rfl hparents
  have hne : (⟨0⟩ : Handle .map) ≠ ⟨1⟩ := nofun
  obtain ⟨-, hcopies⟩ := copyProperties_of_maps ⟨0⟩ (oneFilled ["k"]) ⟨0⟩ ⟨1⟩ hne
  obtain ⟨s', hrun, hcopied⟩ := hcopies hnavigable
  exact ⟨s', hrun, hcopied.single rfl parse_of_one_letter rfl⟩

end Resolver

end ObjectGraph
