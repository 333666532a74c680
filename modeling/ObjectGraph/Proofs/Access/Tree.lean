import Mathlib.Data.List.Forall2
import Mathlib.Data.List.Nodup
import Mathlib.Logic.Relation
import ObjectGraph.Proofs.Value.Coercion
import ObjectGraph.Value.Access

/-!
Trees of maps, lists and arrays on the heap.  A step goes from a container to an entry or an element of
it.  The main statement says that in a value in which no container occurs twice, every container is
reached by one sequence of steps only.
-/

namespace ObjectGraph

/-- A step into a container: to the entry of a key or to the element at an index. -/
inductive Step
  | key (k : String)
  | index (i : Nat)
deriving DecidableEq

namespace Value

/-- Whether a value is a list, an array or a map. -/
def isContainer : Value → Bool
  | list _ | array _ | map _ => true
  | _ => false

theorem isContainer_of_isScalar {v : Value} (h : v.isScalar = true) : v.isContainer = false := by
  cases v <;> first | rfl | cases h

end Value

namespace Heap

/-- The value that a container holds at a step.  An absent entry of a map is null. -/
def slot? (H : Heap) (c : Value) : Step → Option Value
  | .key k =>
    match c with
    | .map m => some (((H.get m).get? k).getD .null)
    | _ => none
  | .index i => (H.items? c).bind fun items => items[i]?

/-- The value that steps lead to. -/
def follow? (H : Heap) (v : Value) : List Step → Option Value
  | [] => some v
  | st :: steps => (H.slot? v st).bind fun u => H.follow? u steps

/-- The values that a cell holds. -/
def held (H : Heap) : Value → List Value
  | .list h => H.get h
  | .array h => (H.get h).items
  | .map h => (H.get h).entries.map Prod.snd
  | .object h =>
    (H.get h).fields.entries.map Prod.snd ++ ((H.get h).storage.getD .empty).entries.map Prod.snd
  | .record h =>
    match H.get h with
    | .fixed _ values | .growing _ (.own values) => values.entries.map Prod.snd
    | .growing _ (.shared m) => [.map m]
    | .adapter _ o _ => [.object o]
  | _ => []

/-- Whether a value is another one or holds it, directly or through others. -/
def Reaches (H : Heap) : Value → Value → Prop := Relation.ReflTransGen fun v u => u ∈ H.held v

/-- The containers of a value that is built from maps, lists, arrays and scalars, each as often as it occurs. -/
inductive Spans (H : Heap) : Value → List Value → Prop
  | scalar {v : Value} (h : v.isScalar = true) : Spans H v []
  | container {v : Value} {parts : List (List Value)} (h : v.isContainer = true)
      (hparts : List.Forall₂ (Spans H) (H.held v) parts) : Spans H v (v :: parts.flatten)

/-- The step to the value at a place among those that a container holds. -/
def stepTo? (H : Heap) (c : Value) (i : Nat) : Option Step :=
  match c with
  | .map m => (H.get m).entries[i]?.map fun e => .key e.1
  | _ => some (.index i)

end Heap

/-! ### Entries of maps -/

namespace Dict
variable {α : Type}

theorem exists_place_of_get? {d : Dict α} {k : String} {a : α} (h : d.get? k = some a) :
    ∃ i : Nat, d.entries[i]? = some (k, a) := by
  obtain ⟨before, after, hsplit, -⟩ := List.lookup_eq_some_iff.mp h
  exact ⟨before.length, by rw [hsplit]; simp⟩

theorem mem_of_get? {d : Dict α} {k : String} {a : α} (h : d.get? k = some a) : (k, a) ∈ d.entries := by
  obtain ⟨i, hi⟩ := exists_place_of_get? h
  exact List.mem_of_getElem? hi

theorem get?_of_mem {d : Dict α} {e : String × α} (h : e ∈ d.entries) : d.get? e.1 = some e.2 := by
  obtain ⟨entries, hasc⟩ := d
  show entries.lookup e.1 = some e.2
  induction entries with
  | nil => cases h
  | cons e' rest ih =>
    obtain ⟨hhead, htail⟩ := List.pairwise_cons.mp hasc
    rw [Assoc.lookup_cons]
    rcases List.mem_cons.mp h with rfl | hmem
    · rw [if_pos rfl]
    · have hlt := hhead e hmem
      have hne : e.1 ≠ e'.1 := fun heq => String.lt_irrefl e.1 (heq ▸ hlt : e.1 < e.1)
      rw [if_neg hne]
      exact ih htail hmem

theorem mem_keys_iff {d : Dict α} {k : String} : k ∈ d.keys ↔ ∃ a, d.get? k = some a := by
  constructor
  · intro h
    obtain ⟨e, he, rfl⟩ := List.mem_map.mp h
    exact ⟨e.2, get?_of_mem he⟩
  · rintro ⟨a, h⟩
    exact List.mem_map_of_mem (mem_of_get? h)

end Dict

namespace Heap
variable {H : Heap} {t u v c w : Value} {st st' : Step} {as bs : List Step} {cs : List Value}

/-! ### Slots and places -/

theorem isContainer_of_slot? (h : H.slot? c st = some v) : c.isContainer = true := by
  cases st <;> cases c <;> first | rfl | cases h

theorem slot?_null (st : Step) : H.slot? .null st = none := by cases st <;> rfl

/-- A slot that holds more than null is a place among the values that the container holds. -/
theorem exists_place_of_slot? (h : H.slot? c st = some v) (hv : v ≠ .null) :
    ∃ i : Nat, (H.held c)[i]? = some v ∧ H.stepTo? c i = some st := by
  cases st with
  | index i =>
    cases c <;> first | exact ⟨i, h, rfl⟩ | cases h
  | key k =>
    cases c with
    | map m =>
      have hget : (H.get m).get? k = some v := by
        have hd : ((H.get m).get? k).getD .null = v := Option.some.inj h
        cases hk : (H.get m).get? k with
        | none => exact absurd (hd.symm.trans (by rw [hk]; rfl)) hv
        | some a => rw [hk] at hd; rw [← hd]; rfl
      obtain ⟨i, hi⟩ := Dict.exists_place_of_get? hget
      refine ⟨i, ?_, ?_⟩
      · simp only [held, List.getElem?_map, hi]
        rfl
      · simp only [stepTo?, hi]
        rfl
    | _ => cases h

theorem exists_slot?_of_mem_held (hc : c.isContainer = true) (h : v ∈ H.held c) : ∃ st, H.slot? c st = some v := by
  cases c with
  | list l =>
    obtain ⟨i, hi⟩ := List.mem_iff_getElem?.mp h
    exact ⟨.index i, hi⟩
  | array a =>
    obtain ⟨i, hi⟩ := List.mem_iff_getElem?.mp h
    exact ⟨.index i, hi⟩
  | map m =>
    obtain ⟨e, he, rfl⟩ := List.mem_map.mp h
    refine ⟨.key e.1, ?_⟩
    simp only [slot?, Dict.get?_of_mem he]
    rfl
  | _ => cases hc

/-! ### Following steps -/

theorem follow?_append : ∀ {as bs : List Step} {v : Value},
    H.follow? v (as ++ bs) = (H.follow? v as).bind fun u => H.follow? u bs := by
  intro as bs
  induction as with
  | nil =>
    intro v
    rfl
  | cons st as ih =>
    intro v
    simp only [List.cons_append, follow?, ih, Option.bind_assoc]

theorem follow?_singleton : H.follow? t [st] = H.slot? t st := by
  cases h : H.slot? t st <;> simp only [follow?, h, Option.bind_none, Option.bind_some]

theorem follow?_null (has : as ≠ []) : H.follow? .null as = none := by
  obtain ⟨st, rest, rfl⟩ := List.exists_cons_of_ne_nil has
  rw [follow?, slot?_null]
  rfl

theorem follow?_cons_eq_some : H.follow? t (st :: as) = some c ↔
    ∃ u, H.slot? t st = some u ∧ H.follow? u as = some c :=
  Option.bind_eq_some_iff

theorem follow?_concat_eq_some : H.follow? t (as ++ [st]) = some c ↔
    ∃ u, H.follow? t as = some u ∧ H.slot? u st = some c := by
  rw [follow?_append, Option.bind_eq_some_iff]
  refine exists_congr fun u => and_congr_right fun _ => ?_
  rw [follow?_singleton]

/-- An element of lists without repetitions is in one of them only. -/
theorem place_unique {parts : List (List Value)} (hnodup : parts.flatten.Nodup) {i j : Nat} {ds es : List Value}
    (hi : parts[i]? = some ds) (hj : parts[j]? = some es) (hcd : c ∈ ds) (hce : c ∈ es) : i = j := by
  have hdisjoint := (List.nodup_flatten.mp hnodup).2
  obtain ⟨hilt, rfl⟩ := List.getElem?_eq_some_iff.mp hi
  obtain ⟨hjlt, rfl⟩ := List.getElem?_eq_some_iff.mp hj
  rcases Nat.lt_trichotomy i j with hlt | heq | hlt
  · exact absurd hce (List.pairwise_iff_getElem.mp hdisjoint i j hilt hjlt hlt hcd)
  · exact heq
  · exact absurd hcd (List.pairwise_iff_getElem.mp hdisjoint j i hjlt hilt hlt hce)

/-! ### Trees -/

namespace Spans

theorem held_of_scalar (h : v.isScalar = true) : H.held v = [] := by
  cases v <;> first | rfl | cases h

theorem null : H.Spans .null [] := .scalar rfl

theorem parts_of_container (h : H.Spans t cs) (ht : t.isContainer = true) :
    ∃ parts : List (List Value), cs = t :: parts.flatten ∧ List.Forall₂ H.Spans (H.held t) parts := by
  cases h with
  | scalar hs =>
    rw [Value.isContainer_of_isScalar hs] at ht
    cases ht
  | container _ hparts => exact ⟨_, rfl, hparts⟩

theorem mem_self (h : H.Spans t cs) (ht : t.isContainer = true) : t ∈ cs := by
  obtain ⟨parts, rfl, -⟩ := h.parts_of_container ht
  exact List.mem_cons_self

/-- What a container holds at a place spans the part of that place. -/
theorem at_place {parts : List (List Value)} (hparts : List.Forall₂ H.Spans (H.held t) parts) {i : Nat}
    (hi : (H.held t)[i]? = some v) : ∃ ds, parts[i]? = some ds ∧ H.Spans v ds := by
  obtain ⟨hlen, hget⟩ := List.forall₂_iff_get.mp hparts
  obtain ⟨hlt, rfl⟩ := List.getElem?_eq_some_iff.mp hi
  have hlt' : i < parts.length := hlen ▸ hlt
  exact ⟨parts[i], List.getElem?_eq_getElem hlt', hget i hlt hlt'⟩

theorem slot? (h : H.Spans t cs) (hslot : H.slot? t st = some v) : ∃ ds, H.Spans v ds ∧ ds ⊆ cs := by
  by_cases hv : v = .null
  · exact ⟨[], hv ▸ null, List.nil_subset cs⟩
  · obtain ⟨parts, rfl, hparts⟩ := h.parts_of_container (isContainer_of_slot? hslot)
    obtain ⟨i, hi, -⟩ := exists_place_of_slot? hslot hv
    obtain ⟨ds, hds, hspans⟩ := at_place hparts hi
    refine ⟨ds, hspans, fun c hc => List.mem_cons_of_mem t ?_⟩
    exact List.mem_flatten.mpr ⟨ds, List.mem_of_getElem? hds, hc⟩

/-- What steps lead to spans some of the containers. -/
theorem follow? (h : H.Spans t cs) (has : H.follow? t as = some v) : ∃ ds, H.Spans v ds ∧ ds ⊆ cs := by
  induction as generalizing t cs with
  | nil =>
    cases has
    exact ⟨cs, h, List.Subset.refl cs⟩
  | cons st as ih =>
    obtain ⟨u, hu, hrest⟩ := follow?_cons_eq_some.mp has
    obtain ⟨ds, hspans, hsub⟩ := h.slot? hu
    obtain ⟨es, hes, hsub'⟩ := ih hspans hrest
    exact ⟨es, hes, List.Subset.trans hsub' hsub⟩

theorem mem_of_follow? (h : H.Spans t cs) (hc : c.isContainer = true) (has : H.follow? t as = some c) : c ∈ cs := by
  obtain ⟨ds, hspans, hsub⟩ := h.follow? has
  exact hsub (hspans.mem_self hc)

/-- Steps that lead to a container lead through a place, whose part has the container. -/
theorem exists_place_of_follow? {parts : List (List Value)} (hparts : List.Forall₂ H.Spans (H.held t) parts)
    (hc : c.isContainer = true) (has : H.follow? t (st :: as) = some c) :
    ∃ (i : Nat) (u : Value) (ds : List Value), (H.held t)[i]? = some u ∧ H.stepTo? t i = some st ∧
      parts[i]? = some ds ∧ H.Spans u ds ∧ H.follow? u as = some c ∧ c ∈ ds := by
  obtain ⟨u, hu, hrest⟩ := follow?_cons_eq_some.mp has
  have hne : u ≠ .null := by
    rintro rfl
    cases as with
    | nil =>
      cases hrest
      cases hc
    | cons st' as =>
      rw [follow?_null (List.cons_ne_nil st' as)] at hrest
      cases hrest
  obtain ⟨i, hi, hst⟩ := exists_place_of_slot? hu hne
  obtain ⟨ds, hds, hspans⟩ := at_place hparts hi
  exact ⟨i, u, ds, hi, hst, hds, hspans, hrest, hspans.mem_of_follow? hc hrest⟩

/-- In a value in which no container occurs twice, no container holds itself. -/
theorem not_follow?_self (h : H.Spans t cs) (hnodup : cs.Nodup) (ht : t.isContainer = true) :
    H.follow? t (st :: as) ≠ some t := by
  intro has
  obtain ⟨parts, rfl, hparts⟩ := h.parts_of_container ht
  obtain ⟨i, u, ds, -, -, hds, -, -, hmem⟩ := exists_place_of_follow? hparts ht has
  exact (List.nodup_cons.mp hnodup).1 (List.mem_flatten.mpr ⟨ds, List.mem_of_getElem? hds, hmem⟩)

/-- In a value in which no container occurs twice, only one sequence of steps leads to a container. -/
theorem follow?_unique (h : H.Spans t cs) (hnodup : cs.Nodup) (hc : c.isContainer = true)
    (has : H.follow? t as = some c) (hbs : H.follow? t bs = some c) : as = bs := by
  induction as generalizing t cs bs with
  | nil =>
    cases has
    cases bs with
    | nil => rfl
    | cons st' bs => exact absurd hbs (h.not_follow?_self hnodup hc)
  | cons st as ih =>
    cases bs with
    | nil =>
      cases hbs
      exact absurd has (h.not_follow?_self hnodup hc)
    | cons st' bs =>
      obtain ⟨_, hst, -⟩ := follow?_cons_eq_some.mp has
      obtain ⟨parts, rfl, hparts⟩ := h.parts_of_container (isContainer_of_slot? hst)
      obtain ⟨i, u, ds, hi, hsti, hds, hspans, hrest, hcd⟩ := exists_place_of_follow? hparts hc has
      obtain ⟨j, u', es, hj, hstj, hes, -, hrest', hce⟩ := exists_place_of_follow? hparts hc hbs
      -- The container occurs in the parts of both places, so they are one place and begin with one step.
      have hflat := (List.nodup_cons.mp hnodup).2
      obtain rfl := place_unique hflat hds hes hcd hce
      obtain rfl : u = u' := Option.some.inj (hi.symm.trans hj)
      obtain rfl : st = st' := Option.some.inj (hsti.symm.trans hstj)
      have hpart : ds.Nodup := (List.nodup_flatten.mp hflat).1 ds (List.mem_of_getElem? hds)
      rw [ih hspans hpart hrest hrest']

/-- Steps lead to everything that the value holds, directly or through others. -/
theorem exists_follow?_of_reaches (h : H.Spans t cs) (hreach : H.Reaches t c) : ∃ as, H.follow? t as = some c := by
  induction hreach using Relation.ReflTransGen.head_induction_on generalizing cs with
  | refl => exact ⟨[], rfl⟩
  | @head t u hmem _ ih =>
    cases h with
    | scalar hs =>
      rw [held_of_scalar hs] at hmem
      cases hmem
    | @container _ parts ht hparts =>
      obtain ⟨st, hst⟩ := exists_slot?_of_mem_held ht hmem
      obtain ⟨ds, hspans, -⟩ := (Spans.container ht hparts).slot? hst
      obtain ⟨as, has⟩ := ih hspans
      exact ⟨st :: as, follow?_cons_eq_some.mpr ⟨u, hst, has⟩⟩

end Spans

end Heap

end ObjectGraph
