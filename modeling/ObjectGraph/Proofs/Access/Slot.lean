import Mathlib.Data.List.Induction
import ObjectGraph.Proofs.Access.Tree

/-!
Writing one slot of a container: an entry of a map, or an element of a list or an array.  The slot then
holds what was written, all other slots hold what they held, and no value changes its type or length.
-/

namespace ObjectGraph.Heap
variable {H H' : Heap} {t u v c w : Value} {st st' : Step} {as steps : List Step} {cs : List Value} {G : ClassGraph}

/-- Writes a slot. -/
def setSlot (H : Heap) (c : Value) (st : Step) (w : Value) : Heap :=
  match c, st with
  | .map m, .key k => H.set m ((H.get m).insert k w)
  | .list l, .index i => H.set l ((H.get l).set i w)
  | .array a, .index i => H.set a { H.get a with items := (H.get a).items.set i w }
  | _, _ => H

/-- Whether the cell of a value is the same on two heaps. -/
def SameCell (H H' : Heap) : Value → Prop
  | .list h => H'.get h = H.get h
  | .array h => H'.get h = H.get h
  | .map h => H'.get h = H.get h
  | .object h => H'.get h = H.get h
  | .record h => H'.get h = H.get h ∧ H'.schemaOf h = H.schemaOf h
  | _ => True

/-- Whether all that a value holds, directly or through others, is the same on two heaps. -/
def SameBelow (H H' : Heap) (v : Value) : Prop := ∀ u, H.Reaches v u → H.SameCell H' u

/-- Whether all beginnings of a sequence of steps lead to the same on two heaps. -/
def SameAlong (H H' : Heap) (t : Value) (steps : List Step) : Prop :=
  ∀ as, as <+: steps → H'.follow? t as = H.follow? t as

/-- What a container holds after a value has been written to it.  An array converts to its type. -/
def Stores (G : ClassGraph) (H : Heap) (c v w : Value) : Prop :=
  match c with
  | .array a => ∀ property, H.coerce G (H.get a).component property v = .ok w
  | _ => w = v

/-! ### The written slot and the others -/

theorem SameCell.refl (H : Heap) (v : Value) : H.SameCell H v := by
  cases v <;> first | rfl | exact ⟨rfl, rfl⟩ | trivial

theorem sameCell_setSlot (hne : u ≠ c) : H.SameCell (H.setSlot c st w) u := by
  have hhandle {k : CellKind} {h j : Handle k} {a : Cell k} (h' : j ≠ h) : (H.set h a).get j = H.get j :=
    H.get_set_of_ne a h'
  cases st with
  | key k =>
    cases c with
    | map m =>
      cases u with
      | map m' => exact hhandle fun heq => hne (congrArg Value.map heq)
      | record r => exact ⟨rfl, rfl⟩
      | _ => first | rfl | trivial
    | _ => exact SameCell.refl H u
  | index i =>
    cases c with
    | list l =>
      cases u with
      | list l' => exact hhandle fun heq => hne (congrArg Value.list heq)
      | record r => exact ⟨rfl, rfl⟩
      | _ => first | rfl | trivial
    | array a =>
      cases u with
      | array a' => exact hhandle fun heq => hne (congrArg Value.array heq)
      | record r => exact ⟨rfl, rfl⟩
      | _ => first | rfl | trivial
    | _ => exact SameCell.refl H u

theorem SameCell.slot? (h : H.SameCell H' u) : H'.slot? u st = H.slot? u st := by
  cases st with
  | key k =>
    cases u with
    | map m => simp only [Heap.slot?, show H'.get m = H.get m from h]
    | _ => rfl
  | index i =>
    cases u with
    | list l => simp only [Heap.slot?, items?, show H'.get l = H.get l from h]
    | array a => simp only [Heap.slot?, items?, show H'.get a = H.get a from h]
    | _ => rfl

theorem slot?_setSlot_self (h : H.slot? c st = some v) : (H.setSlot c st w).slot? c st = some w := by
  cases st with
  | key k =>
    cases c with
    | map m => simp only [slot?, setSlot, get_set_self, Dict.get?_insert, if_true, Option.getD_some]
    | _ => cases h
  | index i =>
    cases c with
    | list l =>
      obtain ⟨hi, -⟩ := List.getElem?_eq_some_iff.mp h
      simp only [slot?, items?, setSlot, get_set_self, Option.bind_some, List.getElem?_set_self hi]
    | array a =>
      obtain ⟨hi, -⟩ := List.getElem?_eq_some_iff.mp h
      simp only [slot?, items?, setSlot, get_set_self, Option.bind_some, List.getElem?_set_self hi]
    | _ => cases h

theorem slot?_setSlot_of_step_ne (hne : st' ≠ st) : (H.setSlot c st w).slot? c st' = H.slot? c st' := by
  cases c with
  | map m =>
    cases st with
    | index i => rfl
    | key k =>
      cases st' with
      | index j => rfl
      | key k' =>
        have hk : k' ≠ k := fun heq => hne (congrArg Step.key heq)
        simp only [slot?, setSlot, get_set_self, Dict.get?_insert, if_neg hk]
  | list l =>
    cases st with
    | key k => rfl
    | index i =>
      cases st' with
      | key k => rfl
      | index j =>
        have hi : i ≠ j := fun heq => hne (congrArg Step.index heq.symm)
        simp only [slot?, items?, setSlot, get_set_self, Option.bind_some, List.getElem?_set_ne hi]
  | array a =>
    cases st with
    | key k => rfl
    | index i =>
      cases st' with
      | key k => rfl
      | index j =>
        have hi : i ≠ j := fun heq => hne (congrArg Step.index heq.symm)
        simp only [slot?, items?, setSlot, get_set_self, Option.bind_some, List.getElem?_set_ne hi]
  | _ => cases st <;> rfl

theorem slot?_setSlot_of_ne (hne : ¬(u = c ∧ st' = st)) : (H.setSlot c st w).slot? u st' = H.slot? u st' := by
  by_cases hu : u = c
  · subst hu
    exact slot?_setSlot_of_step_ne fun heq => hne ⟨rfl, heq⟩
  · exact (sameCell_setSlot hu).slot?

/-! ### Sequences of steps -/

namespace SameAlong

theorem refl (H : Heap) (t : Value) (steps : List Step) : H.SameAlong H t steps := fun _ _ => rfl

theorem slot? (h : H.SameAlong H' t (st :: steps)) : H'.slot? t st = H.slot? t st := by
  rw [← follow?_singleton, ← follow?_singleton]
  exact h [st] (List.prefix_append [st] steps)

/-- What holds along a sequence of steps holds along its rest, from where its beginning leads. -/
theorem rest (as : List Step) (h : H.SameAlong H' t (as ++ steps)) (hu : H.follow? t as = some u) : H.SameAlong H' u steps := by
  intro bs hbs
  have hwhole := h (as ++ bs) ((List.prefix_append_right_inj as).mpr hbs)
  rw [follow?_append, follow?_append, h as (List.prefix_append as steps), hu] at hwhole
  exact hwhole

theorem of_append (h : H.SameAlong H' t (as ++ steps)) : H.SameAlong H' t as := fun bs hbs =>
  h bs (hbs.trans (List.prefix_append as steps))

end SameAlong

/-! ### Types and lengths -/

/-- Whether every value has the same name and the same length on two heaps. -/
structure Alike (G : ClassGraph) (H H' : Heap) : Prop where
  targetName (v : Value) : H'.targetName G v = H.targetName G v
  length (v : Value) : (H'.items? v).map List.length = (H.items? v).map List.length

theorem alike_refl : Alike G H H := ⟨fun _ => rfl, fun _ => rfl⟩

theorem component_setSlot (a : Handle .array) : ((H.setSlot c st w).get a).component = (H.get a).component := by
  by_cases hc : Value.array a = c
  · subst hc
    cases st with
    | key k => rfl
    | index i => simp only [setSlot, get_set_self]
  · rw [show (H.setSlot c st w).get a = H.get a from sameCell_setSlot hc]

theorem length_setSlot (v : Value) :
    ((H.setSlot c st w).items? v).map List.length = (H.items? v).map List.length := by
  by_cases hv : v = c
  · subst hv
    cases st with
    | key k => cases v <;> rfl
    | index i => cases v <;> simp only [setSlot, items?, get_set_self, Option.map_some, List.length_set]
  · have hcell : H.SameCell (H.setSlot c st w) v := sameCell_setSlot hv
    cases v with
    | list l => simp only [items?, show (H.setSlot c st w).get l = H.get l from hcell]
    | array a => simp only [items?, show (H.setSlot c st w).get a = H.get a from hcell]
    | _ => rfl

theorem object_setSlot (o : Handle .object) : (H.setSlot c st w).get o = H.get o := by
  cases st <;> cases c <;> rfl

theorem schemaOf_setSlot (r : Handle .record) : (H.setSlot c st w).schemaOf r = H.schemaOf r := by
  cases st <;> cases c <;> rfl

theorem targetName_setSlot (v : Value) : (H.setSlot c st w).targetName G v = H.targetName G v := by
  cases v with
  | object o => simp only [targetName, object_setSlot]
  | record r => simp only [targetName, schemaOf_setSlot]
  | array a => simp only [targetName, typeName, typeOf, Value.primitive?, component_setSlot]
  | _ => rfl

theorem alike_setSlot : Alike G H (H.setSlot c st w) := ⟨targetName_setSlot, length_setSlot⟩

/-! ### Following steps past the written slot -/

/-- Steps that do not begin with the only ones to the written slot lead where they led. -/
theorem follow?_setSlot {pre : List Step} (hunique : ∀ as, H.follow? t as = some c → as = pre)
    (hsteps : ¬ pre ++ [st] <+: steps) : (H.setSlot c st w).follow? t steps = H.follow? t steps := by
  -- Only the last of the steps may be to the written slot, so the induction is from their end.
  induction steps using List.reverseRecOn with
  | nil => rfl
  | append_singleton as st' ih =>
    have hbefore : ¬ pre ++ [st] <+: as := fun hpre => hsteps (hpre.trans (List.prefix_append as [st']))
    rw [follow?_append, follow?_append, ih hbefore]
    cases hu : H.follow? t as with
    | none => rfl
    | some u =>
      have hne : ¬(u = c ∧ st' = st) := by
        rintro ⟨rfl, rfl⟩
        rw [hunique as hu] at hsteps
        exact hsteps (List.prefix_refl _)
      rw [Option.bind_some, Option.bind_some, follow?_singleton, follow?_singleton, slot?_setSlot_of_ne hne]

theorem sameAlong_setSlot {pre : List Step} (hunique : ∀ as, H.follow? t as = some c → as = pre)
    (hsteps : ¬ pre ++ [st] <+: steps) : H.SameAlong (H.setSlot c st w) t steps := fun _ has =>
  follow?_setSlot hunique fun hpre => hsteps (hpre.trans has)

/-- The steps to the written slot lead to what it stores. -/
theorem follow?_setSlot_self {pre : List Step} (hunique : ∀ as, H.follow? t as = some c → as = pre)
    (hpre : H.follow? t pre = some c) (hslot : H.slot? c st = some v) :
    (H.setSlot c st w).follow? t (pre ++ [st]) = some w := by
  have hshort : ¬ pre ++ [st] <+: pre := fun h => by
    have hle := h.length_le
    rw [List.length_append, List.length_singleton] at hle
    exact Nat.not_succ_le_self _ hle
  rw [follow?_concat_eq_some, follow?_setSlot hunique hshort]
  exact ⟨c, hpre, slot?_setSlot_self hslot⟩

/-- A value from which the written container is not reached keeps all that it holds. -/
theorem sameBelow_setSlot (h : ¬ H.Reaches v c) : H.SameBelow (H.setSlot c st w) v := fun _ hu =>
  sameCell_setSlot fun heq => h (heq ▸ hu)

theorem not_reaches_of_isScalar (hw : w.isScalar = true) (hc : c.isContainer = true) : ¬ H.Reaches w c := by
  intro hreach
  rcases Relation.ReflTransGen.cases_head hreach with rfl | ⟨u, hu, -⟩
  · rw [Value.isContainer_of_isScalar hw] at hc
    cases hc
  · have hu' : u ∈ H.held w := hu
    rw [Spans.held_of_scalar hw] at hu'
    cases hu'

/-- What is stored is the written value, or a scalar. -/
theorem Stores.eq_or_isScalar (h : H.Stores G c v w) : w = v ∨ w.isScalar = true := by
  cases c with
  | array a => exact eq_or_isScalar_of_coerce (h "")
  | _ => exact Or.inl h

theorem Stores.not_reaches (h : H.Stores G c v w) (hc : c.isContainer = true) (hv : ¬ H.Reaches v c) :
    ¬ H.Reaches w c := by
  rcases h.eq_or_isScalar with rfl | hw
  · exact hv
  · exact not_reaches_of_isScalar hw hc

end ObjectGraph.Heap
