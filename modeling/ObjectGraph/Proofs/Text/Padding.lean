import Mathlib.Data.List.TakeWhile
import ObjectGraph.Text.Blank

/-!
Texts with blanks around them.  Trimming takes away exactly those blanks, if the text within neither begins nor ends
with one.
-/

namespace ObjectGraph

/-- Whether a text holds nothing but blanks. -/
def IsPadding (cs : List Char) : Prop := ∀ c ∈ cs, isBlank c = true

instance (cs : List Char) : Decidable (IsPadding cs) := List.decidableBAll _ cs

/-- Whether a text neither begins nor ends with a blank. -/
structure IsTight (cs : List Char) : Prop where
  head : ∀ c ∈ cs.head?, isBlank c = false
  last : ∀ c ∈ cs.getLast?, isBlank c = false

/-- Whether a text is another one with blanks around it. -/
def Pads (cs text : List Char) : Prop :=
  ∃ before after, IsPadding before ∧ IsPadding after ∧ text = before ++ cs ++ after

variable {cs text before after : List Char} {c : Char}

theorem pads_self (cs : List Char) : Pads cs cs :=
  ⟨[], [], nofun, nofun, by rw [List.nil_append, List.append_nil]⟩

theorem isTight_nil : IsTight [] := ⟨nofun, nofun⟩

/-- A text between two characters that are no blanks is tight. -/
theorem isTight_of_ends (hfirst : isBlank c = false) {last : Char} (hlast : isBlank last = false) (inside : List Char) :
    IsTight (c :: (inside ++ [last])) where
  head _ h := by
    cases h
    exact hfirst
  last d h := by
    rw [← List.cons_append, List.getLast?_concat] at h
    cases h
    exact hlast

theorem isTight_of_all (h : ∀ c ∈ cs, isBlank c = false) : IsTight cs :=
  ⟨fun c hc => h c (List.mem_of_head? hc), fun c hc => h c (List.mem_of_getLast? hc)⟩

theorem IsTight.reverse (h : IsTight cs) : IsTight cs.reverse :=
  ⟨fun c hc => h.last c (List.head?_reverse ▸ hc), fun c hc => h.head c (List.getLast?_reverse ▸ hc)⟩

theorem IsPadding.reverse (h : IsPadding cs) : IsPadding cs.reverse := fun c hc => h c (List.mem_reverse.mp hc)

theorem dropBlanks_padding_append (h : IsPadding before) (cs : List Char) : dropBlanks (before ++ cs) = dropBlanks cs :=
  List.dropWhile_append_of_pos h

theorem dropBlanks_of_head (h : ∀ c ∈ cs.head?, isBlank c = false) : dropBlanks cs = cs := by
  cases cs with
  | nil => rfl
  | cons c cs => exact List.dropWhile_cons_of_neg (by simp [h c rfl])

theorem trimBlanks_of_isPadding (h : IsPadding cs) : trimBlanks cs = [] := by
  have hnil : dropBlanks cs = [] := List.dropWhile_eq_nil_iff.mpr h
  rw [trimBlanks, hnil]
  rfl

/-- Trimming takes the blanks around a text away, and no others. -/
theorem trimBlanks_of_pads (hcs : IsTight cs) (h : Pads cs text) : trimBlanks text = cs := by
  obtain ⟨before, after, hbefore, hafter, rfl⟩ := h
  by_cases hnil : cs = []
  · subst hnil
    refine trimBlanks_of_isPadding fun c hc => ?_
    rw [List.append_nil, List.mem_append] at hc
    exact hc.elim (hbefore c) (hafter c)
  · obtain ⟨c, rest, rfl⟩ := List.exists_cons_of_ne_nil hnil
    have hfront : dropBlanks (before ++ c :: rest ++ after) = c :: rest ++ after := by
      rw [List.append_assoc, dropBlanks_padding_append hbefore]
      exact dropBlanks_of_head hcs.head
    rw [trimBlanks, hfront, List.reverse_append, dropBlanks_padding_append hafter.reverse,
      dropBlanks_of_head hcs.reverse.head, List.reverse_reverse]

theorem trimBlanks_ne_nil (hc : c ∈ cs) (hblank : isBlank c = false) : trimBlanks cs ≠ [] := by
  intro h
  rw [trimBlanks, List.reverse_eq_nil_iff] at h
  have hfront : ∀ d ∈ dropBlanks cs, isBlank d = true := fun d hd =>
    List.dropWhile_eq_nil_iff.mp h d (List.mem_reverse.mpr hd)
  have hpadding : ∀ d ∈ cs, isBlank d = true := by
    intro d hd
    rw [← List.takeWhile_append_dropWhile (p := isBlank) (l := cs), List.mem_append] at hd
    exact hd.elim List.mem_takeWhile_imp (hfront d)
  rw [hpadding c hc] at hblank
  cases hblank

end ObjectGraph
