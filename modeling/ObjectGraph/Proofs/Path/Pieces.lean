import Mathlib.Data.List.Infix
import ObjectGraph.Path.Parser

/-!
Where the scan of a path cuts its text.  A text is unsplit if no point of it stands outside of
subscripts, and closed if no bracket is open after it.  The main statements say that cutting and
joining with points undo each other: the pieces of a text join to the text, and texts that are
unsplit, and closed but for the last one, are the pieces of what they join to.
-/

namespace ObjectGraph.Path

/-- The number of open brackets after a text. -/
def depth (d : Nat) (cs : List Char) : Nat := cs.foldl depthAfter d

/-- No point of a text stands outside of subscripts if `d` brackets are open at its start. -/
def Unsplit : Nat → List Char → Prop
  | _, [] => True
  | d, c :: cs => ¬(c = '.' ∧ d = 0) ∧ Unsplit (depthAfter d c) cs

/-- Texts that a scan keeps apart when points join them. -/
structure Separable (parts : List (List Char)) : Prop where
  nonempty : parts ≠ []
  unsplit : ∀ p ∈ parts, Unsplit 0 p
  closed : ∀ p ∈ parts.dropLast, depth 0 p = 0

/-- Whether a character opens or closes a subscript. -/
def isBracket (c : Char) : Bool := isOpening c || isClosing c

/-- Every closing bracket closes an earlier opening one, and none stays open; the kinds are counted together. -/
def Balanced (cs : List Char) : Prop :=
  (∀ start, start <+: cs → start.countP isClosing ≤ start.countP isOpening) ∧
    cs.countP isClosing = cs.countP isOpening

instance (cs : List Char) : Decidable (Balanced cs) :=
  decidable_of_iff ((∀ start ∈ cs.inits, start.countP isClosing ≤ start.countP isOpening) ∧
    cs.countP isClosing = cs.countP isOpening) (by simp only [Balanced, List.mem_inits])

/-! ### Scanning a text in two parts -/

theorem depth_append (d : Nat) (as bs : List Char) : depth d (as ++ bs) = depth (depth d as) bs := List.foldl_append

theorem depth_cons (d : Nat) (c : Char) (cs : List Char) : depth d (c :: cs) = depth (depthAfter d c) cs := rfl

theorem unsplit_append {as bs : List Char} : ∀ {d : Nat},
    Unsplit d (as ++ bs) ↔ Unsplit d as ∧ Unsplit (depth d as) bs := by
  induction as with
  | nil => simp [Unsplit, depth]
  | cons c as ih =>
    intro d
    have h := ih (d := depthAfter d c)
    simp only [List.cons_append, Unsplit, h, and_assoc]
    rfl

theorem isOpening_of_bracket {c : Char} (h : isBracket c = false) : isOpening c = false :=
  (Bool.or_eq_false_iff.mp h).1

theorem isClosing_of_bracket {c : Char} (h : isBracket c = false) : isClosing c = false :=
  (Bool.or_eq_false_iff.mp h).2

theorem isClosing_of_isOpening {c : Char} (h : isOpening c = true) : isClosing c = false := by
  grind [isOpening, isClosing]

theorem depthAfter_of_bracket {d : Nat} {c : Char} (h : isBracket c = false) : depthAfter d c = d := by
  simp [depthAfter, isOpening_of_bracket h, isClosing_of_bracket h]

theorem depth_of_brackets {cs : List Char} (h : ∀ c ∈ cs, isBracket c = false) (d : Nat) : depth d cs = d := by
  induction cs with
  | nil => rfl
  | cons c cs ih =>
    rw [depth_cons, depthAfter_of_bracket (h c List.mem_cons_self)]
    exact ih fun x hx => h x (List.mem_cons_of_mem c hx)

/-- Inside of a subscript a text without brackets is never split. -/
theorem unsplit_of_brackets {cs : List Char} (h : ∀ c ∈ cs, isBracket c = false) (d : Nat) : Unsplit (d + 1) cs := by
  induction cs with
  | nil => trivial
  | cons c cs ih =>
    have hc := depthAfter_of_bracket (d := d + 1) (h c List.mem_cons_self)
    refine ⟨fun hd => Nat.succ_ne_zero d hd.2, ?_⟩
    rw [hc]
    exact ih fun x hx => h x (List.mem_cons_of_mem c hx)

/-- Outside of subscripts a text without brackets is split at its points. -/
theorem unsplit_iff_of_brackets {cs : List Char} (h : ∀ c ∈ cs, isBracket c = false) : Unsplit 0 cs ↔ '.' ∉ cs := by
  induction cs with
  | nil => simp [Unsplit]
  | cons c cs ih =>
    have hrest := ih fun x hx => h x (List.mem_cons_of_mem c hx)
    rw [Unsplit, depthAfter_of_bracket (h c List.mem_cons_self), hrest, List.mem_cons, not_or, eq_comm (a := c)]
    simp

/-- A name with a subscript is unsplit if the name has no points and nothing inside splits it. -/
theorem unsplit_subscript {name inside : List Char} {opening close : Char} (h : ∀ c ∈ name, isBracket c = false)
    (ho : isOpening opening = true) (hc : isClosing close = true) :
    Unsplit 0 (name ++ opening :: (inside ++ [close])) ↔ '.' ∉ name ∧ Unsplit 1 inside := by
  have ho' : opening ≠ '.' := fun he => by rw [he] at ho; exact absurd ho (by decide)
  have hc' : close ≠ '.' := fun he => by rw [he] at hc; exact absurd hc (by decide)
  have hafter : depthAfter 0 opening = 1 := by simp [depthAfter, ho]
  rw [unsplit_append, unsplit_iff_of_brackets h, depth_of_brackets h, Unsplit, hafter, unsplit_append]
  simp [Unsplit, ho', hc']

/-- The closing bracket of a subscript closes what was open before it. -/
theorem depth_subscript {name inside : List Char} {opening close : Char} (h : ∀ c ∈ name, isBracket c = false)
    (ho : isOpening opening = true) (hc : isClosing close = true) :
    depth 0 (name ++ opening :: (inside ++ [close])) = depth 1 inside - 1 := by
  have hafter : depthAfter 0 opening = 1 := by simp [depthAfter, ho]
  have hopen : isOpening close = false := Bool.eq_false_iff.mpr fun ho =>
    Bool.false_ne_true ((isClosing_of_isOpening ho).symm.trans hc)
  rw [depth_append, depth_of_brackets h, depth_cons, hafter, depth_append, depth_cons]
  simp [depth, depthAfter, hopen, hc]

/-! ### Balanced texts -/

/-- A text whose every beginning closes at most `n` brackets more than it opens keeps a deeper scan
from coming to depth zero; what is open afterwards is counted. -/
theorem unsplit_of_counts {cs : List Char} : ∀ {n : Nat},
    (∀ start, start <+: cs → start.countP isClosing ≤ start.countP isOpening + n) →
      Unsplit (n + 1) cs ∧ depth (n + 1) cs + cs.countP isClosing = n + 1 + cs.countP isOpening := by
  induction cs with
  | nil => simp [Unsplit, depth]
  | cons c cs ih =>
    intro n h
    have hstart : ∀ start, start <+: cs →
        (c :: start).countP isClosing ≤ (c :: start).countP isOpening + n := fun start hs =>
      h (c :: start) (List.cons_prefix_cons.mpr ⟨rfl, hs⟩)
    rw [depth_cons, Unsplit]
    by_cases ho : isOpening c = true
    · have hcl := isClosing_of_isOpening ho
      have hafter : depthAfter (n + 1) c = n + 1 + 1 := by simp [depthAfter, ho]
      obtain ⟨hu, hcount⟩ := ih (n := n + 1) fun start hs => by
        have := hstart start hs
        simp [ho, hcl] at this
        omega
      rw [hafter]
      refine ⟨⟨fun hz => Nat.succ_ne_zero n hz.2, hu⟩, ?_⟩
      simp [ho, hcl]
      omega
    · have ho' : isOpening c = false := Bool.eq_false_iff.mpr ho
      by_cases hcl : isClosing c = true
      · have hafter : depthAfter (n + 1) c = n := by simp [depthAfter, ho', hcl]
        -- The beginning that consists of this bracket alone shows that `n` is not zero.
        obtain ⟨m, rfl⟩ : ∃ m, n = m + 1 := by
          have := hstart [] List.nil_prefix
          simp [ho', hcl] at this
          exact ⟨n - 1, by omega⟩
        obtain ⟨hu, hcount⟩ := ih (n := m) fun start hs => by
          have := hstart start hs
          simp [ho', hcl] at this
          omega
        rw [hafter]
        refine ⟨⟨fun hz => Nat.succ_ne_zero _ hz.2, hu⟩, ?_⟩
        simp [ho', hcl]
        omega
      · have hcl' : isClosing c = false := Bool.eq_false_iff.mpr hcl
        have hafter : depthAfter (n + 1) c = n + 1 := by simp [depthAfter, ho', hcl']
        obtain ⟨hu, hcount⟩ := ih (n := n) fun start hs => by
          have := hstart start hs
          simpa [ho', hcl'] using this
        rw [hafter]
        refine ⟨⟨fun hz => Nat.succ_ne_zero n hz.2, hu⟩, ?_⟩
        simpa [ho', hcl'] using hcount

theorem Balanced.unsplit {cs : List Char} (h : Balanced cs) : Unsplit 1 cs :=
  (unsplit_of_counts (n := 0) h.1).1

theorem Balanced.depth {cs : List Char} (h : Balanced cs) : depth 1 cs = 1 := by
  have hcount : Path.depth 1 cs + cs.countP isClosing = 1 + cs.countP isOpening := (unsplit_of_counts (n := 0) h.1).2
  have htotal := h.2
  omega

/-! ### Cutting and joining -/

theorem pieces_ne_nil (d : Nat) (cs : List Char) : pieces d cs ≠ [] := by
  cases cs with
  | nil => simp [pieces]
  | cons c cs =>
    unfold pieces
    split
    · simp
    · split <;> simp

/-- A character that does not separate belongs to the first piece. -/
theorem pieces_cons {d : Nat} {c : Char} {cs p : List Char} {ps : List (List Char)} (hc : ¬(c = '.' ∧ d = 0))
    (h : pieces (depthAfter d c) cs = p :: ps) : pieces d (c :: cs) = (c :: p) :: ps := by
  rw [pieces, if_neg hc, h]

theorem pieces_of_unsplit {cs : List Char} : ∀ {d : Nat}, Unsplit d cs → pieces d cs = [cs] := by
  induction cs with
  | nil =>
    intro d _
    rfl
  | cons c cs ih =>
    intro d h
    exact pieces_cons h.1 (ih h.2)

theorem pieces_append_point {as bs : List Char} : ∀ {d : Nat}, Unsplit d as → depth d as = 0 →
    pieces d (as ++ '.' :: bs) = as :: pieces 0 bs := by
  induction as with
  | nil =>
    intro d _ hd
    obtain rfl : d = 0 := hd
    rw [List.nil_append, pieces, if_pos ⟨rfl, rfl⟩]
  | cons c as ih =>
    intro d h hd
    exact pieces_cons h.1 (ih h.2 hd)

/-- The first piece is unsplit.  It is the whole text, or no bracket is open after it and a point follows. -/
theorem pieces_eq_cons {cs : List Char} : ∀ {d : Nat} {p : List Char} {ps : List (List Char)},
    pieces d cs = p :: ps → Unsplit d p ∧
      ((ps = [] ∧ cs = p) ∨ ∃ rest, cs = p ++ '.' :: rest ∧ depth d p = 0 ∧ ps = pieces 0 rest) := by
  induction cs with
  | nil =>
    intro d p ps h
    obtain ⟨rfl, rfl⟩ := List.cons.inj (h : [[]] = p :: ps)
    exact ⟨trivial, Or.inl ⟨rfl, rfl⟩⟩
  | cons c cs ih =>
    intro d p ps h
    by_cases hc : c = '.' ∧ d = 0
    · rw [pieces, if_pos hc] at h
      obtain ⟨rfl, rfl⟩ := List.cons.inj h
      exact ⟨trivial, Or.inr ⟨cs, by rw [hc.1]; rfl, hc.2, rfl⟩⟩
    · obtain ⟨q, qs, hq⟩ := List.exists_cons_of_ne_nil (pieces_ne_nil (depthAfter d c) cs)
      rw [pieces_cons hc hq] at h
      obtain ⟨rfl, rfl⟩ := List.cons.inj h
      obtain ⟨hu, hrest⟩ := ih hq
      refine ⟨⟨hc, hu⟩, ?_⟩
      rcases hrest with ⟨rfl, rfl⟩ | ⟨rest, rfl, hd, rfl⟩
      · exact Or.inl ⟨rfl, rfl⟩
      · exact Or.inr ⟨rest, rfl, hd, rfl⟩

theorem pieces_intercalate {parts : List (List Char)} (h : Separable parts) :
    pieces 0 (['.'].intercalate parts) = parts := by
  obtain ⟨hne, hu, hd⟩ := h
  induction parts with
  | nil => exact absurd rfl hne
  | cons p ps ih =>
    cases ps with
    | nil =>
      rw [List.intercalate_singleton]
      exact pieces_of_unsplit (hu p List.mem_cons_self)
    | cons q qs =>
      have hrest := ih (by simp) (fun x hx => hu x (List.mem_cons_of_mem p hx)) fun x hx =>
        hd x (List.mem_cons_of_mem p hx)
      rw [List.intercalate_cons_cons, List.append_assoc, List.singleton_append,
        pieces_append_point (hu p List.mem_cons_self) (hd p (by simp)), hrest]

theorem pieces_spec {parts : List (List Char)} : ∀ {cs : List Char}, pieces 0 cs = parts →
    Separable parts ∧ ['.'].intercalate parts = cs := by
  induction parts with
  | nil =>
    intro cs h
    exact absurd h (pieces_ne_nil 0 cs)
  | cons p ps ih =>
    intro cs h
    obtain ⟨hu, ⟨rfl, rfl⟩ | ⟨rest, rfl, hd, rfl⟩⟩ := pieces_eq_cons h
    · exact ⟨⟨by simp, by simpa using hu, by simp⟩, List.intercalate_singleton⟩
    · obtain ⟨⟨hne, hunsplit, hclosed⟩, hjoin⟩ := ih rfl
      refine ⟨⟨by simp, ?_, ?_⟩, ?_⟩
      · intro x hx
        rcases List.mem_cons.mp hx with rfl | hx
        · exact hu
        · exact hunsplit x hx
      · intro x hx
        rw [List.dropLast_cons_of_ne_nil hne] at hx
        rcases List.mem_cons.mp hx with rfl | hx
        · exact hd
        · exact hclosed x hx
      · rw [List.intercalate_cons_of_ne_nil hne, hjoin, List.append_assoc, List.singleton_append]

/-- The pieces of a text are the separable texts that join to it. -/
theorem pieces_eq_iff {cs : List Char} {parts : List (List Char)} :
    pieces 0 cs = parts ↔ Separable parts ∧ ['.'].intercalate parts = cs :=
  ⟨pieces_spec, fun h => h.2 ▸ pieces_intercalate h.1⟩

end ObjectGraph.Path
