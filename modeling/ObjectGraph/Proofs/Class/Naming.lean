import ObjectGraph.Class.Naming
import ObjectGraph.Path.Parser
import ObjectGraph.Proofs.Class.Accessor

/-!
From the name of a property to the name of an accessor, and back.  The way back has two rules: a name after the word
that begins with two capitals is kept, and otherwise its first character is put in lower case.  So the name that a
class finds need not be the one that its accessors were named after.
-/

namespace ObjectGraph

namespace Letter
variable {c d : Char} {n : Nat} {ranges : List (Nat × Nat × Nat × Int)} {specials : List (Nat × List Nat)}

/-! ### Delimiters -/

/-- The delimiters of paths. -/
def delimiters : List Nat := [0x28, 0x29, 0x2E, 0x5B, 0x5D]

theorem toNat_mem_delimiters (h : Path.isDelimiter c = true) : c.toNat ∈ delimiters := by
  simp only [Path.isDelimiter, Path.isOpening, Path.isClosing, Bool.or_eq_true, beq_iff_eq] at h
  rcases h with (rfl | rfl | rfl) | rfl | rfl <;> decide

theorem mem_delimiters_of_ofNat (h : Path.isDelimiter (Char.ofNat n) = true) : n ∈ delimiters := by
  by_cases hn : n.isValidChar
  · have hchar := toNat_mem_delimiters h
    rwa [Char.ofNat, dif_pos hn] at hchar
  · rw [Char.ofNat, dif_neg hn] at h
    exact absurd h (by decide)

/-- No delimiter is an image of a table. -/
def avoidsDelimiters (ranges : List (Nat × Nat × Nat × Int)) (specials : List (Nat × List Nat)) : Bool :=
  delimiters.all fun d =>
    (ranges.all fun (first, last, _, shift) => (d : Int) < first + shift || last + shift < (d : Int)) &&
      specials.all fun row => !row.2.contains d

theorem not_isDelimiter_of_mem_mapped (h : avoidsDelimiters ranges specials = true) (hc : Path.isDelimiter c = false)
    (hd : d ∈ mapped ranges specials c) : Path.isDelimiter d = false := by
  rw [← Bool.not_eq_true]
  intro hdelimiter
  have hall := fun n (hn : n ∈ delimiters) => Bool.and_eq_true_iff.mp (List.all_eq_true.mp h n hn)
  unfold mapped at hd
  split at hd
  · rename_i row hrow
    obtain ⟨n, hn, rfl⟩ := List.mem_map.mp hd
    have hrow := List.all_eq_true.mp (hall n (mem_delimiters_of_ofNat hdelimiter)).2 row
      (List.mem_of_find?_eq_some hrow)
    simp only [List.contains_eq_mem, hn, decide_true, Bool.not_true, Bool.false_eq_true] at hrow
  · split at hd
    · rename_i first last step shift hrange
      obtain rfl := List.mem_singleton.mp hd
      have hin := List.find?_some hrange
      simp only [inRange, Bool.and_eq_true, decide_eq_true_eq] at hin
      have hmem := mem_delimiters_of_ofNat hdelimiter
      have hout := List.all_eq_true.mp (hall _ hmem).1 _ (List.mem_of_find?_eq_some hrange)
      simp only [Bool.or_eq_true, decide_eq_true_eq] at hout
      have hpos : (c.toNat + shift).toNat ≠ 0 := fun hzero => by
        rw [hzero] at hmem
        exact absurd hmem (by decide)
      omega
    · obtain rfl := List.mem_singleton.mp hd
      rw [hc] at hdelimiter
      cases hdelimiter

theorem ascii_cases_not_isDelimiter : ∀ n < 128, Path.isDelimiter (Char.ofNat n) = false →
    Path.isDelimiter (Char.ofNat n).toUpper = false ∧ Path.isDelimiter (Char.ofNat n).toLower = false := by
  decide +kernel

theorem not_isDelimiter_of_mem_upper (hc : Path.isDelimiter c = false) (hd : d ∈ upper c) :
    Path.isDelimiter d = false := by
  unfold upper at hd
  split at hd
  · rename_i hascii
    obtain rfl := List.mem_singleton.mp hd
    have hcases := ascii_cases_not_isDelimiter c.toNat hascii
    rw [Char.ofNat_toNat] at hcases
    exact (hcases hc).1
  · exact not_isDelimiter_of_mem_mapped (by decide +kernel) hc hd

theorem not_isDelimiter_of_mem_lower (hc : Path.isDelimiter c = false) (hd : d ∈ lower c) :
    Path.isDelimiter d = false := by
  unfold lower at hd
  split at hd
  · rename_i hascii
    obtain rfl := List.mem_singleton.mp hd
    have hcases := ascii_cases_not_isDelimiter c.toNat hascii
    rw [Char.ofNat_toNat] at hcases
    exact (hcases hc).2
  · exact not_isDelimiter_of_mem_mapped (by decide +kernel) hc hd

end Letter

/-! ### The name that is found -/

/-- Whether a text begins with two capitals. -/
def beginsWithCapitals : List Char → Bool
  | c :: d :: _ => Letter.isCapital c && Letter.isCapital d
  | _ => false

/-- The name under which a class finds a property whose accessors were named after a name. -/
def foundName (declared : String) : String := decapitalize (capitalize declared)

/-- Whether a property is found under the name that it was declared with.  If what follows the word of its accessors
begins with two capitals, it has to be the name itself; otherwise the first character has to come back. -/
def KeepsName (declared : String) : Prop :=
  match declared.toList with
  | c :: cs =>
    if beginsWithCapitals (Letter.upper c ++ cs) then Letter.upper c = [c]
    else ∃ u, Letter.upper c = [u] ∧ Letter.lower u = [c]
  | [] => True

variable {c u : Char} {cs : List Char} {declared : String}

theorem capitalize_ofList_cons : capitalize (String.ofList (c :: cs)) = String.ofList (Letter.upper c ++ cs) := by
  rw [capitalize, String.toList_ofList]

theorem capitalize_ne_empty (h : declared ≠ "") : capitalize declared ≠ "" := by
  unfold capitalize
  split
  · rename_i c cs _
    simpa using fun hnil => absurd hnil (Letter.upper_ne_nil c)
  · rename_i hnil
    exact absurd (String.toList_eq_nil_iff.mp hnil) h

theorem decapitalize_ofList_cons : decapitalize (String.ofList (c :: cs)) =
    String.ofList (if beginsWithCapitals (c :: cs) then c :: cs else Letter.lower c ++ cs) := by
  rw [decapitalize, String.toList_ofList]
  cases cs with
  | nil => simp [beginsWithCapitals]
  | cons d cs =>
    dsimp only
    rw [beginsWithCapitals]
    split <;> rfl

/-- The mapping of the first character has a first character, which decides what is done. -/
theorem foundName_ofList_cons (c : Char) (cs : List Char) : ∃ u us, Letter.upper c = u :: us ∧
    foundName (String.ofList (c :: cs)) =
      String.ofList (if beginsWithCapitals (Letter.upper c ++ cs) then Letter.upper c ++ cs
        else Letter.lower u ++ (us ++ cs)) := by
  obtain ⟨u, us, hupper⟩ := List.exists_cons_of_ne_nil (Letter.upper_ne_nil c)
  refine ⟨u, us, hupper, ?_⟩
  rw [foundName, capitalize_ofList_cons, hupper, List.cons_append, decapitalize_ofList_cons]

theorem lower_append_eq_singleton {us : List Char} : Letter.lower u ++ us = [c] ↔ Letter.lower u = [c] ∧ us = [] := by
  rw [List.append_eq_singleton_iff]
  exact or_iff_right fun h => Letter.lower_ne_nil u h.1

/-- The name that is found is the one that was declared under exactly that condition. -/
theorem foundName_eq_iff (declared : String) : foundName declared = declared ↔ KeepsName declared := by
  rw [← String.ofList_toList (s := declared)]
  cases declared.toList with
  | nil => exact iff_of_true rfl (by rw [KeepsName, String.toList_ofList]; trivial)
  | cons c cs =>
    obtain ⟨u, us, hupper, hfound⟩ := foundName_ofList_cons c cs
    rw [KeepsName, String.toList_ofList, hfound, String.ofList_inj]
    dsimp only
    split
    · rw [← List.singleton_append (l := cs), List.append_cancel_right_eq]
    · rw [← List.append_assoc, ← List.singleton_append (l := cs), List.append_cancel_right_eq,
        lower_append_eq_singleton, hupper]
      constructor
      · rintro ⟨hlower, rfl⟩
        exact ⟨u, rfl, hlower⟩
      · rintro ⟨v, hv, hlower⟩
        obtain ⟨rfl, rfl⟩ := List.cons_eq_cons.mp hv
        exact ⟨hlower, rfl⟩

theorem foundName_ne_empty (h : declared ≠ "") : foundName declared ≠ "" :=
  decapitalize_ne_empty (capitalize_ne_empty h)

/-- The name that is found has no delimiters if the declared one has none. -/
theorem not_isDelimiter_of_mem_foundName (h : ∀ c ∈ declared.toList, Path.isDelimiter c = false) :
    ∀ c ∈ (foundName declared).toList, Path.isDelimiter c = false := by
  rw [← String.ofList_toList (s := declared)]
  cases hlist : declared.toList with
  | nil => exact fun c hc => absurd hc List.not_mem_nil
  | cons c cs =>
    rw [hlist, List.forall_mem_cons] at h
    obtain ⟨u, us, hupper, hfound⟩ := foundName_ofList_cons c cs
    have hfirst : ∀ d ∈ Letter.upper c, Path.isDelimiter d = false := fun d => Letter.not_isDelimiter_of_mem_upper h.1
    rw [hfound, String.toList_ofList]
    intro d hd
    split at hd
    · exact (List.mem_append.mp hd).elim (hfirst d) (h.2 d)
    · rw [hupper, List.forall_mem_cons] at hfirst
      rcases List.mem_append.mp hd with hd | hd
      · exact Letter.not_isDelimiter_of_mem_lower hfirst.1 hd
      · exact (List.mem_append.mp hd).elim (hfirst.2 d) (h.2 d)

end ObjectGraph
