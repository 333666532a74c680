import Mathlib.Data.List.Induction
import ObjectGraph.Proofs.Path.Cutting

/-!
Scanning from the right.  It is the scan from the left of the mirrored text, whose brackets are turned round.  In a
balanced text both scans count the same open brackets at every place.  So they cut at the same points, and the segments
that come off from the right are those from the left in reverse.
-/

namespace ObjectGraph.Path

/-- The other bracket of a pair; no other character is changed. -/
def mirror (c : Char) : Char :=
  if c = '[' then ']' else if c = ']' then '[' else if c = '(' then ')' else if c = ')' then '(' else c

/-- A text from right to left, with its brackets turned round. -/
def mirrored (cs : List Char) : List Char := (cs.map mirror).reverse

variable {cs p before after : List Char} {d : Nat} {text start last : String}

/-! ### Mirrored texts -/

theorem mirror_mirror (c : Char) : mirror (mirror c) = c := by grind [mirror]

theorem isOpening_mirror (c : Char) : isOpening (mirror c) = isClosing c := by grind [mirror, isOpening, isClosing]

theorem isClosing_mirror (c : Char) : isClosing (mirror c) = isOpening c := by rw [← isOpening_mirror, mirror_mirror]

theorem mirror_eq_point_iff {c : Char} : mirror c = '.' ↔ c = '.' := by grind [mirror]

theorem mirrored_append (as bs : List Char) : mirrored (as ++ bs) = mirrored bs ++ mirrored as := by
  rw [mirrored, List.map_append, List.reverse_append]
  rfl

theorem mirrored_append_point (as bs : List Char) :
    mirrored (as ++ '.' :: bs) = mirrored bs ++ '.' :: mirrored as := by
  rw [← List.singleton_append, mirrored_append, mirrored_append, List.append_assoc]
  rfl

theorem map_mirror_mirror (cs : List Char) : (cs.map mirror).map mirror = cs := by
  simp [Function.comp_def, mirror_mirror]

theorem mirrored_map_mirror (cs : List Char) : mirrored (cs.map mirror) = cs.reverse := by
  rw [mirrored, map_mirror_mirror]

theorem mirrored_mirrored (cs : List Char) : mirrored (mirrored cs) = cs := by
  rw [mirrored, mirrored, List.map_reverse, map_mirror_mirror, List.reverse_reverse]

theorem countP_isOpening_mirrored (cs : List Char) : (mirrored cs).countP isOpening = cs.countP isClosing := by
  rw [mirrored, List.countP_reverse, List.countP_map]
  exact List.countP_congr fun c _ => by rw [Function.comp_apply, isOpening_mirror]

theorem countP_isClosing_mirrored (cs : List Char) : (mirrored cs).countP isClosing = cs.countP isOpening := by
  rw [← countP_isOpening_mirrored, mirrored_mirrored]

/-- Closing brackets open a subscript for the scan from the right, as their mirror images do from the left. -/
theorem cut?_map_mirror (d : Nat) (cs : List Char) : cut? isOpening isClosing d (cs.map mirror) =
    (cut? isClosing isOpening d cs).map fun (before, after) => (before.map mirror, after.map mirror) := by
  induction cs generalizing d with
  | nil => rfl
  | cons c cs ih =>
    simp only [List.map_cons, cut?, mirror_eq_point_iff, isOpening_mirror, isClosing_mirror]
    split
    · rfl
    · rw [ih, Option.map_map, Option.map_map]
      rfl

theorem cutLast?_eq (cs : List Char) :
    cutLast? cs = (cutFirst? (mirrored cs)).map fun (after, before) => (mirrored before, mirrored after) := by
  rw [cutFirst?, mirrored, ← List.map_reverse, cut?_map_mirror, Option.map_map]
  refine congrArg (Option.map · _) (funext fun (after, before) => ?_)
  simp only [Function.comp_apply, mirrored_map_mirror]

theorem cutLast?_eq_none_iff : cutLast? cs = none ↔ cutFirst? (mirrored cs) = none := by
  rw [cutLast?_eq, Option.map_eq_none_iff]

theorem cutFirst?_mirrored_of_cutLast? (h : cutLast? cs = some (before, after)) :
    cutFirst? (mirrored cs) = some (mirrored after, mirrored before) := by
  rw [cutLast?_eq, Option.map_eq_some_iff] at h
  obtain ⟨_, hcut, ⟨⟩⟩ := h
  rwa [mirrored_mirrored, mirrored_mirrored]

theorem cutLast?_spec (h : cutLast? cs = some (before, after)) :
    cs = before ++ '.' :: after ∧ Unsplit 0 (mirrored after) ∧ depth 0 (mirrored after) = 0 := by
  obtain ⟨hu, hd, hcs⟩ := cut?_eq_some_iff.mp (cutFirst?_mirrored_of_cutLast? h)
  refine ⟨?_, hu, hd⟩
  rw [← mirrored_mirrored cs, hcs, mirrored_append_point, mirrored_mirrored, mirrored_mirrored]

/-! ### Balanced texts -/

/-- Where no closing bracket is unmatched, the scan counts the brackets that are not closed. -/
theorem depth_add_closing (h : ∀ start, start <+: cs → start.countP isClosing ≤ start.countP isOpening) :
    depth 0 cs + cs.countP isClosing = cs.countP isOpening := by
  -- From the right end, as what is known of a text holds of its beginnings.
  induction cs using List.reverseRecOn with
  | nil => rfl
  | append_singleton cs c ih =>
    have hbefore := ih fun start hstart => h start (hstart.trans (List.prefix_append cs [c]))
    have hwhole := h _ List.prefix_rfl
    have hdepth : depth 0 (cs ++ [c]) = depthAfter (depth 0 cs) c := depth_append 0 cs [c]
    rw [List.countP_append, List.countP_append, List.countP_singleton, List.countP_singleton] at hwhole ⊢
    rw [hdepth, depthAfter]
    cases ho : isOpening c with
    | true =>
      simp only [isClosing_of_isOpening ho, if_true, Bool.false_eq_true, if_false]
      omega
    | false =>
      simp only [ho, Bool.false_eq_true, if_false] at hwhole ⊢
      split at hwhole
      · rename_i hc
        simp only [hc, if_true]
        omega
      · rename_i hc
        simp only [hc, if_false, Bool.false_eq_true]
        omega

namespace Balanced

theorem depth_add_closing (h : Balanced (before ++ after)) :
    Path.depth 0 before + before.countP isClosing = before.countP isOpening :=
  Path.depth_add_closing fun start hstart => h.1 start (hstart.trans (List.prefix_append before after))

theorem reflect (h : Balanced cs) : Balanced (mirrored cs) := by
  refine ⟨fun start ⟨rest, hrest⟩ => ?_, ?_⟩
  · -- The brackets that are not in the start of the mirrored text are those of a start of the text.
    obtain rfl : cs = mirrored rest ++ mirrored start := by
      rw [← mirrored_append, hrest, mirrored_mirrored]
    have hprefix := h.1 _ (List.prefix_append (mirrored rest) (mirrored start))
    have htotal := h.2
    rw [List.countP_append, List.countP_append] at htotal
    rw [← countP_isOpening_mirrored start, ← countP_isClosing_mirrored start]
    omega
  · rw [countP_isClosing_mirrored, countP_isOpening_mirrored, h.2]

/-- At every place the scan from the right has as many brackets open as the scan from the left. -/
theorem depth_mirrored (h : Balanced (before ++ after)) : Path.depth 0 (mirrored after) = Path.depth 0 before := by
  have hleft := h.depth_add_closing
  have hreflected := h.reflect
  rw [mirrored_append] at hreflected
  have hright := hreflected.depth_add_closing
  have htotal := h.2
  rw [List.countP_append, List.countP_append] at htotal
  rw [countP_isClosing_mirrored, countP_isOpening_mirrored] at hright
  omega

theorem depth_mirrored_of_point (h : Balanced (before ++ '.' :: after)) :
    Path.depth 0 (mirrored after) = Path.depth 0 before := by
  rw [← List.singleton_append, ← List.append_assoc] at h
  rw [h.depth_mirrored, depth_append]
  rfl

/-- Where no bracket is open, a balanced text falls into two. -/
theorem of_depth (h : Balanced (before ++ after)) (hd : Path.depth 0 before = 0) :
    Balanced before ∧ Balanced after := by
  have hcount := h.depth_add_closing
  rw [hd, Nat.zero_add] at hcount
  have htotal := h.2
  rw [List.countP_append, List.countP_append] at htotal
  refine ⟨⟨fun start hstart => h.1 start (hstart.trans (List.prefix_append before after)), hcount⟩, ?_, by omega⟩
  intro start hstart
  have hprefix := h.1 (before ++ start) ((List.prefix_append_right_inj before).mpr hstart)
  rw [List.countP_append, List.countP_append] at hprefix
  omega

theorem of_mem_pieces (h : Balanced cs) (hp : p ∈ pieces 0 cs) : Balanced p := by
  generalize hparts : pieces 0 cs = parts at hp
  induction parts generalizing cs with
  | nil => cases hp
  | cons q parts ih =>
    obtain ⟨-, ⟨rfl, rfl⟩ | ⟨rest, rfl, hd, rfl⟩⟩ := pieces_eq_cons hparts
    · rwa [List.mem_singleton.mp hp]
    · rcases List.mem_cons.mp hp with rfl | hp
      · exact (h.of_depth hd).1
      · rw [← List.singleton_append, ← List.append_assoc] at h
        refine ih (h.of_depth ?_).2 rfl hp
        rw [depth_append, hd]
        rfl

end Balanced

/-! ### Pieces from the right -/

theorem unsplit_iff : Unsplit d cs ↔ ∀ before after, cs = before ++ '.' :: after → depth d before ≠ 0 := by
  constructor
  · rintro h before after rfl hd
    exact (unsplit_append.mp h).2.1 ⟨rfl, hd⟩
  · intro h
    refine cut?_eq_none_iff.mp (Option.eq_none_iff_forall_ne_some.mpr fun (before, after) hcut => ?_)
    obtain ⟨-, hd, hcs⟩ := cut?_eq_some_iff.mp hcut
    exact h before after hcs hd

/-- What no point splits from the left, none splits from the right. -/
theorem Balanced.unsplit_mirrored (h : Balanced cs) (hu : Unsplit 0 cs) : Unsplit 0 (mirrored cs) := by
  refine unsplit_iff.mpr fun before after hcs hd => ?_
  obtain rfl : cs = mirrored after ++ '.' :: mirrored before := by
    rw [← mirrored_append_point, ← hcs, mirrored_mirrored]
  refine unsplit_iff.mp hu _ _ rfl ?_
  rw [← h.depth_mirrored_of_point, mirrored_mirrored, hd]

theorem intercalate_concat {α : Type} {sep last : List α} {parts : List (List α)} (hne : parts ≠ []) :
    sep.intercalate (parts ++ [last]) = sep.intercalate parts ++ sep ++ last := by
  induction parts with
  | nil => exact absurd rfl hne
  | cons part parts ih =>
    rw [List.cons_append, List.intercalate_cons_of_ne_nil (by simp)]
    cases parts with
    | nil => simp
    | cons q qs => rw [ih (by simp), List.intercalate_cons_cons]; simp

theorem intercalate_mirrored (parts : List (List Char)) :
    ['.'].intercalate (parts.map mirrored).reverse = mirrored (['.'].intercalate parts) := by
  induction parts with
  | nil => rfl
  | cons part parts ih =>
    rw [List.map_cons, List.reverse_cons]
    cases parts with
    | nil => simp
    | cons q qs =>
      rw [intercalate_concat (by simp), ih, List.intercalate_cons_cons, mirrored_append, mirrored_append]
      simp [mirrored, mirror]

theorem Balanced.pieces_mirrored (h : Balanced cs) :
    pieces 0 (mirrored cs) = ((pieces 0 cs).map mirrored).reverse := by
  obtain ⟨⟨hne, hu, -⟩, hjoin⟩ := pieces_spec (rfl : pieces 0 cs = _)
  refine pieces_eq_iff.mpr ⟨⟨by simpa using hne, fun q hq => ?_, fun q hq => ?_⟩, ?_⟩
  · obtain ⟨p, hp, rfl⟩ := List.mem_map.mp (List.mem_reverse.mp hq)
    exact (h.of_mem_pieces hp).unsplit_mirrored (hu p hp)
  · obtain ⟨p, hp, rfl⟩ := List.mem_map.mp (List.mem_reverse.mp (List.dropLast_subset _ hq))
    have hp : Balanced ([] ++ p) := h.of_mem_pieces hp
    exact hp.depth_mirrored
  · rw [intercalate_mirrored, hjoin]

/-! ### Segments from the right -/

theorem splitLast_of_some (h : cutLast? text.toList = some (before, after)) :
    splitLast text = (some (String.ofList before), String.ofList after) := by
  rw [splitLast, h]

theorem splitLast_of_none (h : cutLast? text.toList = none) : splitLast text = (none, text) := by
  rw [splitLast, h]

theorem length_of_splitLast (h : splitLast text = (some start, last)) : start.length < text.length := by
  cases hcut : cutLast? text.toList with
  | none =>
    rw [splitLast_of_none hcut] at h
    cases h
  | some cut =>
    rw [splitLast_of_some hcut] at h
    cases h
    rw [← String.length_toList, ← String.length_toList, (cutLast?_spec hcut).1, String.toList_ofList,
      List.length_append, List.length_cons]
    omega

/-- The texts of the segments from the last one on: the last one, and then those of what is left without it. -/
def textsFromRight (text : String) : List String :=
  match h : splitLast text with
  | (some start, last) =>
    have : start.length < text.length := length_of_splitLast h
    last :: textsFromRight start
  | (none, last) => [last]
termination_by text.length

theorem textsFromRight_of_some (h : splitLast text = (some start, last)) :
    textsFromRight text = last :: textsFromRight start := by
  rw [textsFromRight]
  split <;> rename_i h' <;> cases h.symm.trans h'
  rfl

theorem textsFromRight_of_none (h : splitLast text = (none, last)) : textsFromRight text = [last] := by
  rw [textsFromRight]
  split <;> rename_i h' <;> cases h.symm.trans h'
  rfl

/-- The texts that come off from the right are the pieces of the mirrored text. -/
theorem textsFromRight_eq (text : String) :
    textsFromRight text = (pieces 0 (mirrored text.toList)).map fun p => String.ofList (mirrored p) := by
  cases hcut : cutLast? text.toList with
  | none =>
    rw [textsFromRight_of_none (splitLast_of_none hcut),
      pieces_of_cutFirst?_eq_none (cutLast?_eq_none_iff.mp hcut), List.map_singleton, mirrored_mirrored,
      String.ofList_toList]
  | some cut =>
    have hsplit := splitLast_of_some hcut
    have : (String.ofList cut.1).length < text.length := length_of_splitLast hsplit
    rw [textsFromRight_of_some hsplit, textsFromRight_eq (String.ofList cut.1),
      pieces_of_cutFirst?_eq_some (cutFirst?_mirrored_of_cutLast? hcut), List.map_cons, mirrored_mirrored,
      String.toList_ofList]
termination_by text.length
decreasing_by exact this

namespace Balanced

theorem cutLast?_eq_none_iff (h : Balanced cs) : cutLast? cs = none ↔ cutFirst? cs = none := by
  rw [Path.cutLast?_eq_none_iff, cutFirst?, cutFirst?, cut?_eq_none_iff, cut?_eq_none_iff]
  refine ⟨fun hu => ?_, h.unsplit_mirrored⟩
  rw [← mirrored_mirrored cs]
  exact h.reflect.unsplit_mirrored hu

/-- The first cut is not behind the last one. -/
theorem prefix_of_cuts (h : Balanced cs) {first rest start last : List Char}
    (hfirst : cutFirst? cs = some (first, rest)) (hlast : cutLast? cs = some (start, last)) : first <+: start := by
  obtain ⟨hu, -, hcs⟩ := cut?_eq_some_iff.mp hfirst
  obtain ⟨rfl, -, hd⟩ := cutLast?_spec hlast
  rw [h.depth_mirrored_of_point] at hd
  rcases List.append_eq_append_iff.mp hcs with ⟨more, rfl, hmore⟩ | ⟨more, rfl, -⟩
  · cases more with
    | nil => rw [List.append_nil]
    | cons c more =>
      -- Otherwise the last cut would be at an earlier point of the first text, which no point splits.
      obtain ⟨rfl, -⟩ := List.cons.inj hmore
      exact absurd hd (unsplit_iff.mp hu _ _ rfl)
  · exact List.prefix_append first more

end Balanced

/-- In a balanced text the scans from both sides find a separator or none, the first one not behind the last one, and
the segments that come off from the right are those from the left in reverse. -/
theorem scans_from_both_sides_agree (h : Balanced text.toList) :
    (nextSeparator? text).isSome = (lastSeparator? text).isSome ∧
    (∀ i j, nextSeparator? text = some i → lastSeparator? text = some j → i ≤ j) ∧
    textsFromRight text = (textsFromLeft text).reverse := by
  refine ⟨?_, fun i j hi hj => ?_, ?_⟩
  · rw [nextSeparator?, lastSeparator?, Option.isSome_map, Option.isSome_map, Bool.eq_iff_iff,
      Option.isSome_iff_ne_none, Option.isSome_iff_ne_none, ne_eq, ne_eq, h.cutLast?_eq_none_iff]
  · obtain ⟨⟨first, rest⟩, hfirst, rfl⟩ := Option.map_eq_some_iff.mp hi
    obtain ⟨⟨start, last⟩, hlast, rfl⟩ := Option.map_eq_some_iff.mp hj
    obtain ⟨more, rfl⟩ := h.prefix_of_cuts hfirst hlast
    show Utf8.length first ≤ Utf8.length (first ++ more)
    rw [Utf8.length_append]
    exact Nat.le_add_right _ _
  · rw [textsFromRight_eq, h.pieces_mirrored, textsFromLeft_eq, List.map_reverse, List.map_map]
    refine congrArg List.reverse (List.map_congr_left fun p _ => ?_)
    rw [Function.comp_apply, mirrored_mirrored]

/-- Points between the brackets of a key do not separate, whatever other brackets the key holds. -/
theorem scans_from_both_sides_agree_about_keys : Balanced "a(x.[y]).b[1].ü".toList ∧
    nextSeparator? "a(x.[y]).b[1].ü" = some 8 ∧ lastSeparator? "a(x.[y]).b[1].ü" = some 13 ∧
    textsFromRight "a(x.[y]).b[1].ü" = (textsFromLeft "a(x.[y]).b[1].ü").reverse := by
  have h : Balanced "a(x.[y]).b[1].ü".toList := by decide
  exact ⟨h, rfl, rfl, (scans_from_both_sides_agree h).2.2⟩

end ObjectGraph.Path
