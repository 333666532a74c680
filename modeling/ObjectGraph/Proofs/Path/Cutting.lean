import ObjectGraph.Path.Scan
import ObjectGraph.Proofs.Path.Pieces

/-!
Cutting a text at its first separator, and again what is left of it.  The first cut is at the first point outside of
subscripts, and the texts that come off one after another are the pieces of the text.
-/

namespace ObjectGraph.Path

variable {cs before after : List Char} {d : Nat} {text rest : String}

/-! ### One cut -/

theorem cut?_eq_none_iff : cut? isOpening isClosing d cs = none ↔ Unsplit d cs := by
  induction cs generalizing d with
  | nil => simp [cut?, Unsplit]
  | cons c cs ih =>
    rw [cut?, Unsplit]
    by_cases hc : c = '.' ∧ d = 0
    · simp [hc]
    · rw [if_neg hc, Option.map_eq_none_iff]
      exact ih.trans (and_iff_right hc).symm

theorem cut?_eq_some_iff : cut? isOpening isClosing d cs = some (before, after) ↔
    Unsplit d before ∧ depth d before = 0 ∧ cs = before ++ '.' :: after := by
  induction cs generalizing d before with
  | nil => simp [cut?]
  | cons c cs ih =>
    rw [cut?]
    by_cases hc : c = '.' ∧ d = 0
    · obtain ⟨rfl, rfl⟩ := hc
      rw [if_pos ⟨rfl, rfl⟩]
      constructor
      · rintro ⟨⟩
        exact ⟨trivial, rfl, rfl⟩
      · rintro ⟨hu, -, hcs⟩
        cases before with
        | nil => rw [(List.cons.inj hcs).2]
        | cons b bs =>
          -- The text begins with a point outside of subscripts, which no unsplit beginning has.
          exact absurd ⟨(List.cons.inj hcs).1.symm, rfl⟩ hu.1
    · rw [if_neg hc, Option.map_eq_some_iff]
      constructor
      · rintro ⟨⟨bs, as⟩, hcut, ⟨⟩⟩
        obtain ⟨hu, hd, rfl⟩ := ih.mp hcut
        exact ⟨⟨hc, hu⟩, hd, rfl⟩
      · rintro ⟨hu, hd, hcs⟩
        cases before with
        | nil => exact absurd ⟨(List.cons.inj hcs).1, hd⟩ hc
        | cons b bs =>
          obtain ⟨rfl, rfl⟩ := List.cons.inj hcs
          exact ⟨(bs, after), ih.mpr ⟨hu.2, hd, rfl⟩, rfl⟩

theorem pieces_of_cutFirst?_eq_none (h : cutFirst? cs = none) : pieces 0 cs = [cs] :=
  pieces_of_unsplit (cut?_eq_none_iff.mp h)

theorem pieces_of_cutFirst?_eq_some (h : cutFirst? cs = some (before, after)) :
    pieces 0 cs = before :: pieces 0 after := by
  obtain ⟨hu, hd, rfl⟩ := cut?_eq_some_iff.mp h
  exact pieces_append_point hu hd

/-! ### All cuts -/

theorem length_of_restText? (h : restText? text = some rest) : rest.length < text.length := by
  obtain ⟨⟨before, after⟩, hcut, rfl⟩ := Option.map_eq_some_iff.mp h
  have hlength := congrArg List.length (cut?_eq_some_iff.mp hcut).2.2
  rw [← String.length_toList, ← String.length_toList, String.toList_ofList, hlength, List.length_append,
    List.length_cons]
  omega

/-- The texts of the segments: the first one, and then those of what is left without it. -/
def textsFromLeft (text : String) : List String :=
  match h : restText? text with
  | some rest =>
    have : rest.length < text.length := length_of_restText? h
    firstText text :: textsFromLeft rest
  | none => [firstText text]
termination_by text.length

theorem textsFromLeft_of_some (h : restText? text = some rest) :
    textsFromLeft text = firstText text :: textsFromLeft rest := by
  rw [textsFromLeft]
  split
  · rename_i h'
    rw [Option.some.inj (h.symm.trans h')]
  · rename_i h'
    cases h.symm.trans h'

theorem textsFromLeft_of_none (h : restText? text = none) : textsFromLeft text = [firstText text] := by
  rw [textsFromLeft]
  split
  · rename_i h'
    cases h.symm.trans h'
  · rfl

/-- The texts that come off one after another are the pieces. -/
theorem textsFromLeft_eq (text : String) : textsFromLeft text = (pieces 0 text.toList).map String.ofList := by
  induction text using textsFromLeft.induct with
  | case1 text rest h _ ih =>
    obtain ⟨⟨before, after⟩, hcut, rfl⟩ := Option.map_eq_some_iff.mp h
    rw [textsFromLeft_of_some h, ih, pieces_of_cutFirst?_eq_some hcut, firstText, firstChars, hcut,
      String.toList_ofList]
    rfl
  | case2 text h =>
    have hcut := Option.map_eq_none_iff.mp h
    rw [textsFromLeft_of_none h, pieces_of_cutFirst?_eq_none hcut, firstText, firstChars, hcut]
    rfl

theorem intercalate_textsFromLeft (text : String) : ".".intercalate (textsFromLeft text) = text := by
  have hjoin : ['.'].intercalate (pieces 0 text.toList) = text.toList := (pieces_spec rfl).2
  rw [← String.toList_inj, String.toList_intercalate, textsFromLeft_eq, List.map_map]
  simpa [Function.comp_def] using hjoin

end ObjectGraph.Path
