import ObjectGraph.Proofs.Path.Cutting
import ObjectGraph.Proofs.Path.RoundTrip

/-!
Where the fault of a path is.  The texts that come off a path one after another stand in it at places that are
counted in bytes.  Reading stops in the first of them that is no segment, at the place where reading it alone stops.
-/

namespace ObjectGraph

namespace Segment
open ObjectGraph.Path

/-- The place of a fault is behind some beginning of the text. -/
theorem exists_beginning_of_parseChars {cs : List Char} {place : Nat} {fault : PathFault}
    (h : parseChars cs = .error (place, fault)) : ∃ beginning, beginning <+: cs ∧ Utf8.length beginning = place := by
  have hcut := List.takeWhile_append_dropWhile (p := fun c => !isOpening c) (l := cs)
  simp only [parseChars] at h
  generalize cs.takeWhile (fun c => !isOpening c) = name at h hcut
  split at h
  · split at h
    · cases h
      exact ⟨_, List.takeWhile_prefix _, rfl⟩
    · split at h
      · cases h
        exact ⟨[], List.nil_prefix, rfl⟩
      · cases h
  · rename_i opening inner hrest
    rw [hrest] at hcut
    generalize (if opening = '[' then ']' else ')') = close at h
    split at h
    · cases h
      exact ⟨_, (List.takeWhile_prefix _).trans ⟨_, hcut⟩, rfl⟩
    · split at h
      · cases h
        exact ⟨cs, List.prefix_rfl, rfl⟩
      · split at h
        · -- The index that cannot be read begins behind its bracket.
          rename_i hindex
          subst hindex
          split at h
          · cases h
          · cases h
            refine ⟨name ++ ['['], ⟨inner, ?_⟩, Utf8.length_append name ['[']⟩
            rw [List.append_assoc, List.singleton_append, hcut]
        · cases h

/-- The place of a fault is between two characters. -/
theorem isValid_of_parse {text : String} {e : PathError} (h : parse text = .error e) :
    (⟨e.offset⟩ : String.Pos.Raw).IsValid text := by
  rw [parse] at h
  cases hread : parseChars text.toList with
  | ok s =>
    rw [hread] at h
    cases h
  | error fault =>
    rw [hread] at h
    cases h
    obtain ⟨beginning, ⟨more, hcut⟩, hplace⟩ := exists_beginning_of_parseChars hread
    refine String.Pos.Raw.isValid_iff_exists_append.mpr ⟨String.ofList beginning, String.ofList more, ?_, ?_⟩
    · rw [← String.ofList_append, hcut, String.ofList_toList]
    · rw [String.Pos.Raw.ext_iff, String.byteIdx_rawEndPos, Utf8.utf8ByteSize_ofList, hplace]

end Segment

namespace Path

variable {text t : String} {ts : List String} {offset place b : Nat} {fault : PathFault} {e : PathError}

/-! ### Places of texts -/

/-- Texts with points between them, each with the byte where it starts. -/
def placed (offset : Nat) : List String → List (Nat × String)
  | [] => []
  | t :: ts => (offset, t) :: placed (offset + t.utf8ByteSize + 1) ts

theorem le_of_mem_placed (h : (b, t) ∈ placed offset ts) : offset ≤ b := by
  induction ts generalizing offset with
  | nil => cases h
  | cons u ts ih =>
    rcases List.mem_cons.mp h with heq | hmem
    · exact (congrArg Prod.fst heq).ge
    · have := ih hmem
      omega

/-- A point stands between the end of a text and every later one. -/
theorem pairwise_placed : (placed offset ts).Pairwise fun q r => q.1 + q.2.utf8ByteSize < r.1 := by
  induction ts generalizing offset with
  | nil => exact .nil
  | cons u ts ih => exact .cons (fun r hr => le_of_mem_placed hr) ih

/-- At the byte where a text starts, it is found in the whole. -/
theorem found_of_mem_placed (h : (b, t) ∈ placed offset ts) :
    ∃ before after, ".".intercalate ts = before ++ t ++ after ∧ offset + before.utf8ByteSize = b := by
  induction ts generalizing offset with
  | nil => cases h
  | cons u ts ih =>
    rcases List.mem_cons.mp h with heq | hmem
    · cases heq
      cases ts with
      | nil => exact ⟨"", "", by simp, rfl⟩
      | cons v vs =>
        exact ⟨"", "." ++ ".".intercalate (v :: vs), by simp [String.intercalate_cons_cons, String.append_assoc], rfl⟩
    · obtain ⟨before, after, hjoin, hplace⟩ := ih hmem
      have hne : ts ≠ [] := by
        rintro rfl
        cases hmem
      refine ⟨u ++ "." ++ before, after, ?_, ?_⟩
      · rw [String.intercalate_cons_of_ne_nil hne, hjoin]
        simp only [String.append_assoc]
      · have hpoint : ".".utf8ByteSize = 1 := rfl
        rw [String.utf8ByteSize_append, String.utf8ByteSize_append, hpoint, ← hplace]
        omega

/-- A place between two characters of a piece is one of the text. -/
theorem isValid_of_mem_placed (h : (b, t) ∈ placed 0 (textsFromLeft text))
    (hvalid : (⟨place⟩ : String.Pos.Raw).IsValid t) : (⟨b + place⟩ : String.Pos.Raw).IsValid text := by
  obtain ⟨before, after, hjoin, hb⟩ := found_of_mem_placed h
  obtain ⟨beginning, more, rfl, hplace⟩ := String.Pos.Raw.isValid_iff_exists_append.mp hvalid
  have hplace : place = beginning.utf8ByteSize := congrArg String.Pos.Raw.byteIdx hplace
  rw [intercalate_textsFromLeft] at hjoin
  refine String.Pos.Raw.isValid_iff_exists_append.mpr ⟨before ++ beginning, more ++ after, ?_, ?_⟩
  · rw [hjoin]
    simp only [String.append_assoc]
  · rw [String.Pos.Raw.ext_iff, String.byteIdx_rawEndPos, String.utf8ByteSize_append, hplace, ← hb, Nat.zero_add]

/-! ### The piece that does not read -/

/-- The pieces before a fault read, and the one that does not fails at the same place if it is read alone. -/
theorem exists_unreadable_of_parsePieces {ps : List (List Char)} (h : parsePieces offset ps = .error (place, fault)) :
    ∃ before b bad after, placed offset (ps.map String.ofList) = before ++ (b, bad) :: after ∧
      (∀ q ∈ before, ∃ s, Segment.parse q.2 = .ok s) ∧ b ≤ place ∧
      Segment.parse bad = .error ⟨place - b, bad, fault⟩ := by
  induction ps generalizing offset with
  | nil => cases h
  | cons cs ps ih =>
    cases hread : Segment.parseChars cs with
    | error e =>
      rw [parsePieces_cons_of_error hread] at h
      cases h
      refine ⟨[], offset, String.ofList cs, _, rfl, by simp, by omega, ?_⟩
      rw [Segment.parse, String.toList_ofList, hread, Nat.add_sub_cancel_left]
      rfl
    | ok s =>
      rw [parsePieces_cons_of_ok hread] at h
      cases hrest : parsePieces (offset + Utf8.length cs + 1) ps with
      | ok segments =>
        rw [hrest] at h
        cases h
      | error e =>
        rw [hrest] at h
        cases h
        obtain ⟨before, b, bad, after, hplaced, hbefore, hle, hbad⟩ := ih hrest
        refine ⟨(offset, String.ofList cs) :: before, b, bad, after, ?_, ?_, hle, hbad⟩
        · rw [List.map_cons, placed, Utf8.utf8ByteSize_ofList, hplaced, List.cons_append]
        · rintro q hq
          rcases List.mem_cons.mp hq with rfl | hq
          · exact ⟨s, by rw [Segment.parse, String.toList_ofList, hread]; rfl⟩
          · exact hbefore q hq

/-- Only the wording of the fault is another if the text is empty. -/
theorem parse_eq_error (h : parse text = .error e) : e.path = text ∧
    ∃ fault, parsePieces 0 (pieces 0 text.toList) = .error (e.offset, fault) ∧ (text ≠ "" → fault = e.fault) := by
  unfold parse at h
  split at h
  · rename_i hempty
    cases h
    obtain rfl := String.isEmpty_iff.mp hempty
    exact ⟨rfl, .emptyName, rfl, fun hne => absurd rfl hne⟩
  · split at h
    · rename_i hread
      cases h
      exact ⟨rfl, _, hread, fun _ => rfl⟩
    · rename_i hread
      split at h
      · cases h
      · rename_i hnil
        rw [not_not.mp hnil] at hread
        exact absurd (List.forall₂_nil_right_iff.mp (parsePieces_eq_ok.mp hread)) (pieces_ne_nil 0 _)

/-- The place of a fault is in exactly one of the pieces, all before it read, and it fails there if it is read alone. -/
theorem fault_is_in_first_unreadable (h : parse text = .error e) :
    e.path = text ∧ e.offset ≤ text.utf8ByteSize ∧ (⟨e.offset⟩ : String.Pos.Raw).IsValid text ∧
    (∃ b t, (b, t) ∈ placed 0 (textsFromLeft text) ∧ b ≤ e.offset ∧ e.offset ≤ b + t.utf8ByteSize) ∧
    ∀ b t, (b, t) ∈ placed 0 (textsFromLeft text) →
      (b + t.utf8ByteSize < e.offset → ∃ s, Segment.parse t = .ok s) ∧
      (b ≤ e.offset → e.offset ≤ b + t.utf8ByteSize →
        ∃ fault, Segment.parse t = .error ⟨e.offset - b, t, fault⟩ ∧ (text ≠ "" → fault = e.fault)) := by
  obtain ⟨hpath, fault, hread, hfault⟩ := parse_eq_error h
  obtain ⟨before, b, bad, after, hplaced, hbefore, hle, hbad⟩ := exists_unreadable_of_parsePieces hread
  rw [← textsFromLeft_eq] at hplaced
  have hmem : (b, bad) ∈ placed 0 (textsFromLeft text) := by simp [hplaced]
  have hplace : b + (e.offset - b) = e.offset := Nat.add_sub_cancel' hle
  have hvalid := Segment.isValid_of_parse hbad
  have hend : e.offset - b ≤ bad.utf8ByteSize := hvalid.le_rawEndPos
  have hwhole := hplace ▸ isValid_of_mem_placed hmem hvalid
  refine ⟨hpath, hwhole.le_rawEndPos, hwhole, ⟨b, bad, hmem, hle, by omega⟩, fun c t ht => ?_⟩
  -- The pieces are in order, so that one which ends before the place is before the piece of the fault, and
  -- one which has the place is that piece.
  have horder : (placed 0 (textsFromLeft text)).Pairwise _ := pairwise_placed
  rw [hplaced] at ht horder
  obtain ⟨-, hrest, hearlier⟩ := List.pairwise_append.mp horder
  have hlater := (List.pairwise_cons.mp hrest).1
  rcases List.mem_append.mp ht with hin | hin
  · have hlt : c + t.utf8ByteSize < b := hearlier _ hin _ List.mem_cons_self
    exact ⟨fun _ => hbefore _ hin, fun _ hge => by omega⟩
  · rcases List.mem_cons.mp hin with heq | hin
    · cases heq
      exact ⟨fun hlt => by omega, fun _ _ => ⟨fault, hbad, hfault⟩⟩
    · have hlt : b + bad.utf8ByteSize < c := hlater _ hin
      exact ⟨fun _ => by omega, fun _ _ => by omega⟩

/-- The second piece has the fault, behind letters of two bytes. -/
theorem fault_is_in_first_unreadable_index :
    parse "é.ü[x].b[" = .error ⟨6, "é.ü[x].b[", .invalidIndex "x"⟩ ∧
      placed 0 (textsFromLeft "é.ü[x].b[") = [(0, "é"), (3, "ü[x]"), (9, "b[")] ∧
      (∃ s, Segment.parse "é" = .ok s) ∧ Segment.parse "ü[x]" = .error ⟨3, "ü[x]", .invalidIndex "x"⟩ := by
  have hread : parse "é.ü[x].b[" = .error ⟨6, "é.ü[x].b[", .invalidIndex "x"⟩ := by rfl
  have hplaced : placed 0 (textsFromLeft "é.ü[x].b[") = [(0, "é"), (3, "ü[x]"), (9, "b[")] := by
    rw [textsFromLeft_eq]
    rfl
  obtain ⟨-, -, -, -, hpieces⟩ := fault_is_in_first_unreadable hread
  rw [hplaced] at hpieces
  obtain ⟨fault, hfails, hsame⟩ := (hpieces 3 "ü[x]" (by simp)).2 (by decide) (by decide)
  rw [hsame (by decide)] at hfails
  exact ⟨hread, hplaced, (hpieces 0 "é" (by simp)).1 (by decide), hfails⟩

end Path

end ObjectGraph
