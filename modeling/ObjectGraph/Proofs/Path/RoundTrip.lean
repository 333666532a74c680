import Mathlib.Data.List.Forall2
import Mathlib.Data.List.TakeDrop
import ObjectGraph.Proofs.Path.Spelling

/-!
Reading and writing of paths undo each other.  What was read is written as it was, but for the digits
of indices, and reads as the same path again, as does every beginning and every end of it.  What is
written from segments with names free of delimiters and with balanced keys reads as those segments.
-/

namespace ObjectGraph

namespace Segment
open ObjectGraph.Path

/-- The text of a segment reads as that segment, and no point splits it. -/
structure Readable (s : Segment) : Prop where
  spelled : SpelledWith s.canonicalDigits s
  unsplit : Unsplit 0 s.text.toList

/-- No bracket is open after the text of a segment. -/
def Closed (s : Segment) : Prop := depth 0 s.text.toList = 0

/-- A segment whose name holds no delimiters, whose index is not too great and whose key is balanced. -/
structure Printable (s : Segment) : Prop where
  name : ∀ c ∈ s.name.toList, isDelimiter c = false
  nonempty : s.subscript = .none → s.name ≠ ""
  index : ∀ i, s.subscript = .index i → i ≤ maxIndex
  key : ∀ k, s.subscript = .key k → Balanced k.toList

theorem Readable.parsed {s : Segment} (h : s.Readable) : parseChars s.text.toList = .ok s := by
  rw [← textWith_canonicalDigits]
  exact parseChars_textWith h.spelled

theorem SpelledWith.readable {digits : String} {s : Segment} (h : SpelledWith digits s)
    (hu : Unsplit 0 (s.textWith digits).toList) : s.Readable := by
  refine ⟨h.canonical, ?_⟩
  rw [← textWith_canonicalDigits]
  exact h.unsplit h.canonical hu

theorem SpelledWith.closed {digits : String} {s : Segment} (h : SpelledWith digits s)
    (hd : depth 0 (s.textWith digits).toList = 0) : s.Closed := by
  rw [Closed, ← textWith_canonicalDigits, ← h.depth_eq h.canonical]
  exact hd

theorem isBracket_of_isDelimiter {c : Char} (h : isDelimiter c = false) : isBracket c = false := by
  obtain ⟨h, hc⟩ := Bool.or_eq_false_iff.mp h
  exact Bool.or_eq_false_iff.mpr ⟨(Bool.or_eq_false_iff.mp h).2, hc⟩

namespace Printable
variable {s : Segment}

theorem spelled (h : s.Printable) : SpelledWith s.canonicalDigits s := by
  refine ⟨fun c hc => isBracket_of_isDelimiter (h.name c hc), h.nonempty, fun i hi => ?_⟩
  rw [canonicalDigits, hi]
  exact readIndex?_digits (h.index i hi)

theorem point (h : s.Printable) : '.' ∉ s.name.toList := fun hp => absurd (h.name '.' hp) (by decide)

/-- Balance keeps a key from splitting its segment and from leaving it open. -/
theorem scanned (h : s.Printable) : s.Readable ∧ s.Closed := by
  have hname := h.spelled.name
  suffices hscan : Unsplit 0 (s.textWith s.canonicalDigits).toList ∧
      depth 0 (s.textWith s.canonicalDigits).toList = 0 from
    ⟨h.spelled.readable hscan.1, h.spelled.closed hscan.2⟩
  obtain ⟨name, _ | i | k⟩ := s
  · rw [toList_textWith_none]
    exact ⟨(unsplit_iff_of_brackets hname).mpr h.point, depth_of_brackets hname 0⟩
  · have hdigits := isBracket_of_readIndex? (h.spelled.index i rfl)
    rw [toList_textWith_index, unsplit_subscript hname rfl rfl, depth_subscript hname rfl rfl]
    exact ⟨⟨h.point, unsplit_of_brackets hdigits 0⟩, by rw [depth_of_brackets hdigits]⟩
  · have hkey := h.key k rfl
    rw [toList_textWith_key, unsplit_subscript hname rfl rfl, depth_subscript hname rfl rfl]
    exact ⟨⟨h.point, hkey.unsplit⟩, by rw [hkey.depth]⟩

end Printable

end Segment

namespace Path

/-! ### Reading the pieces of a text -/

theorem parsePieces_cons_of_ok {cs : List Char} {ps : List (List Char)} {s : Segment}
    (h : Segment.parseChars cs = .ok s) (offset : Nat) :
    parsePieces offset (cs :: ps) = (parsePieces (offset + Utf8.length cs + 1) ps).map (s :: ·) := by
  rw [parsePieces, h]
  cases parsePieces (offset + Utf8.length cs + 1) ps <;> rfl

theorem parsePieces_cons_of_error {cs : List Char} {ps : List (List Char)} {place : Nat} {fault : PathFault}
    (h : Segment.parseChars cs = .error (place, fault)) (offset : Nat) :
    parsePieces offset (cs :: ps) = .error (offset + place, fault) := by
  rw [parsePieces, h]
  rfl

theorem parsePieces_eq_ok {ps : List (List Char)} : ∀ {offset : Nat} {segments : List Segment},
    parsePieces offset ps = .ok segments ↔ List.Forall₂ (fun p s => Segment.parseChars p = .ok s) ps segments := by
  induction ps with
  | nil =>
    intro offset segments
    rw [parsePieces, List.forall₂_nil_left_iff]
    constructor
    · intro h
      cases h
      rfl
    · rintro rfl
      rfl
  | cons p ps ih =>
    intro offset segments
    rw [List.forall₂_cons_left_iff]
    cases hp : Segment.parseChars p with
    | error e =>
      rw [parsePieces_cons_of_error hp]
      exact ⟨nofun, fun ⟨_, _, hs, _⟩ => nomatch hs⟩
    | ok s =>
      rw [parsePieces_cons_of_ok hp]
      constructor
      · intro h
        cases hps : parsePieces (offset + Utf8.length p + 1) ps with
        | error e =>
          rw [hps] at h
          cases h
        | ok rest =>
          rw [hps] at h
          cases h
          exact ⟨s, rest, rfl, ih.mp hps, rfl⟩
      · rintro ⟨_, rest, ⟨⟩, hrest, rfl⟩
        rw [ih.mpr hrest]
        rfl

theorem parse_eq_ok {text : String} {p : Path} : parse text = .ok p ↔
    text ≠ "" ∧ List.Forall₂ (fun cs s => Segment.parseChars cs = .ok s) (pieces 0 text.toList) p.segments := by
  unfold parse
  split
  · rename_i hempty
    simp [String.isEmpty_iff.mp hempty]
  · rename_i hne
    have hne' : text ≠ "" := fun h => hne (String.isEmpty_iff.mpr h)
    split
    · rename_i offset fault herr
      constructor
      · intro h
        cases h
      · rintro ⟨-, h⟩
        rw [parsePieces_eq_ok.mpr h] at herr
        cases herr
    · rename_i segments hok
      have hread := parsePieces_eq_ok.mp hok
      constructor
      · intro h
        split at h
        · cases h
          exact ⟨hne', hread⟩
        · cases h
      · rintro ⟨-, h⟩
        obtain rfl : segments = p.segments := by
          rw [parsePieces_eq_ok.mpr h] at hok
          cases hok
          rfl
        rw [dif_pos p.nonempty]

/-- A text whose pieces read as segments is the path of these segments. -/
theorem exists_parse_of_segments {text : String} {segments : List Segment}
    (h : List.Forall₂ (fun cs s => Segment.parseChars cs = .ok s) (pieces 0 text.toList) segments) :
    ∃ p, parse text = .ok p ∧ p.segments = segments := by
  have hne : segments ≠ [] := fun hnil => pieces_ne_nil 0 text.toList (List.forall₂_nil_right_iff.mp (hnil ▸ h))
  refine ⟨⟨segments, hne⟩, parse_eq_ok.mpr ⟨?_, h⟩, rfl⟩
  rintro rfl
  obtain ⟨s, -, hs, -⟩ := List.forall₂_cons_left_iff.mp h
  cases hs

/-! ### Segments that were read -/

/-- Segments whose texts, joined with points, read as these segments. -/
structure Renderable (segments : List Segment) : Prop where
  nonempty : segments ≠ []
  readable : ∀ s ∈ segments, s.Readable
  closed : ∀ s ∈ segments.dropLast, s.Closed

theorem toList_join (segments : List Segment) :
    (join segments).toList = ['.'].intercalate (segments.map fun s => s.text.toList) := by
  rw [join, String.toList_intercalate, List.map_map]
  rfl

namespace Renderable
variable {segments : List Segment}

theorem separable (h : Renderable segments) : Separable (segments.map fun s => s.text.toList) where
  nonempty := by simpa using h.nonempty
  unsplit p hp := by
    obtain ⟨s, hs, rfl⟩ := List.mem_map.mp hp
    exact (h.readable s hs).unsplit
  closed p hp := by
    rw [← List.map_dropLast] at hp
    obtain ⟨s, hs, rfl⟩ := List.mem_map.mp hp
    exact h.closed s hs

theorem join_ne_empty (h : Renderable segments) : join segments ≠ "" := by
  intro hempty
  have hpieces := pieces_intercalate h.separable
  rw [← toList_join, hempty] at hpieces
  -- The only piece of the empty text is empty, and the text of no segment is.
  obtain ⟨s, rest, rfl⟩ := List.exists_cons_of_ne_nil h.nonempty
  have hs : s.text.toList = [] := (List.cons.inj hpieces).1.symm
  have hparsed := (h.readable s List.mem_cons_self).parsed
  rw [hs] at hparsed
  cases hparsed

/-- What is written from renderable segments reads as these segments. -/
theorem parse_join (h : Renderable segments) : parse (join segments) = .ok ⟨segments, h.nonempty⟩ := by
  refine parse_eq_ok.mpr ⟨h.join_ne_empty, ?_⟩
  rw [toList_join, pieces_intercalate h.separable, List.forall₂_map_left_iff, List.forall₂_same]
  exact fun s hs => (h.readable s hs).parsed

theorem take (h : Renderable segments) {n : Nat} (hn : 1 ≤ n) : Renderable (segments.take n) where
  nonempty hnil := by
    rcases List.take_eq_nil_iff.mp hnil with hz | hz
    · omega
    · exact h.nonempty hz
  readable s hs := h.readable s (List.mem_of_mem_take hs)
  closed s hs := by
    rw [List.dropLast_take_eq_take_dropLast] at hs
    exact h.closed s (List.mem_of_mem_take hs)

theorem drop (h : Renderable segments) {n : Nat} (hn : n < segments.length) : Renderable (segments.drop n) where
  nonempty hnil := by
    have := List.drop_eq_nil_iff.mp hnil
    omega
  readable s hs := h.readable s (List.mem_of_mem_drop hs)
  closed s hs := by
    rw [List.dropLast_drop_eq_drop_dropLast] at hs
    exact h.closed s (List.mem_of_mem_drop hs)

end Renderable

/-- The pieces of a text that was read are the texts of the segments, each with digits of its own. -/
theorem exists_spelled {parts : List (List Char)} {segments : List Segment}
    (h : List.Forall₂ (fun cs s => Segment.parseChars cs = .ok s) parts segments) :
    ∃ spelled : List (String × Segment), spelled.map Prod.snd = segments ∧
      parts = spelled.map (fun e => (e.2.textWith e.1).toList) ∧ ∀ e ∈ spelled, Segment.SpelledWith e.1 e.2 := by
  induction h with
  | nil => exact ⟨[], rfl, rfl, by simp⟩
  | @cons cs s _ _ hs _ ih =>
    obtain ⟨digits, hspelled, rfl⟩ := Segment.spelledWith_of_parseChars hs
    obtain ⟨spelled, rfl, rfl, hall⟩ := ih
    refine ⟨(digits, s) :: spelled, rfl, rfl, fun e he => ?_⟩
    rcases List.mem_cons.mp he with rfl | he
    · exact hspelled
    · exact hall e he

theorem renderable_of_spelled {spelled : List (String × Segment)}
    (hsep : Separable (spelled.map fun e => (e.2.textWith e.1).toList))
    (hall : ∀ e ∈ spelled, Segment.SpelledWith e.1 e.2) : Renderable (spelled.map Prod.snd) where
  nonempty := by simpa using hsep.nonempty
  readable s hs := by
    obtain ⟨e, he, rfl⟩ := List.mem_map.mp hs
    exact (hall e he).readable (hsep.unsplit _ (List.mem_map_of_mem he))
  closed s hs := by
    rw [← List.map_dropLast] at hs
    obtain ⟨e, he, rfl⟩ := List.mem_map.mp hs
    refine (hall e (List.dropLast_subset _ he)).closed (hsep.closed _ ?_)
    rw [← List.map_dropLast]
    exact List.mem_map_of_mem he

theorem renderable_of_parse {text : String} {p : Path} (h : parse text = .ok p) : Renderable p.segments := by
  obtain ⟨-, hread⟩ := parse_eq_ok.mp h
  obtain ⟨spelled, hsegments, hparts, hall⟩ := exists_spelled hread
  rw [← hsegments]
  exact renderable_of_spelled (hparts ▸ (pieces_spec rfl).1) hall

/-- A path that was read is found again in the text of its first segments. -/
theorem parse_textOfFirst {text : String} {p : Path} (h : parse text = .ok p) {n : Nat} (hn : 1 ≤ n) :
    ∃ q, parse (p.textOfFirst n) = .ok q ∧ q.segments = p.segments.take n :=
  ⟨_, ((renderable_of_parse h).take hn).parse_join, rfl⟩

/-- What was read is written with the index digits replaced by the numerals of the indices, and reads
as it did, and so does every beginning of it. -/
theorem parse_text_of_parse {text : String} {p : Path} (h : parse text = .ok p) :
    parse p.text = .ok p ∧
    (∃ spelled : List (String × Segment), spelled.map Prod.snd = p.segments ∧
      text = ".".intercalate (spelled.map fun e => e.2.textWith e.1) ∧
      p.text = ".".intercalate (spelled.map fun e => e.2.text) ∧
      (∀ e ∈ spelled, ∀ i, e.2.subscript = .index i → readIndex? e.1.toList = some i) ∧
      ((∀ e ∈ spelled, ∀ i, e.2.subscript = .index i → e.1 = Numeral.ofNat i) → p.text = text)) ∧
    ∀ n, 1 ≤ n → n ≤ p.size → ∃ q, parse (p.textOfFirst n) = .ok q ∧ q.segments = p.segments.take n := by
  refine ⟨(renderable_of_parse h).parse_join, ?_, fun n hn _ => parse_textOfFirst h hn⟩
  obtain ⟨-, hread⟩ := parse_eq_ok.mp h
  obtain ⟨spelled, hsegments, hparts, hall⟩ := exists_spelled hread
  have htext : text = ".".intercalate (spelled.map fun e => e.2.textWith e.1) := by
    have hjoined : ['.'].intercalate (pieces 0 text.toList) = text.toList := (pieces_spec rfl).2
    rw [← String.toList_inj, String.toList_intercalate, List.map_map, ← hjoined, hparts]
    rfl
  have hwritten : p.text = ".".intercalate (spelled.map fun e => e.2.text) := by
    rw [Path.text, join, ← hsegments, List.map_map]
    rfl
  refine ⟨spelled, hsegments, htext, hwritten, fun e he => (hall e he).index, fun hcanonical => ?_⟩
  rw [hwritten, htext]
  congr 1
  exact List.map_congr_left fun e he => (Segment.textWith_eq_text (hcanonical e he)).symm

/-- A key with brackets that nothing closes is kept in the last segment, and the index loses its sign. -/
theorem parse_text_of_open_key :
    parse "m(x.[y]).b[+007].c(k(.d)" =
        .ok ⟨[⟨"m", .key "x.[y]"⟩, ⟨"b", .index 7⟩, ⟨"c", .key "k(.d"⟩], by simp⟩ ∧
      parse "m(x.[y]).b[7].c(k(.d)" =
        .ok ⟨[⟨"m", .key "x.[y]"⟩, ⟨"b", .index 7⟩, ⟨"c", .key "k(.d"⟩], by simp⟩ ∧
      ∃ q, parse "m(x.[y]).b[7]" = .ok q ∧ q.segments = [⟨"m", .key "x.[y]"⟩, ⟨"b", .index 7⟩] := by
  have hread : parse "m(x.[y]).b[+007].c(k(.d)" =
      .ok ⟨[⟨"m", .key "x.[y]"⟩, ⟨"b", .index 7⟩, ⟨"c", .key "k(.d"⟩], by simp⟩ := by rfl
  obtain ⟨htext, -, hfirst⟩ := parse_text_of_parse hread
  exact ⟨hread, htext, hfirst 2 (by decide) (by decide)⟩

/-- What is written from printable segments reads as these segments. -/
theorem parse_join_of_printable {segments : List Segment} (hne : segments ≠ [])
    (h : ∀ s ∈ segments, s.Printable) : parse (join segments) = .ok ⟨segments, hne⟩ :=
  Renderable.parse_join ⟨hne, fun s hs => (h s hs).scanned.1, fun s hs =>
    (h s (List.dropLast_subset _ hs)).scanned.2⟩

/-- Brackets of both kinds and points in a key, the greatest index without a name, and an empty key. -/
theorem parse_join_of_mixed_segments :
    (∀ s ∈ [⟨"m", .key "x.[(y)].z"⟩, ⟨"", .index maxIndex⟩, ⟨"c", .none⟩, ⟨"", .key ""⟩], Segment.Printable s) ∧
      parse "m(x.[(y)].z).[18446744073709551615].c.()" =
        .ok ⟨[⟨"m", .key "x.[(y)].z"⟩, ⟨"", .index maxIndex⟩, ⟨"c", .none⟩, ⟨"", .key ""⟩], by simp⟩ := by
  have hprintable : ∀ s ∈ [⟨"m", .key "x.[(y)].z"⟩, ⟨"", .index maxIndex⟩, ⟨"c", .none⟩, ⟨"", .key ""⟩],
      Segment.Printable s := by
    intro s hs
    simp only [List.mem_cons, List.not_mem_nil, or_false] at hs
    rcases hs with rfl | rfl | rfl | rfl
    · exact ⟨by simp [isDelimiter, isOpening, isClosing], by simp, by simp, fun k hk => by cases hk; decide⟩
    · exact ⟨by simp, by simp, fun i hi => by cases hi; decide, by simp⟩
    · exact ⟨by simp [isDelimiter, isOpening, isClosing], by simp, by simp, by simp⟩
    · exact ⟨by simp, by simp, by simp, fun k hk => by cases hk; decide⟩
  exact ⟨hprintable, parse_join_of_printable (by simp) hprintable⟩

end Path

end ObjectGraph
