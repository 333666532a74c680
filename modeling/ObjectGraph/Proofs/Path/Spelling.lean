import Mathlib.Data.List.TakeWhile
import ObjectGraph.Proofs.Path.Pieces
import ObjectGraph.Proofs.Text.Numeral

/-!
The texts that read as a segment.  They are the segment's own text, in which other digits may stand
for an index: signs and leading zeros are lost in reading.  So the text of a segment that was read
reads as that segment again, and the scan of a path treats the two texts alike.
-/

namespace ObjectGraph.Segment
open ObjectGraph.Path

/-- The text of a segment in which `digits` stands for the index, if there is one. -/
def textWith (digits : String) (s : Segment) : String :=
  match s.subscript with
  | .index _ => s.name ++ "[" ++ digits ++ "]"
  | _ => s.text

/-- The numeral of the index of a segment, if it has one. -/
def canonicalDigits (s : Segment) : String :=
  match s.subscript with
  | .index i => Numeral.ofNat i
  | _ => ""

/-- What the text of a segment with some digits has to fulfil so that it is read as the segment. -/
structure SpelledWith (digits : String) (s : Segment) : Prop where
  name : ∀ c ∈ s.name.toList, isBracket c = false
  nonempty : s.subscript = .none → s.name ≠ ""
  index : ∀ i, s.subscript = .index i → readIndex? digits.toList = some i

theorem textWith_eq_text {digits : String} {s : Segment}
    (h : ∀ i, s.subscript = .index i → digits = Numeral.ofNat i) : s.textWith digits = s.text := by
  obtain ⟨name, _ | i | k⟩ := s
  · rfl
  · simp [textWith, text, Subscript.text, String.append_assoc, h i rfl]
  · rfl

theorem textWith_canonicalDigits (s : Segment) : s.textWith s.canonicalDigits = s.text :=
  textWith_eq_text fun i hi => by rw [canonicalDigits, hi]

theorem toList_textWith_index (digits name : String) (i : Nat) :
    (textWith digits ⟨name, .index i⟩).toList = name.toList ++ '[' :: (digits.toList ++ [']']) := by
  simp [textWith]

theorem toList_textWith_key (digits name k : String) :
    (textWith digits ⟨name, .key k⟩).toList = name.toList ++ '(' :: (k.toList ++ [')']) := by
  simp [textWith, text, Subscript.text]

theorem toList_textWith_none (digits name : String) : (textWith digits ⟨name, .none⟩).toList = name.toList := by
  simp [textWith, text, Subscript.text]

/-! ### Reading a segment -/

theorem unopened_of_brackets {cs : List Char} (h : ∀ c ∈ cs, isBracket c = false) :
    ∀ c ∈ cs, (!isOpening c) = true := fun c hc => by
  rw [isOpening_of_bracket (h c hc)]
  rfl

theorem any_isClosing_of_brackets {cs : List Char} (h : ∀ c ∈ cs, isBracket c = false) : cs.any isClosing = false :=
  List.any_eq_false.mpr fun c hc => by rw [isClosing_of_bracket (h c hc)]; exact Bool.false_ne_true

/-- A text without brackets is a name. -/
theorem parseChars_name {cs : List Char} (h : ∀ c ∈ cs, isBracket c = false) (hne : cs ≠ []) :
    parseChars cs = .ok ⟨String.ofList cs, .none⟩ := by
  have hdrop : (cs.dropWhile fun c => !isOpening c) = [] := List.dropWhile_eq_nil_iff.mpr (unopened_of_brackets h)
  have hempty : cs.isEmpty = false := List.isEmpty_eq_false_iff.mpr hne
  simp [parseChars, hdrop, any_isClosing_of_brackets h, hempty]

/-- A name, a bracket, and an end that the bracket's partner closes are read as a subscripted segment. -/
theorem parseChars_subscript {name inside : List Char} {opening close : Char}
    (h : ∀ c ∈ name, isBracket c = false)
    (hoc : opening = '[' ∧ close = ']' ∨ opening = '(' ∧ close = ')') :
    parseChars (name ++ opening :: (inside ++ [close])) =
      if opening = '[' then
        match readIndex? inside with
        | some i => .ok ⟨String.ofList name, .index i⟩
        | none => .error (Utf8.length name + 1, .invalidIndex (String.ofList inside))
      else .ok ⟨String.ofList name, .key (String.ofList inside)⟩ := by
  have hopen : isOpening opening = true := by rcases hoc with ⟨rfl, -⟩ | ⟨rfl, -⟩ <;> rfl
  have hclose : (if opening = '[' then ']' else ')') = close := by
    rcases hoc with ⟨rfl, rfl⟩ | ⟨rfl, rfl⟩ <;> rfl
  have hstop : ¬(!isOpening opening) = true := by simp [hopen]
  have hdrop : (name ++ opening :: (inside ++ [close])).dropWhile (fun c => !isOpening c) =
      opening :: (inside ++ [close]) := by
    rw [List.dropWhile_append_of_pos (p := fun c => !isOpening c) (unopened_of_brackets h),
      List.dropWhile_cons_of_neg (p := fun c => !isOpening c) hstop]
  have htake : (name ++ opening :: (inside ++ [close])).takeWhile (fun c => !isOpening c) = name := by
    rw [List.takeWhile_append_of_pos (p := fun c => !isOpening c) (unopened_of_brackets h),
      List.takeWhile_cons_of_neg (p := fun c => !isOpening c) hstop, List.append_nil]
  cases hread : readIndex? inside <;>
    simp only [parseChars, hdrop, htake, hclose, any_isClosing_of_brackets h, Bool.false_eq_true, if_false,
      List.getLast?_concat, ne_eq, not_true_eq_false, List.dropLast_concat, hread]

theorem parseChars_textWith {digits : String} {s : Segment} (h : SpelledWith digits s) :
    parseChars (s.textWith digits).toList = .ok s := by
  obtain ⟨name, _ | i | k⟩ := s
  · rw [toList_textWith_none, parseChars_name h.name fun hnil => h.nonempty rfl (String.toList_eq_nil_iff.mp hnil),
      String.ofList_toList]
  · rw [toList_textWith_index, parseChars_subscript h.name (Or.inl ⟨rfl, rfl⟩), if_pos rfl, h.index i rfl,
      String.ofList_toList]
  · rw [toList_textWith_key, parseChars_subscript h.name (Or.inr ⟨rfl, rfl⟩), if_neg (by decide),
      String.ofList_toList, String.ofList_toList]

/-- A text that is read as a segment is the text of that segment with some digits. -/
theorem spelledWith_of_parseChars {cs : List Char} {s : Segment} (h : parseChars cs = .ok s) :
    ∃ digits, SpelledWith digits s ∧ (s.textWith digits).toList = cs := by
  have hcut := List.takeWhile_append_dropWhile (p := fun c => !isOpening c) (l := cs)
  have hname : ∀ c ∈ cs.takeWhile (fun c => !isOpening c), isOpening c = false := fun c hc => by
    simpa using List.mem_takeWhile_imp hc
  simp only [parseChars] at h
  generalize cs.takeWhile (fun c => !isOpening c) = name at h hcut hname
  have hclean : name.any isClosing = false → ∀ c ∈ name, isBracket c = false := fun hany c hc => by
    rw [isBracket, hname c hc, Bool.false_or]
    exact Bool.eq_false_iff.mpr fun hcl => List.any_eq_false.mp hany c hc hcl
  split at h
  · -- No bracket opens, so the whole text is a name.
    rename_i hrest
    rw [hrest, List.append_nil] at hcut
    subst hcut
    split at h
    · cases h
    · rename_i hany
      split at h
      · cases h
      · rename_i hne
        cases h
        refine ⟨"", ⟨?_, fun _ hempty => hne ?_, (fun i hi => by cases hi)⟩, ?_⟩
        · simpa using hclean (Bool.eq_false_iff.mpr hany)
        · simpa using hempty
        · rw [toList_textWith_none, String.toList_ofList]
  · rename_i opening inner hrest
    rw [hrest] at hcut
    generalize hclose : (if opening = '[' then ']' else ')') = close at h
    have hopen : isOpening opening = true := by
      have := List.head?_dropWhile_not (fun c => !isOpening c) cs
      rw [hrest] at this
      simpa using this
    split at h
    · cases h
    · rename_i hany
      have hbr := hclean (Bool.eq_false_iff.mpr hany)
      split at h
      · cases h
      · rename_i hlast
        obtain ⟨inside, rfl⟩ := List.getLast?_eq_some_iff.mp (Decidable.not_not.mp hlast)
        rw [List.dropLast_concat] at h
        split at h
        · rename_i hb
          subst hb
          split at h
          · rename_i i hi
            cases h
            refine ⟨String.ofList inside, ⟨by simpa using hbr, (fun hn => by cases hn), fun j hj => ?_⟩, ?_⟩
            · cases hj
              rw [String.toList_ofList]
              exact hi
            · rw [toList_textWith_index, String.toList_ofList, String.toList_ofList, ← hcut, ← hclose, if_pos rfl]
          · cases h
        · rename_i hb
          cases h
          have hp : opening = '(' := by
            rcases Bool.or_eq_true _ _ ▸ hopen with ho | ho
            · exact absurd (beq_iff_eq.mp ho) hb
            · exact beq_iff_eq.mp ho
          refine ⟨"", ⟨by simpa using hbr, (fun hn => by cases hn), (fun j hj => by cases hj)⟩, ?_⟩
          rw [toList_textWith_key, String.toList_ofList, String.toList_ofList, ← hcut, ← hclose, if_neg hb, hp]

theorem parseChars_eq_ok {cs : List Char} {s : Segment} :
    parseChars cs = .ok s ↔ ∃ digits, SpelledWith digits s ∧ (s.textWith digits).toList = cs :=
  ⟨spelledWith_of_parseChars, fun ⟨_, h, hcs⟩ => hcs ▸ parseChars_textWith h⟩

/-! ### Scanning the text of a segment -/

theorem isBracket_of_isDigit {c : Char} (h : c.isDigit = true) : isBracket c = false := by
  have hne : ∀ x : Char, x.isDigit = false → (c == x) = false := fun x hx =>
    beq_eq_false_iff_ne.mpr fun he => by rw [he, hx] at h; cases h
  simp [isBracket, isOpening, isClosing, hne '[' rfl, hne '(' rfl, hne ']' rfl, hne ')' rfl]

theorem readIndex?_eq_some {cs : List Char} {i : Nat} :
    readIndex? cs = some i ↔ Numeral.readUnsigned? cs = some i ∧ i ≤ maxIndex := by
  unfold readIndex?
  rw [Option.bind_eq_some_iff]
  constructor
  · rintro ⟨j, hj, hle⟩
    split at hle
    · rename_i hmax
      cases hle
      exact ⟨hj, hmax⟩
    · cases hle
  · rintro ⟨hi, hle⟩
    exact ⟨i, hi, if_pos hle⟩

theorem readIndex?_digits {i : Nat} (h : i ≤ maxIndex) : readIndex? (Numeral.ofNat i).toList = some i := by
  rw [Numeral.ofNat, String.toList_ofList]
  exact readIndex?_eq_some.mpr ⟨Numeral.readUnsigned?_digits i, h⟩

theorem isBracket_of_readIndex? {cs : List Char} {i : Nat} (h : readIndex? cs = some i) :
    ∀ c ∈ cs, isBracket c = false := fun c hc => by
  rcases Numeral.isDigit_or_plus_of_readUnsigned? (readIndex?_eq_some.mp h).1 c hc with hd | rfl
  · exact isBracket_of_isDigit hd
  · rfl

namespace SpelledWith
variable {digits digits' : String} {s : Segment}

theorem canonical (h : SpelledWith digits s) : SpelledWith s.canonicalDigits s := by
  refine ⟨h.name, h.nonempty, fun i hi => ?_⟩
  rw [canonicalDigits, hi]
  exact readIndex?_digits (readIndex?_eq_some.mp (h.index i hi)).2

/-- The scan of an index does not depend on the digits. -/
theorem unsplit (h : SpelledWith digits s) (h' : SpelledWith digits' s)
    (hu : Unsplit 0 (s.textWith digits).toList) : Unsplit 0 (s.textWith digits').toList := by
  obtain ⟨name, _ | i | k⟩ := s
  · exact hu
  · rw [toList_textWith_index, unsplit_subscript h.name rfl rfl] at hu ⊢
    exact ⟨hu.1, unsplit_of_brackets (isBracket_of_readIndex? (h'.index i rfl)) 0⟩
  · exact hu

theorem depth_eq (h : SpelledWith digits s) (h' : SpelledWith digits' s) :
    depth 0 (s.textWith digits).toList = depth 0 (s.textWith digits').toList := by
  obtain ⟨name, _ | i | k⟩ := s
  · rfl
  · rw [toList_textWith_index, toList_textWith_index, depth_subscript h.name rfl rfl, depth_subscript h.name rfl rfl,
      depth_of_brackets (isBracket_of_readIndex? (h.index i rfl)),
      depth_of_brackets (isBracket_of_readIndex? (h'.index i rfl))]
  · rfl

end SpelledWith

end ObjectGraph.Segment
