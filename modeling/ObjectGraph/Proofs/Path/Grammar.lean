import ObjectGraph.Proofs.Path.RoundTrip

/-!
The texts that read as a path.  In the grammar of paths an index is one or more digits and the brackets of a key are
balanced.  Every text of the grammar reads as a path.  Beyond it, the number of an index may have a `+` before it, and
a key may be any text that the cutting at points leaves whole.
-/

namespace ObjectGraph.Path

/-- Whether a text may be a name: it holds no delimiters. -/
def IsName (cs : List Char) : Prop := ∀ c ∈ cs, isDelimiter c = false

/-- Whether a text is one or more digits of an index that is not too great. -/
def IsIndex (cs : List Char) : Prop :=
  cs ≠ [] ∧ (∀ c ∈ cs, c.isDigit = true) ∧ Numeral.ofDigits cs ≤ maxIndex

/-- Whether a text is an index, which a `+` may precede. -/
def IsSignedIndex (cs : List Char) : Prop := IsIndex cs ∨ ∃ digits, cs = '+' :: digits ∧ IsIndex digits

/-- The texts of segments whose indices and keys are of given forms. -/
inductive IsSegment (index key : List Char → Prop) : List Char → Prop
  | name {name : List Char} : IsName name → name ≠ [] → IsSegment index key name
  | index {name digits : List Char} : IsName name → index digits →
      IsSegment index key (name ++ '[' :: (digits ++ [']']))
  | key {name inside : List Char} : IsName name → key inside → IsSegment index key (name ++ '(' :: (inside ++ [')']))

/-- The grammar of paths: one or more segments with points between them, with digits as indices and balanced keys. -/
def IsGrammatical (text : String) : Prop :=
  ∃ parts, parts ≠ [] ∧ (∀ part ∈ parts, IsSegment IsIndex Balanced part) ∧ ['.'].intercalate parts = text.toList

/-- Whether a text is a segment with a sign before its index. -/
def HasSign (part : List Char) : Prop :=
  ∃ name digits, IsName name ∧ part = name ++ '[' :: ('+' :: digits ++ [']'])

/-- Whether a text is a segment with a key in which a bracket is closed or opened alone. -/
def HasUnbalancedKey (part : List Char) : Prop :=
  ∃ name inside, IsName name ∧ ¬ Balanced inside ∧ part = name ++ '(' :: (inside ++ [')'])

variable {cs part name name' inside inside' : List Char} {opening opening' : Char} {text : String}
  {index key : List Char → Prop}

/-! ### Names and indices -/

theorem IsName.isBracket (h : IsName name) : ∀ c ∈ name, isBracket c = false := fun c hc =>
  Segment.isBracket_of_isDelimiter (h c hc)

theorem isName_of_unsplit (h : ∀ c ∈ name, isBracket c = false) (hpoint : '.' ∉ name) : IsName name := fun c hc => by
  have hne : (c == '.') = false := beq_eq_false_iff_ne.mpr fun heq => hpoint (heq ▸ hc)
  obtain ⟨hopen, hclose⟩ := Bool.or_eq_false_iff.mp (h c hc)
  rw [isDelimiter, hne, hopen, hclose]
  rfl

theorem IsName.point (h : IsName name) : '.' ∉ name := fun hmem => absurd (h '.' hmem) (by decide)

theorem read?_eq_some {i : Nat} : Numeral.read? cs = some i ↔
    (cs ≠ [] ∧ ∀ c ∈ cs, c.isDigit = true) ∧ Numeral.ofDigits cs = i := by
  rw [Numeral.read?, Option.ite_none_right_eq_some, Option.some_inj, List.all_eq_true]

/-- The texts that read as an index are those of digits, with or without a sign. -/
theorem exists_readIndex?_iff : (∃ i, readIndex? cs = some i) ↔ IsSignedIndex cs := by
  have hindex {cs : List Char} : (∃ i, Numeral.read? cs = some i ∧ i ≤ maxIndex) ↔ IsIndex cs := by
    simp only [read?_eq_some, IsIndex, ← and_assoc]
    simp
  simp only [Segment.readIndex?_eq_some]
  by_cases hsign : ∃ rest, cs = '+' :: rest
  · obtain ⟨rest, rfl⟩ := hsign
    have hnot : ¬ IsIndex ('+' :: rest) := fun h => absurd (h.2.1 '+' List.mem_cons_self) (by decide)
    rw [IsSignedIndex, or_iff_right hnot]
    simp only [Numeral.readUnsigned?, hindex, List.cons.injEq, true_and, exists_eq_left']
  · rw [not_exists] at hsign
    rw [IsSignedIndex, or_iff_left fun ⟨rest, h, _⟩ => hsign rest h, ← hindex]
    simp only [Numeral.readUnsigned?_of_ne hsign]

/-! ### Segments -/

/-- What is read as a segment is a name with or without a subscript, if no point splits it. -/
theorem exists_parseChars_iff (h : Unsplit 0 cs) :
    (∃ s, Segment.parseChars cs = .ok s) ↔ IsSegment IsSignedIndex (fun _ => True) cs := by
  constructor
  · rintro ⟨s, hs⟩
    obtain ⟨digits, hspelled, rfl⟩ := Segment.parseChars_eq_ok.mp hs
    obtain ⟨name, _ | i | k⟩ := s
    · rw [Segment.toList_textWith_none] at h ⊢
      refine .name (isName_of_unsplit hspelled.name ((unsplit_iff_of_brackets hspelled.name).mp h)) ?_
      exact fun hnil => hspelled.nonempty rfl (String.toList_eq_nil_iff.mp hnil)
    · rw [Segment.toList_textWith_index] at h ⊢
      obtain ⟨hpoint, -⟩ := (unsplit_subscript hspelled.name rfl rfl).mp h
      exact .index (isName_of_unsplit hspelled.name hpoint) (exists_readIndex?_iff.mp ⟨i, hspelled.index i rfl⟩)
    · rw [Segment.toList_textWith_key] at h ⊢
      obtain ⟨hpoint, -⟩ := (unsplit_subscript hspelled.name rfl rfl).mp h
      exact .key (isName_of_unsplit hspelled.name hpoint) trivial
  · intro hsegment
    cases hsegment with
    | name hname hne => exact ⟨_, Segment.parseChars_name hname.isBracket hne⟩
    | index hname hdigits =>
      obtain ⟨i, hi⟩ := exists_readIndex?_iff.mpr hdigits
      exact ⟨_, by rw [Segment.parseChars_subscript hname.isBracket (.inl ⟨rfl, rfl⟩), if_pos rfl, hi]⟩
    | key hname _ =>
      exact ⟨_, by rw [Segment.parseChars_subscript hname.isBracket (.inr ⟨rfl, rfl⟩), if_neg (by decide)]⟩

/-- A segment of the grammar is kept whole, and leaves no bracket open. -/
theorem IsSegment.scanned (h : IsSegment IsIndex Balanced part) : Unsplit 0 part ∧ depth 0 part = 0 := by
  cases h with
  | name hname _ =>
    exact ⟨(unsplit_iff_of_brackets hname.isBracket).mpr hname.point, depth_of_brackets hname.isBracket 0⟩
  | @index name digits hname hdigits =>
    have hbracket : ∀ c ∈ digits, isBracket c = false := fun c hc => Segment.isBracket_of_isDigit (hdigits.2.1 c hc)
    rw [unsplit_subscript hname.isBracket rfl rfl, depth_subscript hname.isBracket rfl rfl, depth_of_brackets hbracket]
    exact ⟨⟨hname.point, unsplit_of_brackets hbracket 0⟩, rfl⟩
  | key hname hkey =>
    rw [unsplit_subscript hname.isBracket rfl rfl, depth_subscript hname.isBracket rfl rfl, hkey.depth]
    exact ⟨⟨hname.point, hkey.unsplit⟩, rfl⟩

/-- A text with a subscript has one name and one subscript. -/
theorem subscript_inj (hname : IsName name) (hname' : IsName name') (ho : isOpening opening = true)
    (ho' : isOpening opening' = true) (h : name ++ opening :: inside = name' ++ opening' :: inside') :
    name = name' ∧ opening = opening' ∧ inside = inside' := by
  have htake {name : List Char} {opening : Char} (inside : List Char) (hname : IsName name)
      (ho : isOpening opening = true) : (name ++ opening :: inside).takeWhile (fun c => !isOpening c) = name := by
    rw [List.takeWhile_append_of_pos (p := fun c => !isOpening c) (Segment.unopened_of_brackets hname.isBracket),
      List.takeWhile_cons_of_neg (p := fun c => !isOpening c) (by simp [ho]), List.append_nil]
  obtain rfl : name = name' := by rw [← htake inside hname ho, h, htake inside' hname' ho']
  exact ⟨rfl, List.cons.inj (List.append_cancel_left h)⟩

/-- What opens a subscript is not in a name. -/
theorem IsName.ne_subscript (h : IsName name) (ho : isOpening opening = true) : name ≠ name' ++ opening :: inside := by
  rintro rfl
  have hopen := isOpening_of_bracket (h.isBracket opening (by simp))
  rw [ho] at hopen
  cases hopen

/-- A segment is one of the grammar if its index has no sign and its key is balanced. -/
theorem isSegment_iff : IsSegment IsIndex Balanced part ↔
    IsSegment IsSignedIndex (fun _ => True) part ∧ ¬ HasSign part ∧ ¬ HasUnbalancedKey part := by
  constructor
  · intro h
    cases h with
    | name hname hne =>
      exact ⟨.name hname hne, fun ⟨_, _, _, h⟩ => hname.ne_subscript rfl h, fun ⟨_, _, _, _, h⟩ =>
        hname.ne_subscript rfl h⟩
    | index hname hdigits =>
      refine ⟨.index hname (.inl hdigits), ?_, ?_⟩
      · rintro ⟨name', digits', hname', h⟩
        obtain ⟨-, -, hinside⟩ := subscript_inj hname hname' rfl rfl h
        obtain rfl := List.append_cancel_right hinside
        exact absurd (hdigits.2.1 '+' List.mem_cons_self) (by decide)
      · rintro ⟨name', inside, hname', -, h⟩
        exact absurd (subscript_inj hname hname' rfl rfl h).2.1 (by decide)
    | key hname hkey =>
      refine ⟨.key hname trivial, ?_, ?_⟩
      · rintro ⟨name', digits', hname', h⟩
        exact absurd (subscript_inj hname hname' rfl rfl h).2.1 (by decide)
      · rintro ⟨name', inside', hname', hkey', h⟩
        obtain ⟨-, -, hinside⟩ := subscript_inj hname hname' rfl rfl h
        exact hkey' (List.append_cancel_right hinside ▸ hkey)
  · rintro ⟨h, hsign, hkey⟩
    cases h with
    | name hname hne => exact .name hname hne
    | index hname hdigits =>
      obtain hdigits | ⟨digits, rfl, -⟩ := hdigits
      · exact .index hname hdigits
      · exact absurd ⟨_, digits, hname, rfl⟩ hsign
    | key hname _ => exact .key hname (Decidable.not_not.mp fun hnot => hkey ⟨_, _, hname, hnot, rfl⟩)

/-! ### Paths -/

/-- Segments can be read from texts one by one. -/
theorem exists_segments_iff {parts : List (List Char)} :
    (∃ segments, List.Forall₂ (fun cs s => Segment.parseChars cs = .ok s) parts segments) ↔
      ∀ part ∈ parts, ∃ s, Segment.parseChars part = .ok s := by
  induction parts with
  | nil => exact ⟨fun _ _ h => absurd h List.not_mem_nil, fun _ => ⟨[], .nil⟩⟩
  | cons part parts ih =>
    rw [List.forall_mem_cons, ← ih]
    constructor
    · rintro ⟨_, _ | ⟨hs, hsegments⟩⟩
      exact ⟨⟨_, hs⟩, ⟨_, hsegments⟩⟩
    · rintro ⟨⟨s, hs⟩, ⟨segments, hsegments⟩⟩
      exact ⟨s :: segments, .cons hs hsegments⟩

/-- A text reads as a path if each of its parts is a segment, perhaps with a sign or with an unbalanced key. -/
theorem exists_parse_iff : (∃ p, parse text = .ok p) ↔
    ∀ part ∈ pieces 0 text.toList, IsSegment IsSignedIndex (fun _ => True) part := by
  have hsegments : (∀ part ∈ pieces 0 text.toList, IsSegment IsSignedIndex (fun _ => True) part) ↔
      ∃ segments, List.Forall₂ (fun cs s => Segment.parseChars cs = .ok s) (pieces 0 text.toList) segments := by
    rw [exists_segments_iff]
    exact forall₂_congr fun part hpart => (exists_parseChars_iff ((pieces_spec rfl).1.unsplit part hpart)).symm
  rw [hsegments]
  constructor
  · rintro ⟨p, hp⟩
    exact ⟨p.segments, (parse_eq_ok.mp hp).2⟩
  · rintro ⟨segments, h⟩
    obtain ⟨p, hp, -⟩ := exists_parse_of_segments h
    exact ⟨p, hp⟩

/-- The parts of a text of the grammar are those that the cutting at points finds. -/
theorem isGrammatical_iff : IsGrammatical text ↔ ∀ part ∈ pieces 0 text.toList, IsSegment IsIndex Balanced part := by
  constructor
  · rintro ⟨parts, hne, hparts, hjoin⟩
    have hseparable : Separable parts := ⟨hne, fun part hpart => (hparts part hpart).scanned.1, fun part hpart =>
      (hparts part (List.dropLast_subset _ hpart)).scanned.2⟩
    rwa [← hjoin, pieces_intercalate hseparable]
  · exact fun h => ⟨_, pieces_ne_nil 0 _, h, (pieces_spec rfl).2⟩

/-- What reads as a path, exactly: the texts of the grammar, and those in which an index has a sign or a key is
unbalanced. -/
theorem parse_ok_iff (text : String) :
    ((∃ p, parse text = .ok p) ↔ ∀ part ∈ pieces 0 text.toList, IsSegment IsSignedIndex (fun _ => True) part) ∧
    (IsGrammatical text ↔
      (∃ p, parse text = .ok p) ∧ ∀ part ∈ pieces 0 text.toList, ¬ HasSign part ∧ ¬ HasUnbalancedKey part) := by
  refine ⟨exists_parse_iff, ?_⟩
  simp only [isGrammatical_iff, exists_parse_iff, isSegment_iff, ← forall_and]

/-- An index with a sign and a key that leaves a bracket open read as paths, but are not of the grammar. -/
theorem parse_ok_of_ungrammatical :
    ((∃ p, parse "a[+1]" = .ok p) ∧ ¬ IsGrammatical "a[+1]") ∧
      (∃ p, parse "m(k(d)" = .ok p) ∧ ¬ IsGrammatical "m(k(d)" := by
  refine ⟨⟨⟨⟨[⟨"a", .index 1⟩], by simp⟩, rfl⟩, fun h => ?_⟩, ⟨⟨[⟨"m", .key "k(d"⟩], by simp⟩, rfl⟩, fun h => ?_⟩
  · have hname : IsName ['a'] := by simp [IsName, isDelimiter, isOpening, isClosing]
    have hsegment := isGrammatical_iff.mp h "a[+1]".toList (List.mem_singleton_self _)
    exact (isSegment_iff.mp hsegment).2.1 ⟨['a'], ['1'], hname, rfl⟩
  · have hname : IsName ['m'] := by simp [IsName, isDelimiter, isOpening, isClosing]
    have hsegment := isGrammatical_iff.mp h "m(k(d)".toList (List.mem_singleton_self _)
    exact (isSegment_iff.mp hsegment).2.2 ⟨['m'], "k(d".toList, hname, by decide, rfl⟩

end ObjectGraph.Path
