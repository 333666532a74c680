import ObjectGraph.Proofs.Path.Cutting
import ObjectGraph.Proofs.Path.Grammar

/-!
Looking at the text of a path without reading it.  What is found out by searching the text for delimiters is what
reading gives: the name, the subscript and the text of the first segment, and whether others follow.  The rest of the
text reads as these others.
-/

namespace ObjectGraph

namespace Subscript

/-- The index of a subscript, if it is one. -/
def index? : Subscript → Option Nat
  | index i => some i
  | _ => Option.none

/-- The key of a subscript, if it is one. -/
def key? : Subscript → Option String
  | key k => some k
  | _ => Option.none

end Subscript

namespace Path

variable {cs name inside more : List Char} {opening : Char} {s f : Segment} {text : String} {p : Path}

/-- The texts of a segment that no point splits. -/
inductive Spells : List Char → Segment → Prop
  | name {name : List Char} (hname : IsName name) : Spells name ⟨String.ofList name, .none⟩
  | index {name digits : List Char} {i : Nat} (hname : IsName name) (hdigits : ∀ c ∈ digits, isBracket c = false) :
      Spells (name ++ '[' :: (digits ++ [']'])) ⟨String.ofList name, .index i⟩
  | key {name : List Char} (inside : List Char) (hname : IsName name) :
      Spells (name ++ '(' :: (inside ++ [')'])) ⟨String.ofList name, .key (String.ofList inside)⟩

theorem spells_of_parseChars (h : Segment.parseChars cs = .ok s) (hu : Unsplit 0 cs) : Spells cs s := by
  obtain ⟨digits, hspelled, rfl⟩ := Segment.parseChars_eq_ok.mp h
  obtain ⟨name, _ | i | k⟩ := s
  · rw [Segment.toList_textWith_none] at hu ⊢
    have hname := isName_of_unsplit hspelled.name ((unsplit_iff_of_brackets hspelled.name).mp hu)
    simpa using Spells.name hname
  · rw [Segment.toList_textWith_index] at hu ⊢
    obtain ⟨hpoint, -⟩ := (unsplit_subscript hspelled.name rfl rfl).mp hu
    have hname := isName_of_unsplit hspelled.name hpoint
    simpa using Spells.index hname (Segment.isBracket_of_readIndex? (hspelled.index i rfl))
  · rw [Segment.toList_textWith_key] at hu ⊢
    obtain ⟨hpoint, -⟩ := (unsplit_subscript hspelled.name rfl rfl).mp hu
    simpa using Spells.key k.toList (isName_of_unsplit hspelled.name hpoint)

/-! ### Searching the text of a segment -/

theorem takeWhile_of_subscript (hname : IsName name) (ho : isOpening opening = true) :
    (name ++ opening :: inside).takeWhile (fun c => !isOpening c) = name := by
  rw [List.takeWhile_append_of_pos (p := fun c => !isOpening c) (Segment.unopened_of_brackets hname.isBracket),
    List.takeWhile_cons_of_neg (p := fun c => !isOpening c) (by simp [ho]), List.append_nil]

theorem find?_of_isName (hname : IsName name) : name.find? (fun c => c == '.' || c == '(' || c == '[') = none := by
  refine List.find?_eq_none.mpr fun c hc hmark => ?_
  have hclear := hname c hc
  grind [isDelimiter, isOpening]

/-- The first delimiter of a text stands behind its name. -/
theorem find?_of_delimiter (hname : IsName name) (ho : opening = '.' ∨ opening = '(' ∨ opening = '[') :
    (name ++ opening :: inside).find? (fun c => c == '.' || c == '(' || c == '[') = some opening := by
  rw [List.find?_append, find?_of_isName hname, Option.none_or, List.find?_cons_of_pos]
  simpa [or_assoc] using ho

theorem not_mem_of_brackets (h : ∀ c ∈ cs, isBracket c = false) : '(' ∉ cs := fun hmem =>
  absurd (h '(' hmem) (by decide)

theorem dropWhile_eq_nil_of_not_mem (h : '(' ∉ cs) : cs.dropWhile (· != '(') = [] :=
  List.dropWhile_eq_nil_iff.mpr fun _ hc => bne_iff_ne.mpr (ne_of_mem_of_not_mem hc h)

namespace Spells

theorem takeWhile (h : Spells cs s) : (cs.takeWhile fun c => !isOpening c) = s.name.toList := by
  cases h with
  | name hname =>
    rw [String.toList_ofList]
    exact List.takeWhile_eq_self_iff.mpr (Segment.unopened_of_brackets hname.isBracket)
  | index hname _ => rw [takeWhile_of_subscript hname rfl, String.toList_ofList]
  | key inside hname => rw [takeWhile_of_subscript hname rfl, String.toList_ofList]

/-- The first delimiter tells which subscript there is, if nothing follows but what a point separates. -/
theorem find? (h : Spells cs s) (hmore : more = [] ∨ ∃ rest, more = '.' :: rest) :
    ((cs ++ more).find? (fun c => c == '.' || c == '(' || c == '[') == some '[') = s.subscript.index?.isSome ∧
    ((cs ++ more).find? (fun c => c == '.' || c == '(' || c == '[') == some '(') = s.subscript.key?.isSome := by
  cases h with
  | name hname =>
    rcases hmore with rfl | ⟨rest, rfl⟩
    · rw [List.append_nil, find?_of_isName hname]
      exact ⟨rfl, rfl⟩
    · rw [find?_of_delimiter hname (.inl rfl)]
      exact ⟨rfl, rfl⟩
  | index hname _ =>
    rw [List.append_assoc, List.cons_append, find?_of_delimiter hname (.inr (.inr rfl))]
    exact ⟨rfl, rfl⟩
  | key inside hname =>
    rw [List.append_assoc, List.cons_append, find?_of_delimiter hname (.inr (.inl rfl))]
    exact ⟨rfl, rfl⟩

/-- Only a key has an opening parenthesis before it, and it ends with the segment. -/
theorem dropWhile (h : Spells cs s) :
    cs.dropWhile (· != '(') = s.subscript.key?.elim [] fun k => '(' :: (k.toList ++ [')']) := by
  cases h with
  | name hname => exact dropWhile_eq_nil_of_not_mem (not_mem_of_brackets hname.isBracket)
  | index hname hdigits =>
    refine dropWhile_eq_nil_of_not_mem ?_
    simp [not_mem_of_brackets hname.isBracket, not_mem_of_brackets hdigits]
  | key inside hname =>
    rw [List.dropWhile_append_of_pos, List.dropWhile_cons_of_neg (p := (· != '(')) (by decide)]
    · simp [Subscript.key?]
    · exact fun c hc => bne_iff_ne.mpr (ne_of_mem_of_not_mem hc (not_mem_of_brackets hname.isBracket))

end Spells

/-! ### Looking at a path -/

/-- Whether looking at a text finds a segment in front. -/
structure ShowsFirst (text : String) (f : Segment) : Prop where
  read : Segment.parse (firstText text) = .ok f
  name : nameText text = f.name
  isIndexed : isIndexed text = f.subscript.index?.isSome
  isMapped : isMapped text = f.subscript.key?.isSome
  key : keyText? text = f.subscript.key?
  index : index? text = .ok f.subscript.index?

/-- What stands in front is unsplit, and nothing follows but what a point separates. -/
theorem firstChars_spec (cs : List Char) : Unsplit 0 (firstChars cs) ∧
    ∃ more, cs = firstChars cs ++ more ∧ (more = [] ∨ ∃ rest, more = '.' :: rest) := by
  rw [firstChars]
  cases hcut : cutFirst? cs with
  | none => exact ⟨cut?_eq_none_iff.mp hcut, [], (List.append_nil cs).symm, .inl rfl⟩
  | some cut =>
    obtain ⟨hu, -, hcs⟩ := cut?_eq_some_iff.mp hcut
    exact ⟨hu, '.' :: cut.2, hcs, .inr ⟨cut.2, rfl⟩⟩

theorem showsFirst (h : Segment.parseChars (firstChars text.toList) = .ok f) : ShowsFirst text f := by
  obtain ⟨hu, more, htext, hmore⟩ := firstChars_spec text.toList
  have hspells := spells_of_parseChars h hu
  obtain ⟨hindexed, hmapped⟩ := hspells.find? hmore
  rw [← htext] at hindexed hmapped
  have hread : Segment.parse (firstText text) = .ok f := by
    rw [Segment.parse, firstText, String.toList_ofList, h]
    rfl
  refine ⟨hread, ?_, hindexed, hmapped, ?_, ?_⟩
  · rw [nameText, hspells.takeWhile, String.ofList_toList]
  · rw [keyText?, hspells.dropWhile]
    cases f.subscript.key? with
    | none => rfl
    | some k => simp
  · rw [index?, hread]
    obtain ⟨name, _ | i | k⟩ := f <;> rfl

/-- What is found out by looking at the text of a path is what reading it gives. -/
theorem looking_agrees_with_reading (h : parse text = .ok p) : ∃ f others, p.segments = f :: others ∧
    ShowsFirst text f ∧ (hasNested text = true ↔ others ≠ []) ∧ (others = [] → restText? text = none) ∧
    (others ≠ [] → ∃ rest q, restText? text = some rest ∧ parse rest = .ok q ∧ q.segments = others) := by
  obtain ⟨-, hread⟩ := parse_eq_ok.mp h
  have hfirstChars : firstChars text.toList = ((cutFirst? text.toList).map Prod.fst).getD text.toList := rfl
  cases hcut : cutFirst? text.toList with
  | none =>
    rw [pieces_of_cutFirst?_eq_none hcut] at hread
    obtain ⟨f, _, hf, hnil, hsegments⟩ := List.forall₂_cons_left_iff.mp hread
    obtain rfl := List.forall₂_nil_left_iff.mp hnil
    rw [hcut] at hfirstChars
    refine ⟨f, [], hsegments, showsFirst (hfirstChars ▸ hf), ?_, fun _ => ?_, fun hne => absurd rfl hne⟩
    · simp [hasNested, hcut]
    · rw [restText?, hcut]
      rfl
  | some cut =>
    rw [pieces_of_cutFirst?_eq_some hcut] at hread
    obtain ⟨f, others, hf, hothers, hsegments⟩ := List.forall₂_cons_left_iff.mp hread
    rw [hcut] at hfirstChars
    rw [← String.toList_ofList (l := cut.2)] at hothers
    -- The other pieces are those of what is left, so that reads as a path of its own.
    obtain ⟨q, hq, hsame⟩ := exists_parse_of_segments hothers
    have hne : others ≠ [] := hsame ▸ q.nonempty
    refine ⟨f, others, hsegments, showsFirst (hfirstChars ▸ hf), ?_, fun hnil => absurd hnil hne, fun _ => ?_⟩
    · simp [hasNested, hcut, hne]
    · exact ⟨String.ofList cut.2, q, by rw [restText?, hcut]; rfl, hq, hsame⟩

/-- A key with a point and brackets of the other kind, and two segments behind it. -/
theorem looking_agrees_with_reading_of_mixed_key :
    parse "m(x.[y]).b[+2].c" = .ok ⟨[⟨"m", .key "x.[y]"⟩, ⟨"b", .index 2⟩, ⟨"c", .none⟩], by simp⟩ ∧
      keyText? "m(x.[y]).b[+2].c" = some "x.[y]" ∧ isIndexed "m(x.[y]).b[+2].c" = false ∧
      ∃ q, restText? "m(x.[y]).b[+2].c" = some "b[+2].c" ∧ parse "b[+2].c" = .ok q ∧
        q.segments = [⟨"b", .index 2⟩, ⟨"c", .none⟩] := by
  have hread : parse "m(x.[y]).b[+2].c" =
      .ok ⟨[⟨"m", .key "x.[y]"⟩, ⟨"b", .index 2⟩, ⟨"c", .none⟩], by simp⟩ := by rfl
  obtain ⟨f, others, hsegments, hshows, -, -, hrest⟩ := looking_agrees_with_reading hread
  obtain ⟨rfl, rfl⟩ := List.cons.inj hsegments
  obtain ⟨rest, q, htext, hq, hsame⟩ := hrest (by simp)
  obtain rfl : "b[+2].c" = rest := Option.some.inj htext
  exact ⟨hread, hshows.key, hshows.isIndexed, q, htext, hq, hsame⟩

end Path

end ObjectGraph
