import ObjectGraph.Proofs.Convert.Entries
import ObjectGraph.Proofs.Text.Padding

/-!
Lists that are written as text.  An element may be written bare, or between quotes that it does not hold; commas stand
between the elements, braces around the list, and blanks wherever nothing else is.  However a list is written, it is
read as it was, so its text is converted to an array of exactly its elements.
-/

namespace ObjectGraph

namespace Elements

/-- Whether a character is a quote. -/
def IsQuote (c : Char) : Prop := c = '\x22' ∨ c = '\x27'

instance (c : Char) : Decidable (IsQuote c) := inferInstanceAs (Decidable (_ ∨ _))

/-- The ways to write an element. -/
inductive Spells : List Char → List Char → Prop
  | bare {element : List Char} : (∀ c ∈ element, c ≠ ',' ∧ ¬ IsQuote c) → IsTight element → Spells element element
  | quoted {q : Char} {element : List Char} : IsQuote q → q ∉ element → Spells element (q :: (element ++ [q]))

/-- The ways to write elements one after the other.  A single element that is empty needs quotes. -/
inductive Enumerates : List (List Char) → List Char → Prop
  | none {blanks : List Char} : IsPadding blanks → Enumerates [] blanks
  | some {elements spelled parts : List (List Char)} : elements ≠ [] → List.Forall₂ Spells elements spelled →
      spelled ≠ [[]] → List.Forall₂ Pads spelled parts → Enumerates elements ([','].intercalate parts)

/-- Whether a text is a list of elements with braces around them. -/
def Delimits (elements : List (List Char)) (text : List Char) : Prop :=
  ∃ inner, Enumerates elements inner ∧ Pads ('\x7b' :: (inner ++ ['\x7d'])) text

variable {p p' p'' : Partial} {cs ds element spelled part text inner : List Char} {c q : Char}
  {elements parts spellings : List (List Char)}

/-! ### Reading a part of a text -/

/-- Whether reading a text leads from one state of an element to another, without coming to the end of the element. -/
def Passes (p : Partial) (cs : List Char) (p' : Partial) : Prop :=
  ∀ rest, readFrom p (cs ++ rest) = readFrom p' rest

theorem Passes.refl (p : Partial) : Passes p [] p := fun _ => rfl

theorem Passes.trans (h : Passes p cs p') (h' : Passes p' ds p'') : Passes p (cs ++ ds) p'' := fun rest => by
  rw [List.append_assoc, h, h']

theorem passes_read (hread : p.read c = p') (h : c ≠ ',' ∨ p.quote ≠ none) : Passes p [c] p' := fun rest => by
  rw [List.singleton_append, readFrom, if_neg fun hc => h.elim (· hc.1) (· hc.2), hread]

theorem passes_bare (h : ∀ c ∈ cs, c ≠ ',' ∧ ¬ IsQuote c) (before : List Char) :
    Passes ⟨before, none, false⟩ cs ⟨before ++ cs, none, false⟩ := by
  induction cs generalizing before with
  | nil =>
    rw [List.append_nil]
    exact .refl _
  | cons c cs ih =>
    obtain ⟨⟨hcomma, hquote⟩, hrest⟩ := List.forall_mem_cons.mp h
    have hread : (⟨before, none, false⟩ : Partial).read c = ⟨before ++ [c], none, false⟩ := by
      have hopens : ¬ (c = '\x22' ∨ c = '\x27') := hquote
      simp [Partial.read, hopens]
    rw [List.append_cons]
    exact (passes_read hread (.inl hcomma)).trans (ih hrest (before ++ [c]))

/-- A quote that follows nothing but blanks opens the element. -/
theorem passes_quote (hq : IsQuote q) (hblanks : IsPadding cs) : Passes ⟨cs, none, false⟩ [q] ⟨[], some q, true⟩ := by
  have hcomma : q ≠ ',' := by rcases hq with rfl | rfl <;> decide
  have hread : (⟨cs, none, false⟩ : Partial).read q = ⟨[], some q, true⟩ := by
    have hopens : q = '\x22' ∨ q = '\x27' := hq
    simp [Partial.read, hopens, trimBlanks_of_isPadding hblanks]
  exact passes_read hread (.inl hcomma)

/-- Between quotes all other characters are read as they are. -/
theorem passes_inside (h : q ∉ cs) (before : List Char) :
    Passes ⟨before, some q, true⟩ cs ⟨before ++ cs, some q, true⟩ := by
  induction cs generalizing before with
  | nil =>
    rw [List.append_nil]
    exact .refl _
  | cons c cs ih =>
    obtain ⟨hne, hrest⟩ := not_or.mp (mt List.mem_cons.mpr h)
    have hread : (⟨before, some q, true⟩ : Partial).read c = ⟨before ++ [c], some q, true⟩ := by
      simp [Partial.read, Ne.symm hne]
    rw [List.append_cons]
    exact (passes_read hread (.inr nofun)).trans (ih hrest (before ++ [c]))

theorem passes_unquote (q : Char) (cs : List Char) : Passes ⟨cs, some q, true⟩ [q] ⟨cs, none, true⟩ := by
  have hread : (⟨cs, some q, true⟩ : Partial).read q = ⟨cs, none, true⟩ := by simp [Partial.read]
  exact passes_read hread (.inr nofun)

theorem ne_comma_of_isBlank (h : isBlank c = true) : c ≠ ',' ∧ ¬ IsQuote c := by
  constructor
  · rintro rfl
    cases h
  · rintro (rfl | rfl) <;> cases h

/-- Blanks after the quotes do not count. -/
theorem passes_after (h : IsPadding ds) (cs : List Char) : Passes ⟨cs, none, true⟩ ds ⟨cs, none, true⟩ := by
  induction ds with
  | nil => exact .refl _
  | cons c ds ih =>
    obtain ⟨hblank, hrest⟩ := List.forall_mem_cons.mp h
    obtain ⟨hcomma, hquote⟩ := ne_comma_of_isBlank hblank
    have hread : (⟨cs, none, true⟩ : Partial).read c = ⟨cs, none, true⟩ := by
      have hopens : ¬ (c = '\x22' ∨ c = '\x27') := hquote
      simp [Partial.read, hopens, hblank]
    exact (passes_read hread (.inl hcomma)).trans (ih hrest)

/-! ### Reading elements -/

/-- However an element is written, its text is read to its end, and what has been read then is the element. -/
theorem Spells.exists_passes (h : Spells element spelled) (hpart : Pads spelled part) :
    ∃ p, Passes .start part p ∧ p.quote = none ∧ p.element = element := by
  have hblanks {blanks : List Char} (h : IsPadding blanks) : ∀ c ∈ blanks, c ≠ ',' ∧ ¬ IsQuote c :=
    fun c hc => ne_comma_of_isBlank (h c hc)
  cases h with
  | bare hplain htight =>
    refine ⟨⟨part, none, false⟩, passes_bare ?_ [], rfl, trimBlanks_of_pads htight hpart⟩
    obtain ⟨before, after, hbefore, hafter, rfl⟩ := hpart
    intro c hc
    rw [List.mem_append, List.mem_append] at hc
    rcases hc with (hc | hc) | hc
    · exact hblanks hbefore c hc
    · exact hplain c hc
    · exact hblanks hafter c hc
  | @quoted q _ hq hfree =>
    obtain ⟨before, after, hbefore, hafter, rfl⟩ := hpart
    have hopened : Passes .start (before ++ [q]) ⟨[], some q, true⟩ :=
      (passes_bare (hblanks hbefore) []).trans (passes_quote hq hbefore)
    have hclosed : Passes ⟨[], some q, true⟩ (element ++ [q]) ⟨element, none, true⟩ :=
      (passes_inside hfree []).trans (passes_unquote q element)
    refine ⟨⟨element, none, true⟩, ?_, rfl, rfl⟩
    have hpass := (hopened.trans hclosed).trans (passes_after hafter element)
    rwa [List.append_assoc before] at hpass

theorem readFrom_intercalate (hspelled : List.Forall₂ Spells elements spellings)
    (hparts : List.Forall₂ Pads spellings parts) (hne : elements ≠ []) :
    readFrom .start ([','].intercalate parts) = elements := by
  induction hspelled generalizing parts with
  | nil => exact absurd rfl hne
  | @cons element _ elements _ hhead htail ih =>
    obtain ⟨part, parts, hpart, hrest, rfl⟩ := List.forall₂_cons_left_iff.mp hparts
    obtain ⟨p, hpass, hquote, helement⟩ := hhead.exists_passes hpart
    have hend : readFrom p [] = [element] := helement ▸ rfl
    have hcomma (rest : List Char) : readFrom p (',' :: rest) = element :: readFrom .start rest := by
      rw [readFrom, if_pos ⟨rfl, hquote⟩, helement]
    cases hrest with
    | nil =>
      cases htail
      rw [List.intercalate_singleton, ← List.append_nil part, hpass, hend]
    | cons hnext hmore =>
      have hmore := List.Forall₂.cons hnext hmore
      have hne : elements ≠ [] := by
        rintro rfl
        cases htail
      rw [List.intercalate_cons_cons, List.append_assoc, hpass, List.singleton_append, hcomma, ih hmore hne]

/-- What is written for an element is not blank, unless the element is empty and bare. -/
theorem Spells.exists_not_isBlank (h : Spells element spelled) (hne : spelled ≠ []) :
    ∃ c ∈ spelled, isBlank c = false := by
  cases h with
  | bare _ htight =>
    obtain ⟨c, rest, rfl⟩ := List.exists_cons_of_ne_nil hne
    exact ⟨c, List.mem_cons_self, htight.head c rfl⟩
  | @quoted q _ hq _ => exact ⟨q, List.mem_cons_self, by rcases hq with rfl | rfl <;> rfl⟩

theorem Pads.mem (h : Pads cs text) (hc : c ∈ cs) : c ∈ text := by
  obtain ⟨before, after, -, -, rfl⟩ := h
  exact List.mem_append_left _ (List.mem_append_right _ hc)

theorem exists_not_isBlank_intercalate (hspelled : List.Forall₂ Spells elements spellings)
    (hparts : List.Forall₂ Pads spellings parts) (hne : elements ≠ []) (hquotes : spellings ≠ [[]]) :
    ∃ c ∈ [','].intercalate parts, isBlank c = false := by
  cases hspelled with
  | nil => exact absurd rfl hne
  | @cons _ spelled _ spellings hhead htail =>
    obtain ⟨part, parts, hpart, hrest, rfl⟩ := List.forall₂_cons_left_iff.mp hparts
    cases hrest with
    | nil =>
      have hne : spelled ≠ [] := fun h => hquotes (h ▸ rfl)
      obtain ⟨c, hc, hblank⟩ := hhead.exists_not_isBlank hne
      rw [List.intercalate_singleton]
      exact ⟨c, Pads.mem hpart hc, hblank⟩
    | cons _ _ =>
      rw [List.intercalate_cons_cons]
      exact ⟨',', List.mem_append_left _ (List.mem_append_right _ List.mem_cons_self), rfl⟩

/-! ### Reading lists -/

theorem unbraced_braced (inner : List Char) : unbraced ('\x7b' :: (inner ++ ['\x7d'])) = inner := by
  rw [unbraced, List.getLast?_concat, if_pos rfl, List.dropLast_concat]

/-- A list is read as it was written. -/
theorem split_of_delimits (h : Delimits elements text) : split text = elements := by
  obtain ⟨inner, hinner, htext⟩ := h
  have htight : IsTight ('\x7b' :: (inner ++ ['\x7d'])) := isTight_of_ends rfl rfl inner
  rw [split, trimBlanks_of_pads htight htext, unbraced_braced]
  cases hinner with
  | none hblanks => rw [trimBlanks_of_isPadding hblanks, List.isEmpty_nil, if_pos rfl]
  | some hne hspelled hquotes hparts =>
    obtain ⟨c, hc, hblank⟩ := exists_not_isBlank_intercalate hspelled hparts hne hquotes
    rw [List.isEmpty_eq_false_iff.mpr (trimBlanks_ne_nil hc hblank), if_neg Bool.false_ne_true,
      readFrom_intercalate hspelled hparts hne]

end Elements

namespace Registry
variable {G : ClassGraph} {H : Heap}

theorem convert_text_self (R : Registry) (s : String) : R.convert G .text (.text s) H = .ok (.text s, H) := by
  obtain ⟨w, hw, hconvert⟩ := R.convert_of_accepts (G := G) (H := H) (t := .text) (v := .text s) nofun rfl
  cases hw
  exact hconvert

/-- Whatever the policy, the text of a list of texts is converted to a new array that holds these texts, in this
order and no others. -/
theorem convert_delimited (config : RegistryConfig) (H₀ H : Heap) (ss : List String) (text : String)
    (h : Elements.Delimits (ss.map String.toList) text.toList) :
    ∃ a, (withConfig config H₀).1.convert G (.array .text) (.text text) H =
        .ok (.array a, (H.alloc .array ⟨.text, ss.map .text⟩).2) ∧
      (H.alloc .array ⟨.text, ss.map .text⟩).2.get a = ⟨.text, ss.map .text⟩ := by
  have hany : Ty.array .text ≠ .any := nofun
  obtain ⟨e, he, harray, -⟩ := exists_lookup? config H₀ (standard?_array (t := .text) rfl)
  have helements : Converter.elements H (.text text) = ss.map .text := by
    rw [Converter.elements, Elements.split_of_delimits h, List.map_map]
    refine List.map_congr_left fun s _ => ?_
    rw [Function.comp_apply, String.ofList_toList]
  refine ⟨_, ?_, H.get_alloc_self (k := .array) _⟩
  rw [convert_of_lookup? hany he (Or.inr rfl)]
  refine ConverterEntry.apply_of_convert nofun ?_
  rw [harray]
  refine Converter.convert_array_eq ?_
  rw [helements]
  exact Converter.convertAll_eq_ok (List.forall₂_same.mpr fun v hv => by
    obtain ⟨s, -, rfl⟩ := List.mem_map.mp hv
    exact convert_text_self _ s)

/-- A comma between quotes, an empty element and a brace are elements like any others. -/
theorem convert_delimited_mixed :
    Elements.Delimits (["a, b", "", "\x7d"].map String.toList) " \x7b 'a, b' ,, \x7d\x7d".toList ∧
    ∃ (a : Handle .array) (H : Heap), (withConfig .standard .empty).1.convert .empty (.array .text)
        (.text " \x7b 'a, b' ,, \x7d\x7d") .empty = .ok (.array a, H) ∧
      H.get a = ⟨.text, [.text "a, b", .text "", .text "\x7d"]⟩ := by
  have hspace : IsPadding [' '] := by decide
  have hempty : IsPadding [] := nofun
  have hquoted : Elements.Spells "a, b".toList ('\x27' :: ("a, b".toList ++ ['\x27'])) := .quoted (.inr rfl) (by decide)
  have hbrace : Elements.Spells ['\x7d'] ['\x7d'] :=
    .bare (List.forall_mem_singleton.mpr (by decide)) (isTight_of_all (List.forall_mem_singleton.mpr rfl))
  have hlist : Elements.Delimits (["a, b", "", "\x7d"].map String.toList) " \x7b 'a, b' ,, \x7d\x7d".toList :=
    ⟨_, .some nofun (.cons hquoted (.cons (.bare nofun isTight_nil) (.cons hbrace .nil))) nofun
      (.cons ⟨_, _, hspace, hspace, rfl⟩ (.cons ⟨_, _, hempty, hempty, rfl⟩ (.cons ⟨_, _, hspace, hempty, rfl⟩ .nil))),
      _, _, hspace, hempty, by decide⟩
  obtain ⟨a, hconvert, hitems⟩ := convert_delimited (G := .empty) .standard .empty .empty _ _ hlist
  exact ⟨hlist, a, _, hconvert, hitems⟩

end Registry

end ObjectGraph
