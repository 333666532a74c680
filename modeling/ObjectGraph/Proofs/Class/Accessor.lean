import ObjectGraph.Class.Descriptor

/-!
Which methods are accessors, by their names and signatures.  A method is one of one property in one
role at most; a reader is a question or a getter, but not both.
-/

namespace ObjectGraph

theorem afterWord?_eq_some {word name tail : String} : afterWord? word name = some tail ↔ name = word ++ tail := by
  unfold afterWord?
  constructor
  · intro h
    split at h
    · rename_i hprefix
      obtain ⟨rest, hrest⟩ := List.isPrefixOf_iff_prefix.mp hprefix
      rw [← hrest, List.drop_left] at h
      cases h
      rw [← String.toList_inj, String.toList_append, String.toList_ofList, hrest]
    · cases h
  · rintro rfl
    have hprefix : word.toList.isPrefixOf (word ++ tail).toList = true := by
      rw [String.toList_append]
      exact List.isPrefixOf_iff_prefix.mpr (List.prefix_append _ _)
    rw [if_pos hprefix, String.toList_append, List.drop_left, String.ofList_toList]

theorem Letter.mapped_ne_nil {ranges : List (Nat × Nat × Nat × Int)} {specials : List (Nat × List Nat)}
    (h : ∀ row ∈ specials, row.2 ≠ []) (c : Char) : Letter.mapped ranges specials c ≠ [] := by
  unfold mapped
  split
  · rename_i row hrow
    exact fun hnil => h row (List.mem_of_find?_eq_some hrow) (List.map_eq_nil_iff.mp hnil)
  · split <;> exact List.cons_ne_nil _ _

theorem Letter.upper_ne_nil (c : Char) : Letter.upper c ≠ [] := by
  unfold upper
  split
  · exact List.cons_ne_nil _ _
  · exact mapped_ne_nil (by decide +kernel) c

theorem Letter.lower_ne_nil (c : Char) : Letter.lower c ≠ [] := by
  unfold lower
  split
  · exact List.cons_ne_nil _ _
  · exact mapped_ne_nil (by decide +kernel) c

theorem decapitalize_ne_empty {tail : String} (h : tail ≠ "") : decapitalize tail ≠ "" := by
  unfold decapitalize
  split
  · split
    · exact h
    · simp
  · rename_i c _
    simpa using Letter.lower_ne_nil c
  · rename_i hnil
    exact absurd (String.toList_eq_nil_iff.mp hnil) h

namespace Method
variable {m : Method} {word property : String} {tail : String}

/-- Whether a method is named with a word and, after it, the name of a property. -/
def Named (m : Method) (word property : String) : Prop :=
  ∃ tail, m.name = word ++ tail ∧ tail ≠ "" ∧ decapitalize tail = property

/-- Whether a method answers whether something holds of a property. -/
def IsQuestion (m : Method) (property : String) : Prop :=
  m.Named "is" property ∧ m.params = [] ∧ m.returns = some (.primitive .bool)

/-- Whether a method answers a property. -/
def IsGetter (m : Method) (property : String) : Prop :=
  m.Named "get" property ∧ m.params = [] ∧ m.returns ≠ none

/-- Whether a method takes a new value of a property. -/
def IsSetter (m : Method) (property : String) : Prop :=
  m.Named "set" property ∧ m.params.length = 1 ∧ m.returns = none

/-- Whether a method answers the element of a property at an index. -/
def IsElementGetter (m : Method) (property : String) : Prop :=
  m.Named "get" property ∧ m.params = [indexTy] ∧ m.returns ≠ none

/-- Whether a method takes an index and a new element of a property. -/
def IsElementSetter (m : Method) (property : String) : Prop :=
  m.Named "set" property ∧ m.params.length = 2 ∧ m.params[0]? = some indexTy ∧ m.returns = none

/-- Whether a method is named and typed like an accessor of a property. -/
def IsAccessor (m : Method) (property : String) : Prop :=
  m.IsQuestion property ∨ m.IsGetter property ∨ m.IsSetter property ∨ m.IsElementGetter property ∨
    m.IsElementSetter property

instance : Decidable (m.Named word property) :=
  decidable_of_iff ((afterWord? word m.name).any fun tail => tail ≠ "" && decapitalize tail == property) <| by
    simp only [Option.any_eq_true, afterWord?_eq_some, Named]
    simp

instance : Decidable (m.IsQuestion property) := inferInstanceAs (Decidable (_ ∧ _))
instance : Decidable (m.IsGetter property) := inferInstanceAs (Decidable (_ ∧ _))
instance : Decidable (m.IsSetter property) := inferInstanceAs (Decidable (_ ∧ _))
instance : Decidable (m.IsElementGetter property) := inferInstanceAs (Decidable (_ ∧ _))
instance : Decidable (m.IsElementSetter property) := inferInstanceAs (Decidable (_ ∧ _))

/-- Whether a method is named and typed like an accessor of a property in a role. -/
def Accesses (m : Method) (property : String) : Role → Prop
  | .read => m.IsQuestion property ∨ m.IsGetter property
  | .write => m.IsSetter property
  | .readElement => m.IsElementGetter property
  | .writeElement => m.IsElementSetter property

theorem named_iff : m.Named word property ↔
    ∃ tail, afterWord? word m.name = some tail ∧ tail ≠ "" ∧ decapitalize tail = property := by
  simp only [Named, afterWord?_eq_some]

/-- A name does not begin with two words of different first letters. -/
theorem afterWord?_eq_none {word' name : String} (h : afterWord? word name = some tail) (hword : word ≠ "")
    (hword' : word' ≠ "") (hne : word.toList.head? ≠ word'.toList.head?) : afterWord? word' name = none := by
  have hhead {w : String} (rest : String) (hw : w ≠ "") : (w ++ rest).toList.head? = w.toList.head? := by
    rw [String.toList_append]
    rw [List.head?_append, Option.or_of_isSome (by simpa using hw)]
  cases h' : afterWord? word' name with
  | none => rfl
  | some tail' =>
    rw [afterWord?_eq_some] at h h'
    refine absurd ?_ hne
    rw [← hhead tail hword, ← hhead tail' hword', ← h, ← h']

theorem accessor?_of_get {role : Role} (h : afterWord? "get" m.name = some tail) :
    m.accessor? = some (property, role) ↔ (tail ≠ "" ∧ decapitalize tail = property) ∧
      (role = .read ∧ m.params = [] ∧ m.returns ≠ none ∨ role = .readElement ∧ m.params = [indexTy] ∧ m.returns ≠ none) := by
  obtain ⟨name, params, returns, isPublic, body⟩ := m
  simp only [accessor?, h]
  rcases params with _ | ⟨t, _ | ⟨u, rest⟩⟩ <;> rcases returns with _ | r
  case cons.nil.some => by_cases ht : t = indexTy <;> simp [ht] <;> grind
  all_goals simp <;> grind

theorem accessor?_of_is {role : Role} (h : afterWord? "is" m.name = some tail) (hget : afterWord? "get" m.name = none) :
    m.accessor? = some (property, role) ↔ (tail ≠ "" ∧ decapitalize tail = property) ∧
      role = .read ∧ m.params = [] ∧ m.returns = some (.primitive .bool) := by
  obtain ⟨name, params, returns, isPublic, body⟩ := m
  simp only [accessor?, h, hget]
  split
  · simp
    grind
  · rename_i hne
    simp
    grind

theorem accessor?_of_set {role : Role} (h : afterWord? "set" m.name = some tail)
    (hget : afterWord? "get" m.name = none) (his : afterWord? "is" m.name = none) :
    m.accessor? = some (property, role) ↔ (tail ≠ "" ∧ decapitalize tail = property) ∧
      (role = .write ∧ m.params.length = 1 ∧ m.returns = none ∨
        role = .writeElement ∧ m.params.length = 2 ∧ m.params[0]? = some indexTy ∧ m.returns = none) := by
  obtain ⟨name, params, returns, isPublic, body⟩ := m
  simp only [accessor?, h, hget, his]
  rcases params with _ | ⟨t, _ | ⟨u, _ | ⟨v, rest⟩⟩⟩ <;> rcases returns with _ | r
  case cons.cons.nil.none => by_cases ht : t = indexTy <;> simp [ht] <;> grind
  all_goals simp <;> grind

/-- What a class reads a method as is what its name and its signature say. -/
theorem accessor?_eq_some_iff {role : Role} : m.accessor? = some (property, role) ↔ m.Accesses property role := by
  cases hget : afterWord? "get" m.name with
  | some tail =>
    have his : afterWord? "is" m.name = none := afterWord?_eq_none hget (by decide) (by decide) (by decide)
    have hset : afterWord? "set" m.name = none := afterWord?_eq_none hget (by decide) (by decide) (by decide)
    rw [accessor?_of_get hget]
    cases role <;> simp [Accesses, IsQuestion, IsGetter, IsSetter, IsElementGetter, IsElementSetter, named_iff, hget,
      his, hset]
  | none =>
    cases his : afterWord? "is" m.name with
    | some tail =>
      have hset : afterWord? "set" m.name = none := afterWord?_eq_none his (by decide) (by decide) (by decide)
      rw [accessor?_of_is his hget]
      cases role <;> simp [Accesses, IsQuestion, IsGetter, IsSetter, IsElementGetter, IsElementSetter, named_iff, hget,
        his, hset]
    | none =>
      cases hset : afterWord? "set" m.name with
      | some tail =>
        rw [accessor?_of_set hset hget his]
        cases role <;> simp [Accesses, IsQuestion, IsGetter, IsSetter, IsElementGetter, IsElementSetter, named_iff,
          hget, his, hset]
      | none =>
        cases role <;> simp [accessor?, Accesses, IsQuestion, IsGetter, IsSetter, IsElementGetter, IsElementSetter,
          named_iff, hget, his, hset]

/-! ### Questions and getters -/

theorem IsQuestion.afterWord? (h : m.IsQuestion property) : (ObjectGraph.afterWord? "is" m.name).isSome = true := by
  obtain ⟨tail, htail, -⟩ := named_iff.mp h.1
  rw [htail, Option.isSome_some]

theorem IsGetter.afterWord? (h : m.IsGetter property) : (ObjectGraph.afterWord? "is" m.name).isSome = false := by
  obtain ⟨tail, htail, -⟩ := named_iff.mp h.1
  rw [afterWord?_eq_none htail (by decide) (by decide) (by decide), Option.isSome_none]

/-- Some role makes a method an accessor of a property. -/
theorem isAccessor_iff : m.IsAccessor property ↔ ∃ role, m.accessor? = some (property, role) := by
  simp only [accessor?_eq_some_iff]
  constructor
  · rintro (h | h | h | h | h)
    · exact ⟨.read, Or.inl h⟩
    · exact ⟨.read, Or.inr h⟩
    · exact ⟨.write, h⟩
    · exact ⟨.readElement, h⟩
    · exact ⟨.writeElement, h⟩
  · rintro ⟨role, h⟩
    cases role with
    | read => exact h.elim Or.inl fun h => Or.inr (Or.inl h)
    | write => exact Or.inr (Or.inr (Or.inl h))
    | readElement => exact Or.inr (Or.inr (Or.inr (Or.inl h)))
    | writeElement => exact Or.inr (Or.inr (Or.inr (Or.inr h)))

/-- No method is an accessor of a property without a name. -/
theorem not_isAccessor_empty : ¬ m.IsAccessor "" := by
  have hnot (word : String) : ¬ m.Named word "" := by
    rintro ⟨tail, -, htail, hempty⟩
    exact decapitalize_ne_empty htail hempty
  rintro (h | h | h | h | h) <;> exact hnot _ h.1

end Method

end ObjectGraph
