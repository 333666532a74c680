import ObjectGraph.Proofs.Fence.Heap

/-!
What is made behind a fence.  New objects hold what their classes mention, and the values that fill new slots hold
nothing or are such objects; so both are inside.  An array that is lengthened conforms as the shorter one did.
-/

namespace ObjectGraph

namespace ClassGraph
variable (G : ClassGraph)

/-- Whatever fills the new slots of a type is accepted by the type. -/
theorem accepts_defaultValues (t : Ty) (count : Nat) (H : Heap) :
    ∀ v ∈ (G.defaultValues t count H).1, (G.defaultValues t count H).2.accepts G t v = true := by
  induction count generalizing H with
  | zero => exact List.forall_mem_nil _
  | succ count ih =>
    have hlater := (G.onlyAdds_defaultValues t count (G.defaultValue t H).2).keepsTypes
    have hfirst := hlater.fits (G.onlyAdds_defaultValue t H).2 (G.fits_defaultValue t H)
    exact List.forall_mem_cons.mpr ⟨hfirst.accepted, ih _⟩

end ClassGraph

namespace Fence
variable {F : Fence} {G : ClassGraph} {H : Heap} {t : Ty} {c : ClassId}

theorem holds_ofList {entries : List (String × Value)} (h : ∀ e ∈ entries, F.Inside e.2) :
    F.Holds (.ofList entries) := holds_empty.insertAll h

/-- Whether objects are inside, and blank ones are made without leading outside. -/
structure Blanks (F : Fence) (G : ClassGraph) (blank : ClassId → Heap → Object × Heap) : Prop where
  objects : F.withObjects = true
  made : ∀ (c : ClassId) {H : Heap}, F.Encloses G H → F.Encloses G (blank c H).2 ∧ F.HoldsObject (blank c H).1

namespace Encloses

/-! ### Templates -/

section Templates
variable {blank : ClassId → Heap → Object × Heap}

mutual

/-- What a template is built to is inside if all that the template mentions is. -/
theorem buildWith (hb : F.Blanks G blank) {H : Heap} (h : F.Encloses G H) :
    (t : Template) → (∀ v, t.Mentions v → F.Inside v) →
      F.Encloses G (t.buildWith blank H).2 ∧ F.Inside (t.buildWith blank H).1
  | .value v, ht => by
    rw [Template.buildWith]
    exact ⟨h, ht v (.value v)⟩
  | .list items, ht => by
    rw [Template.buildWith]
    obtain ⟨hbuilt, hitems⟩ := h.buildItems hb items fun t hmem v hv => ht v (.list hmem hv)
    exact ⟨hbuilt.newList hitems, trivial⟩
  | .array c items, ht => by
    rw [Template.buildWith]
    obtain ⟨hbuilt, hitems⟩ := h.buildItems hb items fun t hmem v hv => ht v (.array hmem hv)
    exact hbuilt.newArray hitems (Or.inl hb.objects) (Or.inl hb.objects)
  | .map entries, ht => by
    rw [Template.buildWith]
    obtain ⟨hbuilt, hentries⟩ := h.buildEntries hb entries fun e hmem v hv => ht v (.map hmem hv)
    exact ⟨hbuilt.newMap (holds_ofList hentries), trivial⟩
  | .object c fields storage, ht => by
    rw [Template.buildWith]
    obtain ⟨hblank, ho⟩ := hb.made c h
    obtain ⟨hbuilt, hfields⟩ := hblank.buildEntries hb fields fun e hmem v hv => ht v (.field hmem hv)
    obtain ⟨hbuilt', hstorage⟩ := hbuilt.buildEntries hb storage fun e hmem v hv => ht v (.stored hmem hv)
    refine ⟨hbuilt'.newObject hb.objects ⟨ho.fields.insertAll hfields, fun {d} hd => ?_⟩, hb.objects⟩
    obtain ⟨d', hd', rfl⟩ := Option.map_eq_some_iff.mp hd
    exact (ho.storage hd').insertAll hstorage

theorem buildItems (hb : F.Blanks G blank) {H : Heap} (h : F.Encloses G H) :
    (ts : List Template) → (∀ t ∈ ts, ∀ v, t.Mentions v → F.Inside v) →
      F.Encloses G (Template.buildItems blank H ts).2 ∧ ∀ v ∈ (Template.buildItems blank H ts).1, F.Inside v
  | [], _ => by
    rw [Template.buildItems]
    exact ⟨h, List.forall_mem_nil _⟩
  | t :: ts, hts => by
    rw [Template.buildItems]
    obtain ⟨ht, hrest⟩ := List.forall_mem_cons.mp hts
    obtain ⟨hbuilt, hv⟩ := h.buildWith hb t ht
    obtain ⟨hbuilt', hvs⟩ := hbuilt.buildItems hb ts hrest
    exact ⟨hbuilt', List.forall_mem_cons.mpr ⟨hv, hvs⟩⟩

theorem buildEntries (hb : F.Blanks G blank) {H : Heap} (h : F.Encloses G H) :
    (ts : List (String × Template)) → (∀ e ∈ ts, ∀ v, e.2.Mentions v → F.Inside v) →
      F.Encloses G (Template.buildEntries blank H ts).2 ∧ ∀ e ∈ (Template.buildEntries blank H ts).1, F.Inside e.2
  | [], _ => by
    rw [Template.buildEntries]
    exact ⟨h, List.forall_mem_nil _⟩
  | (name, t) :: ts, hts => by
    rw [Template.buildEntries]
    obtain ⟨ht, hrest⟩ := List.forall_mem_cons.mp hts
    obtain ⟨hbuilt, hv⟩ := h.buildWith hb t ht
    obtain ⟨hbuilt', hes⟩ := hbuilt.buildEntries hb ts hrest
    exact ⟨hbuilt', List.forall_mem_cons.mpr ⟨hv, hes⟩⟩

end

end Templates

/-! ### Objects -/

/-- Default objects nest to any depth, and all of them hold only values inside. -/
theorem blankObject (h : F.Encloses G H) (hobjects : F.withObjects = true) (depth : Nat) (c : ClassId) :
    F.Encloses G (G.blankObject depth c H).2 ∧ F.HoldsObject (G.blankObject depth c H).1 := by
  induction depth generalizing c H with
  | zero => exact ⟨h, holds_empty, nofun⟩
  | succ depth ih =>
    have hdefaults : ∀ e ∈ (G.ancestors c).reverse.flatMap (fun a => (G.get a).defaults), ∀ v, e.2.Mentions v →
        F.Inside v := fun e he v hv => by
      obtain ⟨a, -, hmem⟩ := List.mem_flatMap.mp he
      exact h.classes hobjects v ⟨a, Or.inl ⟨e, hmem, hv⟩⟩
    have hb : F.Blanks G (G.blankObject depth) := ⟨hobjects, fun c _ hH => ih hH c⟩
    obtain ⟨hbuilt, hfields⟩ := h.buildEntries hb _ hdefaults
    refine ⟨hbuilt, holds_ofList hfields, fun {d} hd => ?_⟩
    rw [ClassGraph.blankObject] at hd
    dsimp only at hd
    split at hd <;> cases hd
    exact holds_empty

theorem blanks_defaultObject (hobjects : F.withObjects = true) : F.Blanks G G.defaultObject :=
  ⟨hobjects, fun c _ hH => hH.blankObject hobjects (G.size + 1) c⟩

theorem makeObject (h : F.Encloses G H) (hobjects : F.withObjects = true) (c : ClassId) :
    F.Encloses G (G.newObject c H).2 := by
  obtain ⟨hmade, ho⟩ := (blanks_defaultObject hobjects).made c h
  exact hmade.newObject hobjects ho

theorem build (h : F.Encloses G H) (hobjects : F.withObjects = true) {t : Template}
    (ht : ∀ v, t.Mentions v → F.Inside v) : F.Encloses G (G.build t H).2 ∧ F.Inside (G.build t H).1 :=
  h.buildWith (blanks_defaultObject hobjects) t ht

/-! ### New slots -/

/-- What fills a new slot is inside if the type admits it. -/
theorem defaultValue (h : F.Encloses G H) (ht : F.Admits t) :
    F.Encloses G (G.defaultValue t H).2 ∧ F.Inside (G.defaultValue t H).1 := by
  cases t with
  | primitive p => exact ⟨h, inside_of_isScalar (Ty.isScalar_zero (.primitive p))⟩
  | list => exact ⟨h.newList (List.forall_mem_nil _), trivial⟩
  | map => exact ⟨h.newMap holds_empty, trivial⟩
  | array c => exact h.newArray (List.forall_mem_nil _) ht (Or.inr (List.forall_mem_nil _))
  | object c =>
    have hobjects : F.withObjects = true := ht.resolve_right nofun
    rw [ClassGraph.defaultValue_object]
    split
    · exact ⟨h.makeObject hobjects c, hobjects⟩
    · exact ⟨h, trivial⟩
  | record =>
    refine ⟨(h.newSchema fun {name p} hp => by cases hp).newRecord ?_, trivial⟩
    exact holds_empty
  | _ => exact ⟨h, trivial⟩

theorem defaultValues (h : F.Encloses G H) (ht : F.Admits t) (count : Nat) :
    F.Encloses G (G.defaultValues t count H).2 ∧ ∀ v ∈ (G.defaultValues t count H).1, F.Inside v := by
  induction count generalizing H with
  | zero => exact ⟨h, List.forall_mem_nil _⟩
  | succ count ih =>
    obtain ⟨hfirst, hv⟩ := h.defaultValue ht
    obtain ⟨hrest, hvs⟩ := ih hfirst
    exact ⟨hrest, List.forall_mem_cons.mpr ⟨hv, hvs⟩⟩

/-- A longer copy of an array inside conforms: its old elements did so already, and the new ones are made to. -/
theorem grown (h : F.Encloses G H) {a : Handle .array} (ha : F.Inside (.array a)) (length : Nat) :
    F.Encloses G (((H.get a).grown G length H).2.alloc .array ((H.get a).grown G length H).1).2 ∧
      F.Inside (.array (((H.get a).grown G length H).2.next .array)) := by
  have hadds := G.onlyAdds_defaultValues (H.get a).component (length - (H.get a).items.length) H
  obtain ⟨hdefaults, hnew⟩ := h.defaultValues (h.component a) (length - (H.get a).items.length)
  refine hdefaults.newArray (fun v hv => ?_) (h.component a) ?_
  · rcases List.mem_append.mp hv with hv | hv
    · exact h.held ha v hv
    · exact hnew v hv
  · refine hdefaults.conforms.imp_right fun hall v hv => ?_
    rcases List.mem_append.mp hv with hv | hv
    · by_cases hhas : H.Has a
      · have hsame := hall a
        rw [hadds.same (k := .array) hhas] at hsame
        exact hsame v hv
      · rw [Heap.get_of_not_has (k := .array) hhas] at hv
        cases hv
    · exact G.accepts_defaultValues _ _ H v hv

end Encloses

end Fence

end ObjectGraph
