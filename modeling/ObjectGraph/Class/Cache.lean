import ObjectGraph.Class.Keyed
import ObjectGraph.Data.Memo

/-!
A cache of what is known about classes: their properties, their keyed properties, also absent ones,
and single methods.  Errors are not kept.  The main statements say that a sound cache answers as the
classes do, and that it stays sound.
-/

namespace ObjectGraph

/-- Answers about classes that have been given. -/
structure DescriptorCache where
  classes : Memo ClassId (List Descriptor)
  keyed : Memo (ClassId × String) (Option KeyedDescriptor)
  methods : Memo MethodQuery (Option Method)

namespace DescriptorCache

/-- Nothing is kept. -/
def empty : DescriptorCache := ⟨.empty, .empty, .empty⟩

/-- Answers the properties of a class. -/
def askDescriptors (G : ClassGraph) (c : ClassId) (s : DescriptorCache) : List Descriptor × DescriptorCache :=
  match s.classes.get? c with
  | some ds => (ds, s)
  | none => (G.descriptors c, { s with classes := s.classes.insert c (G.descriptors c) })

/-- Answers the method that a search finds. -/
def askMethod (G : ClassGraph) (q : MethodQuery) (s : DescriptorCache) : Option Method × DescriptorCache :=
  match s.methods.get? q with
  | some m => (m, s)
  | none => (G.answer q, { s with methods := s.methods.insert q (G.answer q) })

/-- Keeps a keyed property, unless it is an error. -/
def keepKeyed (c : ClassId) (property : String) (found : Except Error (Option KeyedDescriptor))
    (s : DescriptorCache) : DescriptorCache :=
  match found with
  | .ok d => { s with keyed := s.keyed.insert (c, property) d }
  | .error _ => s

/-- Answers the keyed property of a class with a name.  Its methods are looked up in the cache, too. -/
def askKeyed (G : ClassGraph) (c : ClassId) (property : String) (s : DescriptorCache) :
    Except Error (Option KeyedDescriptor) × DescriptorCache :=
  match s.keyed.get? (c, property) with
  | some d => (.ok d, s)
  | none =>
    if property.isEmpty then (.ok none, s.keepKeyed c property (.ok none))
    else
      let (read, s) := s.askMethod G (KeyedDescriptor.readQuery c property)
      let (write, s) := s.askMethod G (KeyedDescriptor.writeQuery c property)
      let found := KeyedDescriptor.ofMethods G c property read write
      (found, s.keepKeyed c property found)

/-- Each bound answer is the one that the classes give. -/
structure Sound (G : ClassGraph) (s : DescriptorCache) : Prop where
  classes : ∀ c ds, s.classes.get? c = some ds → ds = G.descriptors c
  keyed : ∀ c property d, s.keyed.get? (c, property) = some d → G.keyed? c property = .ok d
  methods : ∀ q m, s.methods.get? q = some m → m = G.answer q

theorem sound_empty (G : ClassGraph) : empty.Sound G :=
  ⟨fun _ _ h => by simp [empty] at h, fun _ _ _ h => by simp [empty] at h, fun _ _ h => by simp [empty] at h⟩

variable {G : ClassGraph} {s : DescriptorCache}

theorem Sound.askDescriptors (h : s.Sound G) (c : ClassId) :
    (s.askDescriptors G c).1 = G.descriptors c ∧ (s.askDescriptors G c).2.Sound G := by
  unfold DescriptorCache.askDescriptors
  split
  · rename_i ds hc
    exact ⟨h.classes c ds hc, h⟩
  · refine ⟨rfl, ⟨?_, h.keyed, h.methods⟩⟩
    intro d ds hd
    simp only [Assoc.get?_insert] at hd
    split at hd
    · subst d
      simpa using hd.symm
    · exact h.classes d ds hd

theorem Sound.askMethod (h : s.Sound G) (q : MethodQuery) :
    (s.askMethod G q).1 = G.answer q ∧ (s.askMethod G q).2.Sound G := by
  unfold DescriptorCache.askMethod
  split
  · rename_i m hq
    exact ⟨h.methods q m hq, h⟩
  · refine ⟨rfl, ⟨h.classes, h.keyed, ?_⟩⟩
    intro r m hm
    simp only [Assoc.get?_insert] at hm
    split at hm
    · subst r
      simpa using hm.symm
    · exact h.methods r m hm

theorem Sound.keepKeyed (h : s.Sound G) (c : ClassId) (property : String) :
    (s.keepKeyed c property (G.keyed? c property)).Sound G := by
  unfold DescriptorCache.keepKeyed
  split
  · rename_i d hd
    refine ⟨h.classes, ?_, h.methods⟩
    intro c' property' d' h'
    simp only [Assoc.get?_insert] at h'
    split at h'
    · rename_i heq
      cases heq
      cases h'
      exact hd
    · exact h.keyed c' property' d' h'
  · exact h

theorem Sound.askKeyed (h : s.Sound G) (c : ClassId) (property : String) :
    (s.askKeyed G c property).1 = G.keyed? c property ∧ (s.askKeyed G c property).2.Sound G := by
  unfold DescriptorCache.askKeyed
  split
  · rename_i d hk
    exact ⟨(h.keyed c property d hk).symm, h⟩
  · split
    · rename_i hp
      have hd : G.keyed? c property = .ok none := by simp [ClassGraph.keyed?, hp]
      exact ⟨hd.symm, hd ▸ h.keepKeyed c property⟩
    · rename_i hp
      obtain ⟨h₁, s₁⟩ := h.askMethod (KeyedDescriptor.readQuery c property)
      obtain ⟨h₂, s₂⟩ := s₁.askMethod (KeyedDescriptor.writeQuery c property)
      have hd : KeyedDescriptor.ofMethods G c property (s.askMethod G (KeyedDescriptor.readQuery c property)).1
          ((s.askMethod G (KeyedDescriptor.readQuery c property)).2.askMethod G
            (KeyedDescriptor.writeQuery c property)).1 = G.keyed? c property := by
        rw [h₁, h₂]
        simp [ClassGraph.keyed?, hp]
      refine ⟨hd, ?_⟩
      have := s₂.keepKeyed c property
      rw [← hd] at this
      exact this

end DescriptorCache

/-- A cache that is sound for some classes. -/
structure SoundCache (G : ClassGraph) where
  table : DescriptorCache
  sound : table.Sound G

namespace SoundCache
variable {G : ClassGraph}

/-- Nothing is kept. -/
def empty : SoundCache G := ⟨.empty, DescriptorCache.sound_empty G⟩

instance : Inhabited (SoundCache G) := ⟨empty⟩

/-- Answers the properties of a class. -/
def askDescriptors (c : ClassId) (s : SoundCache G) : List Descriptor × SoundCache G :=
  ((s.table.askDescriptors G c).1, ⟨(s.table.askDescriptors G c).2, (s.sound.askDescriptors c).2⟩)

/-- Answers the method that a search finds. -/
def askMethod (q : MethodQuery) (s : SoundCache G) : Option Method × SoundCache G :=
  ((s.table.askMethod G q).1, ⟨(s.table.askMethod G q).2, (s.sound.askMethod q).2⟩)

/-- Answers the keyed property of a class with a name. -/
def askKeyed (c : ClassId) (property : String) (s : SoundCache G) :
    Except Error (Option KeyedDescriptor) × SoundCache G :=
  ((s.table.askKeyed G c property).1, ⟨(s.table.askKeyed G c property).2, (s.sound.askKeyed c property).2⟩)

/-- The number of classes whose properties are kept. -/
def classCount (s : SoundCache G) : Nat := s.table.classes.size

end SoundCache

end ObjectGraph
