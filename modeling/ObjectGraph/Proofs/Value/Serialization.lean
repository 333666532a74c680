import Mathlib.Data.List.Forall2
import ObjectGraph.Proofs.Access.Tree
import ObjectGraph.Proofs.Text.ByteOrder
import ObjectGraph.Proofs.Value.Unfolding
import ObjectGraph.Value.Json

/-!
Values written as JSON.  What is written is a document, whose text is the JSON; an acyclic value has one unless
something in it cannot be written.  The keys of each table of the document ascend by their bytes, and they are those
that are bound.
-/

namespace ObjectGraph

/-- What is written of a value: a text by itself, elements, or entries. -/
inductive Doc
  | leaf (text : String)
  | list (items : List Doc)
  | table (entries : List (String × Doc))

mutual

/-- The JSON of a document. -/
def Doc.text : Doc → String
  | .leaf s => s
  | .list ds => "[" ++ ",".intercalate (Doc.itemTexts ds) ++ "]"
  | .table es => "\x7b" ++ ",".intercalate (Doc.entryTexts es) ++ "\x7d"

/-- The JSON of elements. -/
def Doc.itemTexts : List Doc → List String
  | [] => []
  | d :: ds => d.text :: Doc.itemTexts ds

/-- The JSON of entries. -/
def Doc.entryTexts : List (String × Doc) → List String
  | [] => []
  | (k, d) :: es => (Json.text k ++ ":" ++ d.text) :: Doc.entryTexts es

end

/-- Whether keys ascend strictly by their UTF-8 bytes. -/
def ByteAscending (keys : List String) : Prop :=
  keys.Pairwise fun a b => Utf8.encode a.toList < Utf8.encode b.toList

theorem Dict.byteAscending_keys {α : Type} (d : Dict α) : ByteAscending d.keys :=
  List.pairwise_map.mpr (d.ascending.imp Utf8.encode_toList_lt)

namespace Heap
variable {G : ClassGraph} {H : Heap} {u v w : Value} {n : Nat} {s : String} {doc : Doc}

mutual

/-- Whether a document is what is written of a value: the entries of a table are those that the value binds, and
their keys ascend. -/
def Writes (H : Heap) : Value → Doc → Prop
  | v, .leaf s => v.isScalar = true ∧ Json.scalar v = .ok s
  | v, .list ds => ∃ items, H.items? v = some items ∧ H.WritesItems items ds
  | v, .table es => ∃ d, H.bindings? v = some d ∧ ByteAscending (es.map Prod.fst) ∧
      (∀ k, k ∈ es.map Prod.fst ↔ (d.get? k).isSome = true) ∧ H.WritesEntries d es

/-- Whether documents are what is written of values one by one. -/
def WritesItems (H : Heap) : List Value → List Doc → Prop
  | [], [] => True
  | v :: vs, d :: ds => H.Writes v d ∧ H.WritesItems vs ds
  | _, _ => False

/-- Whether the documents of some keys are what is written of the values that are bound to them. -/
def WritesEntries (H : Heap) : Dict Value → List (String × Doc) → Prop
  | _, [] => True
  | d, (k, doc) :: es => (∃ v, d.get? k = some v ∧ H.Writes v doc) ∧ H.WritesEntries d es

end

/-- Whether a value cannot be written: an object, an adapter, or a path that is no text. -/
inductive Unwritable (H : Heap) : Value → Prop
  | object (o : Handle .object) : Unwritable H (.object o)
  | adapter {r : Handle .record} {S : Handle .schema} {o : Handle .object} {p : Resolver} (h : H.get r = .adapter S o p) :
      Unwritable H (.record r)
  | path {p : FilePath} (h : p.text? = none) : Unwritable H (.path p)

/-! ### Kinds of values -/

theorem writesItems_iff {vs : List Value} {ds : List Doc} : H.WritesItems vs ds ↔ List.Forall₂ H.Writes vs ds := by
  induction vs generalizing ds with
  | nil => cases ds <;> simp [WritesItems]
  | cons v vs ih => cases ds <;> simp [WritesItems, ih]

theorem writesEntries_iff {d : Dict Value} {es : List (String × Doc)} :
    H.WritesEntries d es ↔ ∀ e ∈ es, ∃ v, d.get? e.1 = some v ∧ H.Writes v e.2 := by
  induction es with
  | nil => simp [WritesEntries]
  | cons e es ih => simp [WritesEntries, ih]

theorem stored?_eq_none {r : Handle .record} : H.stored? r = none ↔ ∃ S o p, H.get r = .adapter S o p := by
  rw [stored?]
  rcases H.get r with ⟨S, values⟩ | ⟨S, values | m⟩ | ⟨S, o, p⟩ <;> simp

/-- A value is a scalar, has elements, has bindings, or cannot be written. -/
theorem kinds (H : Heap) (v : Value) : v.isScalar = true ∨ (∃ items, H.items? v = some items) ∨
    (∃ d, H.bindings? v = some d) ∨ H.Unwritable v := by
  cases v with
  | list l => exact .inr (.inl ⟨_, rfl⟩)
  | array a => exact .inr (.inl ⟨_, rfl⟩)
  | map m => exact .inr (.inr (.inl ⟨_, rfl⟩))
  | object o => exact .inr (.inr (.inr (.object o)))
  | record r =>
    cases hstored : H.stored? r with
    | some d => exact .inr (.inr (.inl ⟨d, hstored⟩))
    | none =>
      obtain ⟨S, o, p, hr⟩ := stored?_eq_none.mp hstored
      exact .inr (.inr (.inr (.adapter hr)))
  | _ => exact .inl rfl

theorem Unwritable.not_writes (h : H.Unwritable v) : ¬ H.Writes v doc := by
  intro hdoc
  cases h with
  | object o => cases doc <;> simp [Writes, items?, bindings?, Value.isScalar] at hdoc
  | adapter hr =>
    have hnone := stored?_eq_none.mpr ⟨_, _, _, hr⟩
    cases doc <;> simp [Writes, items?, bindings?, Value.isScalar, hnone] at hdoc
  | path hp => cases doc <;> simp [Writes, items?, bindings?, Json.scalar, hp] at hdoc

theorem items?_of_isScalar (h : v.isScalar = true) : H.items? v = none := by
  cases v <;> first | rfl | cases h

theorem bindings?_of_isScalar (h : v.isScalar = true) : H.bindings? v = none := by
  cases v <;> first | rfl | cases h

theorem not_part_of_isScalar (h : v.isScalar = true) : ¬ H.Part v u := by
  rintro (⟨hitems, -⟩ | ⟨hbindings, -⟩)
  · cases (items?_of_isScalar h).symm.trans hitems
  · cases (bindings?_of_isScalar h).symm.trans hbindings

theorem bindings?_of_items? {items : List Value} (h : H.items? v = some items) : H.bindings? v = none := by
  cases v <;> first | rfl | cases h

/-- A scalar is written as one unless it is a path that is no text. -/
theorem scalar_cases (h : v.isScalar = true) : (∃ s, Json.scalar v = .ok s) ∨ H.Unwritable v := by
  cases v with
  | path p =>
    cases hp : p.text? with
    | some s => exact .inl ⟨_, by rw [Json.scalar, hp]⟩
    | none => exact .inr (.path hp)
  | _ => exact .inl ⟨_, rfl⟩

/-! ### The JSON of each kind -/

theorem json_of_isScalar (h : v.isScalar = true) : (H.unfold true (n + 1) v).json G = Json.scalar v := by
  cases v <;> first | rfl | cases h

theorem json_of_items? {items : List Value} (h : H.items? v = some items) : (H.unfold true (n + 1) v).json G =
    (do
      let ss ← Content.jsonItems G (items.map (H.unfold true n))
      return "[" ++ ",".intercalate ss ++ "]") := by
  cases v <;> first | (cases h; rfl) | cases h

theorem json_of_bindings? {d : Dict Value} (h : H.bindings? v = some d) : (H.unfold true (n + 1) v).json G =
    (do
      let ss ← Content.jsonEntries G (d.entries.map fun e => (e.1, H.unfold true n e.2))
      return "\x7b" ++ ",".intercalate ss ++ "\x7d") := by
  cases v with
  | map m => cases h; rfl
  | record r =>
    rw [bindings?] at h
    simp only [unfold, if_true, h]
    rfl
  | _ => cases h

theorem json_of_unwritable (h : H.Unwritable v) : ∃ e, (H.unfold true (n + 1) v).json G = .error e := by
  cases h with
  | object o => exact ⟨_, rfl⟩
  | adapter hr =>
    refine ⟨.adapter, ?_⟩
    simp only [unfold, if_true, stored?_eq_none.mpr ⟨_, _, _, hr⟩]
    rfl
  | path hp => exact ⟨.pathNotText, by rw [json_of_isScalar rfl, Json.scalar, hp]⟩

theorem jsonItems_of_forall₂ {cs : List Content} {ds : List Doc}
    (h : List.Forall₂ (fun c d => Content.json G c = .ok d.text) cs ds) :
    Content.jsonItems G cs = .ok (Doc.itemTexts ds) := by
  induction h with
  | nil => rfl
  | cons hc _ ih => rw [Content.jsonItems, hc, ih]; rfl

theorem jsonEntries_of_forall₂ {cs : List (String × Content)} {es : List (String × Doc)}
    (h : List.Forall₂ (fun c e => c.1 = e.1 ∧ Content.json G c.2 = .ok e.2.text) cs es) :
    Content.jsonEntries G cs = .ok (Doc.entryTexts es) := by
  induction h with
  | nil => rfl
  | @cons c e _ _ hc _ ih =>
    obtain ⟨k, c⟩ := c
    obtain ⟨rfl, hc⟩ := hc
    rw [Content.jsonEntries, hc, ih]
    rfl

theorem jsonItems_of_mem {cs : List Content} {c : Content} (hc : c ∈ cs) (h : ∃ e, c.json G = .error e) :
    ∃ e, Content.jsonItems G cs = .error e := by
  obtain ⟨e, he⟩ := h
  induction cs with
  | nil => cases hc
  | cons c' cs ih =>
    rw [Content.jsonItems]
    rcases hfirst : c'.json G with e' | s
    · exact ⟨e', rfl⟩
    · rcases List.mem_cons.mp hc with rfl | hc
      · cases hfirst.symm.trans he
      · obtain ⟨e', he'⟩ := ih hc
        exact ⟨e', by rw [he']; rfl⟩

theorem jsonEntries_of_mem {cs : List (String × Content)} {c : String × Content} (hc : c ∈ cs)
    (h : ∃ e, c.2.json G = .error e) : ∃ e, Content.jsonEntries G cs = .error e := by
  obtain ⟨e, he⟩ := h
  induction cs with
  | nil => cases hc
  | cons c' cs ih =>
    rw [Content.jsonEntries]
    rcases hfirst : c'.2.json G with e' | s
    · exact ⟨e', rfl⟩
    · rcases List.mem_cons.mp hc with rfl | hc
      · cases hfirst.symm.trans he
      · obtain ⟨e', he'⟩ := ih hc
        exact ⟨e', by rw [he']; rfl⟩

/-! ### What is written -/

theorem exists_forall₂ {α β : Type} {R : α → β → Prop} {as : List α} (h : ∀ a ∈ as, ∃ b, R a b) :
    ∃ bs, List.Forall₂ R as bs := by
  induction as with
  | nil => exact ⟨[], .nil⟩
  | cons a as ih =>
    rw [List.forall_mem_cons] at h
    obtain ⟨⟨b, hb⟩, hrest⟩ := h
    obtain ⟨bs, hbs⟩ := ih hrest
    exact ⟨b :: bs, .cons hb hbs⟩

theorem exists_of_forall₂_right {α β : Type} {R : α → β → Prop} {as : List α} {bs : List β} {b : β}
    (h : List.Forall₂ R as bs) (hb : b ∈ bs) : ∃ a ∈ as, R a b := by
  induction h with
  | nil => cases hb
  | cons hr _ ih =>
    rcases List.mem_cons.mp hb with rfl | hb
    · exact ⟨_, List.mem_cons_self, hr⟩
    · obtain ⟨a, ha, hab⟩ := ih hb
      exact ⟨a, List.mem_cons_of_mem _ ha, hab⟩

/-- A value that contains something that cannot be written cannot be written. -/
theorem json_error (hn : H.Settles n v) (hc : H.Contains v u) (hu : H.Unwritable u) :
    ∃ e, (H.unfold true (n + 1) v).json G = .error e := by
  induction n generalizing v with
  | zero =>
    rcases Relation.ReflTransGen.cases_head hc with rfl | ⟨w, hw, -⟩
    · exact json_of_unwritable hu
    · exact absurd hw (hn w)
  | succ n ih =>
    rcases Relation.ReflTransGen.cases_head hc with rfl | ⟨w, hw, hrest⟩
    · exact json_of_unwritable hu
    · have hpart := ih (hn w hw) hrest
      cases hw with
      | element hitems hmem =>
        obtain ⟨e, he⟩ := jsonItems_of_mem (List.mem_map_of_mem hmem) hpart
        exact ⟨e, by rw [json_of_items? hitems, he]; rfl⟩
      | @entry d k _ hbindings hget =>
        have hmem : (k, H.unfold true (n + 1) w) ∈ d.entries.map fun e => (e.1, H.unfold true (n + 1) e.2) :=
          List.mem_map.mpr ⟨(k, w), Dict.mem_of_get? hget, rfl⟩
        obtain ⟨e, he⟩ := jsonEntries_of_mem hmem hpart
        exact ⟨e, by rw [json_of_bindings? hbindings, he]; rfl⟩

/-- A value whose parts have documents has one, unless it cannot be written itself. -/
theorem json_of_parts (hv : ¬ H.Unwritable v)
    (hparts : ∀ w, H.Part v w → ∃ doc, (H.unfold true n w).json G = .ok doc.text ∧ H.Writes w doc) :
    ∃ doc, (H.unfold true (n + 1) v).json G = .ok doc.text ∧ H.Writes v doc := by
  rcases H.kinds v with hscalar | ⟨items, hitems⟩ | ⟨d, hd⟩ | hunwritable
  · obtain ⟨s, hs⟩ := (scalar_cases (H := H) hscalar).resolve_right hv
    exact ⟨.leaf s, by rw [json_of_isScalar hscalar, hs, Doc.text], by rw [Writes]; exact ⟨hscalar, hs⟩⟩
  · obtain ⟨ds, hds⟩ := exists_forall₂ fun w hw => hparts w (.element hitems hw)
    refine ⟨.list ds, ?_, ?_⟩
    · rw [json_of_items? hitems, jsonItems_of_forall₂ (List.forall₂_map_left_iff.mpr (hds.imp fun _ _ h => h.1)),
        Doc.text]
      rfl
    · rw [Writes]
      exact ⟨items, hitems, writesItems_iff.mpr (hds.imp fun _ _ h => h.2)⟩
  · have hentries : ∀ e ∈ d.entries, ∃ p : String × Doc, e.1 = p.1 ∧
        (H.unfold true n e.2).json G = .ok p.2.text ∧ H.Writes e.2 p.2 := fun e he => by
      obtain ⟨doc, hdoc⟩ := hparts e.2 (.entry hd (Dict.get?_of_mem he))
      exact ⟨(e.1, doc), rfl, hdoc⟩
    obtain ⟨es, hes⟩ := exists_forall₂ hentries
    have hkeys : es.map Prod.fst = d.keys :=
      (List.forall₂_eq_eq_eq ▸ List.forall₂_map_right_iff.mpr (List.forall₂_map_left_iff.mpr (hes.imp fun _ _ h => h.1)) :
        d.entries.map Prod.fst = es.map Prod.fst).symm
    refine ⟨.table es, ?_, ?_⟩
    · rw [json_of_bindings? hd, jsonEntries_of_forall₂ (List.forall₂_map_left_iff.mpr
        (hes.imp fun _ _ h => ⟨h.1, h.2.1⟩)), Doc.text]
      rfl
    · rw [Writes, hkeys]
      refine ⟨d, hd, d.byteAscending_keys, fun k => ?_, writesEntries_iff.mpr fun p hp => ?_⟩
      · rw [Dict.mem_keys_iff, Option.isSome_iff_exists]
      · obtain ⟨e, he, hkey, -, hwrites⟩ := exists_of_forall₂_right hes hp
        exact ⟨e.2, hkey ▸ Dict.get?_of_mem he, hwrites⟩
  · exact absurd hunwritable hv

/-- A value that contains nothing that cannot be written has a document. -/
theorem json_ok (hn : H.Settles n v) (h : ∀ u, H.Contains v u → ¬ H.Unwritable u) :
    ∃ doc, (H.unfold true (n + 1) v).json G = .ok doc.text ∧ H.Writes v doc := by
  induction n generalizing v with
  | zero => exact json_of_parts (h v .refl) fun w hw => absurd hw (hn w)
  | succ n ih => exact json_of_parts (h v .refl) fun w hw => ih (hn w hw) fun u hu => h u (.head hw hu)

/-! ### Acyclic values -/

theorem Acyclic.json_error_iff (h : H.Acyclic v) :
    (∃ e, H.json G v = .error e) ↔ ∃ u, H.Contains v u ∧ H.Unwritable u := by
  constructor
  · rintro ⟨e, he⟩
    by_contra hnone
    obtain ⟨doc, hok, -⟩ := json_ok (G := G) h.settles fun u hc hu => hnone ⟨u, hc, hu⟩
    cases he.symm.trans hok
  · rintro ⟨u, hc, hu⟩
    exact json_error h.settles hc hu

theorem Acyclic.writes_of_json (h : H.Acyclic v) (hs : H.json G v = .ok s) : ∃ doc, doc.text = s ∧ H.Writes v doc := by
  have hnone : ∀ u, H.Contains v u → ¬ H.Unwritable u := fun u hc hu => by
    obtain ⟨e, he⟩ := h.json_error_iff (G := G).mpr ⟨u, hc, hu⟩
    cases hs.symm.trans he
  obtain ⟨doc, hok, hwrites⟩ := json_ok (G := G) h.settles hnone
  exact ⟨doc, Except.ok.inj (hok.symm.trans hs), hwrites⟩

/-! ### What a document says of its value -/

theorem Writes.of_isScalar (hdoc : H.Writes v doc) (h : v.isScalar = true) :
    ∃ s, doc = .leaf s ∧ Json.scalar v = .ok s := by
  cases doc with
  | leaf s => exact ⟨s, rfl, (Writes.eq_1 .. ▸ hdoc).2⟩
  | list ds => simp [Writes, items?_of_isScalar h] at hdoc
  | table es => simp [Writes, bindings?_of_isScalar h] at hdoc

theorem Writes.of_items? {items : List Value} (hdoc : H.Writes v doc) (h : H.items? v = some items) :
    ∃ ds, doc = .list ds ∧ List.Forall₂ H.Writes items ds := by
  cases doc with
  | leaf s =>
    rw [Writes] at hdoc
    cases (items?_of_isScalar hdoc.1).symm.trans h
  | list ds =>
    rw [Writes] at hdoc
    obtain ⟨items', hitems, hds⟩ := hdoc
    cases hitems.symm.trans h
    exact ⟨ds, rfl, writesItems_iff.mp hds⟩
  | table es =>
    rw [Writes] at hdoc
    obtain ⟨d, hd, -⟩ := hdoc
    cases (bindings?_of_items? h).symm.trans hd

theorem Writes.of_bindings? {d : Dict Value} (hdoc : H.Writes v doc) (h : H.bindings? v = some d) : ∃ es,
    doc = .table es ∧ ByteAscending (es.map Prod.fst) ∧ (∀ k, k ∈ es.map Prod.fst ↔ (d.get? k).isSome = true) ∧
      ∀ e ∈ es, ∃ v, d.get? e.1 = some v ∧ H.Writes v e.2 := by
  cases doc with
  | leaf s =>
    rw [Writes] at hdoc
    cases (bindings?_of_isScalar hdoc.1).symm.trans h
  | list ds =>
    rw [Writes] at hdoc
    obtain ⟨items, hitems, -⟩ := hdoc
    cases (bindings?_of_items? hitems).symm.trans h
  | table es =>
    rw [Writes] at hdoc
    obtain ⟨d', hd, hascending, hkeys, hes⟩ := hdoc
    cases hd.symm.trans h
    exact ⟨es, rfl, hascending, hkeys, writesEntries_iff.mp hes⟩

end Heap

end ObjectGraph
