import Mathlib.Data.List.Sort
import ObjectGraph.Proofs.Data.Dict
import ObjectGraph.Proofs.Value.Serialization

/-!
Values that hold the same, each in a heap of its own.  Since the keys of a document ascend and are those that are
bound, its entries can stand in one order only, so what is written depends on nothing but what the value holds.
-/

namespace ObjectGraph

/-- Ascending keys are known by which keys they are. -/
theorem ByteAscending.eq_of_mem_iff {as bs : List String} (ha : ByteAscending as) (hb : ByteAscending bs)
    (h : ∀ k, k ∈ as ↔ k ∈ bs) : as = bs := by
  have : Std.Irrefl fun a b : String => Utf8.encode a.toList < Utf8.encode b.toList := ⟨fun a => List.lt_irrefl _⟩
  have : Std.Antisymm fun a b : String => Utf8.encode a.toList < Utf8.encode b.toList :=
    ⟨fun a b hab hba => absurd hba (List.lt_asymm hab)⟩
  exact List.Pairwise.eq_of_mem_iff ha hb h

namespace Heap
variable {G : ClassGraph} {H H' : Heap} {u v w : Value} {s : String} {doc doc' : Doc}

/-- Whether two values, each of its own heap, hold the same: the same scalar, the same elements one by one, or the
same keys with the same bound to them.  What cannot be written is not looked into. -/
inductive SameTree (H H' : Heap) : Value → Value → Prop
  | scalar {v : Value} (h : v.isScalar = true) : SameTree H H' v v
  | items {v w : Value} {xs ys : List Value} (hv : H.items? v = some xs) (hw : H'.items? w = some ys)
      (hlength : xs.length = ys.length)
      (h : ∀ (i : Nat) (a b : Value), xs[i]? = some a → ys[i]? = some b → SameTree H H' a b) : SameTree H H' v w
  | bindings {v w : Value} {d e : Dict Value} (hv : H.bindings? v = some d) (hw : H'.bindings? w = some e)
      (hkeys : ∀ k, (d.get? k).isSome = (e.get? k).isSome)
      (h : ∀ (k : String) (a b : Value), d.get? k = some a → e.get? k = some b → SameTree H H' a b) : SameTree H H' v w
  | unwritable {v w : Value} (hv : H.Unwritable v) (hw : H'.Unwritable w) : SameTree H H' v w

/-- The documents of two values that hold the same are one. -/
theorem Writes.unique (hdoc : H.Writes v doc) (hsame : H.SameTree H' v w) (hdoc' : H'.Writes w doc') : doc = doc' := by
  induction hsame generalizing doc doc' with
  | scalar h =>
    obtain ⟨s, rfl, hs⟩ := hdoc.of_isScalar h
    obtain ⟨s', rfl, hs'⟩ := hdoc'.of_isScalar h
    rw [Except.ok.inj (hs.symm.trans hs')]
  | items hv hw hlength h ih =>
    obtain ⟨ds, rfl, hds⟩ := hdoc.of_items? hv
    obtain ⟨ds', rfl, hds'⟩ := hdoc'.of_items? hw
    refine congrArg Doc.list (List.ext_getElem ?_ fun i hi hi' => ?_)
    · rw [← hds.length_eq, hlength, hds'.length_eq]
    · have hx := (List.forall₂_iff_get.mp hds).2 i (hds.length_eq ▸ hi) hi
      have hy := (List.forall₂_iff_get.mp hds').2 i (hds'.length_eq ▸ hi') hi'
      exact ih i _ _ (List.getElem?_eq_getElem _) (List.getElem?_eq_getElem _) hx hy
  | bindings hv hw hkeys h ih =>
    obtain ⟨es, rfl, hascending, hbound, hes⟩ := hdoc.of_bindings? hv
    obtain ⟨es', rfl, hascending', hbound', hes'⟩ := hdoc'.of_bindings? hw
    -- Both tables have the same keys in the same order, so their entries stand side by side.
    have hsame : es.map Prod.fst = es'.map Prod.fst :=
      hascending.eq_of_mem_iff hascending' fun k => by rw [hbound, hbound', hkeys]
    have hlength : es.length = es'.length := by
      rw [← List.length_map (f := Prod.fst), hsame, List.length_map]
    refine congrArg Doc.table (List.ext_getElem hlength fun i hi hi' => ?_)
    obtain ⟨a, ha, hwrites⟩ := hes _ (List.getElem_mem hi)
    obtain ⟨b, hb, hwrites'⟩ := hes' _ (List.getElem_mem hi')
    have hkey : es[i].1 = es'[i].1 := by
      have hat := congrArg (·[i]?) hsame
      simpa [hi, hi'] using hat
    exact Prod.ext hkey (ih es'[i].1 a b (hkey ▸ ha) hb hwrites hwrites')
  | unwritable hv hw => exact absurd hdoc hv.not_writes

/-- If one of two values that hold the same contains something that cannot be written, so does the other. -/
theorem SameTree.unwritable_of_contains (hsame : H.SameTree H' v w) (hc : H.Contains v u) (hu : H.Unwritable u) :
    ∃ u', H'.Contains w u' ∧ H'.Unwritable u' := by
  induction hsame with
  | scalar h =>
    rcases Relation.ReflTransGen.cases_head hc with rfl | ⟨x, hx, -⟩
    · cases hu with
      | path hp => exact ⟨_, .refl, .path hp⟩
      | _ => cases h
    · exact absurd hx (not_part_of_isScalar h)
  | @items v w xs ys hv hw hlength h ih =>
    rcases Relation.ReflTransGen.cases_head hc with rfl | ⟨x, hx, hrest⟩
    · cases hu <;> cases hv
    · cases hx with
      | element hitems hmem =>
        cases hv.symm.trans hitems
        obtain ⟨i, hi⟩ := List.mem_iff_getElem?.mp hmem
        obtain ⟨hlt, -⟩ := List.getElem?_eq_some_iff.mp hi
        have hy : ys[i]? = some ys[i] := List.getElem?_eq_getElem (hlength ▸ hlt)
        obtain ⟨u', hcontains, hu'⟩ := ih i x _ hi hy hrest
        exact ⟨u', .head (.element hw (List.getElem_mem _)) hcontains, hu'⟩
      | entry hbindings _ => cases (bindings?_of_items? hv).symm.trans hbindings
  | @bindings v w d e hv hw hkeys h ih =>
    rcases Relation.ReflTransGen.cases_head hc with rfl | ⟨x, hx, hrest⟩
    · cases hu with
      | adapter hr => cases (stored?_eq_none.mpr ⟨_, _, _, hr⟩).symm.trans hv
      | _ => cases hv
    · cases hx with
      | element hitems _ => cases (bindings?_of_items? hitems).symm.trans hv
      | @entry _ k _ hbindings hget =>
        cases hv.symm.trans hbindings
        have hbound : (e.get? k).isSome = true := by rw [← hkeys, hget, Option.isSome_some]
        obtain ⟨y, hy⟩ := Option.isSome_iff_exists.mp hbound
        obtain ⟨u', hcontains, hu'⟩ := ih k x y hget hy hrest
        exact ⟨u', .head (.entry hw hy) hcontains, hu'⟩
  | unwritable _ hw => exact ⟨_, .refl, hw⟩

theorem SameTree.symm (h : H.SameTree H' v w) : H'.SameTree H w v := by
  induction h with
  | scalar h => exact .scalar h
  | items hv hw hlength _ ih => exact .items hw hv hlength.symm fun i b a hb ha => ih i a b ha hb
  | bindings hv hw hkeys _ ih => exact .bindings hw hv (fun k => (hkeys k).symm) fun k b a hb ha => ih k a b ha hb
  | unwritable hv hw => exact .unwritable hw hv

/-! ### What is written -/

/-- What is written of a value is written of any other one that holds the same. -/
theorem SameTree.json (hsame : H.SameTree H' v w) (hv : H.Acyclic v) (hw : H'.Acyclic w) (hs : H.json G v = .ok s) :
    H'.json G w = .ok s := by
  rcases hs' : H'.json G w with e | s'
  · obtain ⟨u, hc, hu⟩ := hw.json_error_iff (G := G).mp ⟨e, hs'⟩
    obtain ⟨e', he'⟩ := hv.json_error_iff (G := G).mpr (hsame.symm.unwritable_of_contains hc hu)
    cases hs.symm.trans he'
  · obtain ⟨doc, rfl, hwrites⟩ := hv.writes_of_json hs
    obtain ⟨doc', rfl, hwrites'⟩ := hw.writes_of_json hs'
    rw [hwrites.unique hsame hwrites']

/-- An acyclic value cannot be written exactly if it contains something that cannot.  What is written otherwise is a
document of the value, whose tables have the keys that are bound, each once and in the order of their bytes.  A value
that holds the same is written alike, and the order in which a map was filled makes no difference. -/
theorem json_of_acyclic (G : ClassGraph) (hv : H.Acyclic v) :
    ((∃ e, H.json G v = .error e) ↔ ∃ u, H.Contains v u ∧ H.Unwritable u) ∧
    (∀ s, H.json G v = .ok s → ∃ doc, doc.text = s ∧ H.Writes v doc) ∧
    (∀ (H' : Heap) (w : Value), H'.Acyclic w → H.SameTree H' v w → ∀ s, H.json G v = .ok s ↔ H'.json G w = .ok s) ∧
    ∀ (m : Handle .map) (es es' : List (String × Value)), es.Perm es' → (es.map Prod.fst).Nodup →
      (H.set m (.ofList es)).json G v = (H.set m (.ofList es')).json G v :=
  ⟨hv.json_error_iff, fun _ => hv.writes_of_json,
    fun _ _ hw hsame _ => ⟨hsame.json hv hw, hsame.symm.json hw hv⟩,
    fun m es es' hperm hnodup => by rw [Dict.ofList_perm hperm hnodup]⟩

/-- A map of a list and a number. -/
def nested : Heap :=
  { Heap.empty with
    lists := ⟨#[[.text "x"]]⟩
    maps := ⟨#[.ofList [("b", .list ⟨0⟩), ("a", .bool true)]]⟩ }

theorem acyclic_nested : nested.Acyclic (.map ⟨0⟩) := by
  have hleaf {w : Value} (h : w.isScalar = true) : nested.Settles 1 w := fun u hu => absurd hu (not_part_of_isScalar h)
  refine Settles.acyclic (n := 2) fun u hu => ?_
  cases hu with
  | element hitems _ => cases hitems
  | entry hbindings hget =>
    cases hbindings
    have hmem : _ ∈ [("a", Value.bool true), ("b", .list ⟨0⟩)] := Dict.mem_of_get? hget
    simp only [List.mem_cons, Prod.mk.injEq, List.not_mem_nil, or_false] at hmem
    rcases hmem with ⟨-, rfl⟩ | ⟨-, rfl⟩
    · exact hleaf rfl
    · intro w hw
      cases hw with
      | element hitems hx =>
        cases hitems
        obtain rfl := List.mem_singleton.mp hx
        exact fun y => not_part_of_isScalar rfl
      | entry hbindings _ => cases hbindings

/-- The map can be written, and its keys are in order. -/
theorem json_of_acyclic_nested : nested.Acyclic (.map ⟨0⟩) ∧
    (∃ doc, doc.text = "\x7b\x22a\x22:true,\x22b\x22:[\x22x\x22]\x7d" ∧ nested.Writes (.map ⟨0⟩) doc) ∧
    ¬ ∃ u, nested.Contains (.map ⟨0⟩) u ∧ nested.Unwritable u := by
  have hspec := json_of_acyclic .empty acyclic_nested
  have hjson : nested.json .empty (.map ⟨0⟩) = .ok "\x7b\x22a\x22:true,\x22b\x22:[\x22x\x22]\x7d" := by rfl
  refine ⟨acyclic_nested, hspec.2.1 _ hjson, fun hunwritable => ?_⟩
  obtain ⟨e, he⟩ := hspec.1.mpr hunwritable
  cases hjson.symm.trans he

end Heap

end ObjectGraph
