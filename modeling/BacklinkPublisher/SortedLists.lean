import Mathlib.Data.List.Sort
import Mathlib.Data.List.TakeDrop

set_option autoImplicit false

/-!
# Lists sorted by a key

`sorted(xs, key=...)`, which is stable, its head, and its first `k` entries where no two entries
share a key.
-/
namespace BacklinkPublisher.SortedLists

universe u v
variable {α : Type u} {κ : Type v} {key : α → κ}

/-- No two entries share a key. -/
def DistinctKeys (key : α → κ) (xs : List α) : Prop := (xs.map key).Nodup

theorem DistinctKeys.perm {xs ys : List α} (distinct : DistinctKeys key ys) (perm : xs.Perm ys) :
    DistinctKeys key xs :=
  (perm.map key).nodup_iff.2 distinct

theorem DistinctKeys.sublist {xs ys : List α} (distinct : DistinctKeys key ys)
    (sub : xs.Sublist ys) : DistinctKeys key xs :=
  List.Nodup.sublist (sub.map key) distinct

/-- Entries made of entries, under the same keys. -/
theorem DistinctKeys.filterMap {β : Type u} {key' : β → κ} {f : β → Option α} {xs : List β}
    (distinct : DistinctKeys key' xs) (same : ∀ x y, f x = some y → key y = key' x) :
    DistinctKeys key (xs.filterMap f) := by
  have sub : ((xs.filterMap f).map key).Sublist (xs.map key') := by
    clear distinct
    induction xs with
    | nil => exact List.Sublist.refl _
    | cons x xs ih =>
      rw [List.filterMap_cons, List.map_cons]
      cases made : f x with
      | none => exact ih.cons _
      | some y =>
        rw [List.map_cons, same x y made]
        exact ih.cons_cons _
  exact List.Nodup.sublist sub distinct

/-- Lists of entries that `key` tells apart are told apart by their keys. -/
theorem DistinctKeys.eq_of_map_eq {xs ys zs : List α} (distinct : DistinctKeys key zs)
    (within : xs ⊆ zs) (within' : ys ⊆ zs) (same : xs.map key = ys.map key) : xs = ys := by
  induction xs generalizing ys with
  | nil => exact (List.map_eq_nil_iff.1 same.symm).symm
  | cons x xs ih =>
    cases ys with
    | nil => cases same
    | cons y ys =>
      rw [List.map_cons, List.map_cons, List.cons.injEq] at same
      rw [List.cons_subset] at within within'
      rw [List.inj_on_of_nodup_map distinct within.1 within'.1 same.1,
        ih within.2 within'.2 same.2]

variable [LinearOrder κ]

def sortedBy (key : α → κ) (xs : List α) : List α := xs.insertionSort fun a b => key a ≤ key b

theorem sortedBy_perm (key : α → κ) (xs : List α) : (sortedBy key xs).Perm xs := List.perm_insertionSort _ xs

theorem mem_sortedBy (key : α → κ) {xs : List α} {x : α} : x ∈ sortedBy key xs ↔ x ∈ xs :=
  (sortedBy_perm key xs).mem_iff

theorem sortedBy_pairwise (xs : List α) : (sortedBy key xs).Pairwise fun a b => key a ≤ key b :=
  List.pairwise_insertionSort _ xs

/-- The head is the first entry of least key. -/
theorem head_sortedBy {xs : List α} {x : α} (head : (sortedBy key xs).head? = some x) :
    x ∈ xs ∧ ∀ y ∈ xs, key x ≤ key y := by
  have member : x ∈ sortedBy key xs := List.mem_of_mem_head? head
  refine ⟨(mem_sortedBy key).1 member, fun y hy => ?_⟩
  have ⟨rest, split_⟩ := List.head?_eq_some_iff.1 head
  have sorted : (sortedBy key xs).Pairwise fun a b => key a ≤ key b := sortedBy_pairwise xs
  rw [← mem_sortedBy key, split_] at hy
  rw [split_] at sorted
  rcases List.mem_cons.1 hy with rfl | later
  · exact le_rfl
  · exact List.rel_of_pairwise_cons sorted later

theorem head_sortedBy_isSome {xs : List α} : (sortedBy key xs).head?.isSome ↔ xs ≠ [] := by
  rw [List.isSome_head?, ne_eq, ne_eq, ← List.length_eq_zero_iff, ← List.length_eq_zero_iff,
    (sortedBy_perm key xs).length_eq]

theorem map_sortedBy {β : Type u} (f : β → α) (xs : List β) :
    (sortedBy (fun x => key (f x)) xs).map f = sortedBy key (xs.map f) :=
  List.map_insertionSort _ _ f xs fun _ _ _ _ => Iff.rfl

/-! ## Entries of distinct keys -/

theorem sorted_strict {xs : List α} (distinct : DistinctKeys key xs) :
    (sortedBy key xs).Pairwise fun a b => key a < key b := by
  have nodup : ((sortedBy key xs).map key).Nodup := distinct.perm (sortedBy_perm key xs)
  rw [List.Nodup, List.pairwise_map] at nodup
  exact (sortedBy_pairwise xs).imp₂ (fun a b le ne => lt_of_le_of_ne le ne) nodup

/-- There is one way to sort entries of distinct keys. -/
theorem eq_sortedBy {xs ys : List α} (distinct : DistinctKeys key xs) (perm : ys.Perm xs)
    (sorted : ys.Pairwise fun a b => key a ≤ key b) : ys = sortedBy key xs := by
  apply List.Perm.eq_of_pairwise _ sorted (sortedBy_pairwise xs) (perm.trans (sortedBy_perm key xs).symm)
  intro a b ha hb le le'
  exact List.inj_on_of_nodup_map distinct (perm.subset ha) ((mem_sortedBy key).1 hb) (le_antisymm le le')

theorem sortedBy_of_perm {xs ys : List α} (distinct : DistinctKeys key xs) (perm : ys.Perm xs) :
    sortedBy key ys = sortedBy key xs :=
  eq_sortedBy distinct ((sortedBy_perm key ys).trans perm) (sortedBy_pairwise ys)

theorem sortedBy_filter {xs : List α} (distinct : DistinctKeys key xs) (p : α → Bool) :
    sortedBy key (xs.filter p) = (sortedBy key xs).filter p := by
  symm
  apply eq_sortedBy (distinct.sublist List.filter_sublist) ((sortedBy_perm key xs).filter p)
  exact (sortedBy_pairwise xs).filter p

/-- Two selections that are sorted to the same list select the same entries. -/
theorem sorted_selections_iff {β : Type u} {f : β → α} {xs : List β}
    (distinct : DistinctKeys (fun x => key (f x)) xs) (p q : β → Bool) :
    sortedBy key ((xs.filter p).map f) = sortedBy key ((xs.filter q).map f) ↔
      ∀ x ∈ xs, p x = q x := by
  have selected : ∀ r : β → Bool, ∀ x ∈ xs,
      f x ∈ sortedBy key ((xs.filter r).map f) ↔ r x = true := by
    intro r x hx
    rw [mem_sortedBy key, List.mem_map]
    constructor
    · rintro ⟨y, hy, same⟩
      have ⟨member, chosen⟩ := List.mem_filter.1 hy
      rw [← List.inj_on_of_nodup_map distinct member hx (congrArg key same)]
      exact chosen
    · intro chosen
      exact ⟨x, List.mem_filter.2 ⟨hx, chosen⟩, rfl⟩
  constructor
  · intro same x hx
    rw [Bool.eq_iff_iff, ← selected p x hx, ← selected q x hx, same]
  · intro agree
    rw [List.filter_congr agree]

end BacklinkPublisher.SortedLists
