import BacklinkPublisher.SortedLists

set_option autoImplicit false

/-!
# Pages merged from two sources

Of two lists, each in an order of its own, the first `k` entries are taken, sorted together by a
key, and cut at `k` again. The page of `k` is the beginning of a longer one just where no entry
that the first cut takes away belongs into it.
-/
namespace BacklinkPublisher.MergedPages
open SortedLists

universe u v
variable {α : Type u} {κ : Type v} [LinearOrder κ] {key : α → κ}

/-- How many entries come before a key. -/
def ahead (key : α → κ) (xs : List α) (k : κ) : ℕ := xs.countP fun y => key y < k

/-- The entry at a place of a sorted list has as many ahead of it as the place says. -/
theorem ahead_sorted {before after : List α} {x : α}
    (sorted : (before ++ x :: after).Pairwise fun a b => key a < key b) :
    ahead key (before ++ x :: after) (key x) = before.length := by
  have ⟨_, rest, first⟩ := List.pairwise_append.1 sorted
  unfold ahead
  rw [List.countP_append, List.countP_cons_of_neg (by simp)]
  have all : before.countP (fun y => decide (key y < key x)) = before.length := by
    rw [List.countP_eq_length]
    intro y hy
    exact decide_eq_true (first y hy x List.mem_cons_self)
  have none_ : after.countP (fun y => decide (key y < key x)) = 0 := by
    rw [List.countP_eq_zero]
    intro y hy
    have later : key x < key y := List.rel_of_pairwise_cons rest hy
    rw [decide_eq_true_eq]
    exact lt_asymm later
  rw [all, none_, Nat.add_zero]

theorem mem_take_sorted {xs : List α} (distinct : DistinctKeys key xs) {x : α} {k : ℕ} :
    x ∈ (sortedBy key xs).take k ↔ x ∈ xs ∧ ahead key xs (key x) < k := by
  have strict := sorted_strict distinct
  have counted : ahead key xs (key x) = ahead key (sortedBy key xs) (key x) :=
    (sortedBy_perm key xs).symm.countP_eq _
  rw [counted]
  constructor
  · intro taken
    have member : x ∈ sortedBy key xs := List.mem_of_mem_take taken
    have ⟨before, after, split_⟩ := List.append_of_mem member
    rw [split_] at strict taken
    refine ⟨(mem_sortedBy key).1 member, ?_⟩
    rw [split_, ahead_sorted strict]
    by_contra long
    rw [List.take_append_of_le_length (not_lt.1 long)] at taken
    have first := (List.pairwise_append.1 strict).2.2 x (List.mem_of_mem_take taken) x
      List.mem_cons_self
    exact lt_irrefl _ first
  · rintro ⟨member, few⟩
    have ⟨before, after, split_⟩ := List.append_of_mem ((mem_sortedBy key).2 member)
    rw [split_] at strict few ⊢
    rw [ahead_sorted strict] at few
    have ⟨j, here⟩ : ∃ j, k = before.length + (j + 1) := ⟨k - before.length - 1, by omega⟩
    rw [here, List.take_length_add_append, List.take_succ_cons]
    exact List.mem_append_right _ List.mem_cons_self

/-- Filtering by what the first `k` entries have leaves these the first ones. -/
theorem take_filter {xs : List α} {p : α → Bool} {k : ℕ} (kept : ∀ x ∈ xs.take k, p x = true) :
    (xs.filter p).take k = xs.take k := by
  have first : (xs.take k).filter p = xs.take k := List.filter_eq_self.2 kept
  have split_ : xs.filter p = xs.take k ++ (xs.drop k).filter p := by
    rw [← first, ← List.filter_append, List.take_append_drop]
  rw [split_]
  rcases le_total k xs.length with short | long
  · have full : (xs.take k).length = k := List.length_take_of_le short
    rw [List.take_append_of_le_length full.ge, List.take_of_length_le full.le]
  · rw [List.take_of_length_le long, List.drop_of_length_le long, List.filter_nil, List.append_nil,
      List.take_of_length_le long]

section Pages
variable (key) (xs ys : List α)

def cut (k : ℕ) : List α := xs.take k ++ ys.take k

def page (k : ℕ) : List α := (sortedBy key (cut xs ys k)).take k

end Pages

variable {xs ys : List α} {k n : ℕ}

theorem cut_sublist (le : k ≤ n) : (cut xs ys k).Sublist (cut xs ys n) :=
  List.Sublist.append (List.take_sublist_take_left le) (List.take_sublist_take_left le)

theorem cut_sublist_all (k : ℕ) : (cut xs ys k).Sublist (xs ++ ys) :=
  List.Sublist.append (List.take_sublist _ _) (List.take_sublist _ _)

variable [DecidableEq α]

/-- A shorter cut is what its membership leaves of a longer one. -/
theorem cut_perm (nodup : (xs ++ ys).Nodup) (le : k ≤ n) :
    ((cut xs ys n).filter fun x => x ∈ cut xs ys k).Perm (cut xs ys k) := by
  have sub : (cut xs ys k).Sublist (cut xs ys n) := cut_sublist le
  rw [List.perm_ext_iff_of_nodup]
  · intro x
    rw [List.mem_filter, decide_eq_true_eq]
    exact ⟨And.right, fun own => ⟨sub.subset own, own⟩⟩
  · exact (nodup.sublist (cut_sublist_all n)).filter _
  · exact nodup.sublist (cut_sublist_all k)

/-- The page of `k` begins the page of `n` if and only if each entry that is cut at `k` and not at
`n` has `k` entries ahead of it. -/
theorem page_begins_iff (distinct : DistinctKeys key (xs ++ ys)) (le : k ≤ n) :
    page key xs ys k = (page key xs ys n).take k ↔
      ∀ x ∈ cut xs ys n, x ∉ cut xs ys k → k ≤ ahead key (cut xs ys n) (key x) := by
  have whole : DistinctKeys key (cut xs ys n) := distinct.sublist (cut_sublist_all n)
  have nodup : (xs ++ ys).Nodup := List.Nodup.of_map key distinct
  have shorter : sortedBy key (cut xs ys k) =
      (sortedBy key (cut xs ys n)).filter fun x => x ∈ cut xs ys k := by
    rw [← sortedBy_filter whole]
    exact (sortedBy_of_perm (distinct.sublist (cut_sublist_all k)) (cut_perm nodup le)).symm
  unfold page
  rw [List.take_take, Nat.min_eq_left le]
  constructor
  · intro same x hx absent
    by_contra few
    have taken : x ∈ (sortedBy key (cut xs ys n)).take k :=
      (mem_take_sorted whole).2 ⟨hx, not_le.1 few⟩
    rw [← same] at taken
    exact absent ((mem_sortedBy key).1 (List.mem_of_mem_take taken))
  · intro behind
    rw [shorter]
    apply take_filter
    intro x taken
    have ⟨hx, few⟩ := (mem_take_sorted whole).1 taken
    rw [decide_eq_true_eq]
    by_contra absent
    exact absurd (behind x hx absent) (not_le.2 few)

end BacklinkPublisher.MergedPages
