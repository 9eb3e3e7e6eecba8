import Mathlib.Algebra.BigOperators.Group.Finset.Basic
import Mathlib.Algebra.GroupWithZero.Nat
import Mathlib.Data.List.Nodup
import Mathlib.Tactic.Common

set_option autoImplicit false

/-!
# Dictionaries in order of insertion

A dictionary whose values carry their own key is the list of its values. `ensure` is
`setdefault`, `adjust` changes the value of a key in place, `remove` is `pop`.
-/
namespace BacklinkPublisher.OrderedDicts

universe u v
variable {α : Type u} {κ : Type v} [DecidableEq κ]

def ensure (key : α → κ) (fresh : α) (values : List α) : List α :=
  if key fresh ∈ values.map key then values else values ++ [fresh]

def adjust (key : α → κ) (k : κ) (f : α → α) (values : List α) : List α :=
  values.map fun value => if key value = k then f value else value

def lookup (key : α → κ) (k : κ) (values : List α) : Option α :=
  values.find? fun value => key value = k

/-- `d[k] = fresh`. -/
def put (key : α → κ) (fresh : α) (values : List α) : List α :=
  if key fresh ∈ values.map key then adjust key (key fresh) (fun _ => fresh) values
  else values ++ [fresh]

def remove (key : α → κ) (k : κ) (values : List α) : List α :=
  values.filter fun value => key value ≠ k

variable {key : α → κ}

theorem mem_keys_ensure {fresh : α} {values : List α} {k : κ} :
    k ∈ (ensure key fresh values).map key ↔ k ∈ values.map key ∨ k = key fresh := by
  unfold ensure
  split_ifs with present
  · constructor
    · exact .inl
    · intro h
      rcases h with h | h
      · exact h
      · rw [h]
        exact present
  · simp

theorem nodup_keys_ensure {fresh : α} {values : List α} (nodup : (values.map key).Nodup) :
    ((ensure key fresh values).map key).Nodup := by
  unfold ensure
  split_ifs with present
  · exact nodup
  · rw [List.map_append, List.map_singleton, ← List.concat_eq_append]
    exact nodup.concat present

theorem mem_ensure {fresh value : α} {values : List α} :
    value ∈ ensure key fresh values ↔
      value ∈ values ∨ value = fresh ∧ key fresh ∉ values.map key := by
  unfold ensure
  split_ifs with present
  · simp [present]
  · simp [present]

/-- A key that is there after `ensure` for it has a value, which is fresh or was there. -/
theorem exists_ensure (key : α → κ) (fresh : α) (values : List α) :
    ∃ value ∈ ensure key fresh values, key value = key fresh := by
  have h : key fresh ∈ (ensure key fresh values).map key := mem_keys_ensure.2 (.inr rfl)
  exact List.mem_map.1 h

section Adjust
variable {f : α → α} {k : κ} {values : List α}

theorem keys_adjust_of (kept : ∀ value, key value = k → key (f value) = k) :
    (adjust key k f values).map key = values.map key := by
  unfold adjust
  rw [List.map_map]
  apply List.map_congr_left
  intro value _
  change key (if key value = k then f value else value) = key value
  split_ifs with same
  · exact (kept value same).trans same.symm
  · rfl

theorem keys_adjust (kept : ∀ value, key (f value) = key value) :
    (adjust key k f values).map key = values.map key :=
  keys_adjust_of fun value same => (kept value).trans same

theorem mem_adjust {value : α} :
    value ∈ adjust key k f values ↔
      ∃ old ∈ values, (key old = k ∧ value = f old) ∨ (key old ≠ k ∧ value = old) := by
  unfold adjust
  rw [List.mem_map]
  apply exists_congr
  intro old
  apply and_congr_right
  intro _
  by_cases same : key old = k <;> simp [same, eq_comm]

end Adjust

/-! ## Lookups and sums -/

theorem lookup_of_mem {values : List α} (nodup : (values.map key).Nodup) {value : α}
    (hmem : value ∈ values) : lookup key (key value) values = some value := by
  induction values with
  | nil => cases hmem
  | cons first values ih =>
    rw [List.map_cons, List.nodup_cons] at nodup
    unfold lookup
    rcases List.mem_cons.1 hmem with rfl | hmem
    · simp
    · have other : key first ≠ key value := by
        intro same
        exact nodup.1 (same ▸ List.mem_map_of_mem hmem)
      rw [List.find?_cons_of_neg (by simpa using other)]
      exact ih nodup.2 hmem

theorem lookup_adjust_of {f : α → α} {k : κ} (kept : ∀ value, key value = k → key (f value) = k)
    (k' : κ) (values : List α) :
    lookup key k' (adjust key k f values) =
      (lookup key k' values).map fun value => if k' = k then f value else value := by
  induction values with
  | nil => rfl
  | cons value values ih =>
    have head : key (if key value = k then f value else value) = key value := by
      split_ifs with same
      · exact (kept value same).trans same.symm
      · rfl
    unfold lookup adjust at ih ⊢
    rw [List.map_cons, List.find?_cons, List.find?_cons, head]
    by_cases here : key value = k'
    · simp [here]
    · simpa [here] using ih

theorem lookup_adjust {f : α → α} (kept : ∀ value, key (f value) = key value) (k k' : κ)
    (values : List α) :
    lookup key k' (adjust key k f values) =
      (lookup key k' values).map fun value => if k' = k then f value else value :=
  lookup_adjust_of (fun value same => (kept value).trans same) k' values

theorem exists_lookup {values : List α} {k : κ} (present : k ∈ values.map key) :
    ∃ value, lookup key k values = some value := by
  have ⟨value, hmem, same⟩ := List.mem_map.1 present
  have found : (values.find? fun value => key value = k).isSome = true := by
    rw [List.find?_isSome]
    exact ⟨value, hmem, decide_eq_true same⟩
  exact Option.isSome_iff_exists.1 found

theorem lookup_ensure (key : α → κ) (k : κ) (fresh : α) (values : List α) :
    lookup key k (ensure key fresh values) =
      (lookup key k values).or (if k = key fresh then some fresh else none) := by
  unfold ensure
  split_ifs with present same same
  · rw [← same] at present
    have ⟨known, hknown⟩ := exists_lookup present
    rw [hknown]
    rfl
  · rw [Option.or_none]
  · unfold lookup
    rw [List.find?_append]
    simp [same]
  · unfold lookup
    rw [List.find?_append]
    simp [Ne.symm same]

theorem lookup_remove (key : α → κ) (k k' : κ) (values : List α) :
    lookup key k' (remove key k values) = if k' = k then none else lookup key k' values := by
  induction values with
  | nil => simp [lookup, remove]
  | cons value values ih =>
    unfold lookup remove at ih ⊢
    by_cases here : key value = k
    · rw [List.filter_cons_of_neg (by simp [here]), ih]
      split_ifs with same
      · rfl
      · rw [List.find?_cons_of_neg (by simp [here, Ne.symm same])]
    · rw [List.filter_cons_of_pos (by simp [here])]
      by_cases found : key value = k'
      · have other : ¬ k' = k := found ▸ here
        simp [found, other]
      · rw [List.find?_cons_of_neg (by simp [found]), List.find?_cons_of_neg (by simp [found]), ih]

theorem lookup_eq_none {values : List α} {k : κ} (absent : k ∉ values.map key) :
    lookup key k values = none := by
  unfold lookup
  rw [List.find?_eq_none]
  intro value hmem same
  have here : key value = k := of_decide_eq_true same
  exact absent (here ▸ List.mem_map_of_mem hmem)

theorem lookup_eq_some {values : List α} (nodup : (values.map key).Nodup) {k : κ} {value : α} :
    lookup key k values = some value ↔ value ∈ values ∧ key value = k := by
  constructor
  · intro found
    exact ⟨List.mem_of_find?_eq_some found, by simpa using List.find?_some found⟩
  · rintro ⟨held, same⟩
    rw [← same]
    exact lookup_of_mem nodup held

theorem not_mem_keys_of_lookup {values : List α} {k : κ} (missing : lookup key k values = none) :
    k ∉ values.map key := by
  intro held
  have ⟨value, hvalue, same⟩ := List.mem_map.1 held
  unfold lookup at missing
  rw [List.find?_eq_none] at missing
  exact missing value hvalue (decide_eq_true same)

/-! ## Assignment -/

theorem nodup_keys_put {fresh : α} {values : List α} (nodup : (values.map key).Nodup) :
    ((put key fresh values).map key).Nodup := by
  unfold put
  split_ifs with present
  · rw [keys_adjust_of fun _ _ => rfl]
    exact nodup
  · rw [List.map_append, List.map_singleton, ← List.concat_eq_append]
    exact nodup.concat present

theorem mem_put {fresh value : α} {values : List α} :
    value ∈ put key fresh values ↔ value = fresh ∨ value ∈ values ∧ key value ≠ key fresh := by
  unfold put
  split_ifs with present
  · rw [mem_adjust]
    constructor
    · intro ⟨old, member, h⟩
      rcases h with ⟨_, same⟩ | ⟨other, same⟩
      · exact .inl same
      · rw [same]
        exact .inr ⟨member, other⟩
    · intro h
      rcases h with same | ⟨member, other⟩
      · have ⟨old, member, held⟩ := List.mem_map.1 present
        exact ⟨old, member, .inl ⟨held, same⟩⟩
      · exact ⟨value, member, .inr ⟨other, rfl⟩⟩
  · rw [List.mem_append, List.mem_singleton, or_comm]
    apply or_congr_right
    constructor
    · intro member
      exact ⟨member, fun same => present (same ▸ List.mem_map_of_mem member)⟩
    · exact And.left

/-- No key is lost. -/
theorem mem_keys_put {fresh : α} {values : List α} {k : κ} (held : k ∈ values.map key) :
    k ∈ (put key fresh values).map key := by
  have ⟨value, member, same⟩ := List.mem_map.1 held
  by_cases replaced : key value = key fresh
  · rw [← same, replaced]
    exact List.mem_map_of_mem (mem_put.2 (.inl rfl))
  · rw [← same]
    exact List.mem_map_of_mem (mem_put.2 (.inr ⟨member, replaced⟩))

theorem lookup_put (k : κ) (fresh : α) (values : List α) :
    lookup key k (put key fresh values) =
      if key fresh = k then some fresh else lookup key k values := by
  unfold put
  by_cases same : key fresh = k
  · rw [if_pos same]
    split_ifs with present
    · have ⟨value, found⟩ := exists_lookup (same ▸ present)
      rw [lookup_adjust_of fun _ _ => rfl, found, Option.map_some, if_pos same.symm]
    · have missing := lookup_eq_none present
      rw [same] at missing
      unfold lookup at missing ⊢
      rw [List.find?_append, missing]
      simp [same]
  · rw [if_neg same]
    split_ifs with present
    · rw [lookup_adjust_of fun _ _ => rfl]
      simp only [if_neg (Ne.symm same)]
      exact Option.map_id'
    · unfold lookup
      rw [List.find?_append]
      simp [same]

/-- Of the values assigned to a key the last one is there. -/
theorem lookup_foldl_put (k : κ) (entries values : List α) :
    lookup key k (entries.foldl (fun held entry => put key entry held) values) =
      (lookup key k entries.reverse).or (lookup key k values) := by
  induction entries generalizing values with
  | nil => rfl
  | cons entry entries ih =>
    rw [List.foldl_cons, ih, lookup_put, List.reverse_cons]
    unfold lookup
    rw [List.find?_append, Option.or_assoc]
    by_cases same : key entry = k
    · simp [same]
    · simp [same]

theorem nodup_keys_foldl_put {entries values : List α} (nodup : (values.map key).Nodup) :
    ((entries.foldl (fun held entry => put key entry held) values).map key).Nodup := by
  induction entries generalizing values with
  | nil => exact nodup
  | cons entry entries ih => exact ih (nodup_keys_put nodup)

theorem sum_ensure {fresh : α} {values : List α} (measure : α → ℕ) (empty : measure fresh = 0) :
    ((ensure key fresh values).map measure).sum = (values.map measure).sum := by
  unfold ensure
  split_ifs
  · rfl
  · simp [empty]

theorem adjust_of_absent {values : List α} {k : κ} (absent : k ∉ values.map key) (f : α → α) :
    adjust key k f values = values := by
  unfold adjust
  conv_rhs => rw [← List.map_id values]
  apply List.map_congr_left
  intro value hmem
  have other : key value ≠ k := fun same => absent (same ▸ List.mem_map_of_mem hmem)
  exact if_neg other

/-- Of the values with unique keys, `adjust` adds to one. -/
theorem sum_adjust_of {values : List α} (nodup : (values.map key).Nodup) {k : κ}
    (present : k ∈ values.map key) {f : α → α} (measure : α → ℕ) (added : ℕ)
    (adds : ∀ value ∈ values, key value = k → measure (f value) = measure value + added) :
    ((adjust key k f values).map measure).sum = (values.map measure).sum + added := by
  induction values with
  | nil => cases present
  | cons value values ih =>
    rw [List.map_cons, List.nodup_cons] at nodup
    have head : adjust key k f (value :: values) =
        (if key value = k then f value else value) :: adjust key k f values := rfl
    rw [head, List.map_cons, List.sum_cons, List.map_cons, List.sum_cons]
    by_cases same : key value = k
    · have absent : k ∉ values.map key := same ▸ nodup.1
      rw [if_pos same, adjust_of_absent absent, adds value List.mem_cons_self same]
      omega
    · have later : k ∈ values.map key := by
        rcases List.mem_cons.1 present with here | later
        · exact absurd here.symm same
        · exact later
      rw [if_neg same, ih nodup.2 later fun value member => adds value (List.mem_cons_of_mem _ member)]
      omega

theorem sum_adjust {values : List α} (nodup : (values.map key).Nodup) {k : κ}
    (present : k ∈ values.map key) {f : α → α} (measure : α → ℕ) (added : ℕ)
    (adds : ∀ value, measure (f value) = measure value + added) :
    ((adjust key k f values).map measure).sum = (values.map measure).sum + added :=
  sum_adjust_of nodup present measure added fun value _ _ => adds value

end BacklinkPublisher.OrderedDicts
