import Mathlib.Data.List.Infix
import Mathlib.Tactic.Common

set_option autoImplicit false

/-!
# The most recent values of every key

A value of a list has several keys, and the list is in the order of time. `retain k` keeps a value
where fewer than `k` later values share one of its keys: the union, key by key, of the last `k`
values that have the key.
-/
namespace BacklinkPublisher.RecentPerKey

universe u v
variable {α : Type u} {κ : Type v} [DecidableEq κ] (keys : α → List κ)

/-- How many values have the key. -/
def sharing (key : κ) (values : List α) : ℕ :=
  values.countP fun value => decide (key ∈ keys value)

def Recent (k : ℕ) (value : α) (later : List α) : Prop :=
  ∃ key ∈ keys value, sharing keys key later < k

instance (k : ℕ) (value : α) (later : List α) : Decidable (Recent keys k value later) :=
  inferInstanceAs (Decidable (∃ key ∈ keys value, sharing keys key later < k))

/-- Of `values`, those kept when `later` comes after them. -/
def retainBefore (k : ℕ) : List α → List α → List α
  | [], _ => []
  | value :: values, later =>
    if Recent keys k value (values ++ later) then value :: retainBefore k values later
    else retainBefore k values later

def retain (k : ℕ) (values : List α) : List α := retainBefore keys k values []

variable {keys} {k : ℕ}

theorem sharing_append (key : κ) (values later : List α) :
    sharing keys key (values ++ later) = sharing keys key values + sharing keys key later :=
  List.countP_append

theorem sharing_cons (key : κ) (value : α) (values : List α) :
    sharing keys key (value :: values) =
      sharing keys key values + if key ∈ keys value then 1 else 0 := by
  unfold sharing
  rw [List.countP_cons]
  simp only [decide_eq_true_iff]

theorem retainBefore_cons_of_recent {value : α} {values later : List α}
    (recent : Recent keys k value (values ++ later)) :
    retainBefore keys k (value :: values) later = value :: retainBefore keys k values later :=
  if_pos recent

theorem retainBefore_cons_of_not_recent {value : α} {values later : List α}
    (old : ¬ Recent keys k value (values ++ later)) :
    retainBefore keys k (value :: values) later = retainBefore keys k values later :=
  if_neg old

theorem retainBefore_sublist (values later : List α) :
    (retainBefore keys k values later).Sublist values := by
  induction values with
  | nil => exact List.Sublist.refl _
  | cons value values ih =>
    unfold retainBefore
    split_ifs
    · exact ih.cons_cons value
    · exact ih.cons value

theorem retain_sublist (values : List α) : (retain keys k values).Sublist values :=
  retainBefore_sublist values []

theorem retain_append (values later : List α) :
    retain keys k (values ++ later) = retainBefore keys k values later ++ retain keys k later := by
  unfold retain
  induction values with
  | nil => rfl
  | cons value values ih =>
    rw [List.cons_append]
    by_cases recent : Recent keys k value (values ++ later)
    · rw [retainBefore_cons_of_recent recent, retainBefore_cons_of_recent (by simpa using recent),
        ih, List.cons_append]
    · rw [retainBefore_cons_of_not_recent recent,
        retainBefore_cons_of_not_recent (by simpa using recent), ih]

/-- What was dropped for having `k` later values with each of its keys changes no count below
`k`. -/
theorem min_sharing_le {later later' : List α}
    (grows : ∀ key, sharing keys key later ≤ sharing keys key later') (values : List α) (key : κ) :
    min k (sharing keys key (values ++ later')) ≤
      sharing keys key (retainBefore keys k values later ++ later') := by
  induction values with
  | nil => exact min_le_right _ _
  | cons value values ih =>
    by_cases recent : Recent keys k value (values ++ later)
    · rw [retainBefore_cons_of_recent recent, List.cons_append, List.cons_append, sharing_cons,
        sharing_cons]
      omega
    · rw [retainBefore_cons_of_not_recent recent, List.cons_append, sharing_cons]
      split_ifs with has
      · have enough : k ≤ sharing keys key (values ++ later) := by
          by_contra few
          exact recent ⟨key, has, by omega⟩
        have more := grows key
        rw [sharing_append] at enough ih ⊢
        omega
      · exact ih

theorem recent_retainBefore_iff {later later' : List α}
    (grows : ∀ key, sharing keys key later ≤ sharing keys key later') (value : α)
    (values : List α) :
    Recent keys k value (retainBefore keys k values later ++ later') ↔
      Recent keys k value (values ++ later') := by
  constructor
  · rintro ⟨key, has, few⟩
    have := min_sharing_le (k := k) grows values key
    exact ⟨key, has, by omega⟩
  · rintro ⟨key, has, few⟩
    have fewer : sharing keys key (retainBefore keys k values later) ≤ sharing keys key values :=
      (retainBefore_sublist values later).countP_le
    rw [sharing_append] at few
    refine ⟨key, has, ?_⟩
    rw [sharing_append]
    omega

/-- Values dropped before more came would be dropped after. -/
theorem retainBefore_retainBefore {later later' : List α}
    (grows : ∀ key, sharing keys key later ≤ sharing keys key later') (values : List α) :
    retainBefore keys k (retainBefore keys k values later) later' =
      retainBefore keys k values later' := by
  induction values with
  | nil => rfl
  | cons value values ih =>
    by_cases recent : Recent keys k value (values ++ later)
    · rw [retainBefore_cons_of_recent recent]
      unfold retainBefore
      rw [ih]
      simp only [recent_retainBefore_iff grows]
    · have old : ¬ Recent keys k value (values ++ later') := by
        rintro ⟨key, has, few⟩
        have more := grows key
        rw [sharing_append] at few
        refine recent ⟨key, has, ?_⟩
        rw [sharing_append]
        omega
      rw [retainBefore_cons_of_not_recent recent, retainBefore_cons_of_not_recent old, ih]

/-- The last value is kept as soon as it has a key. -/
theorem retain_singleton (positive : 0 < k) {value : α} (keyed : keys value ≠ []) :
    retain keys k [value] = [value] := by
  have ⟨key, has⟩ := List.exists_mem_of_ne_nil _ keyed
  exact retainBefore_cons_of_recent ⟨key, has, positive⟩

/-! ## Key by key -/

variable (keys) in
def having (key : κ) (values : List α) : List α := values.filter fun value => decide (key ∈ keys value)

theorem having_cons_of_mem {key : κ} {value : α} (has : key ∈ keys value) (values : List α) :
    having keys key (value :: values) = value :: having keys key values :=
  List.filter_cons_of_pos (decide_eq_true has)

theorem having_cons_of_not_mem {key : κ} {value : α} (lacks : key ∉ keys value)
    (values : List α) : having keys key (value :: values) = having keys key values :=
  List.filter_cons_of_neg (by simpa using lacks)

/-- Of the values that have a key, the last `k` are kept. -/
theorem recent_suffix_retain (key : κ) (values : List α) :
    (having keys key values).drop (sharing keys key values - k) <:+
      having keys key (retain keys k values) := by
  unfold retain
  induction values with
  | nil => exact List.drop_suffix _ _
  | cons value values ih =>
    by_cases has : key ∈ keys value
    · rw [having_cons_of_mem has, sharing_cons, if_pos has]
      by_cases few : sharing keys key values < k
      · have none_old : sharing keys key values + 1 - k = 0 := by omega
        have all : sharing keys key values - k = 0 := by omega
        have recent : Recent keys k value (values ++ []) := by
          refine ⟨key, has, ?_⟩
          rw [List.append_nil]
          exact few
        rw [all, List.drop_zero] at ih
        have fewer : (having keys key (retainBefore keys k values [])).length ≤
            (having keys key values).length :=
          ((retainBefore_sublist values []).filter _).length_le
        rw [none_old, List.drop_zero, retainBefore_cons_of_recent recent, having_cons_of_mem has]
        rw [ih.eq_of_length_le fewer]
      · have one_more : sharing keys key values + 1 - k = sharing keys key values - k + 1 := by
          omega
        rw [one_more, List.drop_succ_cons]
        apply ih.trans
        by_cases recent : Recent keys k value (values ++ [])
        · rw [retainBefore_cons_of_recent recent, having_cons_of_mem has]
          exact List.suffix_cons _ _
        · rw [retainBefore_cons_of_not_recent recent]
    · rw [having_cons_of_not_mem has, sharing_cons, if_neg has, Nat.add_zero]
      unfold retainBefore
      split_ifs
      · rw [having_cons_of_not_mem has]
        exact ih
      · exact ih

end BacklinkPublisher.RecentPerKey
