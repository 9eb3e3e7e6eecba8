import BacklinkPublisher.OrderedDicts

set_option autoImplicit false

/-!
# Groups

The values of a list under their keys, every key where it first came, and a dict that is filled with
one value for every group.
-/
namespace BacklinkPublisher.Groups
open OrderedDicts

universe u v w
variable {α : Type u} {κ : Type v} {β : Type w} [DecidableEq κ]

section Groups
variable (key : α → κ)

/-- `d.setdefault(key(value), []).append(value)`. -/
def addTo (groups : List (κ × List α)) (value : α) : List (κ × List α) :=
  adjust Prod.fst (key value) (fun group => (group.1, group.2 ++ [value]))
    (ensure Prod.fst (key value, []) groups)

def groups (values : List α) : List (κ × List α) := values.foldl (addTo key) []

/-- One group for every key, with the values of that key. -/
structure Grouped (values : List α) (groups : List (κ × List α)) : Prop where
  nodup : (groups.map Prod.fst).Nodup
  members : ∀ group ∈ groups, group.2 = values.filter fun value => key value = group.1
  inhabited : ∀ group ∈ groups, group.1 ∈ values.map key
  reached : ∀ value ∈ values, key value ∈ groups.map Prod.fst

variable {key} {values : List α}

theorem grouped_nil : Grouped key [] [] where
  nodup := List.nodup_nil
  members _ h := absurd h List.not_mem_nil
  inhabited _ h := absurd h List.not_mem_nil
  reached _ h := absurd h List.not_mem_nil

theorem keys_addTo (groups : List (κ × List α)) (value : α) :
    (addTo key groups value).map Prod.fst = (ensure Prod.fst (key value, []) groups).map Prod.fst :=
  keys_adjust fun _ => rfl

theorem Grouped.addTo {groups : List (κ × List α)} (grouped : Grouped key values groups)
    (value : α) : Grouped key (values ++ [value]) (Groups.addTo key groups value) := by
  have origin : ∀ group ∈ Groups.addTo key groups value,
      group.2 = (values ++ [value]).filter (fun value => key value = group.1) ∧
        group.1 ∈ (values ++ [value]).map key := by
    intro group member
    rw [List.filter_append, List.map_append, List.mem_append]
    have ⟨old, held, change⟩ := mem_adjust.1 member
    obtain held | ⟨fresh, absent⟩ := mem_ensure.1 held
    · obtain ⟨same, rfl⟩ | ⟨other, rfl⟩ := change
      · refine ⟨?_, .inl (grouped.inhabited old held)⟩
        dsimp only
        rw [grouped.members old held, List.filter_singleton, decide_eq_true same.symm]
        rfl
      · refine ⟨?_, .inl (grouped.inhabited group held)⟩
        rw [List.filter_singleton, decide_eq_false (Ne.symm other), cond_false, List.append_nil]
        exact grouped.members group held
    · rw [fresh] at change
      obtain ⟨_, rfl⟩ | ⟨other, _⟩ := change
      · have none_ : values.filter (fun v => key v = key value) = [] := by
          refine List.filter_eq_nil_iff.2 fun v among same => ?_
          exact absent (of_decide_eq_true same ▸ grouped.reached v among)
        refine ⟨?_, .inr List.mem_cons_self⟩
        dsimp only
        rw [none_, List.filter_singleton, decide_eq_true rfl]
        rfl
      · exact absurd rfl other
  refine ⟨?_, fun group member => (origin group member).1,
    fun group member => (origin group member).2, fun other member => ?_⟩
  · rw [keys_addTo]
    exact nodup_keys_ensure grouped.nodup
  · rw [keys_addTo, mem_keys_ensure]
    obtain before | new := List.mem_append.1 member
    · exact .inl (grouped.reached other before)
    · exact .inr (congrArg key (List.mem_singleton.1 new))

theorem grouped_foldl {before : List α} {start : List (κ × List α)}
    (grouped : Grouped key before start) :
    Grouped key (before ++ values) (values.foldl (addTo key) start) := by
  induction values generalizing before start with
  | nil =>
    rw [List.append_nil]
    exact grouped
  | cons value values ih =>
    have all := ih (grouped.addTo value)
    rw [List.append_assoc] at all
    exact all

theorem grouped_groups (values : List α) : Grouped key values (groups key values) :=
  grouped_foldl grouped_nil

end Groups

/-! ## A dict that is filled -/

section Fill
variable {entries : List (κ × β)} {k : κ}

theorem mem_keys_foldl_put {start : List (κ × β)} :
    k ∈ (entries.foldl (fun held entry => put Prod.fst entry held) start).map Prod.fst ↔
      k ∈ entries.map Prod.fst ∨ k ∈ start.map Prod.fst := by
  induction entries generalizing start with
  | nil => exact (or_iff_right List.not_mem_nil).symm
  | cons entry entries ih =>
    have one : k ∈ (put Prod.fst entry start).map Prod.fst ↔
        k = entry.1 ∨ k ∈ start.map Prod.fst := by
      constructor
      · intro member
        have ⟨value, held, same⟩ := List.mem_map.1 member
        obtain here | ⟨before, _⟩ := mem_put.1 held
        · exact .inl (same ▸ here ▸ rfl)
        · exact .inr (same ▸ List.mem_map_of_mem before)
      · rintro (rfl | held)
        · exact List.mem_map_of_mem (mem_put.2 (.inl rfl))
        · exact mem_keys_put held
    rw [List.foldl_cons, ih, one, List.map_cons, List.mem_cons, or_left_comm, or_assoc]

/-- A key that comes with one value only has this value. -/
theorem lookup_foldl_put_of_unique {value : β} (held : k ∈ entries.map Prod.fst)
    (unique : ∀ entry ∈ entries, entry.1 = k → entry.2 = value) :
    lookup Prod.fst k (entries.foldl (fun held entry => put Prod.fst entry held) []) =
      some (k, value) := by
  rw [lookup_foldl_put]
  have there : k ∈ entries.reverse.map Prod.fst := by
    rw [List.map_reverse]
    exact List.mem_reverse.2 held
  have ⟨entry, found⟩ := exists_lookup there
  have key := List.find?_some found
  rw [decide_eq_true_eq] at key
  have among := List.mem_reverse.1 (List.mem_of_find?_eq_some found)
  rw [found, Option.some_or, ← key, ← unique entry among key]

end Fill

end BacklinkPublisher.Groups
