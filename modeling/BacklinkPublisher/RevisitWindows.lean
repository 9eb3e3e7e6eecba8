import Mathlib.Algebra.BigOperators.Group.List.Basic
import Mathlib.Data.List.Nodup
import Mathlib.Data.List.Perm.Subperm
import Mathlib.Data.Nat.Init
import Mathlib.Order.Nat
import Mathlib.Tactic.Common

set_option autoImplicit false

/-!
# Visits that come back in time

Rounds that visit entries of a list, at most `cap` in a round, and no entry that one of the `rest`
rounds before has visited. Where a round has room for every entry that may be visited, and `rest`
rounds have room for the list, every entry is visited once in `rest + 1` rounds.
-/
namespace BacklinkPublisher.RevisitWindows

universe u
variable {α : Type u} {entries : List α} {cap rest : ℕ} {visited : ℕ → List α}

/-- None of the `rest` rounds before a round visits the entry. -/
def Rested (visited : ℕ → List α) (rest round : ℕ) (entry : α) : Prop :=
  ∀ before < round, round ≤ before + rest → entry ∉ visited before

/-- What the rounds are known to do; a round that does not visit all rested entries is full. -/
structure Rounds (entries : List α) (cap rest : ℕ) (visited : ℕ → List α) : Prop where
  nodup : ∀ round, (visited round).Nodup
  within : ∀ round, visited round ⊆ entries
  rested : ∀ round, ∀ entry ∈ visited round, Rested visited rest round entry
  bounded : ∀ round, (visited round).length ≤ cap
  full : ∀ round, ∀ entry ∈ entries, Rested visited rest round entry →
    entry ∈ visited round ∨ (visited round).length = cap

/-- Visits of one entry are more than `rest` rounds apart. -/
theorem Rounds.apart (rounds : Rounds entries cap rest visited) {i j : ℕ} {entry : α} (lt : i < j)
    (first : entry ∈ visited i) (second : entry ∈ visited j) : i + rest + 1 ≤ j := by
  by_contra close
  exact rounds.rested j entry second i lt (by omega) first

/-- The visits of the first rounds, as long as no entry is visited again. -/
theorem Rounds.nodup_first (rounds : Rounds entries cap rest visited) {count : ℕ}
    (le : count ≤ rest) : ((List.range count).flatMap visited).Nodup := by
  rw [List.nodup_flatMap]
  refine ⟨fun round _ => rounds.nodup round, ?_⟩
  rw [List.pairwise_iff_getElem]
  intro i j hi hj lt
  rw [List.length_range] at hi hj
  delta Function.onFun
  rw [List.getElem_range, List.getElem_range, List.disjoint_left]
  intro entry first second
  have far := rounds.apart lt first second
  omega

theorem length_lt_of_missing {part all : List α} (nodup : part.Nodup) (sub : part ⊆ all) {entry : α}
    (member : entry ∈ all) (missing : entry ∉ part) : part.length < all.length := by
  have nodup' : (entry :: part).Nodup := List.nodup_cons.2 ⟨missing, nodup⟩
  have sub' : entry :: part ⊆ all := List.cons_subset.2 ⟨member, sub⟩
  exact (nodup'.subperm sub').length_le

theorem length_flatMap_full {count : ℕ} (full : ∀ round < count, (visited round).length = cap) :
    ((List.range count).flatMap visited).length = cap * count := by
  rw [List.length_flatMap]
  have same : (List.range count).map (fun round => (visited round).length) =
      (List.range count).map fun _ => cap := by
    apply List.map_congr_left
    intro round member
    exact full round (List.mem_range.1 member)
  rw [same, List.map_const', List.sum_replicate, List.length_range, Nat.nsmul_eq_mul, mul_comm]

/-- The first `rest` rounds visit every entry. -/
theorem Rounds.first_window (rounds : Rounds entries cap rest visited)
    (room : entries.length ≤ cap * rest) {entry : α} (member : entry ∈ entries) :
    ∃ round < rest, entry ∈ visited round := by
  by_contra absent
  have missed : ∀ round < rest, entry ∉ visited round := fun round lt seen =>
    absent ⟨round, lt, seen⟩
  have full : ∀ round < rest, (visited round).length = cap := by
    intro round lt
    have rested : Rested visited rest round entry := fun before earlier _ =>
      missed before (by omega)
    exact (rounds.full round entry member rested).resolve_left (missed round lt)
  have sub : (List.range rest).flatMap visited ⊆ entries := by
    intro other seen
    have ⟨round, _, held⟩ := List.mem_flatMap.1 seen
    exact rounds.within round held
  have missing : entry ∉ (List.range rest).flatMap visited := by
    intro seen
    have ⟨round, lt, held⟩ := List.mem_flatMap.1 seen
    exact missed round (List.mem_range.1 lt) held
  have lt := length_lt_of_missing (rounds.nodup_first (le_refl rest)) sub member missing
  rw [length_flatMap_full full] at lt
  omega

/-- Every entry is visited in one of the `rest + 1` rounds before any round from `rest` on. -/
theorem Rounds.window (rounds : Rounds entries cap rest visited)
    (room : entries.length ≤ cap * rest) {count : ℕ} (le : rest ≤ count) :
    ∀ entry ∈ entries, ∃ round < count, count ≤ round + rest + 1 ∧ entry ∈ visited round := by
  induction count, le using Nat.le_induction with
  | base =>
    intro entry member
    have ⟨round, lt, held⟩ := rounds.first_window room member
    exact ⟨round, lt, by omega, held⟩
  | succ count le ih =>
    intro entry member
    by_contra absent
    have missed : ∀ round < count + 1, count ≤ round + rest → entry ∉ visited round :=
      fun round lt near seen => absent ⟨round, lt, by omega, seen⟩
    have ⟨last, lt, near, held⟩ := ih entry member
    have far : count = last + rest + 1 := by
      by_contra other
      exact missed last (by omega) (by omega) held
    have rested : Rested visited rest count entry := fun before earlier close =>
      missed before (by omega) close
    have unseen : entry ∉ visited count := missed count (by omega) (by omega)
    have full : (visited count).length = cap :=
      (rounds.full count entry member rested).resolve_left unseen
    -- What this round visits had its last visit in the very round in which `entry` had it.
    have sub : visited count ⊆ visited last := by
      intro other seen
      have ⟨before, earlier, close, held'⟩ := ih other (rounds.within count seen)
      have gap := rounds.apart earlier held' seen
      have same : before = last := by omega
      rw [← same]
      exact held'
    have fewer := length_lt_of_missing (rounds.nodup count) sub held unseen
    have bound := rounds.bounded last
    omega

end BacklinkPublisher.RevisitWindows
