import Mathlib.Algebra.BigOperators.Field
import Mathlib.Algebra.BigOperators.Pi
import Mathlib.Algebra.Order.BigOperators.Group.Finset
import Mathlib.Algebra.Order.Field.Basic
import Mathlib.Data.Fintype.Card
import Mathlib.Tactic.Linarith
import Mathlib.Tactic.Ring

set_option autoImplicit false

/-!
# Picking the class that is furthest behind its share

Each pick adds one to a class. Where the picked class is never ahead of its share by more than a
small part of the picks so far, no class runs ahead by much more than one, and so none falls
behind by much more than one for each of the others.
-/
namespace BacklinkPublisher.DeficitScheduling

universe u v
variable {ι : Type u} [Fintype ι] [DecidableEq ι]
variable {K : Type v} [Field K] [LinearOrder K] [IsStrictOrderedRing K]

def credit (counts : ι → ℕ) (i : ι) : ι → ℕ := Function.update counts i (counts i + 1)

/-- The counts after `n` picks from none. -/
def tally (pick : (ι → ℕ) → ι) : ℕ → ι → ℕ
  | 0 => fun _ => 0
  | n + 1 => credit (tally pick n) (pick (tally pick n))

structure IsShares (share : ι → K) : Prop where
  nonneg : ∀ i, 0 ≤ share i
  sum_eq_one : ∑ i, share i = 1

/-- The picked class is ahead of its share by at most `slack` for each pick made. -/
def Fair (share : ι → K) (slack : K) (pick : (ι → ℕ) → ι) : Prop :=
  ∀ counts : ι → ℕ, (counts (pick counts) : K) ≤
    share (pick counts) * (∑ i, counts i : ℕ) + slack * (∑ i, counts i : ℕ)

theorem sum_credit (counts : ι → ℕ) (i : ι) :
    ∑ j, credit counts i j = ∑ j, counts j + 1 := by
  have others : ∑ j ∈ Finset.univ \ {i}, credit counts i j = ∑ j ∈ Finset.univ \ {i}, counts j := by
    apply Finset.sum_congr rfl
    intro j hj
    have other : j ≠ i := by simpa using hj
    exact Function.update_of_ne other _ _
  have here : credit counts i i = counts i + 1 := Function.update_self i _ _
  rw [← Finset.sum_sdiff (Finset.subset_univ {i}), others, Finset.sum_singleton, here,
    ← Finset.sum_sdiff (Finset.subset_univ {i}), Finset.sum_singleton]
  omega

theorem sum_tally (pick : (ι → ℕ) → ι) (n : ℕ) : ∑ i, tally pick n i = n := by
  induction n with
  | zero => exact Finset.sum_eq_zero fun _ _ => rfl
  | succ n ih =>
    rw [tally, sum_credit, ih]

variable {share : ι → K} {slack : K} {pick : (ι → ℕ) → ι}

theorem tally_le (shares : IsShares share) (slack_nonneg : 0 ≤ slack)
    (fair : Fair share slack pick) (n : ℕ) (i : ι) :
    (tally pick n i : K) ≤ share i * n + 1 + slack * n := by
  induction n with
  | zero => simp [tally]
  | succ n ih =>
    have nonneg := shares.nonneg i
    rw [tally]
    by_cases picked : i = pick (tally pick n)
    · have behind := fair (tally pick n)
      rw [sum_tally, ← picked] at behind
      have here : credit (tally pick n) i i = tally pick n i + 1 := Function.update_self i _ _
      rw [← picked, here]
      push_cast
      linarith
    · have here : credit (tally pick n) (pick (tally pick n)) i = tally pick n i :=
        Function.update_of_ne picked _ _
      rw [here]
      push_cast
      linarith

/-- What a class lacks, the others have over. -/
theorem le_tally (shares : IsShares share) (slack_nonneg : 0 ≤ slack)
    (fair : Fair share slack pick) (n : ℕ) (i : ι) :
    share i * n - (Fintype.card ι - 1 : ℕ) * (1 + slack * n) ≤ (tally pick n i : K) := by
  have total : (tally pick n i : K) + ∑ j ∈ Finset.univ.erase i, (tally pick n j : K) = n := by
    rw [Finset.add_sum_erase _ (fun j => (tally pick n j : K)) (Finset.mem_univ i),
      ← Nat.cast_sum, sum_tally]
  have whole : share i + ∑ j ∈ Finset.univ.erase i, share j = 1 := by
    rw [Finset.add_sum_erase _ _ (Finset.mem_univ i), shares.sum_eq_one]
  have others : ∑ j ∈ Finset.univ.erase i, (tally pick n j : K) ≤
      ∑ j ∈ Finset.univ.erase i, (share j * n + (1 + slack * n)) := by
    apply Finset.sum_le_sum
    intro j _
    have := tally_le shares slack_nonneg fair n j
    linarith
  rw [Finset.sum_add_distrib, ← Finset.sum_mul, Finset.sum_const,
    Finset.card_erase_of_mem (Finset.mem_univ i), Finset.card_univ, nsmul_eq_mul] at others
  have rest : ∑ j ∈ Finset.univ.erase i, share j = 1 - share i := by linarith
  rw [rest] at others
  linarith

end BacklinkPublisher.DeficitScheduling
