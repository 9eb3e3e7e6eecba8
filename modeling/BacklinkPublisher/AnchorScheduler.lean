import BacklinkPublisher.DeficitScheduling
import Mathlib.Algebra.Order.Round
import Mathlib.Data.List.MinMax
import Mathlib.Data.Prod.Lex
import Mathlib.Data.Rat.Floor
import Mathlib.Tactic.NormNum

set_option autoImplicit false

/-!
# The anchor scheduler

Anchor types are picked one by one, each the type with the largest deficit against its target
proportion, in exact arithmetic.
-/
namespace BacklinkPublisher.AnchorScheduler
open DeficitScheduling

inductive AnchorType where
  | branded
  | partialMatch
  | exactMatch
  | lsi
  deriving DecidableEq, Repr

/-- The words of the source. -/
def AnchorType.word : AnchorType → String
  | .branded => "branded"
  | .partialMatch => "partial"
  | .exactMatch => "exact"
  | .lsi => "lsi"

/-- `ANCHOR_TYPES`. -/
def anchorTypes : List AnchorType := [.branded, .partialMatch, .exactMatch, .lsi]

instance : Fintype AnchorType where
  elems := anchorTypes.toFinset
  complete := fun type => by cases type <;> decide

/-- `_TYPE_TIEBREAK_ORDER`. -/
def typeTiebreakOrder : List AnchorType := [.branded, .partialMatch, .lsi, .exactMatch]

def typeTiebreakRank (type : AnchorType) : ℕ := typeTiebreakOrder.idxOf type

/-- Python's `round` to an integer: the nearest, and of two equally near the even one. -/
def roundHalfEven (x : ℚ) : ℤ :=
  if Int.fract x = 1 / 2 then (if ⌊x⌋ % 2 = 0 then ⌊x⌋ else ⌊x⌋ + 1) else round x

/-- `round(x, 6)`. -/
def roundSix (x : ℚ) : ℚ := roundHalfEven (x * 10 ^ 6) / 10 ^ 6

/-- A dictionary of counts or proportions is a function: what it lacks is zero, and other keys are
not read. -/
abbrev Counts := AnchorType → ℕ
abbrev Proportions := AnchorType → ℚ

def deficit (currentCounts : Counts) (targetProportions : Proportions) (type : AnchorType) : ℚ :=
  let total := (anchorTypes.map currentCounts).sum
  let actual : ℚ := if 0 < total then currentCounts type / total else 0
  roundSix (targetProportions type - actual)

/-- The lexicographic order, by the orders of `ℚ` and `ℤ` that can be computed. -/
instance keyOrder : LinearOrder (ℚ ×ₗ ℤ) :=
  @Prod.Lex.instLinearOrder ℚ ℤ Rat.linearOrder Int.instLinearOrder

instance keyPreorder : Preorder (ℚ ×ₗ ℤ) := keyOrder.toPartialOrder.toPreorder

/-- The key of `max`: first the deficit, then the tie-break, which prefers a smaller rank. -/
def pickKey (currentCounts : Counts) (targetProportions : Proportions) (type : AnchorType) :
    ℚ ×ₗ ℤ :=
  toLex (deficit currentCounts targetProportions type, -(typeTiebreakRank type : ℤ))

def pickAnchorType (currentCounts : Counts) (targetProportions : Proportions) : AnchorType :=
  match List.argmax (pickKey currentCounts targetProportions) anchorTypes with
  | some type => type
  | none => .branded -- there are anchor types

/-- The types `schedule` gives to the links of one article, and its `working_counts` after. -/
def scheduleTypes (targetProportions : Proportions) : ℕ → Counts → List AnchorType × Counts
  | 0, workingCounts => ([], workingCounts)
  | links + 1, workingCounts =>
    let type := pickAnchorType workingCounts targetProportions
    let rest := scheduleTypes targetProportions links (credit workingCounts type)
    (type :: rest.1, rest.2)

/-- The counts after `n` picks from empty ones. -/
def picks (targetProportions : Proportions) (n : ℕ) : Counts :=
  tally (fun counts => pickAnchorType counts targetProportions) n

/-- However the picks are shared out over articles, the counts are those of as many picks. -/
theorem scheduleTypes_counts (targetProportions : Proportions) (n links : ℕ) :
    (scheduleTypes targetProportions links (picks targetProportions n)).2 =
      picks targetProportions (n + links) := by
  induction links generalizing n with
  | zero => rfl
  | succ links ih =>
    have next := ih (n + 1)
    rw [Nat.add_right_comm] at next
    exact next

/-! ## Rounding -/

theorem roundHalfEven_nonneg {x : ℚ} (nonneg : 0 ≤ x) : 0 ≤ roundHalfEven x := by
  have floor : 0 ≤ ⌊x⌋ := Int.floor_nonneg.2 nonneg
  unfold roundHalfEven
  split_ifs
  · exact floor
  · omega
  · rw [round_eq]
    apply Int.floor_nonneg.2
    linarith

theorem abs_sub_roundHalfEven (x : ℚ) : |x - roundHalfEven x| ≤ 1 / 2 := by
  unfold roundHalfEven
  split_ifs with half even
  · rw [Int.self_sub_floor, half]
    norm_num
  · have split := Int.floor_add_fract x
    rw [half] at split
    push_cast
    rw [abs_le]
    constructor
    · linarith
    · linarith
  · exact abs_sub_round x

theorem roundSix_nonneg {x : ℚ} (nonneg : 0 ≤ x) : 0 ≤ roundSix x := by
  have rounded : (0 : ℚ) ≤ roundHalfEven (x * 10 ^ 6) := by
    exact_mod_cast roundHalfEven_nonneg (by positivity)
  unfold roundSix
  positivity

/-- What rounds to zero or more is at least minus half a millionth. -/
theorem neg_le_of_roundSix_nonneg {x : ℚ} (nonneg : 0 ≤ roundSix x) : -(1 / 2000000) ≤ x := by
  have near := (abs_le.1 (abs_sub_roundHalfEven (x * 10 ^ 6))).1
  have rounded : (0 : ℚ) ≤ roundHalfEven (x * 10 ^ 6) := by
    by_contra negative
    push Not at negative
    have : roundSix x < 0 := div_neg_of_neg_of_pos negative (by positivity)
    linarith
  generalize (roundHalfEven (x * 10 ^ 6) : ℚ) = nearest at near rounded
  have scaled : -(1 / 2) ≤ x * 10 ^ 6 := by linarith
  norm_num at scaled
  linarith

/-! ## The picked type -/

theorem sum_anchorTypes {M : Type} [AddCommMonoid M] (f : AnchorType → M) :
    (anchorTypes.map f).sum = ∑ type, f type := by
  rw [← List.sum_toFinset f (by decide : anchorTypes.Nodup)]
  rfl

theorem deficit_le_pick (currentCounts : Counts) (targetProportions : Proportions)
    (type : AnchorType) : deficit currentCounts targetProportions type ≤
      deficit currentCounts targetProportions (pickAnchorType currentCounts targetProportions) := by
  have member : type ∈ anchorTypes := by cases type <;> decide
  unfold pickAnchorType
  cases found : List.argmax (pickKey currentCounts targetProportions) anchorTypes with
  | none => exact absurd (List.argmax_eq_none.1 found) (by decide)
  | some best =>
    have largest := List.le_of_mem_argmax member found
    rcases (Prod.Lex.toLex_le_toLex).1 largest with less | ⟨same, _⟩
    · exact le_of_lt less
    · exact le_of_eq same

/-- The deficits of the shares sum to zero, so one of them is none below it. -/
theorem exists_behind {targetProportions : Proportions} (shares : IsShares targetProportions)
    (currentCounts : Counts) : ∃ type, (currentCounts type : ℚ) ≤
      targetProportions type * (∑ type, currentCounts type : ℕ) := by
  by_contra ahead
  push Not at ahead
  have more : ∑ type, targetProportions type * ((∑ type, currentCounts type : ℕ) : ℚ) <
      ∑ type, (currentCounts type : ℚ) :=
    Finset.sum_lt_sum_of_nonempty ⟨.branded, Finset.mem_univ _⟩ fun type _ => ahead type
  rw [← Finset.sum_mul, shares.sum_eq_one, one_mul, Nat.cast_sum] at more
  exact lt_irrefl _ more

theorem fair_pickAnchorType {targetProportions : Proportions}
    (shares : IsShares targetProportions) :
    Fair targetProportions (1 / 2000000) fun counts => pickAnchorType counts targetProportions := by
  intro counts
  dsimp only
  by_cases none_yet : ∑ type, counts type = 0
  · have zero : counts (pickAnchorType counts targetProportions) = 0 :=
      (Finset.sum_eq_zero_iff.1 none_yet) _ (Finset.mem_univ _)
    rw [none_yet, zero]
    simp
  · have some_yet : 0 < ∑ type, counts type := Nat.pos_of_ne_zero none_yet
    have positive : (0 : ℚ) < (∑ type, counts type : ℕ) := by exact_mod_cast some_yet
    have exact_deficit : ∀ type, deficit counts targetProportions type =
        roundSix (targetProportions type - counts type / (∑ type, counts type : ℕ)) := by
      intro type
      unfold deficit
      rw [sum_anchorTypes]
      dsimp only
      rw [if_pos some_yet]
    have ⟨type, behind⟩ := exists_behind shares counts
    have nonneg : 0 ≤ deficit counts targetProportions type := by
      rw [exact_deficit]
      apply roundSix_nonneg
      rw [sub_nonneg, div_le_iff₀ positive]
      exact behind
    have picked := nonneg.trans (deficit_le_pick counts targetProportions type)
    rw [exact_deficit] at picked
    have ahead := neg_le_of_roundSix_nonneg picked
    have cleared : (counts (pickAnchorType counts targetProportions) : ℚ) /
        (∑ type, counts type : ℕ) ≤
          targetProportions (pickAnchorType counts targetProportions) + 1 / 2000000 := by
      linarith
    rw [div_le_iff₀ positive, add_mul] at cleared
    exact cleared

/-- Every count stays near its share of the picks made. -/
theorem picks_near_share (targetProportions : Proportions)
    (nonneg : ∀ type, 0 ≤ targetProportions type)
    (sum_eq_one : (anchorTypes.map targetProportions).sum = 1) (n : ℕ) (few : n ≤ 100000)
    (type : AnchorType) :
    targetProportions type * n - 3.2 < picks targetProportions n type ∧
      (picks targetProportions n type : ℚ) < targetProportions type * n + 1.1 := by
  rw [sum_anchorTypes] at sum_eq_one
  have shares : IsShares targetProportions := ⟨nonneg, sum_eq_one⟩
  have fair := fair_pickAnchorType shares
  have above := tally_le shares (by norm_num) fair n type
  have below := le_tally shares (by norm_num) fair n type
  have others : Fintype.card AnchorType - 1 = 3 := rfl
  have bound : (n : ℚ) ≤ 100000 := by exact_mod_cast few
  rw [others] at below
  unfold picks
  push_cast at below
  constructor
  · linarith
  · linarith

/-- With all of the target on one type, seven picks are seven of that type. -/
theorem picks_near_share_branded :
    let proportions : Proportions := fun type => if type = .branded then 1 else 0
    (1 : ℚ) * (7 : ℕ) - 3.2 < picks proportions 7 .branded ∧
      (picks proportions 7 .branded : ℚ) < 1 * (7 : ℕ) + 1.1 := by
  intro proportions
  have near := picks_near_share proportions
    (fun type => by cases type <;> simp [proportions]) (by simp [anchorTypes, proportions])
    7 (by decide) .branded
  simpa [proportions] using near

end BacklinkPublisher.AnchorScheduler
