import BacklinkPublisher.RuleCycles

set_option autoImplicit false

/-!
# Penalties and the least weight

The penalties of `aggregated_stats` and `survival_threshold` end with `max(new_weight, min_weight)`,
which is above a weight that was below `min_weight` before.
-/
namespace BacklinkPublisher.PenaltyRules
open OrderedDicts OptimizationState OptimizationRules OptimizationDrift RuleCycles

/-! ## Conditions of the rules -/

section Conditions
variable (stats : PlatformStats) (weight : ℚ)

def aggregatedTriggered (config : AggregatedStatsConfig) : Prop :=
  config.enabled = true ∧ config.minConfirmations ≤ stats.totalPublished ∧
    (survivalRate stats < config.survivalLowThreshold ∨
      dofollowRate stats < config.dofollowLowThreshold)

def aggregatedProduct (config : AggregatedStatsConfig) : ℚ :=
  penalize weight config.multiplier config.multiplier
    (decide (survivalRate stats < config.survivalLowThreshold))
    (decide (dofollowRate stats < config.dofollowLowThreshold))

def thresholdTriggered (config : SurvivalThresholdConfig) : Prop :=
  config.enabled = true ∧ config.minSamples ≤ stats.totalPublished ∧
    (survivalRate stats < 3/10 ∨ dofollowRate stats < 1/5)

def thresholdProduct (config : SurvivalThresholdConfig) : ℚ :=
  penalize weight config.survivalPenalty config.dofollowPenalty
    (decide (survivalRate stats < 3/10)) (decide (dofollowRate stats < 1/5))

def recheckBoosts (config : RecheckSurvivalConfig) : Prop :=
  config.enabled = true ∧ config.minConfirmations ≤ stats.totalPublished ∧
    (1/2 ≤ survivalRate stats ∧ 1/2 ≤ dofollowRate stats) ∧
    weight < weight * config.multiplier ∧ weight < config.maxCap

def thresholdBoosts (config : SurvivalThresholdConfig) : Prop :=
  config.enabled = true ∧ config.minSamples ≤ stats.totalPublished ∧
    ¬(survivalRate stats < 3/10 ∨ dofollowRate stats < 1/5) ∧
    (config.survivalHigh < survivalRate stats ∧ config.dofollowHigh < dofollowRate stats) ∧
    weight < weight * config.boostMultiplier ∧ weight < config.maxCap

/-- A penalty whose product and least weight are both below the weight, or no rule that would move
the weight up: no penalty whose product or least weight is above it, and no boost. -/
def NotRaised (config : RulesConfig) : Prop :=
  (aggregatedTriggered stats config.aggregatedStats ∧
      aggregatedProduct stats weight config.aggregatedStats < weight ∧
      config.aggregatedStats.minWeight < weight) ∨
    (thresholdTriggered stats config.survivalThreshold ∧
      thresholdProduct stats weight config.survivalThreshold < weight ∧
      config.survivalThreshold.minWeight < weight) ∨
    (¬(aggregatedTriggered stats config.aggregatedStats ∧
        (weight < aggregatedProduct stats weight config.aggregatedStats ∨
          weight < config.aggregatedStats.minWeight)) ∧
      ¬(thresholdTriggered stats config.survivalThreshold ∧
        (weight < thresholdProduct stats weight config.survivalThreshold ∨
          weight < config.survivalThreshold.minWeight)) ∧
      ¬ recheckBoosts stats weight config.recheckSurvival ∧
      ¬ thresholdBoosts stats weight config.survivalThreshold)

end Conditions

/-- No result of `canary_drift` is applied. -/
def CanaryQuiet (config : RulesConfig) (now : ℚ) (data : OptimizationData)
    (stats : PlatformStats) : Prop :=
  config.canaryDrift.enabled = true → ∀ result,
    ruleCanaryDrift config.canaryDrift now data stats = some result → result.applied = false

/-! ## The weight each rule applies -/

section Applied
variable {data : OptimizationData} {stats : PlatformStats} {result : RuleResult}

theorem recheck_applied {config : RecheckSurvivalConfig} (enabled : config.enabled = true)
    (h : ruleRecheckSurvival config data stats = some result) (applied : result.applied = true) :
    recheckBoosts stats (currentWeight data stats.slot) config ∧
      currentWeight data stats.slot < result.newWeight := by
  unfold ruleRecheckSurvival at h
  dsimp only at h
  split_ifs at h with few good more
  · cases h
    exact ⟨⟨enabled, not_lt.1 few, good, lt_min_iff.1 more⟩, more⟩
  · cases h
    cases applied
  · cases h
    cases applied

theorem recheck_of_boosts {config : RecheckSurvivalConfig}
    (boosts : recheckBoosts stats (currentWeight data stats.slot) config) :
    ∃ result, ruleRecheckSurvival config data stats = some result ∧ result.applied = true := by
  have ⟨_, enough, good, more⟩ := boosts
  unfold ruleRecheckSurvival
  dsimp only
  rw [if_neg (not_lt.2 enough), if_pos good, if_pos (lt_min_iff.2 more)]
  exact ⟨_, rfl, rfl⟩

theorem aggregated_applied {config : AggregatedStatsConfig} (enabled : config.enabled = true)
    (h : ruleAggregatedStats config data stats = some result) (applied : result.applied = true) :
    aggregatedTriggered stats config ∧ result.newWeight =
      max (aggregatedProduct stats (currentWeight data stats.slot) config) config.minWeight ∧
      result.newWeight ≠ currentWeight data stats.slot := by
  unfold ruleAggregatedStats at h
  dsimp only at h
  split_ifs at h with few low
  · cases h
    simp only [Bool.and_eq_true, Bool.or_eq_true, decide_eq_true_iff] at low
    exact ⟨⟨enabled, not_lt.1 few, low.1⟩, rfl, low.2⟩
  · cases h
    cases applied

theorem aggregated_of_triggered {config : AggregatedStatsConfig}
    (triggered : aggregatedTriggered stats config)
    (moves : max (aggregatedProduct stats (currentWeight data stats.slot) config)
      config.minWeight ≠ currentWeight data stats.slot) :
    ∃ result, ruleAggregatedStats config data stats = some result ∧ result.applied = true ∧
      result.newWeight =
        max (aggregatedProduct stats (currentWeight data stats.slot) config) config.minWeight := by
  have ⟨_, enough, low⟩ := triggered
  unfold aggregatedProduct at moves ⊢
  unfold ruleAggregatedStats
  dsimp only
  rw [if_neg (not_lt.2 enough), if_pos]
  · exact ⟨_, rfl, rfl, rfl⟩
  · simp only [Bool.and_eq_true, Bool.or_eq_true, decide_eq_true_iff]
    exact ⟨low, moves⟩

theorem threshold_applied {config : SurvivalThresholdConfig} (enabled : config.enabled = true)
    (h : ruleSurvivalThreshold config data stats = some result) (applied : result.applied = true) :
    (thresholdTriggered stats config ∧ result.newWeight =
        max (thresholdProduct stats (currentWeight data stats.slot) config) config.minWeight ∧
        result.newWeight ≠ currentWeight data stats.slot) ∨
      thresholdBoosts stats (currentWeight data stats.slot) config ∧
        currentWeight data stats.slot < result.newWeight := by
  unfold ruleSurvivalThreshold at h
  dsimp only at h
  split_ifs at h with few low moves survival high more
  · cases h
    rw [Bool.or_eq_true, decide_eq_true_iff, decide_eq_true_iff] at low
    exact .inl ⟨⟨enabled, not_lt.1 few, low⟩, rfl, moves⟩
  · cases h
    rw [Bool.or_eq_true, decide_eq_true_iff, decide_eq_true_iff] at low
    exact .inl ⟨⟨enabled, not_lt.1 few, low⟩, rfl, moves⟩
  · cases h
    cases applied
  · cases h
    rw [Bool.or_eq_true, decide_eq_true_iff, decide_eq_true_iff] at low
    exact .inr ⟨⟨enabled, not_lt.1 few, low, high, lt_min_iff.1 more⟩, more⟩
  · cases h
    cases applied
  · cases h
    cases applied

theorem threshold_of_triggered {config : SurvivalThresholdConfig}
    (triggered : thresholdTriggered stats config)
    (moves : max (thresholdProduct stats (currentWeight data stats.slot) config)
      config.minWeight ≠ currentWeight data stats.slot) :
    ∃ result, ruleSurvivalThreshold config data stats = some result ∧ result.applied = true ∧
      result.newWeight =
        max (thresholdProduct stats (currentWeight data stats.slot) config) config.minWeight := by
  have ⟨_, enough, low⟩ := triggered
  have pulled : (decide (survivalRate stats < 3/10) || decide (dofollowRate stats < 1/5)) =
      true := by
    rw [Bool.or_eq_true, decide_eq_true_iff, decide_eq_true_iff]
    exact low
  unfold thresholdProduct at moves ⊢
  unfold ruleSurvivalThreshold
  dsimp only
  rw [if_neg (not_lt.2 enough), if_pos pulled, if_pos moves]
  exact ⟨_, rfl, rfl, rfl⟩

theorem threshold_of_boosts {config : SurvivalThresholdConfig}
    (boosts : thresholdBoosts stats (currentWeight data stats.slot) config) :
    ∃ result, ruleSurvivalThreshold config data stats = some result ∧ result.applied = true := by
  have ⟨_, enough, high_enough, high, more⟩ := boosts
  have not_pulled : ¬ (decide (survivalRate stats < 3/10) ||
      decide (dofollowRate stats < 1/5)) = true := by
    rw [Bool.or_eq_true, decide_eq_true_iff, decide_eq_true_iff]
    exact high_enough
  unfold ruleSurvivalThreshold
  dsimp only
  rw [if_neg (not_lt.2 enough), if_neg not_pulled, if_pos high, if_pos (lt_min_iff.2 more)]
  exact ⟨_, rfl, rfl⟩

end Applied

/-! ## One cycle -/

section Cycle
variable {config : RulesConfig} {evaluatedAt : ℚ} {data : OptimizationData}
  {stats : PlatformStats}

/-- Where no rule answers with a result to apply, no condition to move the weight up holds. -/
theorem notRaised_of_idle (idle : ∀ result, Answers config evaluatedAt data stats result →
    result.applied = false) : NotRaised stats (currentWeight data stats.slot) config := by
  have never : ∀ result, Answers config evaluatedAt data stats result →
      ¬ result.applied = true := by
    intro result answers applied
    rw [idle result answers] at applied
    cases applied
  refine .inr (.inr ⟨?_, ?_, ?_, ?_⟩)
  · rintro ⟨triggered, above⟩
    have ⟨result, answers, applied, _⟩ :=
      aggregated_of_triggered triggered (lt_max_iff.2 above).ne'
    exact never result (.inr (.inr (.inl ⟨triggered.1, answers⟩))) applied
  · rintro ⟨triggered, above⟩
    have ⟨result, answers, applied, _⟩ :=
      threshold_of_triggered triggered (lt_max_iff.2 above).ne'
    exact never result (.inr (.inr (.inr ⟨triggered.1, answers⟩))) applied
  · intro boosts
    have ⟨result, answers, applied⟩ := recheck_of_boosts boosts
    exact never result (.inr (.inl ⟨boosts.1, answers⟩)) applied
  · intro boosts
    have ⟨result, answers, applied⟩ := threshold_of_boosts boosts
    exact never result (.inr (.inr (.inr ⟨boosts.1, answers⟩))) applied

/-- The prevailing result does not raise the weight exactly when one of the penalties lowers it or
nothing would raise it. -/
theorem prevails_le_iff {result : RuleResult} (canary : CanaryQuiet config evaluatedAt data stats)
    (prevails : Prevails config evaluatedAt data stats result) :
    result.newWeight ≤ currentWeight data stats.slot ↔
      NotRaised stats (currentWeight data stats.slot) config := by
  constructor
  · intro below
    rcases prevails.answers with ⟨enabled, h⟩ | ⟨enabled, h⟩ | ⟨enabled, h⟩ | ⟨enabled, h⟩
    · have applied := prevails.applied
      rw [canary enabled result h] at applied
      cases applied
    · exact absurd below (not_le.2 (recheck_applied enabled h prevails.applied).2)
    · have ⟨triggered, new, moves⟩ := aggregated_applied enabled h prevails.applied
      have lower := lt_of_le_of_ne below moves
      rw [new] at lower
      exact .inl ⟨triggered, max_lt_iff.1 lower⟩
    · rcases threshold_applied enabled h prevails.applied with ⟨triggered, new, moves⟩ | ⟨_, more⟩
      · have lower := lt_of_le_of_ne below moves
        rw [new] at lower
        exact .inr (.inl ⟨triggered, max_lt_iff.1 lower⟩)
      · exact absurd below (not_le.2 more)
  · rintro (⟨triggered, lower⟩ | ⟨triggered, lower⟩ | ⟨aggregated, threshold, recheck, boost⟩)
    · have ⟨other, answers, applied, new⟩ := aggregated_of_triggered triggered
        (max_lt_iff.2 lower).ne
      have least := prevails.least other (.inr (.inr (.inl ⟨triggered.1, answers⟩))) applied
      rw [new] at least
      exact least.trans (max_lt_iff.2 lower).le
    · have ⟨other, answers, applied, new⟩ := threshold_of_triggered triggered
        (max_lt_iff.2 lower).ne
      have least := prevails.least other (.inr (.inr (.inr ⟨triggered.1, answers⟩))) applied
      rw [new] at least
      exact least.trans (max_lt_iff.2 lower).le
    · rcases prevails.answers with ⟨enabled, h⟩ | ⟨enabled, h⟩ | ⟨enabled, h⟩ | ⟨enabled, h⟩
      · have applied := prevails.applied
        rw [canary enabled result h] at applied
        cases applied
      · exact absurd (recheck_applied enabled h prevails.applied).1 recheck
      · have ⟨triggered, new, _⟩ := aggregated_applied enabled h prevails.applied
        rw [new]
        by_contra above
        exact aggregated ⟨triggered, lt_max_iff.1 (not_le.1 above)⟩
      · rcases threshold_applied enabled h prevails.applied with ⟨triggered, new, _⟩ | ⟨boosts, _⟩
        · rw [new]
          by_contra above
          exact threshold ⟨triggered, lt_max_iff.1 (not_le.1 above)⟩
        · exact absurd boosts boost

/-- A cycle does not raise the weight of an unlocked platform that the canary leaves alone exactly
when the evaluation raises an exception, or the conditions of the rules allow it. -/
theorem evaluateApply_le_iff {platform : String} (appliedAt : ℚ) (hstats : stats ∈ data.stats)
    (slot : stats.slot = ⟨"default", platform⟩)
    (unlocked : data.locked ⟨"default", platform⟩ = false)
    (canary : CanaryQuiet config evaluatedAt data stats) :
    currentWeight (evaluateApply config evaluatedAt appliedAt data) ⟨"default", platform⟩ ≤
        currentWeight data ⟨"default", platform⟩ ↔
      evaluationRaises config data.stats = true ∨
        NotRaised stats (currentWeight data ⟨"default", platform⟩) config := by
  by_cases raises : evaluationRaises config data.stats = true
  · have same : evaluateApply config evaluatedAt appliedAt data = data := if_pos raises
    simp [same, raises]
  · rw [or_iff_right raises]
    rcases entry_evaluateApply_own appliedAt hstats slot unlocked (Bool.eq_false_iff.2 raises) with
      ⟨idle, kept⟩ | ⟨result, prevails, written⟩
    · have allowed := notRaised_of_idle idle
      rw [slot] at allowed
      exact iff_of_true (currentWeight_of_entry kept).le allowed
    · have below := prevails_le_iff canary prevails
      rw [slot] at below
      rw [currentWeight_reweighted written]
      exact below

end Cycle

/-! ## A weight of zero -/

/-- The platform drifts at or above `max_strikes` and the cooldown of its entry has not passed. -/
def Waiting (config : CanaryDriftConfig) (entry : WeightEntry) (platform : String)
    (cycle : CycleInput) : Prop :=
  (∃ stats ∈ cycle.stats, stats.slot = ⟨"default", platform⟩ ∧ stats.driftCount ≠ 0 ∧
    config.maxStrikes ≤ stats.driftCount) ∧
  ∀ suppressedAt, entry.updatedAt = .time suppressedAt →
    cycle.evaluatedAt - suppressedAt < config.cooldownDays * 86400

section Zero
variable {config : RulesConfig} {data : OptimizationData} {platform : String}
  {entry : WeightEntry}

theorem canaryQuiet_of_waiting {now : ℚ} {stats : PlatformStats}
    (found : data.entry stats.slot = some entry) (zero : entry.current = some 0)
    (drifts : stats.driftCount ≠ 0)
    (strikes : config.canaryDrift.maxStrikes ≤ stats.driftCount)
    (cooling : ∀ suppressedAt, entry.updatedAt = .time suppressedAt →
      now - suppressedAt < config.canaryDrift.cooldownDays * 86400) :
    CanaryQuiet config now data stats := by
  intro _ result h
  unfold ruleCanaryDrift at h
  dsimp only at h
  rw [if_neg drifts, if_pos strikes, currentWeight_zero found zero, if_neg (lt_irrefl _)] at h
  split_ifs at h with owned
  rw [found, Option.map_some] at h
  cases stamp : entry.updatedAt with
  | missing => rw [stamp] at h; cases h
  | invalid => rw [stamp] at h; cases h
  | time suppressedAt =>
    simp only [stamp, if_pos (cooling suppressedAt stamp)] at h
    cases h
    rfl

/-- What a rule other than the canary applies to a weight of zero lifts it. -/
theorem answer_pos {now : ℚ} {stats : PlatformStats} {result : RuleResult}
    (zero : currentWeight data stats.slot = 0) (canary : CanaryQuiet config now data stats)
    (answers : Answers config now data stats result) (applied : result.applied = true) :
    0 < result.newWeight := by
  rcases answers with ⟨enabled, h⟩ | ⟨enabled, h⟩ | ⟨enabled, h⟩ | ⟨enabled, h⟩
  · rw [canary enabled result h] at applied
    cases applied
  · have more := (recheck_applied enabled h applied).2
    rwa [zero] at more
  · have ⟨_, new, moves⟩ := aggregated_applied enabled h applied
    rw [zero] at new moves
    have least : 0 ≤ result.newWeight := by
      rw [new]
      apply le_max_of_le_left
      unfold aggregatedProduct penalize
      simp
    exact lt_of_le_of_ne least moves.symm
  · rcases threshold_applied enabled h applied with ⟨_, new, moves⟩ | ⟨_, more⟩
    · rw [zero] at new moves
      have least : 0 ≤ result.newWeight := by
        rw [new]
        apply le_max_of_le_left
        unfold thresholdProduct penalize
        simp
      exact lt_of_le_of_ne least moves.symm
    · rwa [zero] at more

/-- A cycle of waiting leaves the entry with its zero as it is exactly when it may. -/
theorem zero_cycle {cycle : CycleInput} (found : data.entry ⟨"default", platform⟩ = some entry)
    (unlocked : entry.locked = false) (zero : entry.current = some 0)
    (waiting : Waiting config.canaryDrift entry platform cycle) :
    ((evaluateApplyCycle config data cycle).entry ⟨"default", platform⟩ = some entry ∧
      (evaluationRaises config cycle.stats = true ∨ ∀ stats ∈ cycle.stats,
        stats.slot = ⟨"default", platform⟩ → NotRaised stats 0 config)) ∨
    (0 < currentWeight (evaluateApplyCycle config data cycle) ⟨"default", platform⟩ ∧
      ¬(evaluationRaises config cycle.stats = true ∨ ∀ stats ∈ cycle.stats,
        stats.slot = ⟨"default", platform⟩ → NotRaised stats 0 config)) := by
  have ⟨⟨stats, held, slot, drifts, strikes⟩, cooling⟩ := waiting
  have found' : (withStats cycle data).entry ⟨"default", platform⟩ = some entry := found
  have free : (withStats cycle data).locked ⟨"default", platform⟩ = false :=
    not_locked found' unlocked
  have canary : CanaryQuiet config cycle.evaluatedAt (withStats cycle data) stats :=
    canaryQuiet_of_waiting (slot ▸ found') zero drifts strikes cooling
  have weight := currentWeight_zero found' zero
  have only : ∀ other ∈ cycle.stats, other.slot = ⟨"default", platform⟩ → other = stats :=
    fun other hother same =>
      List.inj_on_of_nodup_map cycle.statsNodup hother held (same.trans slot.symm)
  have below := evaluateApply_le_iff cycle.appliedAt held slot free canary
  rw [weight] at below
  have allowed : (evaluationRaises config cycle.stats = true ∨ ∀ stats ∈ cycle.stats,
      stats.slot = ⟨"default", platform⟩ → NotRaised stats 0 config) ↔
        evaluationRaises config (withStats cycle data).stats = true ∨
          NotRaised stats 0 config := by
    apply or_congr_right
    constructor
    · intro all
      exact all stats held slot
    · intro one other hother same
      rw [only other hother same]
      exact one
  by_cases low : currentWeight (evaluateApplyCycle config data cycle) ⟨"default", platform⟩ ≤ 0
  · refine .inl ⟨?_, allowed.2 (below.1 low)⟩
    unfold evaluateApplyCycle at low ⊢
    by_cases raises : evaluationRaises config (withStats cycle data).stats = true
    · have same : evaluateApply config cycle.evaluatedAt cycle.appliedAt (withStats cycle data) =
          withStats cycle data := if_pos raises
      rw [same]
      exact found
    · rcases entry_evaluateApply_own cycle.appliedAt held slot free (Bool.eq_false_iff.2 raises) with
        ⟨_, kept⟩ | ⟨result, prevails, written⟩
      · rw [kept]
        exact found
      · have positive := answer_pos (by rw [slot]; exact weight) canary prevails.answers
          prevails.applied
        rw [currentWeight_reweighted written] at low
        exact absurd low (not_le.2 positive)
  · refine .inr ⟨not_le.1 low, ?_⟩
    rw [allowed, ← below]
    exact low

theorem zero_cycles {cycles : List CycleInput}
    (found : data.entry ⟨"default", platform⟩ = some entry) (unlocked : entry.locked = false)
    (zero : entry.current = some 0)
    (waiting : ∀ cycle ∈ cycles, Waiting config.canaryDrift entry platform cycle) :
    (∀ pre, pre <+: cycles →
        currentWeight (evaluateApplyCycles config data pre) ⟨"default", platform⟩ ≤ 0) ↔
      ∀ cycle ∈ cycles, evaluationRaises config cycle.stats = true ∨ ∀ stats ∈ cycle.stats,
        stats.slot = ⟨"default", platform⟩ → NotRaised stats 0 config := by
  induction cycles generalizing data with
  | nil =>
    constructor
    · intro _ cycle held
      cases held
    · intro _ pre hpre
      rw [List.prefix_nil.1 hpre]
      exact (currentWeight_zero found zero).le
  | cons cycle cycles ih =>
    rw [List.forall_mem_cons] at waiting ⊢
    have first : (∀ pre, pre <+: cycle :: cycles →
        currentWeight (evaluateApplyCycles config data pre) ⟨"default", platform⟩ ≤ 0) ↔
          ∀ pre, pre <+: cycles → currentWeight (evaluateApplyCycles config
            (evaluateApplyCycle config data cycle) pre) ⟨"default", platform⟩ ≤ 0 := by
      constructor
      · intro all pre hpre
        exact all (cycle :: pre) (List.cons_prefix_cons.2 ⟨rfl, hpre⟩)
      · intro all pre hpre
        rcases List.prefix_cons_iff.1 hpre with rfl | ⟨rest, rfl, hrest⟩
        · exact (currentWeight_zero found zero).le
        · exact all rest hrest
    rw [first]
    rcases zero_cycle found unlocked zero waiting.1 with ⟨kept, allowed⟩ | ⟨lifted, forbidden⟩
    · rw [ih kept waiting.2]
      exact (and_iff_right allowed).symm
    · constructor
      · intro all
        exact absurd (all [] List.nil_prefix) (not_le.2 lifted)
      · intro all
        exact absurd all.1 forbidden

end Zero

/-- A penalty raises no weight exactly where `NotRaised` says so; and a zero stays through the
cooldown exactly when it says so of every cycle. -/
theorem penalties_never_raise_iff (config : RulesConfig) (platform : String) :
    (∀ (evaluatedAt appliedAt : ℚ) (data : OptimizationData), ∀ stats ∈ data.stats,
      stats.slot = ⟨"default", platform⟩ → data.locked ⟨"default", platform⟩ = false →
      aggregatedTriggered stats config.aggregatedStats ∨
        thresholdTriggered stats config.survivalThreshold →
      CanaryQuiet config evaluatedAt data stats →
      (currentWeight (evaluateApply config evaluatedAt appliedAt data) ⟨"default", platform⟩ ≤
          currentWeight data ⟨"default", platform⟩ ↔
        evaluationRaises config data.stats = true ∨
          NotRaised stats (currentWeight data ⟨"default", platform⟩) config)) ∧
    (∀ (data : OptimizationData) (entry : WeightEntry) (cycles : List CycleInput),
      data.entry ⟨"default", platform⟩ = some entry → entry.locked = false →
      entry.current = some 0 →
      (∀ cycle ∈ cycles, Waiting config.canaryDrift entry platform cycle) →
      ((∀ pre, pre <+: cycles →
          currentWeight (evaluateApplyCycles config data pre) ⟨"default", platform⟩ ≤ 0) ↔
        ∀ cycle ∈ cycles, evaluationRaises config cycle.stats = true ∨ ∀ stats ∈ cycle.stats,
          stats.slot = ⟨"default", platform⟩ → NotRaised stats 0 config)) :=
  ⟨fun _ appliedAt _ _ held slot unlocked _ canary =>
      evaluateApply_le_iff appliedAt held slot unlocked canary,
    fun _ _ _ found unlocked zero waiting => zero_cycles found unlocked zero waiting⟩

/-- `medium` has published five times and nothing is left of it. -/
def goneStats (driftCount : ℤ) : PlatformStats :=
  { slot := ⟨"default", "medium"⟩, totalPublished := 5, driftCount }

/-- `medium` as the canary left it at time 0. -/
def suppressedEntry : WeightEntry :=
  { slot := ⟨"default", "medium"⟩, base := some 1, current := some 0, intentionalZero := true
    updatedAt := .time 0, adjustments := ["canary_drift"] }

def goneCycle : CycleInput := ⟨[goneStats 3], by decide, 86400, 86400⟩

def mediumAt (weight : ℚ) (driftCount : ℤ) : OptimizationData :=
  ⟨[{ suppressedEntry with current := some weight }], [goneStats driftCount],
    List.nodup_singleton _, List.nodup_singleton _⟩

theorem survivalRate_gone (driftCount : ℤ) : survivalRate (goneStats driftCount) = 0 := by
  unfold survivalRate goneStats
  norm_num

theorem dofollowRate_gone (driftCount : ℤ) : dofollowRate (goneStats driftCount) = 0 := by
  unfold dofollowRate goneStats
  norm_num

theorem canaryQuiet_gone : CanaryQuiet {} 86400 (mediumAt 0 3) (goneStats 3) := by
  refine canaryQuiet_of_waiting rfl rfl (by decide) (by decide) ?_
  intro suppressedAt stamp
  cases stamp
  norm_num

/-- A full weight is reduced; and a zero stays where no penalty has a positive least weight. -/
theorem penalties_never_raise_iff_medium :
    currentWeight (evaluateApply {} 0 0 (mediumAt 1 0)) ⟨"default", "medium"⟩ ≤ 1 ∧
      currentWeight (evaluateApplyCycles { aggregatedStats := { minWeight := 0 }
                                           survivalThreshold := { minWeight := 0 } }
        (mediumAt 0 3) [goneCycle]) ⟨"default", "medium"⟩ ≤ 0 := by
  have least : (1/10 : ℚ) < 1 := by norm_num
  have low : survivalRate (goneStats 0) < (3/10 : ℚ) := by
    rw [survivalRate_gone]
    norm_num
  constructor
  · refine ((penalties_never_raise_iff {} "medium").1 0 0 (mediumAt 1 0) (goneStats 0)
      (List.mem_singleton_self _) rfl rfl (.inl ⟨rfl, by decide, .inl low⟩) ?_).2
        (.inr (.inl ⟨⟨rfl, by decide, .inl low⟩, ?_, least⟩))
    · intro _ result h
      have none_ : ruleCanaryDrift {} 0 (mediumAt 1 0) (goneStats 0) = none := by decide +kernel
      rw [none_] at h
      cases h
    · have weight : currentWeight (mediumAt 1 0) ⟨"default", "medium"⟩ = 1 := rfl
      rw [weight]
      unfold aggregatedProduct penalize
      rw [survivalRate_gone, dofollowRate_gone]
      norm_num
  · refine ((penalties_never_raise_iff { aggregatedStats := { minWeight := 0 }
                                         survivalThreshold := { minWeight := 0 } } "medium").2
      (mediumAt 0 3) suppressedEntry [goneCycle] rfl rfl rfl ?_).2 ?_ [goneCycle]
        (List.prefix_refl _)
    · intro cycle held
      rw [List.mem_singleton.1 held]
      refine ⟨⟨goneStats 3, List.mem_singleton_self _, rfl, by decide, by decide⟩, ?_⟩
      intro suppressedAt stamp
      cases stamp
      norm_num [goneCycle]
    · intro cycle held
      rw [List.mem_singleton.1 held]
      refine .inr ?_
      intro stats held' _
      rw [List.mem_singleton.1 held']
      refine .inr (.inr ⟨?_, ?_, ?_, ?_⟩)
      · rintro ⟨_, above⟩
        simp [aggregatedProduct, penalize] at above
      · rintro ⟨_, above⟩
        simp [thresholdProduct, penalize] at above
      · rintro ⟨_, _, _, more, _⟩
        simp at more
      · rintro ⟨_, _, _, _, more, _⟩
        simp at more

/-- One day after the canary set it to 0, `survival_threshold` lifts the weight to a hundredth. -/
theorem penalty_lifts_zero :
    ¬ ∀ (config : RulesConfig) (platform : String) (evaluatedAt appliedAt : ℚ)
      (data : OptimizationData), ∀ stats ∈ data.stats,
      (0 ≤ config.aggregatedStats.multiplier ∧ config.aggregatedStats.multiplier ≤ 1) →
      (0 ≤ config.survivalThreshold.survivalPenalty ∧
        config.survivalThreshold.survivalPenalty ≤ 1) →
      (0 ≤ config.survivalThreshold.dofollowPenalty ∧
        config.survivalThreshold.dofollowPenalty ≤ 1) →
      stats.slot = ⟨"default", platform⟩ → data.locked ⟨"default", platform⟩ = false →
      aggregatedTriggered stats config.aggregatedStats ∨
        thresholdTriggered stats config.survivalThreshold →
      CanaryQuiet config evaluatedAt data stats →
      currentWeight (evaluateApply config evaluatedAt appliedAt data) ⟨"default", platform⟩ ≤
        currentWeight data ⟨"default", platform⟩ := by
  intro never
  have low : survivalRate (goneStats 3) < (3/10 : ℚ) := by
    rw [survivalRate_gone]
    norm_num
  have kept := never {} "medium" 86400 86400 (mediumAt 0 3) (goneStats 3)
    (List.mem_singleton_self _) (by norm_num) (by norm_num) (by norm_num) rfl rfl
    (.inl ⟨rfl, by decide, .inl low⟩) canaryQuiet_gone
  have before : currentWeight (mediumAt 0 3) ⟨"default", "medium"⟩ = 0 := rfl
  have after : currentWeight (evaluateApply {} 86400 86400 (mediumAt 0 3))
      ⟨"default", "medium"⟩ = 1/100 := by
    decide +kernel
  rw [before, after] at kept
  norm_num at kept

end BacklinkPublisher.PenaltyRules
