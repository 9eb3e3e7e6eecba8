import BacklinkPublisher.RuleCycles

set_option autoImplicit false

/-!
# The end of a suppression

What becomes of a weight that `canary_drift` set to 0. The rule's cooldown looks for a `rule` in the
entry, and `update_many_weights` writes entries without one.
-/
namespace BacklinkPublisher.CanaryCooldown
open OrderedDicts OptimizationState OptimizationRules OptimizationDrift RuleCycles

structure CanaryOnly (config : RulesConfig) : Prop where
  canary : config.canaryDrift.enabled = true
  recheck : config.recheckSurvival.enabled = false
  aggregated : config.aggregatedStats.enabled = false
  threshold : config.survivalThreshold.enabled = false

def driftOf (cycle : CycleInput) (platform : String) : Option ℤ :=
  (lookup PlatformStats.slot ⟨"default", platform⟩ cycle.stats).map PlatformStats.driftCount

/-- The cycle sees a strike count at or above `max_strikes`; a count of 0 is no drift. -/
def Drifting (config : CanaryDriftConfig) (platform : String) (cycle : CycleInput) : Prop :=
  ∃ drifts, driftOf cycle platform = some drifts ∧ drifts ≠ 0 ∧ config.maxStrikes ≤ drifts

def Cleared (platform : String) (cycle : CycleInput) : Prop := driftOf cycle platform = some 0

instance (platform : String) : DecidablePred (Cleared platform) := fun cycle =>
  inferInstanceAs (Decidable (driftOf cycle platform = some 0))

/-- The platform is unlocked and drifts, and its weight is not 0 already: the cycle sets it to 0. -/
structure Suppresses (config : CanaryDriftConfig) (platform : String) (data : OptimizationData)
    (cycle : CycleInput) : Prop where
  unlocked : data.locked ⟨"default", platform⟩ = false
  positive : 0 < currentWeight data ⟨"default", platform⟩
  drifting : Drifting config platform cycle

/-- The life of a suppression from time `t` on, as `canary_drift` describes it. -/
structure EndsAsSpecified (config : RulesConfig) (platform : String) (t base : ℚ)
    (suppressed : OptimizationData) (cycles : List CycleInput) : Prop where
  waits : ∀ pre cycle, pre ++ [cycle] <+: cycles →
    (∀ other ∈ pre ++ [cycle], Drifting config.canaryDrift platform other) →
    (∀ other ∈ pre, other.evaluatedAt < t + config.canaryDrift.cooldownDays * 86400) →
    currentWeight (evaluateApplyCycles config suppressed (pre ++ [cycle]))
        ⟨"default", platform⟩ =
      if cycle.evaluatedAt < t + config.canaryDrift.cooldownDays * 86400 then 0
      else max (base * config.canaryDrift.canaryRecovery) (1/100)
  restores : ∀ pre cycle, pre ++ [cycle] <+: cycles → (∀ other ∈ pre, ¬ Cleared platform other) →
    Cleared platform cycle →
    currentWeight (evaluateApplyCycles config suppressed (pre ++ [cycle]))
      ⟨"default", platform⟩ = base

/-- The stored base is not negative, and where none is stored the weight is the default one. -/
def BaseKept (data : OptimizationData) (slot : Slot) : Prop :=
  0 ≤ baseWeight data slot ∧
    ((data.entry slot).bind WeightEntry.base = none → currentWeight data slot = 1)

/-! ## The canary's answer -/

section Answer
variable {config : RulesConfig} {data : OptimizationData} {stats : PlatformStats} {now : ℚ}

theorem answers_canary (only : CanaryOnly config) (result : RuleResult) :
    Answers config now data stats result ↔
      ruleCanaryDrift config.canaryDrift now data stats = some result := by
  unfold Answers
  simp [only.canary, only.recheck, only.aggregated, only.threshold]

theorem evaluationRaises_canary (only : CanaryOnly config) (stats : List PlatformStats) :
    evaluationRaises config stats = false := by
  unfold evaluationRaises dividesByZero
  simp [only.recheck, only.aggregated, only.threshold]

/-- An entry as `update_many_weights` leaves it, with a weight of zero. -/
structure Suppressed (entry : WeightEntry) : Prop where
  zero : entry.current = some 0
  unlocked : entry.locked = false
  ruleless : entry.rule = none
  owned : entry.adjustments.getLast? = some "canary_drift"

/-- Without a `rule` in the entry the cooldown is not looked at. -/
theorem canary_idle {entry : WeightEntry} (suppressed : Suppressed entry)
    (found : data.entry stats.slot = some entry) (drifts : stats.driftCount ≠ 0)
    {result : RuleResult}
    (h : ruleCanaryDrift config.canaryDrift now data stats = some result) :
    result.applied = false := by
  have weight := currentWeight_zero found suppressed.zero
  have no_rule : ¬((0 : ℚ) = 0 ∧
      (data.entry stats.slot).bind WeightEntry.rule = some "canary_drift") := by
    rw [found, Option.bind_some, suppressed.ruleless]
    nofun
  unfold ruleCanaryDrift at h
  dsimp only at h
  rw [if_neg drifts, weight, if_neg (lt_irrefl _), if_neg no_rule] at h
  split_ifs at h
  cases h
  rfl

theorem canary_restores {entry : WeightEntry} (suppressed : Suppressed entry)
    (found : data.entry stats.slot = some entry) (clear : stats.driftCount = 0) :
    ruleCanaryDrift config.canaryDrift now data stats =
      if 0 < baseWeight data stats.slot then
        some (adjusted stats.slot "canary_drift" 0 (baseWeight data stats.slot) 1)
      else none := by
  have weight := currentWeight_zero found suppressed.zero
  have owned : suppressedByCanaryDrift data stats.slot = true := by
    unfold suppressedByCanaryDrift
    rw [found, Option.bind_some, suppressed.owned]
    rfl
  unfold ruleCanaryDrift
  dsimp only
  rw [if_pos clear, weight, owned]
  simp only [and_true]

theorem canary_suppresses (drifts : stats.driftCount ≠ 0)
    (strikes : config.canaryDrift.maxStrikes ≤ stats.driftCount)
    (positive : 0 < currentWeight data stats.slot) :
    ruleCanaryDrift config.canaryDrift now data stats =
      some { adjusted stats.slot "canary_drift" (currentWeight data stats.slot) 0
               config.canaryDrift.multiplier with intentionalZero := true } := by
  unfold ruleCanaryDrift
  dsimp only
  rw [if_neg drifts, if_pos strikes, if_neg fun both => positive.ne' both.1, if_pos positive]

end Answer

/-! ## One cycle -/

section Cycle
variable {config : RulesConfig} {data : OptimizationData} {platform : String}
  {cycle : CycleInput} {entry : WeightEntry}

theorem driftOf_eq_some {drifts : ℤ} : driftOf cycle platform = some drifts ↔
    ∃ stats ∈ cycle.stats, stats.slot = ⟨"default", platform⟩ ∧ stats.driftCount = drifts := by
  unfold driftOf
  rw [Option.map_eq_some_iff]
  simp only [lookup_eq_some cycle.statsNodup, and_assoc]

theorem entry_of_not_cleared (only : CanaryOnly config) (suppressed : Suppressed entry)
    (found : data.entry ⟨"default", platform⟩ = some entry) (drifts : ¬ Cleared platform cycle) :
    (evaluateApplyCycle config data cycle).entry ⟨"default", platform⟩ = some entry := by
  have found' : (withStats cycle data).entry ⟨"default", platform⟩ = some entry := found
  unfold evaluateApplyCycle
  rcases entry_evaluateApply (not_locked found' suppressed.unlocked)
      (evaluationRaises_canary only _) with
    ⟨_, kept⟩ | ⟨stats, held, slot, result, prevails, _⟩
  · rw [kept]
    exact found'
  · have answer := (answers_canary only result).1 prevails.answers
    have nonzero : stats.driftCount ≠ 0 := by
      intro zero
      exact drifts (driftOf_eq_some.2 ⟨stats, held, slot, zero⟩)
    have idle := canary_idle suppressed (slot ▸ found') nonzero answer
    rw [prevails.applied] at idle
    cases idle

/-- The first cycle without drift goes back to the stored base, if that is positive. -/
theorem currentWeight_of_cleared (only : CanaryOnly config) (suppressed : Suppressed entry)
    (found : data.entry ⟨"default", platform⟩ = some entry) (cleared : Cleared platform cycle) :
    currentWeight (evaluateApplyCycle config data cycle) ⟨"default", platform⟩ =
      if 0 < baseWeight data ⟨"default", platform⟩ then baseWeight data ⟨"default", platform⟩
      else 0 := by
  have found' : (withStats cycle data).entry ⟨"default", platform⟩ = some entry := found
  have same_base : baseWeight (withStats cycle data) ⟨"default", platform⟩ =
      baseWeight data ⟨"default", platform⟩ := rfl
  have ⟨stats, held, slot, zero⟩ := driftOf_eq_some.1 cleared
  have restores : ruleCanaryDrift config.canaryDrift cycle.evaluatedAt (withStats cycle data) stats =
      _ := canary_restores suppressed (slot ▸ found') zero
  rw [slot, same_base] at restores
  unfold evaluateApplyCycle
  rcases entry_evaluateApply_own cycle.appliedAt held slot
      (not_locked found' suppressed.unlocked) (evaluationRaises_canary only _) with
    ⟨idle, kept⟩ | ⟨result, prevails, written⟩
  · have not_positive : ¬ 0 < baseWeight data ⟨"default", platform⟩ := by
      intro positive
      rw [if_pos positive] at restores
      cases idle _ ((answers_canary only _).2 restores)
    rw [if_neg not_positive]
    exact currentWeight_zero (kept.trans found') suppressed.zero
  · have answer := (answers_canary only result).1 prevails.answers
    rw [restores] at answer
    rw [currentWeight_reweighted written]
    split_ifs at answer with positive
    rw [if_pos positive, ← Option.some.inj answer]
    rfl

/-- What the suppressing cycle writes. -/
theorem entry_of_suppresses (only : CanaryOnly config)
    (suppresses : Suppresses config.canaryDrift platform data cycle) :
    (evaluateApplyCycle config data cycle).entry ⟨"default", platform⟩ =
      some (WeightEntry.changed (reweighted 0 "canary_drift" true cycle.appliedAt)
        ((data.entry ⟨"default", platform⟩).getD { slot := ⟨"default", platform⟩ })) := by
  have ⟨drifts, seen, nonzero, strikes⟩ := suppresses.drifting
  have ⟨stats, held, slot, count⟩ := driftOf_eq_some.1 seen
  have positive : 0 < currentWeight (withStats cycle data) stats.slot := by
    rw [slot]
    exact suppresses.positive
  have answer : ruleCanaryDrift config.canaryDrift cycle.evaluatedAt (withStats cycle data) stats =
      _ := canary_suppresses (count ▸ nonzero) (count ▸ strikes) positive
  have unlocked : (withStats cycle data).locked ⟨"default", platform⟩ = false :=
    suppresses.unlocked
  unfold evaluateApplyCycle
  rcases entry_evaluateApply_own cycle.appliedAt held slot unlocked
      (evaluationRaises_canary only _) with
    ⟨idle, _⟩ | ⟨result, prevails, written⟩
  · cases idle _ ((answers_canary only _).2 answer)
  · have own := (answers_canary only result).1 prevails.answers
    rw [answer] at own
    rw [written, ← Option.some.inj own]
    rfl

end Cycle

/-! ## The life of a suppression -/

section Life
variable {config : RulesConfig} {data : OptimizationData} {platform : String}
  {entry : WeightEntry}

theorem evaluateApplyCycles_concat (pre : List CycleInput) (cycle : CycleInput) :
    evaluateApplyCycles config data (pre ++ [cycle]) =
      evaluateApplyCycle config (evaluateApplyCycles config data pre) cycle :=
  List.foldl_concat ..

theorem entry_of_none_cleared (only : CanaryOnly config) (suppressed : Suppressed entry)
    (found : data.entry ⟨"default", platform⟩ = some entry) {cycles : List CycleInput}
    (drifts : ∀ cycle ∈ cycles, ¬ Cleared platform cycle) :
    (evaluateApplyCycles config data cycles).entry ⟨"default", platform⟩ = some entry := by
  induction cycles using List.reverseRecOn with
  | nil => exact found
  | append_singleton cycles cycle ih =>
    rw [evaluateApplyCycles_concat]
    have before := ih fun other held => drifts other (List.mem_append_left _ held)
    exact entry_of_not_cleared only suppressed before (drifts cycle List.mem_concat_self)

theorem not_cleared_of_drifting {cycle : CycleInput}
    (drifting : Drifting config.canaryDrift platform cycle) : ¬ Cleared platform cycle := by
  intro cleared
  have ⟨drifts, seen, nonzero, _⟩ := drifting
  exact nonzero (Option.some.inj (seen.symm.trans cleared))

/-- While the drift lasts the weight is 0, however long it lasts. -/
theorem currentWeight_of_drifting (only : CanaryOnly config) (suppressed : Suppressed entry)
    (found : data.entry ⟨"default", platform⟩ = some entry) {cycles : List CycleInput}
    (drifting : ∀ cycle ∈ cycles, Drifting config.canaryDrift platform cycle) :
    currentWeight (evaluateApplyCycles config data cycles) ⟨"default", platform⟩ = 0 := by
  have kept := entry_of_none_cleared only suppressed found fun cycle held =>
    not_cleared_of_drifting (drifting cycle held)
  exact currentWeight_zero kept suppressed.zero

/-- The lowest weight after the cooldown is not 0. -/
theorem recovered_ne_zero (weight : ℚ) : max weight (1/100) ≠ 0 :=
  (lt_of_lt_of_le (by norm_num : (0 : ℚ) < 1/100) (le_max_right _ _)).ne'

theorem waits_iff (only : CanaryOnly config) (suppressed : Suppressed entry)
    (found : data.entry ⟨"default", platform⟩ = some entry) (cycles : List CycleInput)
    (cooledAt recovered : ℚ) (nonzero : recovered ≠ 0) :
    (∀ pre cycle, pre ++ [cycle] <+: cycles →
      (∀ other ∈ pre ++ [cycle], Drifting config.canaryDrift platform other) →
      (∀ other ∈ pre, other.evaluatedAt < cooledAt) →
      currentWeight (evaluateApplyCycles config data (pre ++ [cycle])) ⟨"default", platform⟩ =
        if cycle.evaluatedAt < cooledAt then 0 else recovered) ↔
    ∀ pre, pre <+: cycles → (∀ other ∈ pre, Drifting config.canaryDrift platform other) →
      ∀ other ∈ pre, other.evaluatedAt < cooledAt := by
  constructor
  · intro waits pre
    induction pre using List.reverseRecOn with
    | nil =>
      intro _ _ other held
      cases held
    | append_singleton pre cycle ih =>
      intro hpre drifting
      have before := ih ((List.prefix_append _ _).trans hpre) fun other held =>
        drifting other (List.mem_append_left _ held)
      have weight := waits pre cycle hpre drifting before
      rw [currentWeight_of_drifting only suppressed found drifting] at weight
      have early : cycle.evaluatedAt < cooledAt := by
        by_contra late
        rw [if_neg late] at weight
        exact nonzero weight.symm
      intro other held
      rcases List.mem_append.1 held with held | held
      · exact before other held
      · rw [List.mem_singleton.1 held]
        exact early
  · intro early pre cycle hpre drifting _
    rw [currentWeight_of_drifting only suppressed found drifting,
      if_pos (early _ hpre drifting cycle List.mem_concat_self)]

theorem restores_iff (only : CanaryOnly config) (suppressed : Suppressed entry)
    (found : data.entry ⟨"default", platform⟩ = some entry) (cycles : List CycleInput)
    (base : ℚ) :
    (∀ pre cycle, pre ++ [cycle] <+: cycles → (∀ other ∈ pre, ¬ Cleared platform other) →
      Cleared platform cycle →
      currentWeight (evaluateApplyCycles config data (pre ++ [cycle])) ⟨"default", platform⟩ =
        base) ↔
    ((∃ cycle ∈ cycles, Cleared platform cycle) →
      (if 0 < baseWeight data ⟨"default", platform⟩ then baseWeight data ⟨"default", platform⟩
        else 0) = base) := by
  have weight : ∀ pre cycle, (∀ other ∈ pre, ¬ Cleared platform other) → Cleared platform cycle →
      currentWeight (evaluateApplyCycles config data (pre ++ [cycle])) ⟨"default", platform⟩ =
        if 0 < baseWeight data ⟨"default", platform⟩ then baseWeight data ⟨"default", platform⟩
        else 0 := by
    intro pre cycle before cleared
    have kept := entry_of_none_cleared only suppressed found before
    rw [evaluateApplyCycles_concat, currentWeight_of_cleared only suppressed kept cleared,
      baseWeight_of_entry (kept.trans found.symm)]
  constructor
  · rintro restores ⟨cycle, held, cleared⟩
    have some_cleared : (cycles.find? fun cycle => decide (Cleared platform cycle)).isSome := by
      rw [List.find?_isSome]
      exact ⟨cycle, held, decide_eq_true cleared⟩
    have ⟨first, hfirst⟩ := Option.isSome_iff_exists.1 some_cleared
    have ⟨first_cleared, pre, post, split_, before⟩ := List.find?_eq_some_iff_append.1 hfirst
    have before' : ∀ other ∈ pre, ¬ Cleared platform other := by
      intro other hother
      simpa using before other hother
    have first_cleared' := of_decide_eq_true first_cleared
    rw [← weight pre first before' first_cleared']
    refine restores pre first ⟨post, ?_⟩ before' first_cleared'
    rw [split_, List.append_assoc, List.singleton_append]
  · intro kept pre cycle hpre before cleared
    rw [weight pre cycle before cleared]
    exact kept ⟨cycle, hpre.subset List.mem_concat_self, cleared⟩

end Life

/-- The entry that the suppressing cycle writes keeps the stored base. -/
theorem suppressed_of_suppresses {config : RulesConfig} {data : OptimizationData}
    {platform : String} {cycle : CycleInput} (only : CanaryOnly config)
    (suppresses : Suppresses config.canaryDrift platform data cycle) :
    ∃ entry, (evaluateApplyCycle config data cycle).entry ⟨"default", platform⟩ = some entry ∧
      Suppressed entry ∧
      ((if 0 < baseWeight (evaluateApplyCycle config data cycle) ⟨"default", platform⟩ then
          baseWeight (evaluateApplyCycle config data cycle) ⟨"default", platform⟩ else 0) =
        baseWeight data ⟨"default", platform⟩ ↔ BaseKept data ⟨"default", platform⟩) := by
  have written := entry_of_suppresses only suppresses
  have unlocked := suppresses.unlocked
  have positive := suppresses.positive
  refine ⟨_, written, ⟨rfl, ?_, rfl, List.getLast?_concat ..⟩, ?_⟩
  · unfold OptimizationData.locked at unlocked
    cases found : data.entry ⟨"default", platform⟩ with
    | none => rfl
    | some entry =>
      have free : entry.locked = false := by simpa [found] using unlocked
      exact free
  · have stored : baseWeight (evaluateApplyCycle config data cycle) ⟨"default", platform⟩ =
        ((data.entry ⟨"default", platform⟩).bind WeightEntry.base).getD
          (currentWeight data ⟨"default", platform⟩) := by
      unfold baseWeight
      rw [written]
      unfold currentWeight
      cases data.entry ⟨"default", platform⟩ with
      | none => rfl
      | some entry =>
        cases base : entry.base with
        | none => simp [WeightEntry.changed, reweighted, base]
        | some base' => simp [WeightEntry.changed, reweighted, base]
    rw [stored]
    unfold BaseKept baseWeight
    cases (data.entry ⟨"default", platform⟩).bind WeightEntry.base with
    | none =>
      rw [Option.getD_none, Option.getD_none, if_pos positive]
      simp
    | some base =>
      rw [Option.getD_some, Option.getD_some]
      by_cases base_positive : 0 < base
      · simp [base_positive, base_positive.le]
      · rw [if_neg base_positive]
        constructor
        · intro zero
          exact ⟨zero.le, nofun⟩
        · intro kept
          exact le_antisymm kept.1 (not_lt.1 base_positive)

/-- A suppression ends as the rule describes exactly when no cycle of the drift that it began in is
as late as the end of the cooldown, and, if the drift ever clears, the base was stored. -/
theorem suppression_ends_iff (config : RulesConfig) (platform : String)
    (data : OptimizationData) (first : CycleInput) (cycles : List CycleInput)
    (only : CanaryOnly config) (suppresses : Suppresses config.canaryDrift platform data first) :
    EndsAsSpecified config platform first.appliedAt (baseWeight data ⟨"default", platform⟩)
        (evaluateApplyCycle config data first) cycles ↔
      (∀ pre, pre <+: cycles → (∀ cycle ∈ pre, Drifting config.canaryDrift platform cycle) →
        ∀ cycle ∈ pre,
          cycle.evaluatedAt < first.appliedAt + config.canaryDrift.cooldownDays * 86400) ∧
      ((∃ cycle ∈ cycles, Cleared platform cycle) → BaseKept data ⟨"default", platform⟩) := by
  have ⟨entry, found, suppressed, kept⟩ := suppressed_of_suppresses only suppresses
  rw [← waits_iff only suppressed found cycles _ _ (recovered_ne_zero
      (baseWeight data ⟨"default", platform⟩ * config.canaryDrift.canaryRecovery)),
    ← kept, ← restores_iff only suppressed found cycles]
  exact ⟨fun ends => ⟨ends.waits, ends.restores⟩, fun ⟨waits, restores⟩ => ⟨waits, restores⟩⟩

def canaryOnly : RulesConfig where
  recheckSurvival := { enabled := false }
  aggregatedStats := { enabled := false }
  survivalThreshold := { enabled := false }

theorem canaryOnly_only : CanaryOnly canaryOnly := ⟨rfl, rfl, rfl, rfl⟩

/-- A cycle that sees `medium` with the strike count. -/
def strikeCycle (driftCount : ℤ) (time : ℚ) : CycleInput :=
  ⟨[{ slot := ⟨"default", "medium"⟩, driftCount }], List.nodup_singleton _, time, time⟩

def fullMedium : OptimizationData :=
  ⟨[{ slot := ⟨"default", "medium"⟩, base := some 1, current := some 1 }], [],
    List.nodup_singleton _, List.nodup_nil⟩

theorem suppresses_medium :
    Suppresses canaryOnly.canaryDrift "medium" fullMedium (strikeCycle 3 0) := by
  refine ⟨rfl, ?_, 3, rfl, by decide, by decide⟩
  have weight : currentWeight fullMedium ⟨"default", "medium"⟩ = 1 := rfl
  rw [weight]
  norm_num

/-- A day of drift and then none: the weight goes from 0 back to 1. -/
theorem suppression_ends_iff_medium :
    EndsAsSpecified canaryOnly "medium" 0 1
      (evaluateApplyCycle canaryOnly fullMedium (strikeCycle 3 0))
      [strikeCycle 3 86400, strikeCycle 0 172800] := by
  refine (suppression_ends_iff canaryOnly "medium" fullMedium (strikeCycle 3 0) _ canaryOnly_only
    suppresses_medium).2 ⟨?_, fun _ => ⟨?_, nofun⟩⟩
  · intro pre hpre _ cycle held
    have early : cycle.evaluatedAt ≤ 172800 := by
      have mem := hpre.subset held
      simp only [List.mem_cons, List.not_mem_nil, or_false] at mem
      rcases mem with rfl | rfl
      · norm_num [strikeCycle]
      · norm_num [strikeCycle]
    have end_ : (172800 : ℚ) < 0 + 7 * 86400 := by norm_num
    exact early.trans_lt end_
  · have base : baseWeight fullMedium ⟨"default", "medium"⟩ = 1 := rfl
    rw [base]
    norm_num

/-- A week later the weight is still 0, and no slow start sets in. -/
theorem suppression_never_recovers :
    ¬ EndsAsSpecified canaryOnly "medium" 0 1
      (evaluateApplyCycle canaryOnly fullMedium (strikeCycle 3 0)) [strikeCycle 3 604800] := by
  intro ends
  have recovered := ends.waits [] (strikeCycle 3 604800) (List.prefix_refl _) (by
    intro cycle held
    rw [List.mem_singleton.1 held]
    exact ⟨3, rfl, by decide, by decide⟩) nofun
  have stays : currentWeight (evaluateApplyCycles canaryOnly
      (evaluateApplyCycle canaryOnly fullMedium (strikeCycle 3 0)) ([] ++ [strikeCycle 3 604800]))
        ⟨"default", "medium"⟩ = 0 := by
    decide +kernel
  have late : ¬ (strikeCycle 3 604800).evaluatedAt <
      0 + canaryOnly.canaryDrift.cooldownDays * 86400 := by
    norm_num [strikeCycle, canaryOnly]
  rw [stays, if_neg late] at recovered
  exact recovered_ne_zero _ recovered.symm

end BacklinkPublisher.CanaryCooldown
