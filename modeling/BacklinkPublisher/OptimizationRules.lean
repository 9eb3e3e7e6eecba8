import BacklinkPublisher.OptimizationState
import Mathlib.Algebra.Order.Field.Rat
import Mathlib.Tactic.Linarith
import Mathlib.Tactic.NormNum

set_option autoImplicit false

/-!
# Optimization cycles

A cycle in the `default` language: `collect_all_signals` of `optimization/collector.py` with the
canary source only, `evaluate_rules` and `apply_results` of `optimization/rules.py`; and
`dispatch_weight` of `publishing/registry.py`. Weights and rates are rational.
-/
namespace BacklinkPublisher.OptimizationRules
open OrderedDicts OptimizationState

/-! ## The collector -/

/-- A record of `canary-health.json`. -/
structure CanaryRecord where
  status : Option String
  quarantined : Bool
  deriving DecidableEq, Repr

/-- An item of the file; `record` is `none` where it is no object. -/
structure CanaryItem where
  platform : String
  record : Option CanaryRecord
  deriving DecidableEq, Repr

structure CanaryHealth where
  items : List CanaryItem
  nodup : (items.map CanaryItem.platform).Nodup

structure Drift where
  platform : String
  driftCount : ℤ
  deriving DecidableEq, Repr

def CanaryRecord.drifted (record : CanaryRecord) : Bool :=
  decide (record.status = some "drift-confirmed") || record.quarantined

def extractDrift (item : CanaryItem) : Option Drift :=
  if item.platform = "_publish_path" then none
  else item.record.map fun record => ⟨item.platform, if record.drifted then 1 else 0⟩

def extractPlatformDrift (health : CanaryHealth) : List Drift := health.items.filterMap extractDrift

/-- The canary part of `_merge_signals`, the only one here. -/
def mergeSignals (platforms : List Drift) : List Drift :=
  platforms.foldl (fun merged drift =>
    adjust Drift.platform drift.platform
      (fun existing => { existing with driftCount := existing.driftCount + drift.driftCount })
      (ensure Drift.platform ⟨drift.platform, 0⟩ merged)) []

def collectAllSignals (health : CanaryHealth) (data : OptimizationData) : OptimizationData :=
  (mergeSignals (extractPlatformDrift health)).foldl
    (fun data drift => updateStats { adapterName := drift.platform }
      { driftCount := some drift.driftCount } data) data

/-! ## The rules -/

structure CanaryDriftConfig where
  enabled : Bool := true
  multiplier : ℚ := 1/2
  maxStrikes : ℤ := 3
  cooldownDays : ℤ := 7
  canaryRecovery : ℚ := 3/10

structure RecheckSurvivalConfig where
  enabled : Bool := true
  multiplier : ℚ := 6/5
  maxCap : ℚ := 3
  minConfirmations : ℤ := 2

structure AggregatedStatsConfig where
  enabled : Bool := true
  multiplier : ℚ := 1/2
  survivalLowThreshold : ℚ := 3/10
  dofollowLowThreshold : ℚ := 1/5
  minConfirmations : ℤ := 2
  minWeight : ℚ := 1/10

structure SurvivalThresholdConfig where
  enabled : Bool := true
  minSamples : ℤ := 5
  survivalPenalty : ℚ := 3/10
  dofollowPenalty : ℚ := 2/5
  boostMultiplier : ℚ := 23/20
  maxCap : ℚ := 3
  survivalHigh : ℚ := 4/5
  dofollowHigh : ℚ := 4/5
  minWeight : ℚ := 1/100

structure RulesConfig where
  canaryDrift : CanaryDriftConfig := {}
  recheckSurvival : RecheckSurvivalConfig := {}
  aggregatedStats : AggregatedStatsConfig := {}
  survivalThreshold : SurvivalThresholdConfig := {}

structure RuleResult where
  slot : Slot
  ruleName : String
  oldWeight : ℚ
  newWeight : ℚ
  multiplier : ℚ
  applied : Bool
  intentionalZero : Bool := false
  deriving DecidableEq, Repr

def unchanged (slot : Slot) (ruleName : String) (weight : ℚ) : RuleResult :=
  ⟨slot, ruleName, weight, weight, 1, false, false⟩

def adjusted (slot : Slot) (ruleName : String) (oldWeight newWeight multiplier : ℚ) : RuleResult :=
  ⟨slot, ruleName, oldWeight, newWeight, multiplier, true, false⟩

def currentWeight (data : OptimizationData) (slot : Slot) : ℚ :=
  ((data.entry slot).bind WeightEntry.current).getD 1

def baseWeight (data : OptimizationData) (slot : Slot) : ℚ :=
  ((data.entry slot).bind WeightEntry.base).getD 1

def suppressedByCanaryDrift (data : OptimizationData) (slot : Slot) : Bool :=
  ((data.entry slot).bind fun entry => entry.adjustments.getLast?) = some "canary_drift"

def ruleCanaryDrift (config : CanaryDriftConfig) (now : ℚ) (data : OptimizationData)
    (stats : PlatformStats) : Option RuleResult :=
  let slot := stats.slot
  let current := currentWeight data slot
  let base := baseWeight data slot
  if stats.driftCount = 0 then
    if current < base ∧ suppressedByCanaryDrift data slot then
      some (adjusted slot "canary_drift" current base 1)
    else none
  else if config.maxStrikes ≤ stats.driftCount then
    let suppress :=
      if 0 < current then
        some { adjusted slot "canary_drift" current 0 config.multiplier with
          intentionalZero := true }
      else none
    if current = 0 ∧ (data.entry slot).bind WeightEntry.rule = some "canary_drift" then
      match (data.entry slot).map WeightEntry.updatedAt with
      | some (.time suppressedAt) =>
        if now - suppressedAt < config.cooldownDays * 86400 then
          some (unchanged slot "canary_drift" current)
        else
          some (adjusted slot "canary_drift" current (max (base * config.canaryRecovery) (1/100))
            config.canaryRecovery)
      | _ => suppress
    else suppress
  else if 0 < stats.driftCount then some (unchanged slot "canary_drift" current)
  else none

def survivalRate (stats : PlatformStats) : ℚ := stats.aliveCount / stats.totalPublished

def dofollowRate (stats : PlatformStats) : ℚ :=
  if 0 < stats.aliveCount then stats.dofollowCount / stats.aliveCount else 0

def ruleRecheckSurvival (config : RecheckSurvivalConfig) (data : OptimizationData)
    (stats : PlatformStats) : Option RuleResult :=
  if stats.totalPublished < config.minConfirmations then none
  else
    let current := currentWeight data stats.slot
    if 1/2 ≤ survivalRate stats ∧ 1/2 ≤ dofollowRate stats then
      let new := min (current * config.multiplier) config.maxCap
      if current < new then
        some (adjusted stats.slot "recheck_survival" current new config.multiplier)
      else some (unchanged stats.slot "recheck_survival" current)
    else some (unchanged stats.slot "recheck_survival" current)

/-- A weight, times each multiplier whose trigger is pulled. -/
def penalize (weight survivalPenalty dofollowPenalty : ℚ) (survival dofollow : Bool) : ℚ :=
  weight * (if survival then survivalPenalty else 1) * (if dofollow then dofollowPenalty else 1)

def ruleAggregatedStats (config : AggregatedStatsConfig) (data : OptimizationData)
    (stats : PlatformStats) : Option RuleResult :=
  if stats.totalPublished < config.minConfirmations then none
  else
    let current := currentWeight data stats.slot
    let survival := decide (survivalRate stats < config.survivalLowThreshold)
    let dofollow := decide (dofollowRate stats < config.dofollowLowThreshold)
    let new := max (penalize current config.multiplier config.multiplier survival dofollow)
      config.minWeight
    if (survival || dofollow) && decide (new ≠ current) then
      some (adjusted stats.slot "aggregated_stats" current new config.multiplier)
    else some (unchanged stats.slot "aggregated_stats" current)

def ruleSurvivalThreshold (config : SurvivalThresholdConfig) (data : OptimizationData)
    (stats : PlatformStats) : Option RuleResult :=
  if stats.totalPublished < config.minSamples then none
  else
    let current := currentWeight data stats.slot
    let survival := decide (survivalRate stats < 3/10)
    let dofollow := decide (dofollowRate stats < 1/5)
    if survival || dofollow then
      let new := max (penalize current config.survivalPenalty config.dofollowPenalty survival
        dofollow) config.minWeight
      if new ≠ current then
        some (adjusted stats.slot "survival_threshold" current new
          (if survival then config.survivalPenalty else config.dofollowPenalty))
      else some (unchanged stats.slot "survival_threshold" current)
    else if config.survivalHigh < survivalRate stats ∧ config.dofollowHigh < dofollowRate stats then
      let new := min (current * config.boostMultiplier) config.maxCap
      if current < new then
        some (adjusted stats.slot "survival_threshold" current new config.boostMultiplier)
      else some (unchanged stats.slot "survival_threshold" current)
    else some (unchanged stats.slot "survival_threshold" current)

def runRule (enabled : Bool) (rule : PlatformStats → Option RuleResult)
    (stats : List PlatformStats) : List RuleResult :=
  if enabled then stats.filterMap rule else []

def evaluateRules (config : RulesConfig) (now : ℚ) (data : OptimizationData) : List RuleResult :=
  let stats := data.stats.filter fun stats => stats.slot.language = "default"
  runRule config.canaryDrift.enabled (ruleCanaryDrift config.canaryDrift now data) stats ++
    runRule config.recheckSurvival.enabled (ruleRecheckSurvival config.recheckSurvival data) stats ++
    runRule config.aggregatedStats.enabled (ruleAggregatedStats config.aggregatedStats data) stats ++
    runRule config.survivalThreshold.enabled (ruleSurvivalThreshold config.survivalThreshold data)
      stats

def RuleResult.stronger (result old : RuleResult) : RuleResult :=
  if result.newWeight < old.newWeight then { result with slot := old.slot } else old

/-- The lowest weight for each platform. -/
def strongest (results : List RuleResult) : List RuleResult :=
  results.foldl (fun best result =>
    adjust RuleResult.slot result.slot result.stronger (ensure RuleResult.slot result best)) []

def RuleResult.update (result : RuleResult) : WeightUpdate :=
  ⟨result.slot.adapterName, result.newWeight, result.ruleName, result.intentionalZero⟩

def applyResults (now : ℚ) (results : List RuleResult) (data : OptimizationData) :
    OptimizationData :=
  let applied := results.filter RuleResult.applied
  if applied = [] then data
  else updateManyWeights ((strongest applied).map RuleResult.update) "default" now data

/-- What a cycle reads: the canary file, and the clock in the rules and at the write. -/
structure Cycle where
  health : CanaryHealth
  evaluatedAt : ℚ
  appliedAt : ℚ

def runCycle (config : RulesConfig) (data : OptimizationData) (cycle : Cycle) : OptimizationData :=
  let collected := collectAllSignals cycle.health data
  applyResults cycle.appliedAt (evaluateRules config cycle.evaluatedAt collected) collected

def runCycles (config : RulesConfig) (cycles : List Cycle) (data : OptimizationData) :
    OptimizationData :=
  cycles.foldl (runCycle config) data

/-- `static` is the weight of the registry. -/
def dispatchWeight (static : ℚ) (config : RulesConfig) (data : OptimizationData) (slot : Slot) :
    ℚ :=
  match data.entry slot with
  | none => static
  | some entry =>
    match entry.current with
    | none => static
    | some value =>
      if value ≤ 0 ∧ entry.locked = false ∧ entry.intentionalZero = false then
        max value (if config.aggregatedStats.minWeight = 0 then 1/100
          else config.aggregatedStats.minWeight)
      else value

end BacklinkPublisher.OptimizationRules
