import BacklinkPublisher.OptimizationRules

set_option autoImplicit false

/-!
# Sustained drift

What a cycle does to the weight of a platform whose canary record is drifted: the strike count it
stores is 1 in every such cycle.
-/
namespace BacklinkPublisher.OptimizationDrift
open OrderedDicts OptimizationState OptimizationRules

/-! ## What a cycle collects -/

theorem extractDrift_platform {item : CanaryItem} {drift : Drift}
    (h : extractDrift item = some drift) : drift.platform = item.platform := by
  unfold extractDrift at h
  split_ifs at h
  have ⟨record, _, eq⟩ := Option.map_eq_some_iff.1 h
  rw [← eq]

theorem nodup_extract {items : List CanaryItem} (nodup : (items.map CanaryItem.platform).Nodup) :
    ((items.filterMap extractDrift).map Drift.platform).Nodup := by
  induction items with
  | nil => exact List.nodup_nil
  | cons item items ih =>
    rw [List.map_cons, List.nodup_cons] at nodup
    rw [List.filterMap_cons]
    cases found : extractDrift item with
    | none => exact ih nodup.2
    | some drift =>
      rw [List.map_cons, List.nodup_cons]
      refine ⟨?_, ih nodup.2⟩
      intro again
      have ⟨other, hother, same⟩ := List.mem_map.1 again
      have ⟨source, hsource, from_⟩ := List.mem_filterMap.1 hother
      apply nodup.1
      rw [← extractDrift_platform found, ← same, extractDrift_platform from_]
      exact List.mem_map_of_mem hsource

/-- Over distinct platforms the sums of the merge have one summand. -/
theorem merge_fold {merged platforms : List Drift}
    (nodup : ((merged ++ platforms).map Drift.platform).Nodup) :
    platforms.foldl (fun merged drift =>
      adjust Drift.platform drift.platform
        (fun existing => { existing with driftCount := existing.driftCount + drift.driftCount })
        (ensure Drift.platform ⟨drift.platform, 0⟩ merged)) merged = merged ++ platforms := by
  induction platforms generalizing merged with
  | nil => rw [List.append_nil, List.foldl_nil]
  | cons drift platforms ih =>
    have absent : drift.platform ∉ merged.map Drift.platform := by
      rw [List.map_append, List.map_cons] at nodup
      intro known
      exact (List.nodup_append.1 nodup).2.2 _ known _ List.mem_cons_self rfl
    have fresh : ensure Drift.platform ⟨drift.platform, 0⟩ merged =
        merged ++ [⟨drift.platform, 0⟩] := if_neg absent
    have added : adjust Drift.platform drift.platform
        (fun existing => { existing with driftCount := existing.driftCount + drift.driftCount })
        (merged ++ [⟨drift.platform, 0⟩]) = merged ++ [drift] := by
      unfold adjust
      rw [List.map_append]
      have before := adjust_of_absent absent fun existing : Drift =>
        { existing with driftCount := existing.driftCount + drift.driftCount }
      unfold adjust at before
      rw [before]
      simp
    rw [List.foldl_cons, fresh, added, ih (by simpa using nodup), List.append_assoc,
      List.singleton_append]

theorem mergeSignals_extract (health : CanaryHealth) :
    mergeSignals (extractPlatformDrift health) = extractPlatformDrift health :=
  merge_fold (nodup_extract health.nodup)

/-- The statistics of a slot, empty where there are none. -/
def statsAt (data : OptimizationData) (slot : Slot) : PlatformStats :=
  (data.statsOf slot).getD { slot := slot }

theorem statsOf_slot {data : OptimizationData} {slot : Slot} {stats : PlatformStats}
    (found : data.statsOf slot = some stats) : stats.slot = slot := by
  unfold OptimizationData.statsOf lookup at found
  simpa using List.find?_some found

theorem statsAt_slot (data : OptimizationData) (slot : Slot) : (statsAt data slot).slot = slot := by
  unfold statsAt
  cases found : data.statsOf slot with
  | none => rfl
  | some stats => exact statsOf_slot found

/-- The platform has a record that is drift-confirmed or quarantined. -/
def driftsIn (cycle : Cycle) (platform : String) : Prop :=
  ∃ record, ⟨platform, some record⟩ ∈ cycle.health.items ∧ record.drifted = true

section Collected
variable (drifts : List Drift) (data : OptimizationData)

def collectDrifts : OptimizationData :=
  drifts.foldl (fun data drift => updateStats { adapterName := drift.platform }
    { driftCount := some drift.driftCount } data) data

theorem entry_collectDrifts (slot : Slot) :
    (collectDrifts drifts data).entry slot = data.entry slot := by
  unfold collectDrifts
  induction drifts generalizing data with
  | nil => rfl
  | cons drift drifts ih => exact ih _

/-- Only the drift count of the platforms that are collected changes. -/
theorem statsAt_collectDrifts (platform : String) :
    ∃ count, statsAt (collectDrifts drifts data) { adapterName := platform } =
        { statsAt data { adapterName := platform } with driftCount := count } ∧
      ((count = (statsAt data { adapterName := platform }).driftCount ∧
        platform ∉ drifts.map Drift.platform) ∨ ⟨platform, count⟩ ∈ drifts) := by
  induction drifts generalizing data with
  | nil => exact ⟨_, rfl, .inl ⟨rfl, List.not_mem_nil⟩⟩
  | cons drift drifts ih =>
    have ⟨count, stats, from_⟩ := ih (updateStats { adapterName := drift.platform }
      { driftCount := some drift.driftCount } data)
    have here : statsAt (updateStats { adapterName := drift.platform }
        { driftCount := some drift.driftCount } data) { adapterName := platform } =
        if platform = drift.platform then
          { statsAt data { adapterName := platform } with driftCount := drift.driftCount }
        else statsAt data { adapterName := platform } := by
      unfold statsAt updateStats
      rw [statsOf_putStats]
      by_cases same : platform = drift.platform
      · subst same
        rw [if_pos rfl, if_pos rfl]
        cases found : data.statsOf { adapterName := drift.platform } with
        | none => rfl
        | some stats =>
          have own : stats.slot = { adapterName := drift.platform } := statsOf_slot found
          simp [PlatformStats.changed, StatsUpdate.apply]
      · have other : ({ adapterName := platform } : Slot) ≠ { adapterName := drift.platform } := by
          intro h
          exact same (Slot.mk.inj h).2
        rw [if_neg other, if_neg same]
    refine ⟨count, ?_, ?_⟩
    · change statsAt (collectDrifts drifts _) _ = _
      rw [stats, here]
      split_ifs <;> rfl
    · rcases from_ with ⟨eq, absent⟩ | later
      · rw [here] at eq
        by_cases same : platform = drift.platform
        · rw [if_pos same] at eq
          refine .inr ?_
          rw [eq, same]
          exact List.mem_cons_self
        · rw [if_neg same] at eq
          refine .inl ⟨eq, ?_⟩
          rw [List.map_cons, List.mem_cons, not_or]
          exact ⟨same, absent⟩
      · exact .inr (List.mem_cons_of_mem _ later)

end Collected

theorem collectAllSignals_eq (health : CanaryHealth) (data : OptimizationData) :
    collectAllSignals health data = collectDrifts (extractPlatformDrift health) data := by
  unfold collectAllSignals
  rw [mergeSignals_extract]
  rfl

/-- A drifted record stores a strike count of 1, whatever is stored before. -/
theorem statsAt_collected {cycle : Cycle} {platform : String} (data : OptimizationData)
    (ordinary : platform ≠ "_publish_path") (drifts : driftsIn cycle platform) :
    statsAt (collectAllSignals cycle.health data) { adapterName := platform } =
      { statsAt data { adapterName := platform } with driftCount := 1 } := by
  have ⟨record, hrecord, drifted⟩ := drifts
  have extracted : (⟨platform, 1⟩ : Drift) ∈ extractPlatformDrift cycle.health := by
    refine List.mem_filterMap.2 ⟨_, hrecord, ?_⟩
    unfold extractDrift
    rw [if_neg ordinary]
    simp [drifted]
  rw [collectAllSignals_eq]
  have ⟨count, stats, from_⟩ := statsAt_collectDrifts (extractPlatformDrift cycle.health) data
    platform
  rcases from_ with ⟨_, absent⟩ | known
  · exact absurd (List.mem_map_of_mem extracted) absent
  · have unique := nodup_extract cycle.health.nodup
    have same : (⟨platform, count⟩ : Drift) = ⟨platform, 1⟩ :=
      List.inj_on_of_nodup_map unique known extracted rfl
    rw [stats, (Drift.mk.inj same).2]

/-! ## What the rules answer -/

/-- The statistics pull a trigger of a low-survival penalty. -/
def Penalized (stats : PlatformStats) : Prop :=
  2 ≤ stats.totalPublished ∧ (survivalRate stats < 3/10 ∨ dofollowRate stats < 1/5)

/-- An applied result for a platform with one strike. -/
structure Raises (data : OptimizationData) (stats : PlatformStats) (result : RuleResult) :
    Prop where
  positive : 0 < result.newWeight
  cause : Penalized stats ∨ 0 < currentWeight data stats.slot

section Rules
variable {data : OptimizationData} {stats : PlatformStats} {result : RuleResult} {now : ℚ}

/-- Only a positive weight grows under a factor. -/
theorem weight_pos_of_grows {weight factor cap : ℚ} (growing : 1 < factor)
    (more : weight < min (weight * factor) cap) : 0 < weight := by
  have grows : weight < weight * factor := more.trans_le (min_le_left _ _)
  by_contra negative
  have shrinks := mul_le_mul_of_nonpos_left growing.le (not_lt.1 negative)
  rw [mul_one] at shrinks
  exact absurd grows (not_lt.2 shrinks)

theorem canary_not_applied (one : stats.driftCount = 1)
    (h : ruleCanaryDrift {} now data stats = some result) : result.applied = false := by
  unfold ruleCanaryDrift at h
  rw [one] at h
  norm_num at h
  rw [← h]
  rfl

theorem recheck_raises (h : ruleRecheckSurvival {} data stats = some result)
    (applied : result.applied = true) : Raises data stats result := by
  unfold ruleRecheckSurvival at h
  dsimp only at h
  split_ifs at h with few good more <;> cases h
  · have positive := weight_pos_of_grows (by norm_num) more
    exact ⟨positive.trans more, .inr positive⟩
  · cases applied
  · cases applied

theorem aggregated_raises (h : ruleAggregatedStats {} data stats = some result)
    (applied : result.applied = true) : Raises data stats result := by
  unfold ruleAggregatedStats at h
  dsimp only at h
  split_ifs at h with few low <;> cases h
  · rw [Bool.and_eq_true, Bool.or_eq_true, decide_eq_true_iff, decide_eq_true_iff] at low
    have least : (0 : ℚ) < 1/10 := by norm_num
    exact ⟨least.trans_le (le_max_right _ _), .inl ⟨not_lt.1 few, low.1⟩⟩
  · cases applied

theorem threshold_raises (h : ruleSurvivalThreshold {} data stats = some result)
    (applied : result.applied = true) : Raises data stats result := by
  have least (weight : ℚ) : 0 < max weight (1/100) :=
    lt_of_lt_of_le (by norm_num) (le_max_right _ _)
  have penalty (low : (decide (survivalRate stats < 3/10) || decide (dofollowRate stats < 1/5)) =
      true) (few : ¬ stats.totalPublished < 5) : Penalized stats := by
    rw [Bool.or_eq_true, decide_eq_true_iff, decide_eq_true_iff] at low
    exact ⟨by omega, low⟩
  unfold ruleSurvivalThreshold at h
  dsimp only at h
  split_ifs at h with few low changes survival high more <;> cases h
  · exact ⟨least _, .inl (penalty low few)⟩
  · exact ⟨least _, .inl (penalty low few)⟩
  · cases applied
  · have positive := weight_pos_of_grows (by norm_num) more
    exact ⟨positive.trans more, .inr positive⟩
  · cases applied
  · cases applied

/-- A platform at weight 0 whose statistics are low is lifted to the least weight. -/
theorem aggregated_lifts (penalized : Penalized stats) (zero : currentWeight data stats.slot = 0) :
    ruleAggregatedStats {} data stats =
      some (adjusted stats.slot "aggregated_stats" 0 (1/10) (1/2)) := by
  have enough : ¬ stats.totalPublished < 2 := not_lt.2 penalized.1
  have low : (decide (survivalRate stats < 3/10) || decide (dofollowRate stats < 1/5)) = true := by
    rw [Bool.or_eq_true, decide_eq_true_iff, decide_eq_true_iff]
    exact penalized.2
  unfold ruleAggregatedStats
  dsimp only
  rw [if_neg enough, low, zero]
  unfold penalize
  norm_num

end Rules

section Slots
variable {data : OptimizationData} {stats : PlatformStats} {result : RuleResult} {now : ℚ}

theorem canary_slot {config : CanaryDriftConfig}
    (h : ruleCanaryDrift config now data stats = some result) :
    result.slot = stats.slot := by
  unfold ruleCanaryDrift at h
  dsimp only at h
  split_ifs at h
  all_goals first
    | cases h <;> rfl
    | split at h
      · split_ifs at h <;> cases h <;> rfl
      · cases h <;> rfl

theorem recheck_slot {config : RecheckSurvivalConfig}
    (h : ruleRecheckSurvival config data stats = some result) :
    result.slot = stats.slot := by
  unfold ruleRecheckSurvival at h
  dsimp only at h
  split_ifs at h <;> cases h <;> rfl

theorem aggregated_slot {config : AggregatedStatsConfig}
    (h : ruleAggregatedStats config data stats = some result) :
    result.slot = stats.slot := by
  unfold ruleAggregatedStats at h
  dsimp only at h
  split_ifs at h <;> cases h <;> rfl

theorem threshold_slot {config : SurvivalThresholdConfig}
    (h : ruleSurvivalThreshold config data stats = some result) :
    result.slot = stats.slot := by
  unfold ruleSurvivalThreshold at h
  dsimp only at h
  split_ifs at h <;> cases h <;> rfl

end Slots

theorem mem_evaluateRules {now : ℚ} {data : OptimizationData} {result : RuleResult} :
    result ∈ evaluateRules {} now data ↔
      ∃ stats ∈ data.stats, stats.slot.language = "default" ∧
        (ruleCanaryDrift {} now data stats = some result ∨
          ruleRecheckSurvival {} data stats = some result ∨
          ruleAggregatedStats {} data stats = some result ∨
          ruleSurvivalThreshold {} data stats = some result) := by
  unfold evaluateRules runRule
  dsimp only
  simp only [if_true, List.mem_append, List.mem_filterMap, List.mem_filter, decide_eq_true_iff]
  constructor
  · rintro (((⟨stats, ⟨hstats, language⟩, h⟩ | ⟨stats, ⟨hstats, language⟩, h⟩) |
      ⟨stats, ⟨hstats, language⟩, h⟩) | ⟨stats, ⟨hstats, language⟩, h⟩)
    · exact ⟨stats, hstats, language, .inl h⟩
    · exact ⟨stats, hstats, language, .inr (.inl h)⟩
    · exact ⟨stats, hstats, language, .inr (.inr (.inl h))⟩
    · exact ⟨stats, hstats, language, .inr (.inr (.inr h))⟩
  · rintro ⟨stats, hstats, language, h | h | h | h⟩
    · exact .inl (.inl (.inl ⟨stats, ⟨hstats, language⟩, h⟩))
    · exact .inl (.inl (.inr ⟨stats, ⟨hstats, language⟩, h⟩))
    · exact .inl (.inr ⟨stats, ⟨hstats, language⟩, h⟩)
    · exact .inr ⟨stats, ⟨hstats, language⟩, h⟩

theorem statsAt_of_mem {data : OptimizationData} {stats : PlatformStats}
    (h : stats ∈ data.stats) : statsAt data stats.slot = stats := by
  have found : data.statsOf stats.slot = some stats := lookup_of_mem data.statsNodup h
  unfold statsAt
  rw [found]
  rfl

/-- Statistics that are low are stored ones. -/
theorem mem_of_penalized {data : OptimizationData} {slot : Slot}
    (penalized : Penalized (statsAt data slot)) :
    statsAt data slot ∈ data.stats ∧ (statsAt data slot).slot = slot := by
  unfold statsAt at penalized ⊢
  cases found : data.statsOf slot with
  | none =>
    rw [found] at penalized
    have published : (2 : ℤ) ≤ 0 := penalized.1
    omega
  | some stats =>
    have slot_eq : stats.slot = slot := statsOf_slot found
    unfold OptimizationData.statsOf lookup at found
    exact ⟨List.mem_of_find?_eq_some found, slot_eq⟩

section OneStrike
variable {data : OptimizationData} {platform : String} {now : ℚ}

/-- An applied result for a platform with one strike does not suppress it. -/
theorem evaluate_raises {result : RuleResult}
    (one : (statsAt data { adapterName := platform }).driftCount = 1)
    (h : result ∈ evaluateRules {} now data) (own : result.slot.adapterName = platform)
    (applied : result.applied = true) :
    Raises data (statsAt data { adapterName := platform }) result := by
  have ⟨stats, hstats, language, rule⟩ := mem_evaluateRules.1 h
  have slot : result.slot = stats.slot := by
    rcases rule with rule | rule | rule | rule
    · exact canary_slot rule
    · exact recheck_slot rule
    · exact aggregated_slot rule
    · exact threshold_slot rule
  have here : stats.slot = { adapterName := platform } := by
    rw [slot] at own
    rw [← language, ← own]
  have same : statsAt data { adapterName := platform } = stats := by
    rw [← here, statsAt_of_mem hstats]
  rw [same] at one ⊢
  rcases rule with rule | rule | rule | rule
  · rw [canary_not_applied one rule] at applied
    cases applied
  · exact recheck_raises rule applied
  · exact aggregated_raises rule applied
  · exact threshold_raises rule applied

theorem evaluate_lifts (penalized : Penalized (statsAt data { adapterName := platform }))
    (zero : currentWeight data { adapterName := platform } = 0) :
    ∃ result ∈ evaluateRules {} now data, result.slot.adapterName = platform ∧
      result.applied = true := by
  have ⟨stored, slot⟩ := mem_of_penalized penalized
  rw [← slot] at zero
  have lifts := aggregated_lifts penalized zero
  refine ⟨_, mem_evaluateRules.2 ⟨_, stored, ?_, .inr (.inr (.inl lifts))⟩, ?_, rfl⟩
  · rw [slot]
  · unfold adjusted
    rw [slot]

end OneStrike

/-! ## What is applied -/

/-- The strongest results are results, and there is one for each slot of a result. -/
theorem strongest_fold (best results : List RuleResult) :
    let chosen := results.foldl (fun best result =>
      adjust RuleResult.slot result.slot result.stronger
        (ensure RuleResult.slot result best)) best
    (∀ result ∈ chosen, result ∈ best ∨ result ∈ results) ∧
      ∀ slot, slot ∈ best.map RuleResult.slot ∨ slot ∈ results.map RuleResult.slot →
        slot ∈ chosen.map RuleResult.slot := by
  intro chosen
  induction results generalizing best with
  | nil => exact ⟨fun _ h => .inl h, fun _ h => h.resolve_right List.not_mem_nil⟩
  | cons first results ih =>
    have ⟨from_, covers⟩ := ih (adjust RuleResult.slot first.slot first.stronger
      (ensure RuleResult.slot first best))
    have keys : (adjust RuleResult.slot first.slot first.stronger
        (ensure RuleResult.slot first best)).map RuleResult.slot =
          (ensure RuleResult.slot first best).map RuleResult.slot := by
      refine keys_adjust fun old => ?_
      unfold RuleResult.stronger
      split_ifs <;> rfl
    constructor
    · intro result h
      rcases from_ result h with h | h
      · have ⟨old, hold, is⟩ := mem_adjust.1 h
        have known : old ∈ best ∨ old ∈ first :: results := by
          rcases mem_ensure.1 hold with h | ⟨eq, _⟩
          · exact .inl h
          · exact .inr (List.mem_cons.2 (.inl eq))
        rcases is with ⟨slot, eq⟩ | ⟨_, eq⟩
        · rw [eq]
          unfold RuleResult.stronger
          split_ifs
          · have whole : { first with slot := old.slot } = first := by rw [slot]
            rw [whole]
            exact .inr List.mem_cons_self
          · exact known
        · rw [eq]
          exact known
      · exact .inr (List.mem_cons_of_mem _ h)
    · intro slot h
      apply covers
      rw [keys, mem_keys_ensure]
      rw [List.map_cons, List.mem_cons] at h
      rcases h with h | h | h
      · exact .inl (.inl h)
      · exact .inl (.inr h)
      · exact .inr h

/-- The strongest of the applied results. -/
def updatesOf (results : List RuleResult) : List WeightUpdate :=
  (strongest (results.filter RuleResult.applied)).map RuleResult.update

theorem applyResults_eq (now : ℚ) (results : List RuleResult) (data : OptimizationData) :
    applyResults now results data = updateManyWeights (updatesOf results) "default" now data := by
  unfold applyResults updatesOf
  dsimp only
  split_ifs with none_
  · rw [none_]
    rfl
  · rfl

theorem mem_updatesOf {results : List RuleResult} {update : WeightUpdate}
    (h : update ∈ updatesOf results) :
    ∃ result ∈ results, result.applied = true ∧ update = result.update := by
  have ⟨result, hresult, eq⟩ := List.mem_map.1 h
  have applied := ((strongest_fold [] _).1 result hresult).resolve_left List.not_mem_nil
  rw [List.mem_filter] at applied
  exact ⟨result, applied.1, applied.2, eq.symm⟩

theorem exists_update {results : List RuleResult} {result : RuleResult} (h : result ∈ results)
    (applied : result.applied = true) :
    ∃ update ∈ updatesOf results, update.adapterName = result.slot.adapterName := by
  have kept : result ∈ results.filter RuleResult.applied := List.mem_filter.2 ⟨h, applied⟩
  have chosen := (strongest_fold [] _).2 result.slot (.inr (List.mem_map_of_mem kept))
  have ⟨other, hother, slot⟩ := List.mem_map.1 chosen
  refine ⟨other.update, List.mem_map_of_mem hother, ?_⟩
  change other.slot.adapterName = _
  rw [slot]

/-! ## Cycles of drift -/

/-- The weight is 0 because a rule meant it to be. -/
def Suppressed (data : OptimizationData) (slot : Slot) : Prop :=
  ∃ entry, data.entry slot = some entry ∧ entry.current = some 0 ∧ entry.intentionalZero = true

def storedWeight (data : OptimizationData) (slot : Slot) : Option ℚ :=
  (data.entry slot).bind WeightEntry.current

/-- A zero that was not meant is lifted to the least weight at the dispatch. -/
theorem out_of_rotation_iff {data : OptimizationData} {slot : Slot} (static : ℚ)
    (unlocked : data.locked slot = false) :
    (storedWeight data slot = some 0 ∧ dispatchWeight static {} data slot = 0) ↔
      Suppressed data slot := by
  unfold storedWeight dispatchWeight Suppressed
  unfold OptimizationData.locked at unlocked
  cases found : data.entry slot with
  | none => simp
  | some entry =>
    rw [found] at unlocked
    have free : entry.locked = false := by simpa using unlocked
    cases weight : entry.current with
    | none => simp [weight]
    | some value =>
      cases meant : entry.intentionalZero with
      | true => simp [weight, meant]
      | false =>
        have lifted : max value (1/10 : ℚ) ≠ 0 :=
          (lt_of_lt_of_le (by norm_num) (le_max_right value (1/10 : ℚ))).ne'
        simp only [Option.bind_some, weight, meant, free]
        constructor
        · rintro ⟨zero, dispatched⟩
          have value_zero : value = 0 := Option.some.inj zero
          simp [value_zero] at dispatched
        · rintro ⟨other, same, _, other_meant⟩
          rw [← Option.some.inj same, meant] at other_meant
          cases other_meant

section Cycles
variable {cycle : Cycle} {data : OptimizationData} {platform : String}

/-- A cycle in which the platform drifts leaves its entry, which is no low zero, or gives it a
positive weight. -/
theorem entry_runCycle (ordinary : platform ≠ "_publish_path") (drifts : driftsIn cycle platform)
    (unlocked : data.locked { adapterName := platform } = false) :
    ((runCycle {} data cycle).entry { adapterName := platform } =
        data.entry { adapterName := platform } ∧
      ¬(currentWeight data { adapterName := platform } = 0 ∧
        Penalized (statsAt data { adapterName := platform }))) ∨
    ∃ entry weight, (runCycle {} data cycle).entry { adapterName := platform } = some entry ∧
      entry.current = some weight ∧ 0 < weight ∧ entry.locked = false ∧
      (Penalized (statsAt data { adapterName := platform }) ∨
        0 < currentWeight data { adapterName := platform }) := by
  have stats := statsAt_collected data ordinary drifts
  have entry_collected := entry_collectDrifts (extractPlatformDrift cycle.health) data
    { adapterName := platform }
  rw [← collectAllSignals_eq] at entry_collected
  have weight_collected : currentWeight (collectAllSignals cycle.health data)
      { adapterName := platform } = currentWeight data { adapterName := platform } := by
    unfold currentWeight
    rw [entry_collected]
  unfold runCycle
  dsimp only
  rw [applyResults_eq]
  rcases entry_updateManyWeights ((locked_of_entry entry_collected).trans unlocked) with
    ⟨kept, others⟩ | ⟨update, hupdate, own, entry, found, weight, free⟩
  · refine .inl ⟨kept.trans entry_collected, ?_⟩
    intro low
    have penalized : Penalized (statsAt (collectAllSignals cycle.health data)
        { adapterName := platform }) := by
      rw [stats]
      exact low.2
    have ⟨result, hresult, slot, applied⟩ : ∃ result ∈ evaluateRules {} cycle.evaluatedAt
        (collectAllSignals cycle.health data), result.slot.adapterName = platform ∧
          result.applied = true := evaluate_lifts penalized (weight_collected.trans low.1)
    have ⟨update, hupdate, name⟩ := exists_update hresult applied
    exact others update hupdate (name.trans slot)
  · refine .inr ⟨entry, update.weight, found, weight, ?_⟩
    have ⟨result, hresult, applied, eq⟩ := mem_updatesOf hupdate
    rw [eq] at own ⊢
    have raises := evaluate_raises (by rw [stats]) hresult own applied
    have cause := raises.cause
    rw [stats] at cause
    have slot : (statsAt data { adapterName := platform }).slot = { adapterName := platform } :=
      statsAt_slot data _
    refine ⟨raises.positive, free, ?_⟩
    rcases cause with cause | cause
    · exact .inl cause
    · refine .inr ?_
      dsimp only at cause
      rwa [slot, weight_collected] at cause

theorem unlocked_runCycle (ordinary : platform ≠ "_publish_path")
    (drifts : driftsIn cycle platform)
    (unlocked : data.locked { adapterName := platform } = false) :
    (runCycle {} data cycle).locked { adapterName := platform } = false := by
  rcases entry_runCycle ordinary drifts unlocked with ⟨kept, _⟩ | ⟨entry, _, found, _, _, free, _⟩
  · exact (locked_of_entry kept).trans unlocked
  · unfold OptimizationData.locked
    rw [found]
    exact free

theorem statsAt_runCycle (ordinary : platform ≠ "_publish_path")
    (drifts : driftsIn cycle platform) :
    statsAt (runCycle {} data cycle) { adapterName := platform } =
      { statsAt data { adapterName := platform } with driftCount := 1 } := by
  rw [← statsAt_collected data ordinary drifts]
  unfold runCycle
  dsimp only
  rw [applyResults_eq]
  unfold statsAt
  rw [statsOf_updateManyWeights]

/-- A drifted cycle suppresses no platform, and lifts one whose statistics are low. -/
theorem suppressed_runCycle (ordinary : platform ≠ "_publish_path")
    (drifts : driftsIn cycle platform)
    (unlocked : data.locked { adapterName := platform } = false) :
    Suppressed (runCycle {} data cycle) { adapterName := platform } ↔
      Suppressed data { adapterName := platform } ∧
        ¬ Penalized (statsAt data { adapterName := platform }) := by
  have at_zero (suppressed : Suppressed data { adapterName := platform }) :
      currentWeight data { adapterName := platform } = 0 := by
    have ⟨entry, found, zero, _⟩ := suppressed
    unfold currentWeight
    rw [found, Option.bind_some, zero, Option.getD_some]
  rcases entry_runCycle ordinary drifts unlocked with
    ⟨kept, high⟩ | ⟨entry, weight, found, eq, positive, _, cause⟩
  · have same : Suppressed (runCycle {} data cycle) { adapterName := platform } ↔
        Suppressed data { adapterName := platform } := by
      unfold Suppressed
      rw [kept]
    rw [same]
    exact ⟨fun h => ⟨h, fun low => high ⟨at_zero h, low⟩⟩, And.left⟩
  · constructor
    · intro ⟨other, other_found, zero, _⟩
      rw [found] at other_found
      rw [← Option.some.inj other_found, eq] at zero
      exact absurd (Option.some.inj zero) positive.ne'
    · intro ⟨suppressed, high⟩
      have nonzero := cause.resolve_left high
      exact absurd (at_zero suppressed) nonzero.ne'

theorem suppressed_runCycles {cycles : List Cycle} (ordinary : platform ≠ "_publish_path")
    (drifts : ∀ cycle ∈ cycles, driftsIn cycle platform)
    (unlocked : data.locked { adapterName := platform } = false) :
    (runCycles {} cycles data).locked { adapterName := platform } = false ∧
      (Suppressed (runCycles {} cycles data) { adapterName := platform } ↔
        Suppressed data { adapterName := platform } ∧
          (cycles ≠ [] → ¬ Penalized (statsAt data { adapterName := platform }))) := by
  unfold runCycles
  induction cycles generalizing data with
  | nil => exact ⟨unlocked, ⟨fun h => ⟨h, fun none_ => absurd rfl none_⟩, And.left⟩⟩
  | cons cycle cycles ih =>
    rw [List.forall_mem_cons] at drifts
    have one := suppressed_runCycle ordinary drifts.1 unlocked
    have stats : Penalized (statsAt (runCycle {} data cycle) { adapterName := platform }) ↔
        Penalized (statsAt data { adapterName := platform }) := by
      rw [statsAt_runCycle ordinary drifts.1]
      exact Iff.rfl
    have ⟨free, rest⟩ := ih drifts.2 (unlocked_runCycle ordinary drifts.1 unlocked)
    rw [List.foldl_cons]
    refine ⟨free, ?_⟩
    rw [rest, one, stats]
    constructor
    · intro ⟨before, _⟩
      exact ⟨before.1, fun _ => before.2⟩
    · intro ⟨before, high⟩
      have high' := high (List.cons_ne_nil _ _)
      exact ⟨⟨before, high'⟩, fun _ => high'⟩

end Cycles

/-- A platform that drifts in `max_strikes` cycles in a row, by the default settings, is out of
rotation after them if a rule had suppressed it before and no low statistics lift it again. -/
theorem sustained_drift_suppressed (static : ℚ) (initial : OptimizationData)
    (earlier strikes : List Cycle) (platform : String) (ordinary : platform ≠ "_publish_path")
    (unlocked : (runCycles {} earlier initial).locked { adapterName := platform } = false)
    (enough : strikes.length = ({} : CanaryDriftConfig).maxStrikes)
    (drifts : ∀ cycle ∈ strikes, driftsIn cycle platform) :
    (storedWeight (runCycles {} (earlier ++ strikes) initial) { adapterName := platform } = some 0 ∧
        dispatchWeight static {} (runCycles {} (earlier ++ strikes) initial)
          { adapterName := platform } = 0) ↔
      Suppressed (runCycles {} earlier initial) { adapterName := platform } ∧
        ¬ Penalized (statsAt (runCycles {} earlier initial) { adapterName := platform }) := by
  have split_ : runCycles {} (earlier ++ strikes) initial =
      runCycles {} strikes (runCycles {} earlier initial) := List.foldl_append
  have some_strike : strikes ≠ [] := by
    intro none_
    rw [none_] at enough
    norm_num at enough
  have ⟨free, run⟩ := suppressed_runCycles ordinary drifts unlocked
  rw [split_, out_of_rotation_iff static free, run]
  exact and_congr_right fun _ => ⟨fun high => high some_strike, fun high _ => high⟩

/-- `medium` is drift-confirmed. -/
def drifted : Cycle := ⟨⟨[⟨"medium", some ⟨some "drift-confirmed", false⟩⟩], by decide⟩, 0, 0⟩

theorem drifts_medium : ∀ cycle ∈ [drifted, drifted, drifted], driftsIn cycle "medium" := by
  intro cycle h
  have same : cycle = drifted := by simpa using h
  rw [same]
  exact ⟨_, List.mem_singleton_self _, rfl⟩

/-- `medium` was suppressed, and has no statistics. -/
def suppressedMedium : OptimizationData :=
  ⟨[{ slot := { adapterName := "medium" }, current := some 0, intentionalZero := true }], [],
    by decide, by decide⟩

theorem sustained_drift_suppressed_medium :
    storedWeight (runCycles {} ([] ++ [drifted, drifted, drifted]) suppressedMedium)
        { adapterName := "medium" } = some 0 ∧
      dispatchWeight 1 {} (runCycles {} ([] ++ [drifted, drifted, drifted]) suppressedMedium)
        { adapterName := "medium" } = 0 := by
  refine (sustained_drift_suppressed 1 suppressedMedium [] [drifted, drifted, drifted] "medium"
    (by decide) rfl rfl drifts_medium).2 ⟨⟨_, rfl, rfl, rfl⟩, ?_⟩
  intro low
  have published : (2 : ℤ) ≤ 0 := low.1
  omega

/-- Three drifted cycles from the default state leave `medium` without a weight. -/
theorem drift_stays_in_rotation :
    ¬ ∀ (static : ℚ) (initial : OptimizationData) (earlier strikes : List Cycle)
      (platform : String), platform ≠ "_publish_path" →
      (runCycles {} earlier initial).locked { adapterName := platform } = false →
      strikes.length = ({} : CanaryDriftConfig).maxStrikes →
      (∀ cycle ∈ strikes, driftsIn cycle platform) →
      storedWeight (runCycles {} (earlier ++ strikes) initial) { adapterName := platform } =
          some 0 ∧
        dispatchWeight static {} (runCycles {} (earlier ++ strikes) initial)
          { adapterName := platform } = 0 := by
  intro h
  have suppressed := h 1 defaultState [] [drifted, drifted, drifted] "medium" (by decide) rfl rfl
    drifts_medium
  have absent : storedWeight (runCycles {} [drifted, drifted, drifted] defaultState)
      { adapterName := "medium" } = none := by decide +kernel
  rw [List.nil_append, absent] at suppressed
  cases suppressed.1

end BacklinkPublisher.OptimizationDrift
