import BacklinkPublisher.OptimizationDrift

set_option autoImplicit false

/-!
# Evaluating and applying the rules

One `evaluate_rules` with the `apply_results` after it, on statistics that whatever ran before has
written, and runs of such cycles.
-/
namespace BacklinkPublisher.RuleCycles
open OrderedDicts OptimizationState OptimizationRules OptimizationDrift

/-- An enabled rule divides by a `total_published` of 0: an exception that `evaluate_rules` lets
through. -/
def dividesByZero (config : RulesConfig) (stats : PlatformStats) : Bool :=
  decide (stats.totalPublished = 0) &&
    (config.recheckSurvival.enabled && decide (config.recheckSurvival.minConfirmations ≤ 0) ||
      config.aggregatedStats.enabled && decide (config.aggregatedStats.minConfirmations ≤ 0) ||
      config.survivalThreshold.enabled && decide (config.survivalThreshold.minSamples ≤ 0))

def evaluationRaises (config : RulesConfig) (stats : List PlatformStats) : Bool :=
  stats.any fun stats => decide (stats.slot.language = "default") && dividesByZero config stats

/-- Where the evaluation raises nothing is applied. -/
def evaluateApply (config : RulesConfig) (evaluatedAt appliedAt : ℚ) (data : OptimizationData) :
    OptimizationData :=
  if evaluationRaises config data.stats then data
  else applyResults appliedAt (evaluateRules config evaluatedAt data) data

/-- The statistics a cycle finds, and the clock in the rules and at the write. -/
structure CycleInput where
  stats : List PlatformStats
  statsNodup : (stats.map PlatformStats.slot).Nodup
  evaluatedAt : ℚ
  appliedAt : ℚ

def withStats (cycle : CycleInput) (data : OptimizationData) : OptimizationData :=
  { data with stats := cycle.stats, statsNodup := cycle.statsNodup }

def evaluateApplyCycle (config : RulesConfig) (data : OptimizationData) (cycle : CycleInput) :
    OptimizationData :=
  evaluateApply config cycle.evaluatedAt cycle.appliedAt (withStats cycle data)

def evaluateApplyCycles (config : RulesConfig) (data : OptimizationData)
    (cycles : List CycleInput) : OptimizationData :=
  cycles.foldl (evaluateApplyCycle config) data

/-! ## Reading a weight -/

section Weights
variable {data data' : OptimizationData} {slot : Slot} {entry : WeightEntry}

theorem currentWeight_of_entry (same : data'.entry slot = data.entry slot) :
    currentWeight data' slot = currentWeight data slot := by
  unfold currentWeight
  rw [same]

theorem baseWeight_of_entry (same : data'.entry slot = data.entry slot) :
    baseWeight data' slot = baseWeight data slot := by
  unfold baseWeight
  rw [same]

theorem currentWeight_zero (found : data.entry slot = some entry)
    (zero : entry.current = some 0) : currentWeight data slot = 0 := by
  unfold currentWeight
  rw [found, Option.bind_some, zero, Option.getD_some]

theorem currentWeight_reweighted {weight now : ℚ} {rule : String} {intentional : Bool}
    (written : data.entry slot =
      some (WeightEntry.changed (reweighted weight rule intentional now) entry)) :
    currentWeight data slot = weight := by
  unfold currentWeight
  rw [written]
  rfl

theorem not_locked (found : data.entry slot = some entry) (unlocked : entry.locked = false) :
    data.locked slot = false := by
  unfold OptimizationData.locked
  rw [found]
  exact unlocked

end Weights

/-! ## The strongest result -/

/-- What is known of the results gathered in `best`: one for each slot, the lowest. -/
structure Lowest (best results : List RuleResult) : Prop where
  nodup : (best.map RuleResult.slot).Nodup
  covers : ∀ result ∈ results, result.slot ∈ best.map RuleResult.slot
  from_ : ∀ result ∈ best, result ∈ results
  least : ∀ result ∈ best, ∀ other ∈ results, other.slot = result.slot →
    result.newWeight ≤ other.newWeight

theorem Lowest.step {best results : List RuleResult} (lowest : Lowest best results)
    (result : RuleResult) :
    Lowest (adjust RuleResult.slot result.slot result.stronger
      (ensure RuleResult.slot result best)) (results ++ [result]) := by
  have slot_kept : ∀ old : RuleResult, (result.stronger old).slot = old.slot := by
    intro old
    unfold RuleResult.stronger
    split_ifs
    · rfl
    · rfl
  have keys : (adjust RuleResult.slot result.slot result.stronger
      (ensure RuleResult.slot result best)).map RuleResult.slot =
        (ensure RuleResult.slot result best).map RuleResult.slot := keys_adjust slot_kept
  -- What is chosen is the new result or an old one, and no higher than either.
  have chosen : ∀ value ∈ adjust RuleResult.slot result.slot result.stronger
      (ensure RuleResult.slot result best), value ∈ results ++ [result] ∧
        (value.slot = result.slot → value.newWeight ≤ result.newWeight) ∧
        ∀ old ∈ best, old.slot = value.slot → value.newWeight ≤ old.newWeight := by
    intro value held
    have ⟨old, hold, changed⟩ := mem_adjust.1 held
    have unique : ∀ other ∈ best, other.slot = old.slot → old ∈ best → other = old := by
      intro other hother same known
      exact List.inj_on_of_nodup_map lowest.nodup hother known same
    rcases mem_ensure.1 hold with known | ⟨fresh, absent⟩
    · rcases changed with ⟨same, eq⟩ | ⟨other, eq⟩
      · have stronger : value = result ∧ result.newWeight < old.newWeight ∨
            value = old ∧ old.newWeight ≤ result.newWeight := by
          rw [eq]
          unfold RuleResult.stronger
          split_ifs with less
          · left
            exact ⟨by rw [same], less⟩
          · exact .inr ⟨rfl, not_lt.1 less⟩
        rcases stronger with ⟨eq', less⟩ | ⟨eq', least⟩
        · rw [eq']
          refine ⟨by simp, fun _ => le_refl _, ?_⟩
          intro other hother same'
          rw [unique other hother (same'.trans same.symm) known]
          exact less.le
        · rw [eq']
          refine ⟨List.mem_append_left _ (lowest.from_ old known), fun _ => least, ?_⟩
          intro other hother same'
          rw [unique other hother same' known]
      · rw [eq]
        refine ⟨List.mem_append_left _ (lowest.from_ old known), fun same => absurd same other, ?_⟩
        intro other' hother same'
        rw [unique other' hother same' known]
    · have eq : value = result := by
        rcases changed with ⟨_, eq⟩ | ⟨other, _⟩
        · rw [eq, fresh]
          unfold RuleResult.stronger
          rw [if_neg (lt_irrefl _)]
        · exact absurd (congrArg RuleResult.slot fresh) other
      rw [eq]
      refine ⟨by simp, fun _ => le_refl _, ?_⟩
      intro other hother same
      exact absurd (same ▸ List.mem_map_of_mem hother) absent
  refine ⟨keys ▸ nodup_keys_ensure lowest.nodup, ?_, fun value held => (chosen value held).1, ?_⟩
  · intro value held
    rw [keys, mem_keys_ensure]
    rcases List.mem_append.1 held with held | held
    · exact .inl (lowest.covers value held)
    · exact .inr (congrArg RuleResult.slot (List.mem_singleton.1 held))
  · intro value held other hother same
    rcases List.mem_append.1 hother with hother | hother
    · have ⟨old, hold, slot⟩ := List.mem_map.1 (lowest.covers other hother)
      have below := (chosen value held).2.2 old hold (slot.trans same)
      exact below.trans (lowest.least old hold other hother slot.symm)
    · rw [List.mem_singleton.1 hother] at same ⊢
      exact (chosen value held).2.1 same.symm

theorem lowest_strongest (results : List RuleResult) : Lowest (strongest results) results := by
  unfold strongest
  induction results using List.reverseRecOn with
  | nil => exact ⟨List.nodup_nil, nofun, nofun, nofun⟩
  | append_singleton results result ih =>
    rw [List.foldl_concat]
    exact ih.step result

/-! ## What a cycle does to the entry of a platform -/

section Written
variable {updates : List WeightUpdate} {language platform : String} {now : ℚ}

theorem entry_updateWeight_other {data : OptimizationData} {update : WeightUpdate}
    (other : update.adapterName ≠ platform) :
    (updateWeight language now data update).entry ⟨language, platform⟩ =
      data.entry ⟨language, platform⟩ := by
  unfold updateWeight
  split_ifs
  · rfl
  · have different : (⟨language, platform⟩ : Slot) ≠ ⟨language, update.adapterName⟩ := by
      intro same
      exact other (Slot.mk.inj same).2.symm
    rw [entry_putEntry, if_neg different]

theorem entry_updateManyWeights_other {data : OptimizationData}
    (others : ∀ update ∈ updates, update.adapterName ≠ platform) :
    (updateManyWeights updates language now data).entry ⟨language, platform⟩ =
      data.entry ⟨language, platform⟩ := by
  unfold updateManyWeights
  induction updates generalizing data with
  | nil => rfl
  | cons update updates ih =>
    rw [List.forall_mem_cons] at others
    rw [List.foldl_cons, ih others.2, entry_updateWeight_other others.1]

theorem entry_updateManyWeights_of_mem {data : OptimizationData} {update : WeightUpdate}
    (nodup : (updates.map WeightUpdate.adapterName).Nodup) (hmem : update ∈ updates)
    (own : update.adapterName = platform)
    (unlocked : data.locked ⟨language, platform⟩ = false) :
    (updateManyWeights updates language now data).entry ⟨language, platform⟩ =
      some (WeightEntry.changed (reweighted update.weight update.rule update.intentionalZero now)
        ((data.entry ⟨language, platform⟩).getD { slot := ⟨language, platform⟩ })) := by
  induction updates generalizing data with
  | nil => cases hmem
  | cons first updates ih =>
    rw [List.map_cons, List.nodup_cons] at nodup
    have split_ : updateManyWeights (first :: updates) language now data =
        updateManyWeights updates language now (updateWeight language now data first) :=
      List.foldl_cons ..
    rw [split_]
    rcases List.mem_cons.1 hmem with rfl | later
    · have others : ∀ other ∈ updates, other.adapterName ≠ platform := by
        intro other hother same
        exact nodup.1 ((same.trans own.symm) ▸ List.mem_map_of_mem hother)
      rw [entry_updateManyWeights_other others]
      unfold updateWeight
      rw [own, unlocked, if_neg Bool.false_ne_true, entry_putEntry, if_pos rfl]
    · have other : first.adapterName ≠ platform := by
        intro same
        exact nodup.1 ((own.trans same.symm) ▸ List.mem_map_of_mem later)
      have kept : (updateWeight language now data first).entry ⟨language, platform⟩ =
          data.entry ⟨language, platform⟩ := entry_updateWeight_other other
      rw [ih nodup.2 later ((locked_of_entry kept).trans unlocked), kept]

end Written

/-- An applied result for the slot that no other applied one undercuts. -/
structure Decides (results : List RuleResult) (slot : Slot) (result : RuleResult) : Prop where
  mem : result ∈ results
  applied : result.applied = true
  slot_eq : result.slot = slot
  least : ∀ other ∈ results, other.applied = true → other.slot = slot →
    result.newWeight ≤ other.newWeight

theorem entry_applyResults {results : List RuleResult} {data : OptimizationData}
    {platform : String} (now : ℚ) (languages : ∀ result ∈ results, result.slot.language = "default")
    (unlocked : data.locked ⟨"default", platform⟩ = false) :
    ((∀ result ∈ results, result.applied = true → result.slot ≠ ⟨"default", platform⟩) ∧
      (applyResults now results data).entry ⟨"default", platform⟩ =
        data.entry ⟨"default", platform⟩) ∨
    ∃ result, Decides results ⟨"default", platform⟩ result ∧
      (applyResults now results data).entry ⟨"default", platform⟩ =
        some (WeightEntry.changed
          (reweighted result.newWeight result.ruleName result.intentionalZero now)
          ((data.entry ⟨"default", platform⟩).getD { slot := ⟨"default", platform⟩ })) := by
  have lowest := lowest_strongest (results.filter RuleResult.applied)
  have applied_mem : ∀ result ∈ strongest (results.filter RuleResult.applied),
      result ∈ results ∧ result.applied = true := by
    intro result held
    exact List.mem_filter.1 (lowest.from_ result held)
  have whole_slot : ∀ result ∈ results, result.slot = ⟨"default", result.slot.adapterName⟩ := by
    intro result held
    rw [← languages result held]
  rw [applyResults_eq]
  by_cases some_own : ∃ result ∈ results, result.applied = true ∧
      result.slot = ⟨"default", platform⟩
  · right
    have ⟨first, hfirst, applied, slot⟩ := some_own
    have ⟨result, held, same⟩ := List.mem_map.1
      (lowest.covers first (List.mem_filter.2 ⟨hfirst, applied⟩))
    have own : result.slot = ⟨"default", platform⟩ := same.trans slot
    refine ⟨result, ⟨(applied_mem result held).1, (applied_mem result held).2, own, ?_⟩, ?_⟩
    · intro other hother other_applied other_slot
      exact lowest.least result held other (List.mem_filter.2 ⟨hother, other_applied⟩)
        (other_slot.trans own.symm)
    · have names : ((updatesOf results).map WeightUpdate.adapterName).Nodup := by
        unfold updatesOf
        rw [List.map_map]
        apply List.Nodup.map_on ?_ (List.Nodup.of_map _ lowest.nodup)
        intro one hone other hother same_name
        have slots : one.slot = other.slot := by
          have names : one.slot.adapterName = other.slot.adapterName := same_name
          rw [whole_slot one (applied_mem one hone).1, names,
            ← whole_slot other (applied_mem other hother).1]
        exact List.inj_on_of_nodup_map lowest.nodup hone hother slots
      have update : result.update ∈ updatesOf results := List.mem_map_of_mem held
      exact entry_updateManyWeights_of_mem names update (by rw [RuleResult.update, own]) unlocked
  · left
    refine ⟨fun result held applied slot => some_own ⟨result, held, applied, slot⟩, ?_⟩
    apply entry_updateManyWeights_other
    intro update held own
    have ⟨result, hresult, applied, eq⟩ := mem_updatesOf held
    rw [eq] at own
    refine some_own ⟨result, hresult, applied, ?_⟩
    rw [whole_slot result hresult]
    exact congrArg (Slot.mk "default") own

/-! ## The results of one platform -/

/-- An enabled rule answers with the result. -/
def Answers (config : RulesConfig) (now : ℚ) (data : OptimizationData) (stats : PlatformStats)
    (result : RuleResult) : Prop :=
  (config.canaryDrift.enabled = true ∧
      ruleCanaryDrift config.canaryDrift now data stats = some result) ∨
    (config.recheckSurvival.enabled = true ∧
      ruleRecheckSurvival config.recheckSurvival data stats = some result) ∨
    (config.aggregatedStats.enabled = true ∧
      ruleAggregatedStats config.aggregatedStats data stats = some result) ∨
    (config.survivalThreshold.enabled = true ∧
      ruleSurvivalThreshold config.survivalThreshold data stats = some result)

theorem Answers.slot {config : RulesConfig} {now : ℚ} {data : OptimizationData}
    {stats : PlatformStats} {result : RuleResult} (answers : Answers config now data stats result) :
    result.slot = stats.slot := by
  rcases answers with ⟨_, h⟩ | ⟨_, h⟩ | ⟨_, h⟩ | ⟨_, h⟩
  · exact canary_slot h
  · exact recheck_slot h
  · exact aggregated_slot h
  · exact threshold_slot h

theorem mem_runRule {enabled : Bool} {rule : PlatformStats → Option RuleResult}
    {stats : List PlatformStats} {result : RuleResult} :
    result ∈ runRule enabled rule stats ↔
      ∃ one ∈ stats, enabled = true ∧ rule one = some result := by
  unfold runRule
  cases enabled with
  | false => simp
  | true => simp

theorem mem_evaluateRules_iff {config : RulesConfig} {now : ℚ} {data : OptimizationData}
    {result : RuleResult} :
    result ∈ evaluateRules config now data ↔
      ∃ stats ∈ data.stats, stats.slot.language = "default" ∧
        Answers config now data stats result := by
  unfold evaluateRules Answers
  dsimp only
  simp only [List.mem_append, mem_runRule, List.mem_filter, decide_eq_true_iff]
  constructor
  · rintro (((⟨stats, ⟨held, language⟩, h⟩ | ⟨stats, ⟨held, language⟩, h⟩) |
      ⟨stats, ⟨held, language⟩, h⟩) | ⟨stats, ⟨held, language⟩, h⟩)
    · exact ⟨stats, held, language, .inl h⟩
    · exact ⟨stats, held, language, .inr (.inl h)⟩
    · exact ⟨stats, held, language, .inr (.inr (.inl h))⟩
    · exact ⟨stats, held, language, .inr (.inr (.inr h))⟩
  · rintro ⟨stats, held, language, h | h | h | h⟩
    · exact .inl (.inl (.inl ⟨stats, ⟨held, language⟩, h⟩))
    · exact .inl (.inl (.inr ⟨stats, ⟨held, language⟩, h⟩))
    · exact .inl (.inr ⟨stats, ⟨held, language⟩, h⟩)
    · exact .inr ⟨stats, ⟨held, language⟩, h⟩

/-- An applied answer that no other applied one undercuts. -/
structure Prevails (config : RulesConfig) (now : ℚ) (data : OptimizationData)
    (stats : PlatformStats) (result : RuleResult) : Prop where
  answers : Answers config now data stats result
  applied : result.applied = true
  least : ∀ other, Answers config now data stats other → other.applied = true →
    result.newWeight ≤ other.newWeight

/-- An evaluation that raises nothing leaves the entry of an unlocked platform, or writes the
prevailing answer for its statistics. -/
theorem entry_evaluateApply {config : RulesConfig} {evaluatedAt appliedAt : ℚ}
    {data : OptimizationData} {platform : String}
    (unlocked : data.locked ⟨"default", platform⟩ = false)
    (quiet : evaluationRaises config data.stats = false) :
    ((∀ stats ∈ data.stats, stats.slot = ⟨"default", platform⟩ → ∀ result,
        Answers config evaluatedAt data stats result → result.applied = false) ∧
      (evaluateApply config evaluatedAt appliedAt data).entry ⟨"default", platform⟩ =
        data.entry ⟨"default", platform⟩) ∨
    ∃ stats ∈ data.stats, stats.slot = ⟨"default", platform⟩ ∧
      ∃ result, Prevails config evaluatedAt data stats result ∧
        (evaluateApply config evaluatedAt appliedAt data).entry ⟨"default", platform⟩ =
          some (WeightEntry.changed
            (reweighted result.newWeight result.ruleName result.intentionalZero appliedAt)
            ((data.entry ⟨"default", platform⟩).getD { slot := ⟨"default", platform⟩ })) := by
  have languages : ∀ result ∈ evaluateRules config evaluatedAt data,
      result.slot.language = "default" := by
    intro result held
    have ⟨stats, _, language, answers⟩ := mem_evaluateRules_iff.1 held
    rw [answers.slot, language]
  have applies : evaluateApply config evaluatedAt appliedAt data =
      applyResults appliedAt (evaluateRules config evaluatedAt data) data := by
    unfold evaluateApply
    rw [quiet, if_neg Bool.false_ne_true]
  rw [applies]
  rcases entry_applyResults appliedAt languages unlocked with ⟨others, kept⟩ | ⟨result, decides, new⟩
  · refine .inl ⟨?_, kept⟩
    intro stats held slot result answers
    rw [← Bool.not_eq_true]
    intro applied
    refine others result (mem_evaluateRules_iff.2 ⟨stats, held, ?_, answers⟩) applied
      (answers.slot.trans slot)
    rw [slot]
  · have ⟨stats, held, language, answers⟩ := mem_evaluateRules_iff.1 decides.mem
    have slot : stats.slot = ⟨"default", platform⟩ := answers.slot.symm.trans decides.slot_eq
    refine .inr ⟨stats, held, slot, result, ⟨answers, decides.applied, ?_⟩, new⟩
    intro other others applied
    exact decides.least other (mem_evaluateRules_iff.2 ⟨stats, held, language, others⟩) applied
      (others.slot.trans slot)

/-- The same for a platform whose statistics are known. -/
theorem entry_evaluateApply_own {config : RulesConfig} {evaluatedAt : ℚ} (appliedAt : ℚ)
    {data : OptimizationData} {platform : String} {stats : PlatformStats}
    (held : stats ∈ data.stats) (slot : stats.slot = ⟨"default", platform⟩)
    (unlocked : data.locked ⟨"default", platform⟩ = false)
    (quiet : evaluationRaises config data.stats = false) :
    ((∀ result, Answers config evaluatedAt data stats result → result.applied = false) ∧
      (evaluateApply config evaluatedAt appliedAt data).entry ⟨"default", platform⟩ =
        data.entry ⟨"default", platform⟩) ∨
    ∃ result, Prevails config evaluatedAt data stats result ∧
      (evaluateApply config evaluatedAt appliedAt data).entry ⟨"default", platform⟩ =
        some (WeightEntry.changed
          (reweighted result.newWeight result.ruleName result.intentionalZero appliedAt)
          ((data.entry ⟨"default", platform⟩).getD { slot := ⟨"default", platform⟩ })) := by
  rcases entry_evaluateApply unlocked quiet with
    ⟨idle, kept⟩ | ⟨other, hother, slot', result, prevails, written⟩
  · exact .inl ⟨idle stats held slot, kept⟩
  · have same : other = stats :=
      List.inj_on_of_nodup_map data.statsNodup hother held (slot'.trans slot.symm)
    exact .inr ⟨result, same ▸ prevails, written⟩

end BacklinkPublisher.RuleCycles
