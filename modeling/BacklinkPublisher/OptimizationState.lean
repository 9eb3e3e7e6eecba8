import BacklinkPublisher.OrderedDicts
import Mathlib.Algebra.Order.Ring.Rat
import Mathlib.Tactic.Common

set_option autoImplicit false

/-!
# The optimization state

What `set_weight`, `update_many_weights`, `lock_weight` and `update_stats` of
`optimization/state.py` do to the data between their load and their save. An entry is found by its
language and its adapter name.
-/
namespace BacklinkPublisher.OptimizationState
open OrderedDicts

structure Slot where
  language : String := "default"
  adapterName : String
  deriving DecidableEq, Repr

/-- `updated_at`: missing or empty, no ISO time, or a time. -/
inductive Stamp where
  | missing
  | invalid
  | time (seconds : ℚ)
  deriving DecidableEq, Repr

/-- `rule` is a key that only files of old have; of an adjustment the rule is kept. -/
structure WeightEntry where
  slot : Slot
  base : Option ℚ := none
  current : Option ℚ := none
  locked : Bool := false
  intentionalZero : Bool := false
  updatedAt : Stamp := .missing
  rule : Option String := none
  adjustments : List String := []
  deriving DecidableEq, Repr

structure PlatformStats where
  slot : Slot
  totalPublished : ℤ := 0
  aliveCount : ℤ := 0
  dofollowCount : ℤ := 0
  driftCount : ℤ := 0
  deriving DecidableEq, Repr

/-- The keys of a JSON object are distinct. -/
structure OptimizationData where
  weights : List WeightEntry
  stats : List PlatformStats
  weightsNodup : (weights.map WeightEntry.slot).Nodup
  statsNodup : (stats.map PlatformStats.slot).Nodup
  deriving DecidableEq

def defaultState : OptimizationData := ⟨[], [], List.nodup_nil, List.nodup_nil⟩

def OptimizationData.entry (data : OptimizationData) (slot : Slot) : Option WeightEntry :=
  lookup WeightEntry.slot slot data.weights

def OptimizationData.statsOf (data : OptimizationData) (slot : Slot) : Option PlatformStats :=
  lookup PlatformStats.slot slot data.stats

def WeightEntry.changed (change : WeightEntry → WeightEntry) (entry : WeightEntry) : WeightEntry :=
  { change entry with slot := entry.slot }

def PlatformStats.changed (change : PlatformStats → PlatformStats) (stats : PlatformStats) :
    PlatformStats :=
  { change stats with slot := stats.slot }

/-- `setdefault` for a slot, and a change of its entry. -/
def OptimizationData.putEntry (data : OptimizationData) (slot : Slot)
    (change : WeightEntry → WeightEntry) : OptimizationData where
  weights := adjust WeightEntry.slot slot (WeightEntry.changed change)
    (ensure WeightEntry.slot { slot := slot } data.weights)
  stats := data.stats
  weightsNodup := by
    rw [keys_adjust (f := WeightEntry.changed change) fun _ => rfl]
    exact nodup_keys_ensure data.weightsNodup
  statsNodup := data.statsNodup

def OptimizationData.putStats (data : OptimizationData) (slot : Slot)
    (change : PlatformStats → PlatformStats) : OptimizationData where
  weights := data.weights
  stats := adjust PlatformStats.slot slot (PlatformStats.changed change)
    (ensure PlatformStats.slot { slot := slot } data.stats)
  weightsNodup := data.weightsNodup
  statsNodup := by
    rw [keys_adjust (f := PlatformStats.changed change) fun _ => rfl]
    exact nodup_keys_ensure data.statsNodup

/-- The entry that `set_weight` writes in the place of another, which is empty where there is
none. -/
def reweighted (weight : ℚ) (rule : String) (intentionalZero : Bool) (now : ℚ)
    (existing : WeightEntry) : WeightEntry where
  slot := existing.slot
  base := some (existing.base.getD ((existing.current.or existing.base).getD 1))
  current := some weight
  locked := existing.locked
  intentionalZero := intentionalZero
  updatedAt := .time now
  rule := none
  adjustments := existing.adjustments ++ [rule]

def OptimizationData.locked (data : OptimizationData) (slot : Slot) : Bool :=
  (data.entry slot).any WeightEntry.locked

/-- `none` where the call returns without a save. -/
def setWeight (slot : Slot) (weight : ℚ) (rule : String) (force intentionalZero : Bool) (now : ℚ)
    (data : OptimizationData) : Option OptimizationData :=
  if !force && data.locked slot then none
  else some (data.putEntry slot (reweighted weight rule intentionalZero now))

/-- A tuple of `update_many_weights`. -/
structure WeightUpdate where
  adapterName : String
  weight : ℚ
  rule : String
  intentionalZero : Bool
  deriving DecidableEq, Repr

def updateWeight (language : String) (now : ℚ) (data : OptimizationData) (update : WeightUpdate) :
    OptimizationData :=
  if data.locked ⟨language, update.adapterName⟩ then data
  else data.putEntry ⟨language, update.adapterName⟩
    (reweighted update.weight update.rule update.intentionalZero now)

def updateManyWeights (updates : List WeightUpdate) (language : String) (now : ℚ)
    (data : OptimizationData) : OptimizationData :=
  updates.foldl (updateWeight language now) data

def lockWeight (slot : Slot) (locked : Bool) (data : OptimizationData) : OptimizationData :=
  data.putEntry slot fun entry => { entry with locked := locked }

structure StatsUpdate where
  totalPublished : Option ℤ := none
  aliveCount : Option ℤ := none
  dofollowCount : Option ℤ := none
  driftCount : Option ℤ := none
  deriving DecidableEq, Repr

def StatsUpdate.apply (update : StatsUpdate) (stats : PlatformStats) : PlatformStats :=
  { stats with
    totalPublished := update.totalPublished.getD stats.totalPublished
    aliveCount := update.aliveCount.getD stats.aliveCount
    dofollowCount := update.dofollowCount.getD stats.dofollowCount
    driftCount := update.driftCount.getD stats.driftCount }

def updateStats (slot : Slot) (update : StatsUpdate) (data : OptimizationData) :
    OptimizationData :=
  data.putStats slot update.apply

/-! ## Reading back -/

section Reading
variable (data : OptimizationData) (slot slot' : Slot)

theorem entry_putEntry (change : WeightEntry → WeightEntry) :
    (data.putEntry slot change).entry slot' =
      if slot' = slot then
        some ((WeightEntry.changed change) ((data.entry slot).getD { slot := slot }))
      else data.entry slot' := by
  unfold OptimizationData.putEntry OptimizationData.entry
  rw [lookup_adjust (f := WeightEntry.changed change) fun _ => rfl, lookup_ensure]
  by_cases same : slot' = slot
  · subst same
    cases found : lookup WeightEntry.slot slot' data.weights with
    | none => simp
    | some entry => simp
  · simp [same]

theorem statsOf_putStats (change : PlatformStats → PlatformStats) :
    (data.putStats slot change).statsOf slot' =
      if slot' = slot then
        some ((PlatformStats.changed change) ((data.statsOf slot).getD { slot := slot }))
      else data.statsOf slot' := by
  unfold OptimizationData.putStats OptimizationData.statsOf
  rw [lookup_adjust (f := PlatformStats.changed change) fun _ => rfl, lookup_ensure]
  by_cases same : slot' = slot
  · subst same
    cases found : lookup PlatformStats.slot slot' data.stats with
    | none => simp
    | some stats => simp
  · simp [same]

@[simp] theorem entry_putStats (change : PlatformStats → PlatformStats) :
    (data.putStats slot change).entry slot' = data.entry slot' := rfl

@[simp] theorem statsOf_putEntry (change : WeightEntry → WeightEntry) :
    (data.putEntry slot change).statsOf slot' = data.statsOf slot' := rfl

end Reading

/-- An automated write leaves a locked entry as it is. -/
theorem entry_updateWeight_locked {language : String} {now : ℚ} {data : OptimizationData}
    {update : WeightUpdate} {slot : Slot} (locked : data.locked slot = true) :
    (updateWeight language now data update).entry slot = data.entry slot := by
  unfold updateWeight
  split_ifs with here
  · rfl
  · have other : slot ≠ ⟨language, update.adapterName⟩ := by
      rintro rfl
      exact here locked
    rw [entry_putEntry, if_neg other]

theorem entry_updateManyWeights_locked {updates : List WeightUpdate} {language : String} {now : ℚ}
    {data : OptimizationData} {slot : Slot} (locked : data.locked slot = true) :
    (updateManyWeights updates language now data).entry slot = data.entry slot := by
  unfold updateManyWeights
  induction updates generalizing data with
  | nil => rfl
  | cons update updates ih =>
    have kept : (updateWeight language now data update).entry slot = data.entry slot :=
      entry_updateWeight_locked locked
    have locked' : (updateWeight language now data update).locked slot = true := by
      unfold OptimizationData.locked
      rw [kept]
      exact locked
    rw [List.foldl_cons, ih locked', kept]

section Unlocked
variable {updates : List WeightUpdate} {language platform : String} {now : ℚ}

theorem locked_of_entry {data data' : OptimizationData} {slot : Slot}
    (same : data'.entry slot = data.entry slot) : data'.locked slot = data.locked slot := by
  unfold OptimizationData.locked
  rw [same]

/-- The entry of an unlocked platform after the updates: the one before, or one with the weight of
an update for it. -/
theorem entry_updateManyWeights {data : OptimizationData}
    (unlocked : data.locked ⟨language, platform⟩ = false) :
    ((updateManyWeights updates language now data).entry ⟨language, platform⟩ =
        data.entry ⟨language, platform⟩ ∧ ∀ update ∈ updates, update.adapterName ≠ platform) ∨
      ∃ update ∈ updates, update.adapterName = platform ∧ ∃ entry,
        (updateManyWeights updates language now data).entry ⟨language, platform⟩ = some entry ∧
          entry.current = some update.weight ∧ entry.locked = false := by
  unfold updateManyWeights
  induction updates generalizing data with
  | nil => exact .inl ⟨rfl, fun update h => absurd h List.not_mem_nil⟩
  | cons update updates ih =>
    rw [List.foldl_cons]
    by_cases same : update.adapterName = platform
    · have written : (updateWeight language now data update).entry ⟨language, platform⟩ =
          some (WeightEntry.changed
            (reweighted update.weight update.rule update.intentionalZero now)
            ((data.entry ⟨language, platform⟩).getD { slot := ⟨language, platform⟩ })) := by
        unfold updateWeight
        rw [same, unlocked, if_neg Bool.false_ne_true, entry_putEntry, if_pos rfl]
      have free : ((data.entry ⟨language, platform⟩).getD
          { slot := ⟨language, platform⟩ }).locked = false := by
        unfold OptimizationData.locked at unlocked
        cases found : data.entry ⟨language, platform⟩ with
        | none => rfl
        | some entry => simpa [found] using unlocked
      have unlocked' : (updateWeight language now data update).locked ⟨language, platform⟩ =
          false := by
        unfold OptimizationData.locked
        rw [written]
        exact free
      rcases ih unlocked' with ⟨kept, _⟩ | ⟨later, hlater, own, found⟩
      · refine .inr ⟨update, List.mem_cons_self, same, _, kept.trans written, ?_, free⟩
        rfl
      · exact .inr ⟨later, List.mem_cons_of_mem _ hlater, own, found⟩
    · have kept : (updateWeight language now data update).entry ⟨language, platform⟩ =
          data.entry ⟨language, platform⟩ := by
        unfold updateWeight
        split_ifs
        · rfl
        · have other : (⟨language, platform⟩ : Slot) ≠ ⟨language, update.adapterName⟩ := by
            intro h
            exact same (Slot.mk.inj h).2.symm
          rw [entry_putEntry, if_neg other]
      rcases ih ((locked_of_entry kept).trans unlocked) with ⟨same', others⟩ | ⟨later, hlater, rest⟩
      · refine .inl ⟨same'.trans kept, ?_⟩
        rw [List.forall_mem_cons]
        exact ⟨same, others⟩
      · exact .inr ⟨later, List.mem_cons_of_mem _ hlater, rest⟩

end Unlocked

@[simp] theorem statsOf_updateManyWeights (updates : List WeightUpdate) (language : String)
    (now : ℚ) (data : OptimizationData) (slot : Slot) :
    (updateManyWeights updates language now data).statsOf slot = data.statsOf slot := by
  unfold updateManyWeights
  induction updates generalizing data with
  | nil => rfl
  | cons update updates ih =>
    rw [List.foldl_cons, ih]
    unfold updateWeight
    split_ifs <;> rfl

end BacklinkPublisher.OptimizationState
