import BacklinkPublisher.DedupRuns

set_option autoImplicit false

/-!
# Whose attempt a terminal write settles

`transition` finds the row by its key alone. As long as the last claim of the
key is the writer's own and the row is still open, the row is the writer's
attempt, or the `uncertain` row that attempt was promoted to.
-/
namespace BacklinkPublisher.DedupOwnAttempt
open DedupStore DedupGate DedupRuns TransitionSystems

/-- The row is what became of the attempt that the run of `d` claimed. -/
structure OwnAttempt (w : World) (d : Dispatch) (record : DedupRecord) : Prop where
  claimed : w.attempt d.key = some d.run
  state : (record.state = .attempting ∧ record.ownerRunId = d.run.runId) ∨
    record.state = .uncertain

/-- The last claim of the key is the writer's own and the row is not settled. -/
def own (w : World) (d : Dispatch) (record : DedupRecord) : Bool :=
  decide (w.lastClaim d.key = some d.run) && !record.state.terminal

/-- The step is a terminal write that goes through over a row that is not `own`. -/
def contested (w : World) : Action → Bool
  | .writeRow index true _ =>
    match w.history[index]? with
    | some d =>
      match d.progress, w.table d.key with
      | .reading _ allow, some record => (!record.state.terminal || allow) && !own w d record
      | _, _ => false
    | none => false
  | _ => false

/-- Enforce-mode steps and operator verbs other than contested writes. -/
def uncontested (w : World) (a : Action) : Bool := a.supervised && !contested w a

/-- Open rows belong to the last claim, and an `attempting` row names its owner. -/
structure Invariant (w : World) : Prop where
  latest : ∀ {key : DedupKey} {record : DedupRecord} {run : PublishRun},
    w.table key = some record → record.state.terminal = false → w.lastClaim key = some run →
      w.attempt key = some run
  owner : ∀ {key : DedupKey} {record : DedupRecord} {run : PublishRun},
    w.table key = some record → record.state = .attempting → w.attempt key = some run →
      record.ownerRunId = run.runId

theorem invariant_start (table : DedupTable) : Invariant (World.start table) where
  latest _ _ h := by simp [World.start] at h
  owner _ _ h := by simp [World.start] at h

theorem Invariant.grants {w : World} (inv : Invariant w) (key : DedupKey) (run : PublishRun)
    (writtenAt : ℚ) : Invariant (w.grant (claim w.table key run.claimant writtenAt) key run true) where
  latest := by
    intro k record r row openRow last
    by_cases hk : k = key
    · subst hk
      simpa [World.grant] using last
    · simp only [World.grant, if_true, Function.update_of_ne hk] at last ⊢
      exact inv.latest (by simpa [World.grant, claim, hk] using row) openRow last
  owner := by
    intro k record r row state attempt
    by_cases hk : k = key
    · subst hk
      obtain rfl : claimed run.claimant writtenAt = record := by
        simpa [World.grant, claim] using row
      obtain rfl : run = r := by simpa [World.grant] using attempt
      rfl
    · simp only [World.grant, if_true, Function.update_of_ne hk] at attempt
      exact inv.owner (by simpa [World.grant, claim, hk] using row) state attempt

theorem Invariant.overwritten {w : World} (inv : Invariant w) {key : DedupKey}
    {record record' : DedupRecord} (row : w.table key = some record)
    (opened : record.state.terminal = false) (next : record'.state ≠ .attempting)
    (history : List Dispatch) :
    Invariant { w with table := Function.update w.table key (some record'), history } where
  latest := by
    intro k r run hr hopen last
    by_cases hk : k = key
    · subst hk
      exact inv.latest row opened last
    · exact inv.latest (by simpa [hk] using hr) hopen last
  owner := by
    intro k r run hr state attempt
    by_cases hk : k = key
    · subst hk
      obtain rfl : record' = r := by simpa using hr
      exact absurd state next
    · exact inv.owner (by simpa [hk] using hr) state attempt

theorem Invariant.decided {w : World} (inv : Invariant w) {key : DedupKey}
    {row' : Option DedupRecord}
    (settled : ∀ record, row' = some record → record.state.terminal = true) :
    Invariant (w.decide (Function.update w.table key row') key) where
  latest := by
    intro k r run hr hopen last
    by_cases hk : k = key
    · subst hk
      have closed := settled r (by simpa [World.decide] using hr)
      simp [closed] at hopen
    · simp only [World.decide, Function.update_of_ne hk] at last ⊢
      exact inv.latest (by simpa [World.decide, hk] using hr) hopen last
  owner := by
    intro k r run hr state attempt
    by_cases hk : k = key
    · subst hk
      simp [World.decide] at attempt
    · simp only [World.decide, Function.update_of_ne hk] at attempt
      exact inv.owner (by simpa [World.decide, hk] using hr) state attempt

theorem Invariant.put {w : World} (inv : Invariant w) (index : ℕ) (d : Dispatch)
    (progress : Progress) : Invariant (w.put index d progress) :=
  ⟨inv.latest, inv.owner⟩

theorem own_of_uncontested {w : World} {index : ℕ} {writtenAt : ℚ} {d : Dispatch}
    {outcome : Outcome} {allow : Bool} {record : DedupRecord}
    (ha : uncontested w (.writeRow index true writtenAt) = true)
    (entry : w.history[index]? = some d) (before : d.progress = .reading outcome allow)
    (row : w.table d.key = some record) (opened : record.state.terminal = true → allow = true) :
    w.lastClaim d.key = some d.run ∧ record.state.terminal = false := by
  have through : (!record.state.terminal || allow) = true := by
    cases ht : record.state.terminal with
    | false => rfl
    | true => simp [opened ht]
  have hown : own w d record = true := by
    simpa [uncontested, contested, entry, before, row, through, Action.supervised] using ha
  simpa [own] using hown

theorem Invariant.step {w w' : World} {a : Action} (inv : Invariant w)
    (ha : uncontested w a = true) (h : DedupRuns.step w a = some w') : Invariant w' := by
  have supervised : a.supervised = true := by
    simp only [uncontested, Bool.and_eq_true] at ha
    exact ha.1
  cases step_effect h with
  | refused run key host enforce force stored verdict =>
    obtain rfl : enforce = true := supervised
    rcases gate_refusal_promotes verdict with same | ⟨record, row, attempting, moved⟩
    · rw [same]
      exact inv
    · rw [moved]
      exact inv.overwritten row (by simp [attempting, DedupState.terminal]) (by simp [promoted]) _
  | granted run key host enforce force stored verdict =>
    obtain rfl : enforce = true := supervised
    rw [(gate_dispatch_claims verdict).2]
    exact inv.grants key run host.writtenAt
  | moved _ index d progress => exact inv.put index d progress
  | unwritten index stored writtenAt d outcome => exact inv.put index d (.dropped outcome)
  | wrote index writtenAt d outcome allow record entry before row opened =>
    have hown := own_of_uncontested ha entry before row opened
    exact inv.overwritten row hown.2 outcome.toState_ne_attempting _
  | adjudicated key decision runId writtenAt record row =>
    refine inv.decided fun r hr => ?_
    obtain rfl := Option.some.inj hr
    exact decision.toState_terminal
  | forgotten key => exact inv.decided (by simp)

/-- In a run without contested writes, a terminal write that changes the row of
its key settles the attempt of its own run. -/
theorem terminal_write_own_attempt (table : DedupTable) (w w' : World) (index : ℕ) (stored : Bool)
    (writtenAt : ℚ) (d : Dispatch) (record : DedupRecord)
    (reached : Reaches DedupRuns.step (fun w a => uncontested w a = true) (World.start table) w)
    (admitted : uncontested w (.writeRow index stored writtenAt) = true)
    (written : DedupRuns.step w (.writeRow index stored writtenAt) = some w')
    (entry : w.history[index]? = some d) (row : w.table d.key = some record)
    (changed : w'.table d.key ≠ some record) : OwnAttempt w d record := by
  have inv : Invariant w :=
    Reaches.invariant reached (invariant_start table) fun _ _ _ inv ha hs => inv.step ha hs
  cases step_effect written with
  | moved => exact absurd row changed
  | unwritten => exact absurd row changed
  | wrote _ _ d' outcome allow r entry' before row' opened =>
    obtain rfl : d = d' := by simpa [entry] using entry'
    obtain rfl : record = r := by simpa [row] using row'
    obtain ⟨last, openRow⟩ := own_of_uncontested admitted entry before row opened
    have claimed := inv.latest row openRow last
    refine ⟨claimed, ?_⟩
    cases state : record.state with
    | attempting => exact .inl ⟨rfl, inv.owner row state claimed⟩
    | uncertain => exact .inr rfl
    | done | failed => simp [state, DedupState.terminal] at openRow

theorem attempt_is_last {table : DedupTable} {w : World} {ok : World → Action → Prop}
    (reached : Reaches DedupRuns.step ok (World.start table) w) :
    ∀ key run, w.attempt key = some run → w.lastClaim key = some run := by
  refine Reaches.invariant (I := fun w => ∀ key run, w.attempt key = some run →
    w.lastClaim key = some run) reached (by simp [World.start]) fun w a w' inv _ h => ?_
  intro k r hk
  cases step_effect h with
  | granted run key host enforce force stored =>
    simp only [World.grant] at hk ⊢
    split_ifs at hk ⊢ with hclaims
    · by_cases hkey : k = key
      · subst hkey
        simpa using hk
      · simpa [hkey] using inv k r (by simpa [hkey] using hk)
    · exact inv k r hk
  | adjudicated key | forgotten key =>
    by_cases hkey : k = key
    · subst hkey
      simp [World.decide] at hk
    · exact inv k r (by simpa [World.decide, hkey] using hk)
  | refused | moved | unwritten | wrote => exact inv k r hk

/-- The condition is exact: a contested write settles no attempt of its own run. -/
theorem contested_not_own {table : DedupTable} {w : World} {ok : World → Action → Prop}
    (reached : Reaches DedupRuns.step ok (World.start table) w) {index : ℕ} {writtenAt : ℚ}
    {d : Dispatch} {record : DedupRecord} (entry : w.history[index]? = some d)
    (row : w.table d.key = some record)
    (h : contested w (.writeRow index true writtenAt) = true) : ¬ OwnAttempt w d record := by
  intro attempt
  have last := attempt_is_last reached d.key d.run attempt.claimed
  have openRow : record.state.terminal = false := by
    rcases attempt.state with ⟨state, _⟩ | state <;> simp [state, DedupState.terminal]
  simp only [contested, entry, row] at h
  split at h
  · rename_i hprogress hrow
    obtain rfl := Option.some.inj hrow
    simp [own, last, openRow] at h
  · cases h

def publishedAttempt : List Action :=
  [.gate runA pageKey (hostAt 0) true false true,
    .finish 0 (.success (some "https://medium.example/a") true), .readRow 0 true]

def beforeWrite : World :=
  final DedupRuns.step uncontested (World.start fun _ => none) publishedAttempt

theorem terminal_write_own_attempt_published :
    OwnAttempt beforeWrite
      ⟨pageKey, runA, .reading (.success (some "https://medium.example/a") true) false⟩
      (claimed runA.claimant 0) :=
  terminal_write_own_attempt (fun _ => none) beforeWrite
    ((DedupRuns.step beforeWrite (.writeRow 0 true 1)).get (by decide)) 0 true 1 _ _
    (reaches_final _ _ _ (by decide)) (by decide) (Option.some_get _).symm (by decide)
    (by decide +kernel) (by decide +kernel)

/-- A slow run finishes after its row was promoted, adjudicated `failed` and
claimed by a third run. -/
def reclaimed : List Action :=
  [.gate runA pageKey (hostAt 0) true false true, .gate runB pageKey (hostAt 4000) true false true,
    .adjudicate pageKey .failed (some "run-a") 4001,
    .gate runC pageKey (hostAt 4002) true false true,
    .finish 0 (.failure (some "unexpected")), .readRow 0 true]

def afterReclaim : World :=
  final DedupRuns.step (fun _ a => a.supervised) (World.start fun _ => none) reclaimed

/-- The slow run settles the `attempting` row of the third run, whose dispatch
is still in flight, as `failed`. -/
theorem settles_foreign_attempt :
    ¬ ∀ (table : DedupTable) (w w' : World) (index : ℕ) (writtenAt : ℚ) (d : Dispatch)
      (record : DedupRecord),
      Reaches DedupRuns.step (fun _ a => a.supervised = true) (World.start table) w →
      DedupRuns.step w (.writeRow index true writtenAt) = some w' →
      w.history[index]? = some d → w.table d.key = some record → w'.table d.key ≠ some record →
      record.ownerRunId = d.run.runId ∨ record.state = .uncertain := by
  intro always
  have settled := always (fun _ => none) afterReclaim
    ((DedupRuns.step afterReclaim (.writeRow 0 true 4003)).get (by decide +kernel)) 0 4003
    ⟨pageKey, runA, .reading (.failure (some "unexpected")) false⟩ (claimed runC.claimant 4002)
    (reaches_final _ _ _ (by decide +kernel)) (Option.some_get _).symm (by decide +kernel)
    (by decide +kernel) (by decide +kernel)
  exact absurd settled (by decide)

end BacklinkPublisher.DedupOwnAttempt
