import BacklinkPublisher.Checkpoints
import BacklinkPublisher.OrderedDicts

set_option autoImplicit false

/-!
# The keep-alive chain

`plan_keepalive_gap` of `gap/engine.py`, `keepalive/run_state.py` and steps 3 to 5 of
`run_cycle` in `keepalive/chain.py`. What steps 1 and 2 derive from the rechecks is given to a
cycle as the status of each target.
-/
namespace BacklinkPublisher.Keepalive
open Checkpoints OrderedDicts

/-! ## Gaps -/

def deadVerdicts : List String := ["link_stripped", "host_gone"]

def excludedHosts : List String := ["example.com"]

def runtimeStickyPlatforms : List String := ["blogger"]

structure GapOptions where
  language : String
  urlMode : String := "A"
  publishMode : String := "draft"
  deriving DecidableEq, Repr

/-- What the rechecks say of a target. -/
structure TargetStatus where
  counts : String → ℕ := fun _ => 0
  alivePlatforms : List String := []

structure Seed where
  targetUrl : String
  platform : String
  mainDomain : String
  language : String
  urlMode : String
  publishMode : String
  deriving DecidableEq, Repr

structure KeepaliveGap where
  targetUrl : String
  stripped : ℕ
  emittedPlatforms : List String
  channelExhausted : Bool
  deriving DecidableEq, Repr

/-- The URL helpers; `none` is an exception. `hostname` is in lower case, `""` where there is
none. -/
structure Urls where
  hostname : String → Option String
  canonicalizeUrl : String → Option String
  deriveMainDomain : String → Option String

section Gaps
variable (urls : Urls) (perTargetStatus : String → Option TargetStatus) (opts : GapOptions)
  (stickyPlatforms : List String)

def strippedCount (status : TargetStatus) : ℕ := (deadVerdicts.map status.counts).sum

/-- One republish for each dead link, cycling the free destinations. -/
def emittedPlatforms (stripped : ℕ) (stickyAvail : List String) : List String :=
  (List.range stripped).filterMap fun i => stickyAvail[i % stickyAvail.length]?

def seedOf (target mainDomain platform : String) : Seed where
  targetUrl := target
  platform := platform
  mainDomain := mainDomain
  language := opts.language
  urlMode := opts.urlMode
  publishMode := opts.publishMode

/-- The seeds and the gap of a target with a dead link and no sticky coverage. -/
def gapSeeds (target : String) (status : TargetStatus) : Option (List Seed × List KeepaliveGap) :=
  if strippedCount status = 0 then some ([], [])
  else if status.alivePlatforms.any (· ∈ stickyPlatforms) then some ([], [])
  else
    let stickyAvail := stickyPlatforms.filter (· ∉ status.alivePlatforms)
    let emitted := emittedPlatforms (strippedCount status) stickyAvail
    (urls.deriveMainDomain target).map fun mainDomain =>
      (emitted.map (seedOf opts target mainDomain),
        [⟨target, strippedCount status, emitted, stickyAvail.isEmpty⟩])

/-- The body of the loop over the ledger rows; a row is the text of its `target_url`. -/
def planRow (row : Option String) : Option (List Seed × List KeepaliveGap) :=
  match row.bind fun target => truthy (some target) with
  | none => some ([], [])
  | some target =>
    (urls.hostname target).bind fun host =>
      if host ∈ excludedHosts then some ([], [])
      else match (urls.canonicalizeUrl target).bind perTargetStatus with
        | none => some ([], [])
        | some status => gapSeeds urls opts stickyPlatforms target status

def planKeepaliveGap (rows : List (Option String)) : Option (List Seed × List KeepaliveGap) :=
  (rows.mapM (planRow urls perTargetStatus opts stickyPlatforms)).map fun parts =>
    (parts.flatMap Prod.fst, parts.flatMap Prod.snd)

end Gaps

/-! ## The run state -/

structure RetryEntry where
  targetUrl : String
  attempts : ℕ := 0
  platformsTried : List String := []
  lastOutcome : Option String := none
  deriving DecidableEq, Repr

structure CycleSummary where
  gapsFound : ℕ := 0
  published : ℕ := 0
  reverifiedAlive : ℕ := 0
  reverifiedDead : ℕ := 0
  reverifiedError : ℕ := 0
  exhaustedSkipped : ℕ := 0
  deriving DecidableEq, Repr

structure RunState where
  lastCycleSummary : CycleSummary := {}
  retryCounts : List RetryEntry := []
  deriving DecidableEq, Repr

def defaultMaxRetry : ℕ := 3

/-- `MAX_RETRY`; the variable is `none` where it is unset or no number. -/
def maxRetry (setting : Option ℤ) : ℕ :=
  match setting with
  | none => defaultMaxRetry
  | some n => (max 1 n).toNat

def attempts (state : RunState) (target : String) : ℕ :=
  ((lookup RetryEntry.targetUrl target state.retryCounts).map RetryEntry.attempts).getD 0

def isExhausted (limit : ℕ) (state : RunState) (target : String) : Bool :=
  limit ≤ attempts state target

def countedOutcomes : List String :=
  ["link_stripped", "host_gone", "reverify_dead", "publish_failed"]

def RetryEntry.record (platform outcome : String) (entry : RetryEntry) : RetryEntry :=
  { entry with
    lastOutcome := some outcome
    platformsTried :=
      if platform ∈ entry.platformsTried then entry.platformsTried
      else entry.platformsTried ++ [platform]
    attempts := entry.attempts + if outcome ∈ countedOutcomes then 1 else 0 }

def recordAttempt (target platform outcome : String) (state : RunState) : RunState :=
  { state with
    retryCounts := adjust RetryEntry.targetUrl target (RetryEntry.record platform outcome)
      (ensure RetryEntry.targetUrl { targetUrl := target } state.retryCounts) }

def resetExhausted (target : String) (state : RunState) : RunState :=
  { state with retryCounts := remove RetryEntry.targetUrl target state.retryCounts }

def updateCycleSummary (summary : CycleSummary) (state : RunState) : RunState :=
  { state with lastCycleSummary := summary }

/-! ## A cycle -/

/-- What became of `_publish`: an exception, no URL, or the URL without surrounding blanks. -/
inductive PublishOutcome where
  | raised
  | failed
  | url (publishedUrl : String)
  deriving DecidableEq, Repr

structure PublishResult where
  targetUrl : String
  platform : String
  publishedUrl : String
  deriving DecidableEq, Repr

/-- `_default_publish_seed`, with the row that stands for its exception. -/
def publishSeed (seed : Seed) (outcome : PublishOutcome) : PublishResult where
  targetUrl := seed.targetUrl
  platform := seed.platform
  publishedUrl := match outcome with
    | .raised | .failed => ""
    | .url publishedUrl => publishedUrl

def filterExhaustedSeeds (limit : ℕ) (state : RunState) (seedsRaw : List Seed) : List Seed :=
  seedsRaw.filter fun seed => !isExhausted limit state seed.targetUrl

/-- `seeds[:n]`. -/
def takeSlice {α : Type} (n : ℤ) (seeds : List α) : List α :=
  if 0 ≤ n then seeds.take n.toNat else seeds.take (seeds.length - n.natAbs)

def capSeeds (maxGaps : Option ℤ) (seeds : List Seed) : List Seed :=
  match maxGaps with
  | none => seeds
  | some n => takeSlice n seeds

/-- The locals of steps 4 and 5. -/
structure Stage where
  state : RunState
  summary : CycleSummary
  deriving DecidableEq, Repr

def recordPublish (result : PublishResult) (stage : Stage) : Stage :=
  if result.publishedUrl ≠ "" then
    { stage with summary := { stage.summary with published := stage.summary.published + 1 } }
  else if result.targetUrl ≠ "" ∧ result.platform ≠ "" then
    { stage with
      state := recordAttempt result.targetUrl result.platform "publish_failed" stage.state }
  else stage

def runPublishStep (results : List PublishResult) (stage : Stage) : Stage :=
  results.foldl (fun stage result => recordPublish result stage) stage

/-- The verdict of `_reverify`; `none` is an exception or a missing verdict. -/
def verdictOf (reverified : Option String) : String := (truthy reverified).getD "probe_error"

def recordReverify (entry : PublishResult × Option String) (stage : Stage) : Stage :=
  let (result, reverified) := entry
  if result.publishedUrl = "" then stage
  else if verdictOf reverified = "alive" then
    { stage with
      summary := { stage.summary with reverifiedAlive := stage.summary.reverifiedAlive + 1 } }
  else if verdictOf reverified ∈ deadVerdicts then
    { state := recordAttempt result.targetUrl result.platform (verdictOf reverified) stage.state
      summary := { stage.summary with reverifiedDead := stage.summary.reverifiedDead + 1 } }
  else
    { stage with
      summary := { stage.summary with reverifiedError := stage.summary.reverifiedError + 1 } }

def runReverifyStep (entries : List (PublishResult × Option String)) (stage : Stage) : Stage :=
  entries.foldl (fun stage entry => recordReverify entry stage) stage

/-- What a cycle meets. `publish` and `reverify` give the outcome for each seed by its place,
`hasWeight` says which platforms the optimization state has not broken. -/
structure CycleInputs where
  acquired : Bool := true
  hasWeight : String → Bool := fun _ => true
  rows : List (Option String)
  perTargetStatus : String → Option TargetStatus
  dryRun : Bool := false
  maxGaps : Option ℤ := none
  publish : ℕ → PublishOutcome
  reverify : ℕ → Option String

/-- How a cycle ends, with the state that it leaves. -/
inductive CycleEnd where
  | skipped
  | raised
  | dryRun (summary : CycleSummary) (seeds : List Seed)
  | finished (summary : CycleSummary) (entries : List (PublishResult × Option String))
  deriving DecidableEq, Repr

def cycleOptions : GapOptions where
  language := "zh-CN"

def CycleInputs.effectiveSticky (inputs : CycleInputs) : List String :=
  runtimeStickyPlatforms.filter inputs.hasWeight

def CycleInputs.results (inputs : CycleInputs) (seeds : List Seed) :
    List (PublishResult × Option String) :=
  seeds.zipIdx.map fun (seed, i) => (publishSeed seed (inputs.publish i), inputs.reverify i)

/-- Steps 4 and 5 over the seeds that are left. -/
def republish (inputs : CycleInputs) (seeds : List Seed) (stage : Stage) : Stage :=
  let entries := inputs.results seeds
  runReverifyStep entries (runPublishStep (entries.map Prod.fst) stage)

def runCycle (urls : Urls) (limit : ℕ) (inputs : CycleInputs) (state : RunState) :
    RunState × CycleEnd :=
  if !inputs.acquired then (state, .skipped)
  else
    let effective := inputs.effectiveSticky
    if effective.isEmpty then (updateCycleSummary {} state, .finished {} [])
    else
      match planKeepaliveGap urls inputs.perTargetStatus cycleOptions effective inputs.rows with
      | none => (state, .raised)
      | some (seedsRaw, _) =>
        if inputs.dryRun then (state, .dryRun { gapsFound := seedsRaw.length } seedsRaw)
        else
          let kept := filterExhaustedSeeds limit state seedsRaw
          let seeds := capSeeds inputs.maxGaps kept
          let stage := republish inputs seeds
            { state := state
              summary := {
                gapsFound := seedsRaw.length
                exhaustedSkipped := seedsRaw.length - kept.length } }
          (updateCycleSummary stage.summary stage.state,
            .finished stage.summary (inputs.results seeds))

/-! ## Attempts -/

theorem record_targetUrl (platform outcome : String) (entry : RetryEntry) :
    (entry.record platform outcome).targetUrl = entry.targetUrl := rfl

theorem attempts_recordAttempt (state : RunState) (target platform outcome t : String) :
    attempts (recordAttempt target platform outcome state) t =
      attempts state t + if t = target ∧ outcome ∈ countedOutcomes then 1 else 0 := by
  unfold attempts recordAttempt
  rw [lookup_adjust (record_targetUrl platform outcome), lookup_ensure]
  by_cases same : t = target
  · cases lookup RetryEntry.targetUrl t state.retryCounts <;> simp [same, RetryEntry.record]
  · simp [same]

theorem attempts_resetExhausted (state : RunState) (target t : String) :
    attempts (resetExhausted target state) t = if t = target then 0 else attempts state t := by
  unfold attempts resetExhausted
  rw [lookup_remove]
  split_ifs <;> rfl

end BacklinkPublisher.Keepalive
