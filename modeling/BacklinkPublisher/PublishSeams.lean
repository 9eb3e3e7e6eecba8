import BacklinkPublisher.Checkpoints
import BacklinkPublisher.DedupGate
import BacklinkPublisher.PublishErrors

set_option autoImplicit false

/-!
# The two publish seams

One row through the fresh seam, `_publish_one_row` of
`cli/publish_backlinks/_engine.py`, and through the resume seam,
`_publish_one_resume_item` of `cli/_resume.py`. What a row meets on its way (the
gates before the dedup gate, the adapter, the verification) is given as
`RowAnswers`; log lines and throttling sleeps are left out.
-/
namespace BacklinkPublisher.PublishSeams
open DedupStore DedupGate PublishErrors Checkpoints

structure AdapterResult where
  status : String
  adapter : String
  platform : String
  draftUrl : String := ""
  publishedUrl : String := ""
  error : Option String := none
  postPublishDelaySeconds : ℤ := 0
  deriving DecidableEq, Repr

inductive AdapterOutcome where
  | returned (result : AdapterResult)
  | raised (exc : Raised)

/-- Everything outside the seams that one row asks, in the order it is asked. -/
structure RowAnswers where
  canarySkip : Bool := false
  failingUrl : Option String := none
  supported : Bool := true
  dryRunResult : AdapterResult
  tokenDrift : Option String := none
  gateHost : Host
  gateStored : Bool := true
  outcome : AdapterOutcome
  pathDrift : ℕ := 0
  verified : Bool
  terminalStored : Bool := true
  terminalAt : ℚ
  completedAt : String

structure SeamConfig where
  canonicalizeUrl : String → Option String
  isWord : Char → Bool
  pid : Int
  enforce : Bool

structure Stores where
  table : DedupTable
  checkpoint : Checkpoint

structure PublishOptions where
  platform : Option String := none
  mode : Option String := none
  dryRun : Bool := false
  skipPublishTimeCheck : Bool := false
  noVerify : Bool := false

/-- A row of the output; the keys that no other code path reads are left out. -/
structure OutputRow where
  id : String
  platform : String
  status : String
  title : String
  draftUrl : String := ""
  publishedUrl : String := ""
  createdAt : String
  adapter : String := ""
  error : Option String := none
  failingUrl : Option String := none
  dedupVerdict : Option String := none
  dryRun : Bool := false
  deriving DecidableEq, Repr

structure PublishRunState where
  outputs : List OutputRow := []
  successCount : ℕ := 0
  failCount : ℕ := 0
  skippedUnreachableCount : ℕ := 0
  skippedQuarantinedCount : ℕ := 0
  publishPathDriftCount : ℕ := 0
  dedupSkipCount : ℕ := 0
  dedupHoldCount : ℕ := 0
  lastMediumSuccessIdx : ℤ := -1
  runId : Option String := none
  authError : Option String := none
  authErrorClass : Option String := none
  dependencyError : Option String := none
  conflictError : Option String := none

inductive Sentinel where
  | authAbort
  | rowContinue
  | depAbort
  | conflictAbort
  deriving DecidableEq, Repr

/-- `override or row.get("platform", "")`. -/
def platformOf (override : Option String) (row : PublishRow) : String :=
  (truthy override).getD (row.platform.getD "")

/-! ## What the two seams share -/

def AdapterResult.inBandError (result : AdapterResult) : Option String := truthy result.error

def policySkipped (result : AdapterResult) : Bool :=
  result.status = "skipped_policy" || result.status = "skipped_circuit_open"

def inBandErrorClass (result : AdapterResult) : String :=
  if policySkipped result then policySkip else "unexpected"

def doVerify (noVerify dryRun : Bool) (result : AdapterResult) (verified : Bool) : Bool :=
  if noVerify || dryRun then true
  else if result.publishedUrl = "" && result.draftUrl = "" then false
  else verified

def liveUrlOf (result : AdapterResult) : Option String :=
  (truthy (some result.publishedUrl)).or (truthy (some result.draftUrl))

def SeamConfig.record (config : SeamConfig) (answers : RowAnswers) (stores : Stores)
    (row : PublishRow) (platform : String) (runId : Option String) (outcome : Outcome) : Stores :=
  if answers.terminalStored then
    { stores with
      table := recordTerminal stores.table (keyForRow config.canonicalizeUrl row.targetUrl platform)
        ⟨runId, config.pid⟩ outcome answers.terminalAt }
  else stores

def SeamConfig.recordFailure (config : SeamConfig) (answers : RowAnswers) (stores : Stores)
    (row : PublishRow) (platform : String) (runId errorClass : Option String) : Stores :=
  config.record answers stores row platform runId (.failure errorClass)

def SeamConfig.recordDone (config : SeamConfig) (answers : RowAnswers) (stores : Stores)
    (row : PublishRow) (platform : String) (runId liveUrl : Option String) (verifyOk : Bool) :
    Stores :=
  config.record answers stores row platform runId (.success liveUrl verifyOk)

def Stores.updateItem (stores : Stores) (itemId : String) (status : ItemStatus)
    (fields : ItemFields) : Stores :=
  { stores with checkpoint := stores.checkpoint.updateItem itemId status fields }

/-! ## The fresh seam -/

def buildFailureRow (status : String) (row : PublishRow) (platform error ts : String)
    (adapter : String) (failingUrl : Option String) : OutputRow where
  id := row.id
  platform := platform
  status := status
  title := row.title
  createdAt := ts
  adapter := adapter
  error := some error
  failingUrl := failingUrl

def buildSkipRow (row : PublishRow) (platform : String) (liveUrl : Option String) (ts : String) :
    OutputRow where
  id := row.id
  platform := platform
  status := "skipped_duplicate"
  title := row.title
  publishedUrl := liveUrl.getD ""
  createdAt := ts
  adapter := platform
  dedupVerdict := some "skip"

def AdapterResult.toPublishOutput (result : AdapterResult) (row : PublishRow) (ts : String) :
    OutputRow where
  id := row.id
  platform := result.platform
  status := result.status
  title := row.title
  draftUrl := result.draftUrl
  publishedUrl := result.publishedUrl
  createdAt := ts
  adapter := result.adapter
  error := result.error

def dryRunOutput (result : AdapterResult) (row : PublishRow) (platform ts : String) : OutputRow where
  id := row.id
  platform := platform
  status := result.status
  title := row.title
  draftUrl := result.draftUrl
  publishedUrl := result.publishedUrl
  createdAt := ts
  adapter := result.adapter
  dryRun := true

/-- The gates of the fresh seam that come before the dedup gate. -/
def preflight (options : PublishOptions) (answers : RowAnswers) (state : PublishRunState)
    (row : PublishRow) (platform ts : String) : PublishRunState × Option Sentinel :=
  if answers.canarySkip then
    ({ state with skippedQuarantinedCount := state.skippedQuarantinedCount + 1 },
      some .rowContinue)
  else
    match if options.dryRun || options.skipPublishTimeCheck then none else answers.failingUrl with
    | some url =>
      ({ state with
          outputs := state.outputs ++ [buildFailureRow "skipped_unreachable" row platform
            ("target unreachable at publish-time: " ++ url) ts "" (some url)]
          skippedUnreachableCount := state.skippedUnreachableCount + 1 }, some .rowContinue)
    | none =>
      if !answers.supported then
        ({ state with
            outputs := state.outputs ++ [buildFailureRow "failed" row platform
              ("unsupported platform: " ++ platform) ts platform none]
            failCount := state.failCount + 1 }, some .rowContinue)
      else if options.dryRun then
        ({ state with
            outputs := state.outputs ++ [dryRunOutput answers.dryRunResult row platform ts]
            successCount := state.successCount + 1 }, some .rowContinue)
      else
        match answers.tokenDrift with
        | some message => ({ state with dependencyError := some message }, some .depAbort)
        | none => (state, none)

/-- `gate_with_force` without its audit entry. -/
def gateWithForce (config : SeamConfig) (answers : RowAnswers) (table : DedupTable)
    (key : Option DedupKey) (runId : Option String) (forced : DedupKey → Bool) :
    DedupTable × GateDecision :=
  gate table key ⟨runId, config.pid⟩ answers.gateHost config.enforce (key.any forced)
    answers.gateStored

def checkPublishPreconditions (config : SeamConfig) (options : PublishOptions)
    (answers : RowAnswers) (forced : DedupKey → Bool) (state : PublishRunState) (stores : Stores)
    (row : PublishRow) (ts : String) : PublishRunState × Stores × Option Sentinel :=
  let platform := platformOf options.platform row
  match preflight options answers state row platform ts with
  | (state, some sentinel) => (state, stores, some sentinel)
  | (state, none) =>
    let key := keyForRow config.canonicalizeUrl row.targetUrl platform
    let (table, decision) := gateWithForce config answers stores.table key state.runId forced
    let stores := { stores with table }
    match decision.verdict with
    | .conflict =>
      ({ state with conflictError := some ("force-manifest conflict: " ++ platform ++
          " key is already published (done); refusing to re-publish — use --forget if truly " ++
          "intended") }, stores, some .conflictAbort)
    | .skip =>
      ({ state with
          outputs := state.outputs ++
            [buildSkipRow row platform (decision.record.bind (·.liveUrl)) ts]
          dedupSkipCount := state.dedupSkipCount + 1 }, stores, some .rowContinue)
    | .hold =>
      ({ state with dedupHoldCount := state.dedupHoldCount + 1 }, stores, some .rowContinue)
    | .dispatch => (state, stores, none)

/-- `_try_update_ckpt_failed` with a checkpoint that can be written. -/
def tryUpdateCkptFailed (stores : Stores) (runId : Option String) (rowId error errorClass : String) :
    Stores :=
  match runId with
  | none => stores
  | some _ => stores.updateItem rowId .failed { error, errorClass := some errorClass }

/-- `_record_publish_failure` and the counter its callers raise with it. -/
def recordPublishFailure (config : SeamConfig) (answers : RowAnswers) (state : PublishRunState)
    (stores : Stores) (row : PublishRow) (platform ts errorClass message : String) :
    PublishRunState × Stores :=
  ({ state with
      failCount := state.failCount + 1
      outputs := state.outputs ++ [buildFailureRow "failed" row platform message ts platform none] },
    config.recordFailure answers (tryUpdateCkptFailed stores state.runId row.id message errorClass)
      row platform state.runId (some errorClass))

/-- The `except` arms of `_dispatch_adapter_publish`, in their order. -/
def freshArms (config : SeamConfig) (answers : RowAnswers) (state : PublishRunState)
    (stores : Stores) (row : PublishRow) (platform ts : String) (exc : Raised) :
    PublishRunState × Stores × Sentinel :=
  let failed (errorClass message : String) : PublishRunState × Stores × Sentinel :=
    let (state, stores) :=
      recordPublishFailure config answers state stores row platform ts errorClass message
    (state, stores, .rowContinue)
  if exc.isInstance .authExpiredError then
    let stores := config.recordFailure answers stores row platform state.runId (some "auth_expired")
    ({ state with authError := some exc.message, authErrorClass := some exc.className },
      tryUpdateCkptFailed stores state.runId row.id exc.message "auth_expired", .authAbort)
  else if exc.isInstance .bannerUploadError then
    failed "banner_upload" ("banner upload failed: " ++ exc.message)
  else if exc.isInstance .contentRejectedError then
    failed "content_rejected" ("content rejected: " ++ exc.message)
  else if exc.isInstance .dependencyError then
    ({ state with dependencyError := some exc.message },
      config.recordFailure answers stores row platform state.runId (some "dependency"), .depAbort)
  else if exc.isInstance .externalServiceError then
    failed (classifyException config.isWord exc).value ("service error: " ++ exc.message)
  else failed "unexpected" ("unexpected error: " ++ exc.message)

/-- The last output of a row that failed its verification. -/
def markUnverified (outputs : List OutputRow) : List OutputRow :=
  outputs.modify (outputs.length - 1) fun out => { out with status := out.status ++ "_unverified" }

def processPublishResult (config : SeamConfig) (options : PublishOptions) (answers : RowAnswers)
    (state : PublishRunState) (stores : Stores) (rowIdx : ℕ) (row : PublishRow)
    (platform ts : String) (result : AdapterResult) : PublishRunState × Stores :=
  let outputs := state.outputs ++ [result.toPublishOutput row ts]
  match result.inBandError with
  | some error =>
    let stores := config.recordFailure answers stores row platform state.runId none
    ({ state with outputs := outputs, failCount := state.failCount + 1 },
      tryUpdateCkptFailed stores state.runId row.id error (inBandErrorClass result))
  | none =>
    let verifyOk := doVerify options.noVerify options.dryRun result answers.verified
    let stores :=
      config.recordDone answers stores row platform state.runId (liveUrlOf result) verifyOk
    ({ state with
        outputs := if verifyOk then outputs else markUnverified outputs
        successCount := state.successCount + 1
        lastMediumSuccessIdx :=
          if result.postPublishDelaySeconds > 0 then rowIdx else state.lastMediumSuccessIdx
        publishPathDriftCount := state.publishPathDriftCount + answers.pathDrift },
      match state.runId with
      | none => stores
      | some _ => stores.updateItem row.id .done
          { publishedUrl := some result.publishedUrl
            articleUrls := some ([result.publishedUrl, result.draftUrl].filter (· ≠ ""))
            adapter := some result.adapter
            completedAt := some answers.completedAt
            verified := some verifyOk })

def publishOneRow (config : SeamConfig) (options : PublishOptions) (answers : RowAnswers)
    (forced : DedupKey → Bool) (state : PublishRunState) (stores : Stores) (rowIdx : ℕ)
    (row : PublishRow) (ts : String) : PublishRunState × Stores × Option Sentinel :=
  match checkPublishPreconditions config options answers forced state stores row ts with
  | (state, stores, some sentinel) => (state, stores, some sentinel)
  | (state, stores, none) =>
    let platform := platformOf options.platform row
    match answers.outcome with
    | .raised exc =>
      let (state, stores, sentinel) := freshArms config answers state stores row platform ts exc
      (state, stores, some sentinel)
    | .returned result =>
      let (state, stores) :=
        processPublishResult config options answers state stores rowIdx row platform ts result
      (state, stores, none)

structure ResumeLoopState where
  lastMediumSuccessIdx : ℤ := -1
  unverifiedIds : List String := []
  dedupSkipCount : ℕ := 0
  dedupHoldCount : ℕ := 0

def recordResumeFailure (config : SeamConfig) (answers : RowAnswers) (stores : Stores)
    (runId itemId : String) (row : PublishRow) (platform errorClass message : String) : Stores :=
  config.recordFailure answers
    (stores.updateItem itemId .failed { error := some message, errorClass := some errorClass })
    row platform (some runId) (some errorClass)

/-- The `except` arms of `_publish_one_resume_item`, in their order; the exit
code of those that end the run. -/
def resumeArms (config : SeamConfig) (answers : RowAnswers) (stores : Stores)
    (runId itemId : String) (row : PublishRow) (platform : String) (exc : Raised) :
    Stores × Option ℕ :=
  let failed (errorClass message : String) : Stores × Option ℕ :=
    (recordResumeFailure config answers stores runId itemId row platform errorClass message, none)
  if exc.isInstance .authExpiredError then
    ((config.recordFailure answers stores row platform (some runId) (some "auth_expired")).updateItem
      itemId .failed { error := some exc.message, errorClass := some "auth_expired" }, some 3)
  else if exc.isInstance .bannerUploadError then
    failed "banner_upload" ("banner upload failed: " ++ exc.message)
  else if exc.isInstance .dependencyError then
    (config.recordFailure answers stores row platform (some runId) (some "dependency"), some 3)
  else if exc.isInstance .externalServiceError then
    failed (classifyException config.isWord exc).value ("service error: " ++ exc.message)
  else failed "unexpected" ("unexpected error: " ++ exc.message)

/-- The part of `_publish_one_resume_item` after a result came back. -/
def processResumeResult (config : SeamConfig) (noVerify : Bool) (answers : RowAnswers)
    (state : ResumeLoopState) (stores : Stores) (itemIdx : ℕ) (runId itemId : String)
    (row : PublishRow) (platform : String) (result : AdapterResult) : ResumeLoopState × Stores :=
  match result.inBandError with
  | some error =>
    let stores := config.recordFailure answers stores row platform (some runId) none
    (state, stores.updateItem itemId .failed
      { error := some error, errorClass := some (inBandErrorClass result) })
  | none =>
    let verifyOk := doVerify noVerify false result answers.verified
    let stores :=
      config.recordDone answers stores row platform (some runId) (liveUrlOf result) verifyOk
    ({ state with
        unverifiedIds := if verifyOk then state.unverifiedIds else state.unverifiedIds.insert itemId
        lastMediumSuccessIdx :=
          if result.postPublishDelaySeconds > 0 then itemIdx else state.lastMediumSuccessIdx },
      stores.updateItem itemId .done
        { publishedUrl := some result.publishedUrl
          adapter := some result.adapter
          completedAt := some answers.completedAt
          verified := some verifyOk })

def publishOneResumeItem (config : SeamConfig) (noVerify : Bool) (answers : RowAnswers)
    (state : ResumeLoopState) (stores : Stores) (itemIdx : ℕ) (runId itemId : String)
    (row : PublishRow) : ResumeLoopState × Stores × Option ℕ :=
  let platform := platformOf stores.checkpoint.platform row
  match answers.tokenDrift with
  | some _ => (state, stores, some 3)
  | none =>
    let key := keyForRow config.canonicalizeUrl row.targetUrl platform
    let (table, decision) :=
      gate stores.table key ⟨some runId, config.pid⟩ answers.gateHost config.enforce false
        answers.gateStored
    let stores := { stores with table }
    match decision.verdict with
    | .skip =>
      ({ state with dedupSkipCount := state.dedupSkipCount + 1 },
        stores.updateItem itemId .done
          { publishedUrl := decision.record.bind (·.liveUrl)
            adapter := some platform
            completedAt := some answers.completedAt
            verified := some true }, none)
    | .hold => ({ state with dedupHoldCount := state.dedupHoldCount + 1 }, stores, none)
    | .dispatch | .conflict =>
      match answers.outcome with
      | .raised exc =>
        let (stores, exit) := resumeArms config answers stores runId itemId row platform exc
        (state, stores, exit)
      | .returned result =>
        let (state, stores) :=
          processResumeResult config noVerify answers state stores itemIdx runId itemId row
            platform result
        (state, stores, none)

end BacklinkPublisher.PublishSeams
