import BacklinkPublisher.PublishSeams
import Mathlib.Tactic.FinCases

set_option autoImplicit false

/-!
# The publish loop

`run_publish_loop` of `cli/publish_backlinks/_engine.py` over the fresh seam: every row
is counted once, whatever its gates, its adapter and its verification answer.
-/
namespace BacklinkPublisher.PublishLoop
open DedupStore DedupGate PublishErrors Checkpoints PublishSeams

/-- A row of the run with everything that it will meet. -/
structure LoopRow where
  row : PublishRow
  answers : RowAnswers

/-- What the loop leaves. `stoppedOn` is the row after which it returned early. -/
structure LoopEnd where
  state : PublishRunState
  stores : Stores
  authAborted : Bool := false
  dependencyAborted : Bool := false
  conflictAborted : Bool := false
  stoppedOn : Option ℕ := none

def LoopEnd.abortFlags (finish : LoopEnd) : List Bool :=
  [finish.authAborted, finish.dependencyAborted, finish.conflictAborted]

section Loop
variable (config : SeamConfig) (options : PublishOptions) (forced : DedupKey → Bool) (ts : String)

def runPublishLoop : ℕ → List LoopRow → PublishRunState → Stores → LoopEnd
  | _, [], state, stores => { state := state, stores := stores }
  | rowIdx, entry :: rows, state, stores =>
    let (state, stores, result) :=
      publishOneRow config options entry.answers forced state stores rowIdx entry.row ts
    match result with
    | some .authAbort =>
      { state := state, stores := stores, authAborted := true, stoppedOn := some rowIdx }
    | some .depAbort =>
      { state := state, stores := stores, dependencyAborted := true, stoppedOn := some rowIdx }
    | some .conflictAbort =>
      { state := state, stores := stores, conflictAborted := true, stoppedOn := some rowIdx }
    | some .rowContinue | none => runPublishLoop (rowIdx + 1) rows state stores

end Loop

/-! ## The books -/

/-- How a row that the loop goes on after is entered in the books. -/
inductive Entry where
  | published
  | failed
  | unreachable
  | quarantined
  | skipped
  | held
  deriving DecidableEq, Repr

/-- The row counters of a run, the number of its outputs and of those with an error. -/
structure Books where
  success : ℕ
  fail : ℕ
  unreachable : ℕ
  quarantined : ℕ
  skipped : ℕ
  held : ℕ
  outputs : ℕ
  failedOutputs : ℕ
  deriving DecidableEq, Repr

def Books.post (books : Books) : Entry → Books
  | .published => { books with success := books.success + 1, outputs := books.outputs + 1 }
  | .failed =>
    { books with
      fail := books.fail + 1
      outputs := books.outputs + 1
      failedOutputs := books.failedOutputs + 1 }
  | .unreachable =>
    { books with
      unreachable := books.unreachable + 1
      outputs := books.outputs + 1
      failedOutputs := books.failedOutputs + 1 }
  | .quarantined => { books with quarantined := books.quarantined + 1 }
  | .skipped => { books with skipped := books.skipped + 1, outputs := books.outputs + 1 }
  | .held => { books with held := books.held + 1 }

/-- The sum of the row counters. -/
def Books.tally (books : Books) : ℕ :=
  books.success + books.fail + books.unreachable + books.quarantined + books.skipped + books.held

/-- The counters account for `n` rows, and the outputs for the counters. -/
structure Balanced (n : ℕ) (books : Books) : Prop where
  rows : books.tally = n
  outputs : books.outputs + books.quarantined + books.held = n
  failed : books.failedOutputs = books.fail + books.unreachable

theorem Balanced.post {n : ℕ} {books : Books} (h : Balanced n books) (entry : Entry) :
    Balanced (n + 1) (books.post entry) := by
  obtain ⟨rows, outputs, failed⟩ := h
  unfold Books.tally at rows
  cases entry <;> refine ⟨?_, ?_, ?_⟩ <;> simp only [Books.tally, Books.post] <;> omega

def failedOutputs (outputs : List OutputRow) : ℕ := outputs.countP (·.error.isSome)

def booksOf (state : PublishRunState) : Books where
  success := state.successCount
  fail := state.failCount
  unreachable := state.skippedUnreachableCount
  quarantined := state.skippedQuarantinedCount
  skipped := state.dedupSkipCount
  held := state.dedupHoldCount
  outputs := state.outputs.length
  failedOutputs := failedOutputs state.outputs

theorem balanced_start (runId : Option String) : Balanced 0 (booksOf { runId := runId }) :=
  ⟨rfl, rfl, rfl⟩

theorem failedOutputs_concat (outputs : List OutputRow) (out : OutputRow) :
    failedOutputs (outputs ++ [out]) = failedOutputs outputs + if out.error.isSome then 1 else 0 := by
  unfold failedOutputs
  rw [List.countP_append, List.countP_singleton]

theorem failedOutputs_markUnverified (outputs : List OutputRow) :
    failedOutputs (markUnverified outputs) = failedOutputs outputs := by
  unfold markUnverified
  generalize outputs.length - 1 = last
  induction outputs generalizing last with
  | nil => simp
  | cons out outputs ih =>
    cases last with
    | zero => simp [failedOutputs, List.countP_cons]
    | succ last =>
      have tail := ih last
      unfold failedOutputs at tail ⊢
      rw [List.modify_succ_cons, List.countP_cons, List.countP_cons, tail]

theorem length_markUnverified (outputs : List OutputRow) :
    (markUnverified outputs).length = outputs.length :=
  List.length_modify _ _ _

/-! ## One row -/

def aborts : Option Sentinel → Bool
  | some .authAbort | some .depAbort | some .conflictAbort => true
  | some .rowContinue | none => false

/-- A row that ends the run leaves the books as they were, any other is entered once. -/
def Accounts (state state' : PublishRunState) (result : Option Sentinel) : Prop :=
  if aborts result then booksOf state' = booksOf state
  else ∃ entry, booksOf state' = (booksOf state).post entry

/-- The gates account for a row that they end, and leave the state of any other alone. -/
def Passes (state state' : PublishRunState) (result : Option Sentinel) : Prop :=
  if result.isSome then Accounts state state' result else state' = state

section Rows
variable (config : SeamConfig) (options : PublishOptions) (answers : RowAnswers)
  (forced : DedupKey → Bool) (state : PublishRunState) (stores : Stores) (row : PublishRow)

theorem preflight_passes (platform ts : String) :
    Passes state (preflight options answers state row platform ts).1
      (preflight options answers state row platform ts).2 := by
  unfold preflight
  cases answers.canarySkip with
  | true => exact ⟨.quarantined, rfl⟩
  | false =>
    simp only [Bool.false_eq_true, if_false]
    cases (if (options.dryRun || options.skipPublishTimeCheck) = true then none
      else answers.failingUrl) with
    | some url =>
      refine ⟨.unreachable, ?_⟩
      simp [booksOf, Books.post, failedOutputs_concat, buildFailureRow]
    | none =>
      cases answers.supported with
      | false =>
        refine ⟨.failed, ?_⟩
        simp [booksOf, Books.post, failedOutputs_concat, buildFailureRow]
      | true =>
        cases options.dryRun with
        | true =>
          refine ⟨.published, ?_⟩
          simp [booksOf, Books.post, failedOutputs_concat, dryRunOutput]
        | false =>
          cases answers.tokenDrift with
          | some message => exact rfl
          | none => exact rfl

theorem checkPublishPreconditions_passes (ts : String) :
    Passes state (checkPublishPreconditions config options answers forced state stores row ts).1
      (checkPublishPreconditions config options answers forced state stores row ts).2.2 := by
  have gates := preflight_passes options answers state row (platformOf options.platform row) ts
  unfold checkPublishPreconditions
  dsimp only
  generalize preflight options answers state row (platformOf options.platform row) ts = checked
    at gates
  obtain ⟨state', sentinel⟩ := checked
  cases sentinel with
  | some sentinel => exact gates
  | none =>
    have same : state' = state := gates
    subst same
    simp only
    generalize gateWithForce config answers stores.table _ state'.runId forced = decided
    obtain ⟨table, verdict, record⟩ := decided
    cases verdict with
    | conflict => exact rfl
    | skip =>
      refine ⟨.skipped, ?_⟩
      simp [booksOf, Books.post, failedOutputs_concat, buildSkipRow]
    | hold => exact ⟨.held, rfl⟩
    | dispatch => exact rfl

theorem recordPublishFailure_accounts (platform ts errorClass message : String) :
    Accounts state
      (recordPublishFailure config answers state stores row platform ts errorClass message).1
      (some .rowContinue) := by
  refine ⟨.failed, ?_⟩
  simp [recordPublishFailure, booksOf, Books.post, failedOutputs_concat, buildFailureRow]

theorem freshArms_accounts (platform ts : String) (exc : Raised) :
    Accounts state (freshArms config answers state stores row platform ts exc).1
      (some (freshArms config answers state stores row platform ts exc).2.2) := by
  have failed := recordPublishFailure_accounts config answers state stores row platform ts
  unfold freshArms
  dsimp only
  split_ifs
  · exact rfl
  · exact failed "banner_upload" _
  · exact failed "content_rejected" _
  · exact rfl
  · exact failed (classifyException config.isWord exc).value _
  · exact failed "unexpected" _

/-- An in-band error is entered as a failure, an output without an error as a success. -/
theorem processPublishResult_accounts (rowIdx : ℕ) (platform ts : String) (result : AdapterResult)
    (reason : result.error ≠ some "") :
    Accounts state
      (processPublishResult config options answers state stores rowIdx row platform ts result).1
      none := by
  unfold processPublishResult
  cases inBand : result.inBandError with
  | some error =>
    have carried : result.error.isSome = true := by
      cases h : result.error with
      | none => simp [AdapterResult.inBandError, truthy, h] at inBand
      | some _ => rfl
    refine ⟨.failed, ?_⟩
    simp [booksOf, Books.post, failedOutputs_concat, AdapterResult.toPublishOutput, carried]
  | none =>
    have silent : result.error = none := by
      cases h : result.error with
      | none => rfl
      | some error =>
        have empty : error = "" := by simpa [AdapterResult.inBandError, truthy, h] using inBand
        exact absurd (h.trans (congrArg some empty)) reason
    refine ⟨.published, ?_⟩
    cases doVerify options.noVerify options.dryRun result answers.verified <;>
      simp [booksOf, Books.post, failedOutputs_concat, failedOutputs_markUnverified,
        length_markUnverified, AdapterResult.toPublishOutput, silent]

theorem publishOneRow_accounts (rowIdx : ℕ) (ts : String)
    (reason : ∀ result, answers.outcome = .returned result → result.error ≠ some "") :
    Accounts state (publishOneRow config options answers forced state stores rowIdx row ts).1
      (publishOneRow config options answers forced state stores rowIdx row ts).2.2 := by
  have gates := checkPublishPreconditions_passes config options answers forced state stores row ts
  unfold publishOneRow
  generalize checkPublishPreconditions config options answers forced state stores row ts = checked
    at gates
  obtain ⟨state', stores', sentinel⟩ := checked
  cases sentinel with
  | some sentinel => exact gates
  | none =>
    have same : state' = state := gates
    subst same
    cases outcome : answers.outcome with
    | raised exc => exact freshArms_accounts config answers state' stores' row _ ts exc
    | returned result =>
      exact processPublishResult_accounts config options answers state' stores' row rowIdx _ ts
        result (reason result outcome)

end Rows

/-! ## The whole loop -/

section Run
variable (config : SeamConfig) (options : PublishOptions) (forced : DedupKey → Bool) (ts : String)

/-- The loop ends with its books balanced on all rows and no flag set, or on the rows before
the one that it stopped on and one flag. -/
def Settled (total : ℕ) (finish : LoopEnd) : Prop :=
  match finish.stoppedOn with
  | none => Balanced total (booksOf finish.state) ∧ finish.abortFlags.count true = 0
  | some i => i < total ∧ Balanced i (booksOf finish.state) ∧ finish.abortFlags.count true = 1

theorem runPublishLoop_settled (rows : List LoopRow)
    (reasons : ∀ entry ∈ rows, ∀ result, entry.answers.outcome = .returned result →
      result.error ≠ some "")
    (n : ℕ) (state : PublishRunState) (stores : Stores) (books : Balanced n (booksOf state)) :
    Settled (n + rows.length) (runPublishLoop config options forced ts n rows state stores) := by
  induction rows generalizing n state stores with
  | nil => exact ⟨books, rfl⟩
  | cons entry rows ih =>
    have row := publishOneRow_accounts config options entry.answers forced state stores entry.row n
      ts (reasons entry List.mem_cons_self)
    have later : ∀ other ∈ rows, ∀ result, other.answers.outcome = .returned result →
        result.error ≠ some "" :=
      fun other hother => reasons other (List.mem_cons_of_mem _ hother)
    rw [List.length_cons]
    unfold runPublishLoop
    generalize publishOneRow config options entry.answers forced state stores n entry.row ts = done
      at row
    obtain ⟨state', stores', sentinel⟩ := done
    have stopped (h : booksOf state' = booksOf state) :
        n < n + (rows.length + 1) ∧ Balanced n (booksOf state') := by
      rw [h]
      exact ⟨by omega, books⟩
    have goesOn (h : ∃ posted, booksOf state' = (booksOf state).post posted) :
        Settled (n + (rows.length + 1))
          (runPublishLoop config options forced ts (n + 1) rows state' stores') := by
      obtain ⟨posted, hposted⟩ := h
      have entered := books.post posted
      rw [← hposted] at entered
      have rest := ih later (n + 1) state' stores' entered
      rw [Nat.add_right_comm] at rest
      exact rest
    match sentinel with
    | some .authAbort => exact ⟨(stopped row).1, (stopped row).2, rfl⟩
    | some .depAbort => exact ⟨(stopped row).1, (stopped row).2, rfl⟩
    | some .conflictAbort => exact ⟨(stopped row).1, (stopped row).2, rfl⟩
    | some .rowContinue => exact goesOn row
    | none => exact goesOn row

/-- A run without an abort flag has counted every row once and put out a row for each that
is neither quarantined nor held; a run that aborts has counted the rows before that one. -/
theorem every_row_counted (rows : List LoopRow)
    (reasons : ∀ entry ∈ rows, ∀ result, entry.answers.outcome = .returned result →
      result.error ≠ some "") (runId : Option String) (stores : Stores) :
    let finish := runPublishLoop config options forced ts 0 rows { runId := runId } stores
    let state := finish.state
    let counted := state.successCount + state.failCount + state.skippedUnreachableCount +
      state.skippedQuarantinedCount + state.dedupSkipCount + state.dedupHoldCount
    (finish.abortFlags.count true = 0 →
      counted = rows.length ∧
      state.outputs.length = counted - state.skippedQuarantinedCount - state.dedupHoldCount ∧
      state.outputs.countP (·.error.isSome) = state.failCount + state.skippedUnreachableCount) ∧
    ∀ i, finish.stoppedOn = some i → counted = i ∧ finish.abortFlags.count true = 1 := by
  intro finish state counted
  have settled : Settled (0 + rows.length) finish :=
    runPublishLoop_settled config options forced ts rows reasons 0 { runId := runId } stores
      (balanced_start runId)
  unfold Settled at settled
  constructor
  · intro unflagged
    cases stopped : finish.stoppedOn with
    | some i =>
      rw [stopped] at settled
      have flagged := settled.2.2
      omega
    | none =>
      rw [stopped] at settled
      have rowsCounted : counted = 0 + rows.length := settled.1.rows
      have outputs : state.outputs.length + state.skippedQuarantinedCount + state.dedupHoldCount =
        0 + rows.length := settled.1.outputs
      exact ⟨by omega, by omega, settled.1.failed⟩
  · intro i stopped
    rw [stopped] at settled
    exact ⟨settled.2.1.rows, settled.2.2⟩

end Run

/-! ## A run of three rows -/

def plainConfig : SeamConfig where
  canonicalizeUrl := some
  isWord c := c.isAlphanum || c = '_'
  pid := 100
  enforce := false

def plainRow (id : String) : PublishRow where
  id := id
  platform := some "velog"
  targetUrl := some "https://example.org/page"

def plainAnswers (outcome : AdapterOutcome) : RowAnswers where
  dryRunResult := ⟨"drafted", "velog-graphql", "velog", "", "", none, 0⟩
  gateHost := ⟨0, 0, fun _ => true⟩
  outcome := outcome
  verified := true
  terminalAt := 1
  completedAt := "2026-01-01T00:00:01+00:00"

def publishedOutcome : AdapterOutcome :=
  .returned ⟨"published", "velog-graphql", "velog", "", "https://velog.io/@a/page", none, 0⟩

def inBandOutcome : AdapterOutcome :=
  .returned ⟨"failed", "velog-graphql", "velog", "", "", some "quota exceeded", 0⟩

def mixedRows : List LoopRow :=
  [⟨plainRow "a", plainAnswers publishedOutcome⟩, ⟨plainRow "b", plainAnswers inBandOutcome⟩,
    ⟨plainRow "c", { plainAnswers publishedOutcome with canarySkip := true }⟩]

def plainStores (rows : List PublishRow) : Stores where
  table := fun _ => none
  checkpoint := createCheckpoint "20260101T000000-0123abcd" "2026-01-01T00:00:00+00:00" rows none
    "draft" false

def mixedEnd : LoopEnd :=
  runPublishLoop plainConfig {} (fun _ => false) "2026-01-01T00:00:00+00:00" 0 mixedRows
    { runId := some "20260101T000000-0123abcd" } (plainStores (mixedRows.map LoopRow.row))

theorem every_row_counted_mixed :
    let state := mixedEnd.state
    let counted := state.successCount + state.failCount + state.skippedUnreachableCount +
      state.skippedQuarantinedCount + state.dedupSkipCount + state.dedupHoldCount
    counted = mixedRows.length ∧
      state.outputs.length = counted - state.skippedQuarantinedCount - state.dedupHoldCount ∧
      state.outputs.countP (·.error.isSome) = state.failCount + state.skippedUnreachableCount := by
  have reasons : ∀ entry ∈ mixedRows, ∀ result, entry.answers.outcome = .returned result →
      result.error ≠ some "" := by
    intro entry hentry result houtcome
    fin_cases hentry <;> cases houtcome <;> decide
  exact (every_row_counted plainConfig {} (fun _ => false) "2026-01-01T00:00:00+00:00" mixedRows
    reasons (some "20260101T000000-0123abcd") (plainStores (mixedRows.map LoopRow.row))).1 (by decide)

end BacklinkPublisher.PublishLoop
