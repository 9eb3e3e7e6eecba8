import BacklinkPublisher.TransitionSystems
import Mathlib.Data.Fintype.Basic
import Mathlib.Logic.Function.Basic
import Mathlib.Tactic.Common

set_option autoImplicit false

/-!
# Operations

`_execute_operation` and `OperationWorker.cancel` of `webui_app/services/operation_worker.py` on
one record of `webui_store/operation_store.py`. A call of `update_fields` holds the lock of the
store and is one step; an exception is the text that the worker writes for it.
-/
namespace BacklinkPublisher.Operations
open TransitionSystems

inductive Status where
  | pending
  | running
  | success
  | failed
  | canceled
  deriving DecidableEq, Repr

def Status.terminal : Status → Bool
  | .success | .failed | .canceled => true
  | .pending | .running => false

structure PublishResult where
  state : String
  nOk : ℕ
  nFailed : ℕ
  failureDetail : String
  deriving DecidableEq, Repr

structure Operation where
  status : Status
  stage : String
  progressPct : ℕ
  detail : String
  error : Option String
  result : Option PublishResult
  deriving DecidableEq, Repr

/-- The keyword arguments of `update_fields`. -/
structure Updates where
  status : Option Status := none
  stage : Option String := none
  progressPct : Option ℕ := none
  detail : Option String := none
  error : Option String := none
  result : Option PublishResult := none
  deriving DecidableEq, Repr

def Operation.created : Operation := ⟨.pending, "", 0, "", none, none⟩

def updateFields (updates : Updates) (op : Operation) : Operation where
  status := updates.status.getD op.status
  stage := updates.stage.getD op.stage
  progressPct := (updates.progressPct.map (min 100)).getD op.progressPct
  detail := updates.detail.getD op.detail
  error := updates.error.or op.error
  result := updates.result.or op.result

/-! ## The worker -/

/-- A row of `publish`: whether it has a published or a draft URL, and its `error` and `status`. -/
structure Row where
  hasUrl : Bool
  error : String
  status : String
  deriving DecidableEq, Repr

inductive StageOutcome where
  | raised (error : String)
  | failed (error : Option String)
  | ok
  deriving DecidableEq, Repr

inductive PublishOutcome where
  | raised (error : String)
  | failed (error errorClass : Option String)
  | rows (rows : List Row)
  deriving DecidableEq, Repr

inductive Kind where
  | publish
  | publishChain
  | other (kind : String)
  deriving DecidableEq, Repr

/-- What an operation meets: its kind, the exception of `build_generate_seed`, the outcomes of the
stages, and the exceptions of `_push_history_per_row`, of `_push_history_single_failure` where a
stage has failed and where the handler of the chain calls it. -/
structure Inputs where
  kind : Kind
  seedRaised : Option String
  plan : StageOutcome
  validate : StageOutcome
  publish : PublishOutcome
  rowsPushRaised : Option String
  failurePushRaised : Option String
  handlerPushRaised : Option String
  deriving DecidableEq, Repr

/-- The updates that a piece of the worker makes in order, and the exception that leaves it. -/
structure Trace where
  updates : List Updates
  raised : Option String
  deriving DecidableEq, Repr

def Trace.andThen (t next : Trace) : Trace :=
  match t.raised with
  | none => ⟨t.updates ++ next.updates, next.raised⟩
  | some _ => t

/-- `except Exception` around a piece. -/
def Trace.handle (t : Trace) (handler : String → Trace) : Trace :=
  match t.raised with
  | none => t
  | some error => ⟨t.updates ++ (handler error).updates, (handler error).raised⟩

def update (updates : Updates) : Trace := ⟨[updates], none⟩

/-- `value or default`. -/
def orDefault (value : Option String) (default : String) : String :=
  if value.getD "" = "" then default else value.getD ""

def formatError (error errorClass : Option String) : String :=
  let msg := orDefault error "发布失败"
  if errorClass.getD "" ≠ "" ∧ errorClass.getD "" ≠ "unrecognized" then
    "[" ++ errorClass.getD "" ++ "] " ++ msg
  else msg

def failureMessage (row : Row) : String :=
  if row.error ≠ "" then row.error
  else (if row.status = "" then "failed" else row.status) ++ " (no URL)"

def publishStateSummary (rows : List Row) : PublishResult :=
  let nOk := rows.countP (·.hasUrl)
  let nFailed := rows.length - nOk
  { state := if nFailed = 0 then "all_success" else if nOk = 0 then "all_failed"
      else "partial_success"
    nOk := nOk
    nFailed := nFailed
    failureDetail := "；".intercalate ((rows.filter (!·.hasUrl)).map failureMessage) }

def publishOutcomeFields (rows : List Row) : Updates :=
  let summary := publishStateSummary rows
  { status := some (if summary.state = "all_failed" then .failed else .success)
    stage := some "发布"
    progressPct := some 100
    detail := some
      (if summary.state = "all_failed" then "发布失败：全部失败"
      else if summary.state = "partial_success" then
        "部分成功：" ++ toString summary.nOk ++ "/" ++ toString (summary.nOk + summary.nFailed) ++
          " 成功"
      else "发布完成")
    result := some summary
    error :=
      if summary.state = "all_failed" then some (orDefault (some summary.failureDetail) "全部失败")
      else none }

/-- A failure is written, then pushed to the history. -/
def fail (progressPct : Option ℕ) (error : String) (pushRaised : Option String) : Trace :=
  ⟨[{ status := some .failed, progressPct := progressPct, error := some error }], pushRaised⟩

/-- The end of both kinds, from the outcome of `api.publish` on. -/
def published (inputs : Inputs) (progressPct : ℕ) : Trace :=
  match inputs.publish with
  | .raised error => ⟨[], some error⟩
  | .failed error errorClass =>
    fail (some progressPct) (formatError error errorClass) inputs.failurePushRaised
  | .rows rows =>
    if rows = [] then
      fail (some progressPct) "publish-backlinks returned no parseable rows"
        inputs.failurePushRaised
    else Trace.andThen ⟨[], inputs.rowsPushRaised⟩ (update (publishOutcomeFields rows))

def runPublish (inputs : Inputs) : Trace :=
  (update ⟨none, some "发布", some 50, some "正在发布…", none, none⟩).andThen
    (match inputs.publish with
    | .raised error => fail (some 50) error inputs.failurePushRaised
    | _ => published inputs 50)

/-- A stage of the chain, and what goes on where it is ok. -/
def stage (inputs : Inputs) (outcome : StageOutcome) (default : String) (next : Trace) : Trace :=
  match outcome with
  | .raised error => ⟨[], some error⟩
  | .failed error => fail none (orDefault error default) inputs.failurePushRaised
  | .ok => next

def runPublishChain (inputs : Inputs) : Trace :=
  let publishing := (update ⟨none, some "发布", some 75, some "正在发布…", none, none⟩).andThen
    (published inputs 75)
  let validating := (update ⟨none, some "验证", some 45, some "正在验证…", none, none⟩).andThen
    (stage inputs inputs.validate "验证失败" publishing)
  let planning := (update ⟨none, some "生成", some 10, some "正在生成…", none, none⟩).andThen
    (stage inputs inputs.plan "生成失败" validating)
  (Trace.andThen ⟨[], inputs.seedRaised⟩ planning).handle fun error =>
    fail (some 75) error inputs.handlerPushRaised

def executeOperation (inputs : Inputs) : List Updates :=
  let run := match inputs.kind with
    | .publish => runPublish inputs
    | .publishChain => runPublishChain inputs
    | .other kind =>
      update { status := some .failed, error := some ("unsupported op kind: " ++ kind) }
  let guarded := ((update { status := some .running }).andThen run).handle fun error =>
    update { status := some .failed, error := some error }
  guarded.updates

/-! ## The worker and its cancellers -/

inductive FutureState where
  | pending
  | running
  | cancelled
  | finished
  deriving DecidableEq, Repr

/-- Where a call of `cancel` is: it has seen a future that is not done, or none; it is about to
write, and then to return a value. -/
inductive Phase where
  | idle
  | live
  | orphan
  | storing (result : Bool)
  deriving DecidableEq, Repr

structure World (n : ℕ) where
  op : Operation
  future : Option FutureState
  /-- The updates that the worker still makes. -/
  updates : List Updates
  phase : Fin n → Phase
  deriving DecidableEq

/-- A record with no future: one just created, or left by an earlier process. -/
def World.start (n : ℕ) (op : Operation) : World n := ⟨op, none, [], fun _ => .idle⟩

inductive Action (n : ℕ) where
  | submit (inputs : Inputs)
  | take
  | work
  | finish
  | look (thread : Fin n)
  | cancelFuture (thread : Fin n)
  | read (thread : Fin n)
  | store (thread : Fin n)
  deriving DecidableEq, Repr

def canceledFields : Updates :=
  { status := some .canceled, stage := some "", detail := some "操作已取消" }

variable {n : ℕ}

def World.goto (w : World n) (thread : Fin n) (phase : Phase) : World n :=
  { w with phase := Function.update w.phase thread phase }

def step (w : World n) : Action n → Option (World n)
  | .submit inputs =>
    if w.future = none then
      some { w with future := some .pending, updates := executeOperation inputs }
    else none
  | .take => if w.future = some .pending then some { w with future := some .running } else none
  | .work =>
    if w.future = some .running then
      match w.updates with
      | updates :: rest => some { w with op := updateFields updates w.op, updates := rest }
      | [] => none
    else none
  | .finish =>
    if w.future = some .running ∧ w.updates = [] then some { w with future := some .finished }
    else none
  | .look thread =>
    if w.phase thread = .idle then
      some (w.goto thread
        (if w.future = some .pending ∨ w.future = some .running then .live else .orphan))
    else none
  | .cancelFuture thread =>
    if w.phase thread = .live then
      match w.future with
      | some .pending => some { w.goto thread (.storing true) with future := some .cancelled }
      | some .cancelled => some (w.goto thread (.storing true))
      | _ => some (w.goto thread (.storing false))
    else none
  | .read thread =>
    if w.phase thread = .orphan then
      some (w.goto thread
        (if w.op.status = .pending ∨ w.op.status = .running then .storing true else .idle))
    else none
  | .store thread =>
    match w.phase thread with
    | .storing _ => some { w.goto thread .idle with op := updateFields canceledFields w.op }
    | _ => none

/-- `cancel` writes only where the worker makes no update, and `start` is not called for an
operation that has ended. -/
def undisturbed (w : World n) : Action n → Bool
  | .store _ => decide (w.future = none ∨ w.future = some .cancelled)
  | .submit _ => !w.op.status.terminal
  | _ => true

/-! ## What the worker writes -/

/-- Nothing is canceled, and after a final status that status is written. -/
def Ends : List Updates → Prop
  | [] => True
  | updates :: rest =>
    updates.status ≠ some .canceled ∧
      (∀ status, updates.status = some status → status.terminal = true →
        ∀ later ∈ rest, later.status = some status) ∧ Ends rest

/-- The updates of a piece that can be followed by a failure: only failures are final, unless the
piece ends without an exception. -/
structure Sound (t : Trace) : Prop where
  ends : Ends t.updates
  failed : ∀ error, t.raised = some error → ∀ updates ∈ t.updates, ∀ status,
    updates.status = some status → status.terminal = true → status = .failed

theorem ends_append {first rest : List Updates}
    (progress : ∀ updates ∈ first, ∀ status, updates.status = some status →
      status.terminal = false)
    (ends : Ends rest) : Ends (first ++ rest) := by
  induction first with
  | nil => exact ends
  | cons updates first ih =>
    have head := progress updates List.mem_cons_self
    refine ⟨?_, ?_, ih fun later hlater => progress later (List.mem_cons_of_mem _ hlater)⟩
    · intro canceled
      cases head .canceled canceled
    · intro status here terminal
      rw [head status here] at terminal
      cases terminal

theorem ends_append_failed {first rest : List Updates} (ends : Ends first)
    (failed : ∀ updates ∈ first, ∀ status, updates.status = some status →
      status.terminal = true → status = .failed)
    (fails : ∀ updates ∈ rest, updates.status = some .failed) : Ends (first ++ rest) := by
  induction first with
  | nil =>
    change Ends rest
    clear ends failed
    induction rest with
    | nil => trivial
    | cons updates rest ih =>
      have head := fails updates List.mem_cons_self
      have tail : ∀ later ∈ rest, later.status = some .failed := fun later hlater =>
        fails later (List.mem_cons_of_mem _ hlater)
      refine ⟨by simp [head], ?_, ih tail⟩
      intro status here _ later hlater
      rw [← here, head]
      exact tail later hlater
  | cons updates first ih =>
    have ⟨uncanceled, same, later_ends⟩ := ends
    refine ⟨uncanceled, ?_, ih later_ends fun later hlater =>
      failed later (List.mem_cons_of_mem _ hlater)⟩
    intro status here terminal later hlater
    rcases List.mem_append.1 hlater with old | new
    · exact same status here terminal later old
    · rw [failed updates List.mem_cons_self status here terminal]
      exact fails later new

theorem sound_raise (raised : Option String) : Sound ⟨[], raised⟩ where
  ends := trivial
  failed _ _ _ h := by cases h

theorem sound_update {updates : Updates} (uncanceled : updates.status ≠ some .canceled) :
    Sound (update updates) where
  ends := ⟨uncanceled, fun _ _ _ _ h => absurd h List.not_mem_nil, trivial⟩
  failed _ h := by cases h

theorem sound_fail (progressPct : Option ℕ) (error : String) (raised : Option String) :
    Sound (fail progressPct error raised) where
  ends := ⟨by simp, fun _ _ _ _ h => absurd h List.not_mem_nil, trivial⟩
  failed _ _ updates h status here _ := by
    rw [List.mem_singleton.1 h] at here
    exact (Option.some.inj here).symm

theorem Sound.andThen {t next : Trace} (progress : ∀ updates ∈ t.updates, ∀ status,
    updates.status = some status → status.terminal = false) (sound : Sound next) :
    Sound (t.andThen next) := by
  unfold Trace.andThen
  split
  · constructor
    case ends => exact ends_append progress sound.ends
    case failed =>
      intro error raised updates h status here terminal
      rcases List.mem_append.1 h with before | after
      · rw [progress updates before status here] at terminal
        cases terminal
      · exact sound.failed error raised updates after status here terminal
  · constructor
    case ends =>
      have whole : Ends (t.updates ++ []) := ends_append progress trivial
      rwa [List.append_nil] at whole
    case failed =>
      intro error _ updates h status here terminal
      rw [progress updates h status here] at terminal
      cases terminal

theorem Sound.handle {t : Trace} (sound : Sound t) {handler : String → Trace}
    (fails : ∀ error, ∀ updates ∈ (handler error).updates, updates.status = some .failed) :
    Sound (t.handle handler) := by
  unfold Trace.handle
  split
  · exact sound
  · rename_i error raised
    have failed := sound.failed error raised
    constructor
    case ends => exact ends_append_failed sound.ends failed (fails error)
    case failed =>
      intro _ _ updates h status here terminal
      rcases List.mem_append.1 h with before | after
      · exact failed updates before status here terminal
      · rw [fails error updates after] at here
        exact (Option.some.inj here).symm

theorem progress_update {updates : Updates} (silent : updates.status = none) :
    ∀ later ∈ (update updates).updates, ∀ status, later.status = some status →
      status.terminal = false := by
  intro later h status here
  rw [List.mem_singleton.1 h, silent] at here
  cases here

theorem sound_published (inputs : Inputs) (progressPct : ℕ) :
    Sound (published inputs progressPct) := by
  unfold published
  split
  · exact sound_raise _
  · exact sound_fail _ _ _
  · split_ifs
    · exact sound_fail _ _ _
    · refine Sound.andThen (fun _ h => by cases h) (sound_update ?_)
      unfold publishOutcomeFields
      dsimp only
      split_ifs <;> simp

theorem sound_stage (inputs : Inputs) (outcome : StageOutcome) (default : String) {next : Trace}
    (sound : Sound next) : Sound (stage inputs outcome default next) := by
  unfold stage
  split
  · exact sound_raise _
  · exact sound_fail _ _ _
  · exact sound

theorem sound_runPublish (inputs : Inputs) : Sound (runPublish inputs) := by
  refine Sound.andThen (progress_update rfl) ?_
  split
  · exact sound_fail _ _ _
  · exact sound_published inputs 50

theorem fail_failed (progressPct : Option ℕ) (error : String) (raised : Option String) :
    ∀ updates ∈ (fail progressPct error raised).updates, updates.status = some .failed := by
  intro updates h
  rw [List.mem_singleton.1 h]

theorem sound_runPublishChain (inputs : Inputs) : Sound (runPublishChain inputs) := by
  refine Sound.handle ?_ fun error => fail_failed _ _ _
  refine Sound.andThen (fun _ h => by cases h) ?_
  refine Sound.andThen (progress_update rfl) (sound_stage inputs inputs.plan "生成失败" ?_)
  refine Sound.andThen (progress_update rfl) (sound_stage inputs inputs.validate "验证失败" ?_)
  exact Sound.andThen (progress_update rfl) (sound_published inputs 75)

theorem ends_executeOperation (inputs : Inputs) : Ends (executeOperation inputs) := by
  refine (Sound.handle (Sound.andThen ?_ ?_) ?_).ends
  · intro updates h status here
    rw [List.mem_singleton.1 h] at here
    cases here
    rfl
  · split
    · exact sound_runPublish inputs
    · exact sound_runPublishChain inputs
    · exact sound_update (by simp)
  · intro error updates h
    rw [List.mem_singleton.1 h]

/-! ## Undisturbed runs -/

def Status.halted (status : Status) : Prop := status = .success ∨ status = .failed

structure Invariant (w : World n) : Prop where
  pending : w.future = some .pending → w.op.status.terminal = false ∧ Ends w.updates
  running : w.future = some .running → w.op.status ≠ .canceled ∧ Ends w.updates ∧
    (w.op.status.terminal = true → ∀ updates ∈ w.updates, updates.status = some w.op.status)
  cancelled : w.future = some .cancelled → ¬ w.op.status.halted
  live : ∀ thread, w.phase thread = .live → w.future ≠ none
  storing : ∀ thread result, w.phase thread = .storing result → w.future = none →
    ¬ w.op.status.halted
  blank : w.op.status = .canceled →
    (w.future ≠ none ∨ ∃ thread result, w.phase thread = .storing result) → w.op.stage = ""

theorem invariant_start (n : ℕ) (op : Operation) : Invariant (World.start n op) := by
  constructor <;> simp [World.start]

theorem phase_goto (w : World n) (thread a : Fin n) (phase : Phase) :
    (w.goto thread phase).phase a = if a = thread then phase else w.phase a :=
  Function.update_apply w.phase thread phase a

theorem not_halted {status : Status} (open_ : status.terminal = false) : ¬ status.halted := by
  rintro (h | h) <;> rw [h] at open_ <;> cases open_

theorem not_canceled {status : Status} (open_ : status.terminal = false) : status ≠ .canceled := by
  rintro rfl
  cases open_

/-- A call of `cancel` moves on, where its new phase is sound. -/
theorem Invariant.goto {w : World n} (inv : Invariant w) (thread : Fin n) {phase : Phase}
    (live : phase = .live → w.future ≠ none)
    (storing : ∀ result, phase = .storing result →
      (w.future = none → ¬ w.op.status.halted) ∧ (w.op.status = .canceled → w.op.stage = "")) :
    Invariant (w.goto thread phase) where
  pending := inv.pending
  running := inv.running
  cancelled := inv.cancelled
  live a h := by
    rw [phase_goto] at h
    split_ifs at h
    · exact live h
    · exact inv.live a h
  storing a result h := by
    rw [phase_goto] at h
    split_ifs at h
    · exact (storing result h).1
    · exact inv.storing a result h
  blank canceled h := by
    rcases h with known | ⟨a, result, h⟩
    · exact inv.blank canceled (.inl known)
    · rw [phase_goto] at h
      split_ifs at h
      · exact (storing result h).2 canceled
      · exact inv.blank canceled (.inr ⟨a, result, h⟩)

theorem Invariant.work {w : World n} (inv : Invariant w) (here : w.future = some .running)
    {updates : Updates} {rest : List Updates} (next : w.updates = updates :: rest) :
    Invariant { w with op := updateFields updates w.op, updates := rest } := by
  have ⟨uncanceled, ends, same⟩ := inv.running here
  rw [next] at ends same
  have ⟨writes, final, rest_ends⟩ := ends
  have status : (updateFields updates w.op).status = updates.status.getD w.op.status := rfl
  have uncanceled' : (updateFields updates w.op).status ≠ .canceled := by
    rw [status]
    cases written : updates.status with
    | none => exact uncanceled
    | some next =>
      rintro rfl
      exact writes written
  constructor
  case pending =>
    intro h
    rw [here] at h
    cases h
  case running =>
    intro _
    refine ⟨uncanceled', rest_ends, ?_⟩
    change (updateFields updates w.op).status.terminal = true →
      ∀ later ∈ rest, later.status = some (updateFields updates w.op).status
    rw [status]
    intro terminal later hlater
    cases written : updates.status with
    | none =>
      rw [written] at terminal
      exact same terminal later (List.mem_cons_of_mem _ hlater)
    | some next =>
      rw [written] at terminal
      exact final next written terminal later hlater
  case cancelled =>
    intro h
    rw [here] at h
    cases h
  case live => exact inv.live
  case storing =>
    intro _ _ _ h
    rw [here] at h
    cases h
  case blank =>
    intro canceled
    exact absurd canceled uncanceled'

theorem Invariant.store {w : World n} (inv : Invariant w) (thread : Fin n)
    (unstarted : w.future = none ∨ w.future = some .cancelled) :
    Invariant { w.goto thread .idle with op := updateFields canceledFields w.op } where
  pending h := by
    change w.future = _ at h
    rcases unstarted with known | known <;> rw [known] at h <;> cases h
  running h := by
    change w.future = _ at h
    rcases unstarted with known | known <;> rw [known] at h <;> cases h
  cancelled _ := by
    rintro (h | h) <;> cases h
  live a h := by
    change (w.goto thread .idle).phase a = _ at h
    rw [phase_goto] at h
    split_ifs at h
    exact inv.live a h
  storing _ _ _ _ := by
    rintro (h | h) <;> cases h
  blank _ _ := rfl

theorem Invariant.step {w w' : World n} {a : Action n} (inv : Invariant w)
    (quiet : undisturbed w a = true) (h : step w a = some w') : Invariant w' := by
  cases a with
  | submit inputs =>
    simp only [Operations.step] at h
    split_ifs at h with fresh
    cases h
    have open_ : w.op.status.terminal = false := by simpa [undisturbed] using quiet
    constructor
    case pending => exact fun _ => ⟨open_, ends_executeOperation inputs⟩
    case running => exact fun h => by cases h
    case cancelled => exact fun h => by cases h
    case live => exact fun _ _ h => by cases h
    case storing => exact fun _ _ _ h => by cases h
    case blank => exact fun canceled => absurd canceled (not_canceled open_)
  | take =>
    simp only [Operations.step] at h
    split_ifs at h with pending
    cases h
    have ⟨open_, ends⟩ := inv.pending pending
    constructor
    case pending => exact fun h => by cases h
    case running =>
      intro _
      refine ⟨not_canceled open_, ends, ?_⟩
      intro terminal
      change w.op.status.terminal = true at terminal
      rw [open_] at terminal
      cases terminal
    case cancelled => exact fun h => by cases h
    case live => exact fun _ _ h => by cases h
    case storing => exact fun _ _ _ h => by cases h
    case blank => exact fun canceled => absurd canceled (not_canceled open_)
  | work =>
    simp only [Operations.step] at h
    split_ifs at h with running
    split at h
    · rename_i updates rest next
      cases h
      exact inv.work running next
    · cases h
  | finish =>
    simp only [Operations.step] at h
    split_ifs at h with running
    cases h
    have ⟨uncanceled, _⟩ := inv.running running.1
    constructor
    case pending => exact fun h => by cases h
    case running => exact fun h => by cases h
    case cancelled => exact fun h => by cases h
    case live => exact fun _ _ h => by cases h
    case storing => exact fun _ _ _ h => by cases h
    case blank => exact fun canceled => absurd canceled uncanceled
  | look thread =>
    simp only [Operations.step] at h
    split_ifs at h with idle known
    · cases h
      refine inv.goto thread ?_ fun _ h => by cases h
      intro _ none
      rw [none] at known
      rcases known with h | h <;> cases h
    · cases h
      exact inv.goto thread (fun h => by cases h) fun _ h => by cases h
  | cancelFuture thread =>
    simp only [Operations.step] at h
    split_ifs at h with live
    have known := inv.live thread live
    have moved {result : Bool} : Invariant (w.goto thread (.storing result)) :=
      inv.goto thread (fun h => by cases h)
        fun _ _ => ⟨fun none => absurd none known, fun canceled => inv.blank canceled (.inl known)⟩
    split at h
    · rename_i pending
      cases h
      have ⟨open_, _⟩ := inv.pending pending
      constructor
      case pending => exact fun h => by cases h
      case running => exact fun h => by cases h
      case cancelled => exact fun _ => not_halted open_
      case live => exact fun _ _ h => by cases h
      case storing => exact fun _ _ _ h => by cases h
      case blank => exact fun canceled _ => inv.blank canceled (.inl known)
    · cases h
      exact moved
    · cases h
      exact moved
  | read thread =>
    simp only [Operations.step] at h
    split_ifs at h with orphan recoverable
    · cases h
      have open_ : w.op.status.terminal = false := by
        rcases recoverable with h | h <;> rw [h] <;> rfl
      exact inv.goto thread (fun h => by cases h) fun _ _ =>
        ⟨fun _ => not_halted open_, fun canceled => absurd canceled (not_canceled open_)⟩
    · cases h
      exact inv.goto thread (fun h => by cases h) fun _ h => by cases h
  | store thread =>
    simp only [Operations.step] at h
    split at h
    · cases h
      exact inv.store thread (of_decide_eq_true quiet)
    · cases h

/-- What a finished operation keeps. -/
def Kept (op op' : Operation) : Prop :=
  op.status.terminal = true →
    op'.status = op.status ∧ (op.status = .canceled → op'.stage = op.stage)

theorem kept_step {w w' : World n} {a : Action n} (inv : Invariant w)
    (quiet : undisturbed w a = true) (h : step w a = some w') : Kept w.op w'.op := by
  intro terminal
  cases a with
  | work =>
    simp only [step] at h
    split_ifs at h with running
    split at h
    · rename_i updates rest next
      cases h
      have ⟨uncanceled, _, same⟩ := inv.running running
      have written : updates.status = some w.op.status :=
        same terminal updates (next ▸ List.mem_cons_self)
      refine ⟨?_, fun canceled => absurd canceled uncanceled⟩
      change updates.status.getD w.op.status = w.op.status
      rw [written]
      rfl
    · cases h
  | store thread =>
    simp only [step] at h
    split at h
    · rename_i result storing
      cases h
      have unhalted : ¬ w.op.status.halted := by
        rcases of_decide_eq_true quiet with none | cancelled
        · exact inv.storing thread result storing none
        · exact inv.cancelled cancelled
      have canceled : w.op.status = .canceled := by
        cases here : w.op.status with
        | pending | running =>
          rw [here] at terminal
          cases terminal
        | success => exact absurd (.inl here) unhalted
        | failed => exact absurd (.inr here) unhalted
        | canceled => rfl
      refine ⟨canceled.symm, fun _ => ?_⟩
      exact (inv.blank canceled (.inr ⟨thread, result, storing⟩)).symm
    · cases h
  | submit | take | finish | look | read =>
    simp only [step] at h
    split_ifs at h <;> cases h <;> exact ⟨rfl, fun _ => rfl⟩
  | cancelFuture =>
    simp only [step] at h
    split_ifs at h
    split at h <;> cases h <;> exact ⟨rfl, fun _ => rfl⟩

/-- In an undisturbed run a final status stays, and with `canceled` the stage stays. -/
theorem finished_operation_kept (n : ℕ) (op : Operation) (w w' : World n)
    (reached : Reaches step (fun w a => undisturbed w a = true) (World.start n op) w)
    (later : Reaches step (fun w a => undisturbed w a = true) w w')
    (terminal : w.op.status.terminal = true) :
    w'.op.status = w.op.status ∧ (w.op.status = .canceled → w'.op.stage = w.op.stage) := by
  have inv : Invariant w := Reaches.invariant reached (invariant_start n op)
    fun _ _ _ inv quiet hs => inv.step quiet hs
  have kept : Kept w.op w'.op := Reaches.relates (R := fun s t => Kept s.op t.op) later inv
    (fun _ _ _ inv quiet hs => inv.step quiet hs) (fun _ _ => ⟨rfl, fun _ => rfl⟩)
    (fun s t u first second terminal => by
      have ⟨status, stage⟩ := first terminal
      have ⟨status', stage'⟩ := second (status ▸ terminal)
      exact ⟨status'.trans status, fun canceled =>
        (stage' (status.trans canceled)).trans (stage canceled)⟩)
    fun _ _ _ inv quiet hs => kept_step inv quiet hs
  exact kept terminal

section Schedules

def onePost : Inputs where
  kind := .publish
  seedRaised := none
  plan := .ok
  validate := .ok
  publish := .rows [⟨true, "", "published"⟩]
  rowsPushRaised := none
  failurePushRaised := none
  handlerPushRaised := none

def onePublished : World 1 := final step undisturbed (World.start 1 .created)
  [.submit onePost, .take, .work, .work, .work]

def cancelledLate : World 1 :=
  final step undisturbed onePublished [.finish, .look 0, .read 0]

theorem finished_operation_kept_published :
    cancelledLate.op.status = onePublished.op.status ∧
      (onePublished.op.status = .canceled → cancelledLate.op.stage = onePublished.op.stage) :=
  finished_operation_kept 1 .created onePublished cancelledLate
    (reaches_final undisturbed _ _ (by decide)) (reaches_final undisturbed _ _ (by decide))
    (by decide)

/-- A cancel while the worker is at its first update. -/
def canceledRunning : World 1 := final step (fun _ _ => true) (World.start 1 .created)
  [.submit onePost, .take, .work, .look 0, .cancelFuture 0, .store 0]

/-- Neither half holds of all runs: the worker writes over `canceled`, and `cancel` writes over
`success`. -/
theorem finished_operations_change :
    (¬ ∀ (n : ℕ) (op : Operation) (w w' : World n),
      Reaches step (fun _ _ => True) (World.start n op) w → Reaches step (fun _ _ => True) w w' →
        w.op.status.terminal = true → w'.op.status = w.op.status) ∧
    (¬ ∀ (n : ℕ) (op : Operation) (w w' : World n),
      Reaches step (fun _ _ => True) (World.start n op) w → Reaches step (fun _ _ => True) w w' →
        w.op.status = .success → w'.op.status = .success) ∧
    ¬ ∀ (n : ℕ) (op : Operation) (w w' : World n),
      Reaches step (fun _ _ => True) (World.start n op) w → Reaches step (fun _ _ => True) w w' →
        w.op.status = .canceled → w'.op.stage = w.op.stage := by
  have reaches : ∀ (w : World 1) (as : List (Action 1)),
      (execute step (fun _ _ => true) w as).isSome = true →
      Reaches step (fun _ _ => True) w (final step (fun _ _ => true) w as) := by
    intro w as executes
    exact Reaches.mono (reaches_final (fun _ _ => true) w as executes) fun _ _ _ => trivial
  refine ⟨?_, ?_, ?_⟩
  · intro always
    have same := always 1 .created canceledRunning _ (reaches _ _ (by decide))
      (reaches canceledRunning [.work, .work] (by decide)) (by decide)
    exact absurd same (by decide)
  · intro always
    have same := always 1 .created onePublished _
      (reaches _ [.submit onePost, .take, .work, .work, .work] (by decide))
      (reaches onePublished [.look 0, .cancelFuture 0, .store 0] (by decide)) (by decide)
    exact absurd same (by decide)
  · intro always
    have same := always 1 .created canceledRunning _ (reaches _ _ (by decide))
      (reaches canceledRunning [.work] (by decide)) (by decide)
    exact absurd same (by decide)

end Schedules

end BacklinkPublisher.Operations
