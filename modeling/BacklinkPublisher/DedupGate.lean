import BacklinkPublisher.DedupStore

set_option autoImplicit false

/-!
# The dedup gate of the publish path

`cli/_dedup_gate.py`: what a run does to the dedup store around one dispatch.
A terminal write is two transactions, the read of `DedupStore.get` and the write
of `DedupStore.transition`; `terminalDecision` is what happens between them.
-/
namespace BacklinkPublisher.DedupGate
open DedupStore

/-- `_key_for_row`; a missing `target_url` is `none`. -/
def keyForRow (canonicalizeUrl : String → Option String) (targetUrl : Option String)
    (platform : String) : Option DedupKey :=
  match targetUrl with
  | none => none
  | some target =>
    if target = "" ∨ platform = "" then none
    else DedupKey.make canonicalizeUrl platform target "default"

/-- `os.getpid()` and the run id of the calling process. -/
structure PublishRun where
  runId : Option String
  pid : Int
  deriving DecidableEq, Repr

def PublishRun.claimant (run : PublishRun) : Claimant where
  runId := run.runId
  ownerPid := run.pid
  ownerRunId := run.runId

def terminalForErrorClass (errorClass : Option String) : DedupState :=
  if errorClass = some "http_5xx" then .uncertain else .failed

/-- Observe-safe: `stored = false` is a store error, swallowed. -/
def recordIntent (table : DedupTable) (key : Option DedupKey) (run : PublishRun) (writtenAt : ℚ)
    (stored : Bool) : DedupTable :=
  match key with
  | none => table
  | some key => if stored then (intentWrite table key run.claimant writtenAt).1 else table

/-- `gate`: observe mode records the intent and always dispatches; enforce mode
asks the store and holds the row on a store error. -/
def gate (table : DedupTable) (key : Option DedupKey) (run : PublishRun) (host : Host)
    (enforce force stored : Bool) : DedupTable × GateDecision :=
  match key with
  | none => (table, ⟨.dispatch, none⟩)
  | some key =>
    if enforce then
      if stored then gateAndClaim table key run.claimant host staleTtl force
      else (table, ⟨.hold, none⟩)
    else (recordIntent table (some key) run host.writtenAt stored, ⟨.dispatch, none⟩)

/-- How a dispatch ended, as `record_done` and `record_failure` receive it. -/
inductive Outcome where
  | success (liveUrl : Option String) (verifyOk : Bool)
  | failure (errorClass : Option String)
  deriving DecidableEq, Repr

def Outcome.toState : Outcome → DedupState
  | .success _ _ => .done
  | .failure errorClass => terminalForErrorClass errorClass

def Outcome.args (outcome : Outcome) (run : PublishRun) (allowFromTerminal : Bool) :
    TransitionArgs :=
  match outcome with
  | .success liveUrl verifyOk =>
    { liveUrl, verifyOk := some verifyOk, runId := run.runId, allowFromTerminal }
  | .failure _ => { runId := run.runId, allowFromTerminal }

/-- What `_record_terminal` does with the row it read: `none` returns without
writing, `some allow` calls `transition` with `allow_from_terminal = allow`. -/
def terminalDecision (record : Option DedupRecord) (state : DedupState) : Option Bool :=
  match record with
  | none => none
  | some record =>
    if record.state = .done then none
    else if record.state = .uncertain ∧ state = .failed then none
    else if record.state = .failed ∧ state ≠ .done then none
    else some (decide (record.state = .failed))

/-- The second transaction of `_record_terminal`; `none` is its `ValueError`. -/
def terminalWrite (table : DedupTable) (key : DedupKey) (run : PublishRun) (outcome : Outcome)
    (allowFromTerminal : Bool) (writtenAt : ℚ) : Option DedupTable :=
  (transition table key outcome.toState (outcome.args run allowFromTerminal) writtenAt).toOption

/-- `_record_terminal` with no other transaction between its two. -/
def recordTerminal (table : DedupTable) (key : Option DedupKey) (run : PublishRun)
    (outcome : Outcome) (writtenAt : ℚ) : DedupTable :=
  match key with
  | none => table
  | some key =>
    match terminalDecision (table key) outcome.toState with
    | none => table
    | some allow => (terminalWrite table key run outcome allow writtenAt).getD table

inductive Adjudication where
  | succeeded
  | failed
  deriving DecidableEq, Repr

def Adjudication.toState : Adjudication → DedupState
  | .succeeded => .done
  | .failed => .failed

/-- `_adjudicate_one`: only a row that is still `uncertain` is resolved. -/
def adjudicateOne (table : DedupTable) (key : DedupKey) (decision : Adjudication)
    (runId : Option String) (writtenAt : ℚ) : Option DedupTable :=
  (transition table key decision.toState { runId, expectFrom := some [.uncertain] }
    writtenAt).toOption

/-! ## The rows an enforcing gate leaves -/

theorem gate_dispatch_claims {table : DedupTable} {key : DedupKey} {run : PublishRun} {host : Host}
    {force stored : Bool}
    (verdict : (gate table (some key) run host true force stored).2.verdict = .dispatch) :
    Claimable table key force ∧
      (gate table (some key) run host true force stored).1 =
        claim table key run.claimant host.writtenAt := by
  cases stored with
  | false => simp [gate] at verdict
  | true =>
    have effect := gateAndClaim_effect table key run.claimant host staleTtl force
    simp only [gate, if_true] at verdict ⊢
    generalize gateAndClaim table key run.claimant host staleTtl force = result at effect verdict ⊢
    cases effect with
    | dispatched claimable => exact ⟨claimable, rfl⟩
    | kept decision refused => exact absurd verdict refused
    | promoted => simp at verdict

theorem gate_refusal_promotes {table : DedupTable} {key : DedupKey} {run : PublishRun} {host : Host}
    {force stored : Bool}
    (verdict : (gate table (some key) run host true force stored).2.verdict ≠ .dispatch) :
    (gate table (some key) run host true force stored).1 = table ∨
      ∃ record, table key = some record ∧ record.state = .attempting ∧
        (gate table (some key) run host true force stored).1 =
          Function.update table key (some (promoted record host.writtenAt)) := by
  cases stored with
  | false => exact .inl rfl
  | true =>
    have effect := gateAndClaim_effect table key run.claimant host staleTtl force
    simp only [gate, if_true] at verdict ⊢
    generalize gateAndClaim table key run.claimant host staleTtl force = result at effect verdict ⊢
    cases effect with
    | dispatched => simp at verdict
    | kept => exact .inl rfl
    | promoted record row attempting => exact .inr ⟨record, row, attempting, rfl⟩

@[simp] theorem Outcome.args_allow (outcome : Outcome) (run : PublishRun) (allow : Bool) :
    (outcome.args run allow).allowFromTerminal = allow := by
  cases outcome <;> rfl

@[simp] theorem Outcome.args_expectFrom (outcome : Outcome) (run : PublishRun) (allow : Bool) :
    (outcome.args run allow).expectFrom = none := by
  cases outcome <;> rfl

theorem Outcome.toState_ne_attempting (outcome : Outcome) : outcome.toState ≠ .attempting := by
  cases outcome with
  | success => simp [Outcome.toState]
  | failure errorClass =>
    by_cases h : errorClass = some "http_5xx" <;> simp [Outcome.toState, terminalForErrorClass, h]

theorem Outcome.toState_failed_iff (outcome : Outcome) :
    outcome.toState = .failed ↔ ∃ errorClass, outcome = .failure errorClass ∧
      errorClass ≠ some "http_5xx" := by
  cases outcome with
  | success => simp [Outcome.toState]
  | failure errorClass =>
    by_cases h : errorClass = some "http_5xx" <;> simp [Outcome.toState, terminalForErrorClass, h]

theorem terminalDecision_some_iff (record : Option DedupRecord) (state : DedupState) (allow : Bool) :
    terminalDecision record state = some allow ↔
      ∃ r, record = some r ∧ r.state ≠ .done ∧ ¬(r.state = .uncertain ∧ state = .failed) ∧
        ¬(r.state = .failed ∧ state ≠ .done) ∧ allow = decide (r.state = .failed) := by
  cases record with
  | none => simp [terminalDecision]
  | some r =>
    simp only [terminalDecision, Option.some.injEq, exists_eq_left']
    split_ifs with hdone hheld hfailed
    · simp [hdone]
    · simp [hheld]
    · simp [hfailed]
    · simp only [Option.some.injEq, hdone, hheld, hfailed, ne_eq, not_false_eq_true, true_and]
      exact eq_comm

theorem terminalWrite_some_iff (table next : DedupTable) (key : DedupKey) (run : PublishRun)
    (outcome : Outcome) (allow : Bool) (writtenAt : ℚ) :
    terminalWrite table key run outcome allow writtenAt = some next ↔
      ∃ record, table key = some record ∧ (record.state.terminal = true → allow = true) ∧
        Function.update table key
          (some (settled record outcome.toState (outcome.args run allow) writtenAt)) = next := by
  have hne := outcome.toState_ne_attempting
  have hok := transition_ok_iff table next key outcome.toState (outcome.args run allow) writtenAt
  simp only [Outcome.args_expectFrom, Outcome.args_allow, hne, ne_eq, not_false_eq_true, true_and,
    reduceCtorEq, false_implies, implies_true] at hok
  rw [← hok]
  unfold terminalWrite
  cases transition table key outcome.toState (outcome.args run allow) writtenAt <;>
    simp [Except.toOption]

/-- A write over an existing row is refused only where the row is terminal. -/
theorem terminalWrite_none {table : DedupTable} {key : DedupKey} {run : PublishRun}
    {outcome : Outcome} {allow : Bool} {writtenAt : ℚ} {record : DedupRecord}
    (refused : terminalWrite table key run outcome allow writtenAt = none)
    (row : table key = some record) : record.state.terminal = true ∧ allow = false := by
  by_contra h
  have opened : record.state.terminal = true → allow = true := by simpa using h
  have written := (terminalWrite_some_iff table _ key run outcome allow writtenAt).2
    ⟨record, row, opened, rfl⟩
  rw [refused] at written
  cases written

theorem Adjudication.toState_terminal (decision : Adjudication) :
    decision.toState.terminal = true := by
  cases decision <;> rfl

theorem adjudicateOne_some_iff (table next : DedupTable) (key : DedupKey)
    (decision : Adjudication) (runId : Option String) (writtenAt : ℚ) :
    adjudicateOne table key decision runId writtenAt = some next ↔
      ∃ record, table key = some record ∧ record.state = .uncertain ∧
        Function.update table key (some (settled record decision.toState
          { runId, expectFrom := some [.uncertain] } writtenAt)) = next := by
  have hok := transition_ok_iff table next key decision.toState
    { runId, expectFrom := some [.uncertain] } writtenAt
  have hiff : adjudicateOne table key decision runId writtenAt = some next ↔
      transition table key decision.toState { runId, expectFrom := some [.uncertain] } writtenAt =
        .ok next := by
    unfold adjudicateOne
    cases transition table key decision.toState { runId, expectFrom := some [.uncertain] }
      writtenAt <;> simp [Except.toOption]
  have target : decision.toState ≠ .attempting := by cases decision <;> simp [Adjudication.toState]
  rw [hiff, hok]
  simp only [target, ne_eq, not_false_eq_true, true_and]
  refine exists_congr fun record => and_congr_right fun _ => ?_
  constructor
  · rintro ⟨hexp, _, rfl⟩
    exact ⟨by simpa using hexp _ rfl, rfl⟩
  · rintro ⟨hunc, rfl⟩
    exact ⟨by simp [hunc], by simp [hunc, DedupState.terminal], rfl⟩

end BacklinkPublisher.DedupGate
