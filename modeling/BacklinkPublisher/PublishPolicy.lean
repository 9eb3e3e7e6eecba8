import BacklinkPublisher.CircuitAccessors
import BacklinkPublisher.PublishSeams

set_option autoImplicit false

/-!
# The publish policy

`publish_with_policy` of `publishing/reliability/policy.py` over the circuit file and the
counters of `health/persistence/locked_store.py`. A call carries what it reads of its
surroundings and what the adapters answer.
-/
namespace BacklinkPublisher.PublishPolicy
open CircuitBreaker CircuitAccessors PublishErrors PublishSeams

/-! ## Settings -/

inductive PolicyMode where
  | off
  | observe
  | enforce
  deriving DecidableEq, Repr

/-- A threshold is `none` where its variable is unset or no integer. -/
structure PolicySettings where
  mode : PolicyMode
  enforceAllowlist : List String := []
  authThreshold : Option ℤ := none
  errorThreshold : Option ℤ := none

def PolicySettings.enforcingFor (settings : PolicySettings) (platform : String) : Bool :=
  settings.mode = .enforce && platform ∈ settings.enforceAllowlist

def threshold (configured : Option ℤ) (default : ℤ) : ℤ :=
  match configured with
  | some value => max 1 value
  | none => default

/-- The upstream errors that are counted. -/
inductive Upstream where
  | auth
  | external
  deriving DecidableEq, Repr

def PolicySettings.threshold (settings : PolicySettings) : Upstream → ℤ
  | .auth => PublishPolicy.threshold settings.authThreshold 3
  | .external => PublishPolicy.threshold settings.errorThreshold 5

def browserTier : List String := ["medium", "velog", "devto", "mastodon"]

def banSignals : List String := ["ban", "banned", "suspended"]

def isBanSignal (exc : Raised) : Bool :=
  banSignals.any fun signal => occursIn signal (lowered exc.message)

/-! ## The failure counters -/

/-- An entry of the health file: an object, another value that `dict` accepts, or neither.
The counter is what `int` makes of it, `none` where `int` raises. -/
inductive HealthJson where
  | object (consecutiveFailures : Option ℤ)
  | pairs (consecutiveFailures : Option ℤ)
  | other

/-- What is at the path: no file, nothing that reads as an object, or an object. -/
inductive HealthFile where
  | missing
  | unreadable
  | object (entries : String → Option HealthJson)

/-- `locked_store.get(platform, config)["consecutive_failures"]` -/
def HealthFile.get (file : HealthFile) (platform : String) : ℤ :=
  match file with
  | .missing | .unreadable => 0
  | .object entries =>
    match entries platform with
    | some (.object (some failures)) => failures
    | _ => 0

def HealthFile.forUpdate : HealthFile → Option (String → Option HealthJson)
  | .missing => some fun _ => none
  | .unreadable => none
  | .object entries => some entries

/-- The counter of `dict(state.get(platform, {}))`. -/
def failuresOf (entries : String → Option HealthJson) (platform : String) : Option (Option ℤ) :=
  match entries platform with
  | none => some (some 0)
  | some (.object failures) | some (.pairs failures) => some failures
  | some .other => none

/-- `locked_store.update`, `none` where it raises. -/
def HealthFile.update (file : HealthFile) (platform : String) (f : Option ℤ → Option ℤ) :
    Option HealthFile := do
  let entries ← file.forUpdate
  let failures ← failuresOf entries platform
  let failures ← f failures
  some (.object (Function.update entries platform (some (.object (some failures)))))

def resetFailures (health : HealthFile) (platform : String) : HealthFile :=
  (health.update platform fun _ => some 0).getD health

/-! ## A call -/

structure PolicyCall where
  channelStatus : String := "bound"
  gateHost : Host
  statusHost : Host
  tripHost : Host
  outcome : AdapterOutcome

structure PolicyState where
  circuit : StateFile
  health : HealthFile

/-- The calls that change what the breaker counts. -/
inductive PolicyAction where
  | recordSuccess
  | resetFailures
  | countFailure
  | trip
  deriving DecidableEq, Repr

/-- `broken` is an exception of the circuit file. -/
inductive PolicyResult where
  | returned (result : AdapterResult)
  | raised (exc : Raised)
  | broken

structure PolicyEnd where
  state : PolicyState
  actions : List PolicyAction := []
  result : PolicyResult

inductive Gate where
  | skips (circuit : StateFile) (result : AdapterResult)
  | broken
  | dispatches (circuit : StateFile)

def gate (settings : PolicySettings) (platform : String) (circuit : StateFile) (call : PolicyCall) :
    Gate :=
  if platform ∈ browserTier && call.channelStatus ≠ "bound" && settings.enforcingFor platform then
    .skips circuit
      { status := "skipped_policy", adapter := "policy", platform
        error := some ("channel not bound (status='" ++ call.channelStatus ++ "')") }
  else
    match isTripped circuit platform call.gateHost with
    | none => .broken
    | some (blocked, circuit) =>
      if blocked && settings.enforcingFor platform &&
          circuitStatus circuit platform call.statusHost = .opened then
        .skips circuit
          { status := "skipped_circuit_open", adapter := "policy", platform
            error := some ("circuit open for " ++ platform) }
      else .dispatches circuit

/-- `trip` and the reset that follows it. -/
def tripAndReset (platform : String) (call : PolicyCall) (exc : Raised) (state : PolicyState)
    (actions : List PolicyAction) : PolicyEnd :=
  match trip state.circuit platform call.tripHost with
  | none => ⟨state, actions ++ [.trip], .broken⟩
  | some circuit =>
    ⟨⟨circuit, resetFailures state.health platform⟩, actions ++ [.trip, .resetFailures], .raised exc⟩

def recordFailureAndMaybeTrip (platform : String) (call : PolicyCall) (exc : Raised)
    (threshold : ℤ) (state : PolicyState) : PolicyEnd :=
  match state.health.update platform (Option.map (· + 1)) with
  | none => ⟨state, [.countFailure], .raised exc⟩
  | some health =>
    if threshold ≤ health.get platform then
      tripAndReset platform call exc ⟨state.circuit, health⟩ [.countFailure]
    else ⟨⟨state.circuit, health⟩, [.countFailure], .raised exc⟩

/-- The `try` block around `adapter_publish` and its `except` arms. -/
def account (settings : PolicySettings) (platform : String) (call : PolicyCall)
    (state : PolicyState) : PolicyEnd :=
  match call.outcome with
  | .returned result =>
    match recordSuccess state.circuit platform with
    | none => ⟨state, [.recordSuccess], .broken⟩
    | some circuit =>
      ⟨⟨circuit, resetFailures state.health platform⟩, [.recordSuccess, .resetFailures],
        .returned result⟩
  | .raised exc =>
    if exc.isInstance .authExpiredError then
      if isBanSignal exc then
        match isDegraded state.circuit platform with
        | none => ⟨state, [], .broken⟩
        | some _ => tripAndReset platform call exc state []
      else recordFailureAndMaybeTrip platform call exc (settings.threshold .auth) state
    else if exc.isInstance .externalServiceError then
      recordFailureAndMaybeTrip platform call exc (settings.threshold .external) state
    else ⟨state, [], .raised exc⟩

def publishWithPolicy (settings : PolicySettings) (platform : String) (state : PolicyState)
    (call : PolicyCall) : PolicyEnd :=
  if settings.mode = .off then
    match call.outcome with
    | .returned result => ⟨state, [], .returned result⟩
    | .raised exc => ⟨state, [], .raised exc⟩
  else
    match gate settings platform state.circuit call with
    | .skips circuit result => ⟨{ state with circuit }, [], .returned result⟩
    | .broken => ⟨state, [], .broken⟩
    | .dispatches circuit => account settings platform call { state with circuit }

/-! ## Sequences of calls -/

/-- What the publish loop counts as a failed row. -/
def FailedRow (outcome : AdapterOutcome) : Prop :=
  ∃ result, outcome = .returned result ∧ result.inBandError ≠ none

def Succeeds (outcome : AdapterOutcome) : Prop :=
  ∃ result, outcome = .returned result ∧ result.inBandError = none

/-- The upstream error of an outcome; a ban trips at once and is not counted. -/
def upstream : AdapterOutcome → Option Upstream
  | .returned _ => none
  | .raised exc =>
    if exc.isInstance .authExpiredError then if isBanSignal exc then none else some .auth
    else if exc.isInstance .externalServiceError then some .external
    else none

section Runs
variable (settings : PolicySettings) (platform : String)

/-- The adapters are asked. -/
def dispatched (state : PolicyState) (call : PolicyCall) : Bool :=
  match gate settings platform state.circuit call with
  | .dispatches _ => true
  | _ => false

abbrev next (state : PolicyState) (call : PolicyCall) : PolicyState :=
  (publishWithPolicy settings platform state call).state

def stateAfter (state : PolicyState) (calls : List PolicyCall) : PolicyState :=
  calls.foldl (next settings platform) state

def EachCall (P : PolicyState → PolicyCall → Prop) : PolicyState → List PolicyCall → Prop
  | _, [] => True
  | state, call :: calls => P state call ∧ EachCall P (next settings platform state call) calls

/-- No outcome of the calls is a success. -/
def Failing : PolicyState → List PolicyCall → Prop :=
  EachCall settings platform fun state call =>
    dispatched settings platform state call = true → ¬ Succeeds call.outcome

/-- No outcome of the calls is a result with an error. -/
def Raising : PolicyState → List PolicyCall → Prop :=
  EachCall settings platform fun state call =>
    dispatched settings platform state call = true → ¬ FailedRow call.outcome

def Untripped : PolicyState → List PolicyCall → Prop :=
  EachCall settings platform fun state call =>
    .trip ∉ (publishWithPolicy settings platform state call).actions

def upstreamErrors (kind : Upstream) : PolicyState → List PolicyCall → ℕ
  | _, [] => 0
  | state, call :: calls =>
    (if dispatched settings platform state call && upstream call.outcome = some kind then 1 else 0) +
      upstreamErrors kind (next settings platform state call) calls

end Runs

/-- The circuit is open or half-open. -/
def OpenCircuit (file : StateFile) (platform : String) : Prop :=
  ∃ entries entry, file = .object entries ∧ entries platform = some (.object entry) ∧
    (entry.state = .circuit .opened ∨ entry.state = .circuit .halfOpen)

/-- Failed rows neither count as a success nor hide upstream errors. -/
structure CountsFailedRows (settings : PolicySettings) (platform : String) (start : PolicyState)
    (calls : List PolicyCall) : Prop where
  uncounted : EachCall settings platform (fun state call => FailedRow call.outcome →
    .recordSuccess ∉ (publishWithPolicy settings platform state call).actions ∧
      .resetFailures ∉ (publishWithPolicy settings platform state call).actions) start calls
  degraded : ∀ pre failing post, calls = pre ++ failing ++ post →
    Failing settings platform (stateAfter settings platform start pre) failing →
    OpenCircuit (stateAfter settings platform start pre).circuit platform →
    OpenCircuit (stateAfter settings platform start (pre ++ failing)).circuit platform
  trips : ∀ pre failing post kind, calls = pre ++ failing ++ post →
    Failing settings platform (stateAfter settings platform start pre) failing →
    settings.threshold kind ≤
      upstreamErrors settings platform kind (stateAfter settings platform start pre) failing →
    ¬ Untripped settings platform (stateAfter settings platform start pre) failing

/-- The counter of the platform is one that the writers leave. -/
def SoundHealth (file : HealthFile) (platform : String) : Prop :=
  match file with
  | .missing => True
  | .unreadable => False
  | .object entries => entries platform = none ∨
      ∃ failures, 0 ≤ failures ∧ entries platform = some (.object (some failures))

/-- Both files are as the writers leave them. -/
structure SoundState (state : PolicyState) (platform : String) : Prop where
  circuit : SoundFile state.circuit
  health : SoundHealth state.health platform

section Health
variable {file : HealthFile} {platform : String}

theorem SoundHealth.get_nonneg (sound : SoundHealth file platform) : 0 ≤ file.get platform := by
  cases file with
  | missing => exact Int.le_refl 0
  | unreadable => exact sound.elim
  | object entries =>
    rcases sound with absent | ⟨failures, nonneg, present⟩
    · simp [HealthFile.get, absent]
    · simpa [HealthFile.get, present] using nonneg

theorem SoundHealth.update (sound : SoundHealth file platform) :
    ∃ entries, ∀ f, file.update platform f = (f (some (file.get platform))).map fun failures =>
      .object (Function.update entries platform (some (.object (some failures)))) := by
  have bound (entries : String → Option HealthJson) (failures : ℤ) (f : Option ℤ → Option ℤ)
      (h : failuresOf entries platform = some (some failures)) :
      (HealthFile.object entries).update platform f = (f (some failures)).map fun failures =>
        .object (Function.update entries platform (some (.object (some failures)))) := by
    cases hf : f (some failures) <;> simp [HealthFile.update, HealthFile.forUpdate, h, hf]
  cases file with
  | missing => exact ⟨_, fun f => bound (fun _ => none) 0 f rfl⟩
  | unreadable => exact sound.elim
  | object entries =>
    refine ⟨entries, fun f => ?_⟩
    rcases sound with absent | ⟨failures, -, present⟩
    · rw [bound entries 0 f (by simp [failuresOf, absent])]
      simp [HealthFile.get, absent]
    · rw [bound entries failures f (by simp [failuresOf, present])]
      simp [HealthFile.get, present]

@[simp] theorem get_put (entries : String → Option HealthJson) (failures : ℤ) :
    (HealthFile.object (Function.update entries platform (some (.object (some failures))))).get
      platform = failures := by
  simp [HealthFile.get]

theorem soundHealth_put (entries : String → Option HealthJson) {failures : ℤ} (h : 0 ≤ failures) :
    SoundHealth (.object (Function.update entries platform (some (.object (some failures)))))
      platform :=
  .inr ⟨failures, h, by simp⟩

theorem SoundHealth.reset (sound : SoundHealth file platform) :
    SoundHealth (resetFailures file platform) platform := by
  obtain ⟨entries, update⟩ := sound.update
  unfold resetFailures
  rw [update]
  exact soundHealth_put entries (Int.le_refl 0)

end Health

/-! ## What a call does -/

section Circuit
variable {file file' : StateFile} {platform : String}

theorem openCircuit_put (entries : Entries) {entry : CircuitEntry}
    (h : entry.state = .circuit .opened ∨ entry.state = .circuit .halfOpen) :
    OpenCircuit (put entries platform entry) platform :=
  ⟨_, entry, rfl, by simp, h⟩

theorem openCircuit_trip {host : Host} (h : trip file platform host = some file') :
    OpenCircuit file' platform := by
  obtain ⟨entries, -, rfl⟩ := Option.map_eq_some_iff.1 h
  exact openCircuit_put entries (.inl rfl)

/-- The file is as it was or as `is_tripped` leaves it. -/
def Checked (file file' : StateFile) (platform : String) : Prop :=
  file' = file ∨ ∃ host blocked, isTripped file platform host = some (blocked, file')

theorem Checked.sound (checked : Checked file file' platform) (sound : SoundFile file) :
    SoundFile file' := by
  rcases checked with rfl | ⟨host, blocked, h⟩
  · exact sound
  · have ran : run file (.isTripped platform host) = some file' := by simp [run, h]
    exact run_sound sound ran

theorem Checked.openCircuit (checked : Checked file file' platform)
    (degraded : OpenCircuit file platform) : OpenCircuit file' platform := by
  rcases checked with rfl | ⟨host, blocked, h⟩
  · exact degraded
  · rcases isTripped_some h with rfl | ⟨-, transition⟩
    · exact degraded
    · obtain ⟨entries, -, rfl⟩ := Option.map_eq_some_iff.1 transition
      exact openCircuit_put entries (.inr rfl)

theorem soundFile_trip (sound : SoundFile file) (platform : String) (host : Host) :
    ∃ file', CircuitBreaker.trip file platform host = some file' ∧ SoundFile file' := by
  obtain ⟨entries, hentries, -⟩ := sound.entries
  have tripped : CircuitBreaker.trip file platform host =
      some (put entries platform (openEntry host)) := by
    simp [CircuitBreaker.trip, hentries]
  have ran : run file (.trip platform host) = some (put entries platform (openEntry host)) := tripped
  exact ⟨_, tripped, run_sound sound ran⟩

end Circuit

section Calls
variable {settings : PolicySettings} {platform : String} {state : PolicyState} {call : PolicyCall}

theorem gate_checked {circuit : StateFile} :
    match gate settings platform circuit call with
    | .skips circuit' _ | .dispatches circuit' => Checked circuit circuit' platform
    | .broken => True := by
  unfold gate
  split_ifs
  · exact .inl rfl
  · cases h : isTripped circuit platform call.gateHost with
    | none => trivial
    | some answer =>
      obtain ⟨blocked, circuit'⟩ := answer
      have checked : Checked circuit circuit' platform := .inr ⟨_, blocked, h⟩
      dsimp only
      split_ifs <;> exact checked

variable (platform state call) in
/-- An active policy holds a call back, or accounts for what the adapters answer. -/
theorem publish_cases (active : settings.mode ≠ .off) :
    (dispatched settings platform state call = false ∧
      (publishWithPolicy settings platform state call).actions = [] ∧
      (next settings platform state call).health = state.health ∧
      Checked state.circuit (next settings platform state call).circuit platform) ∨
    (dispatched settings platform state call = true ∧ ∃ circuit,
      Checked state.circuit circuit platform ∧
      publishWithPolicy settings platform state call =
        account settings platform call { state with circuit }) := by
  have checked := @gate_checked settings platform call state.circuit
  unfold dispatched next publishWithPolicy
  rw [if_neg active]
  cases hgate : gate settings platform state.circuit call with
  | skips circuit result =>
    rw [hgate] at checked
    exact .inl ⟨rfl, rfl, rfl, checked⟩
  | broken => exact .inl ⟨rfl, rfl, rfl, .inl rfl⟩
  | dispatches circuit =>
    rw [hgate] at checked
    exact .inr ⟨rfl, circuit, checked, rfl⟩

theorem mem_actions_tripAndReset (exc : Raised) (actions : List PolicyAction) :
    .trip ∈ (tripAndReset platform call exc state actions).actions := by
  unfold tripAndReset
  cases trip state.circuit platform call.tripHost <;> simp

theorem tripAndReset_sound (exc : Raised) (actions : List PolicyAction)
    (sound : SoundState state platform) :
    SoundState (tripAndReset platform call exc state actions).state platform := by
  obtain ⟨circuit, tripped, soundCircuit⟩ := soundFile_trip sound.circuit platform call.tripHost
  unfold tripAndReset
  rw [tripped]
  exact ⟨soundCircuit, sound.health.reset⟩

theorem tripAndReset_openCircuit (exc : Raised) (actions : List PolicyAction)
    (degraded : OpenCircuit state.circuit platform) :
    OpenCircuit (tripAndReset platform call exc state actions).state.circuit platform := by
  unfold tripAndReset
  cases tripped : trip state.circuit platform call.tripHost with
  | none => exact degraded
  | some circuit => exact openCircuit_trip tripped

/-- A counted failure raises the counter by one, or trips. -/
theorem recordFailure_counts (exc : Raised) (threshold : ℤ) (sound : SoundState state platform) :
    SoundState (recordFailureAndMaybeTrip platform call exc threshold state).state platform ∧
    (.trip ∉ (recordFailureAndMaybeTrip platform call exc threshold state).actions →
      (recordFailureAndMaybeTrip platform call exc threshold state).state.health.get platform =
          state.health.get platform + 1 ∧
        state.health.get platform + 1 < threshold) := by
  obtain ⟨entries, update⟩ := sound.health.update
  have nonneg := sound.health.get_nonneg
  have counted : SoundState ⟨state.circuit, .object (Function.update entries platform
      (some (.object (some (state.health.get platform + 1)))))⟩ platform :=
    ⟨sound.circuit, soundHealth_put entries (by omega)⟩
  unfold recordFailureAndMaybeTrip
  rw [update]
  simp only [Option.map_some, get_put]
  split_ifs with reached
  · exact ⟨tripAndReset_sound exc _ counted,
      fun untripped => absurd (mem_actions_tripAndReset exc _) untripped⟩
  · refine ⟨counted, fun _ => ⟨get_put entries _, ?_⟩⟩
    omega

theorem recordFailure_openCircuit (exc : Raised) (threshold : ℤ)
    (degraded : OpenCircuit state.circuit platform) :
    OpenCircuit (recordFailureAndMaybeTrip platform call exc threshold state).state.circuit
      platform := by
  unfold recordFailureAndMaybeTrip
  cases state.health.update platform (Option.map (· + 1)) with
  | none => exact degraded
  | some health =>
    dsimp only
    split_ifs
    · exact tripAndReset_openCircuit exc _ degraded
    · exact degraded

theorem account_sound (sound : SoundState state platform) :
    SoundState (account settings platform call state).state platform := by
  unfold account
  cases call.outcome with
  | returned result =>
    cases recorded : recordSuccess state.circuit platform with
    | none => exact sound
    | some circuit =>
      have ran : run state.circuit (.recordSuccess platform) = some circuit := recorded
      exact ⟨run_sound sound.circuit ran, sound.health.reset⟩
  | raised exc =>
    dsimp only
    split_ifs
    · cases isDegraded state.circuit platform with
      | none => exact sound
      | some flag => exact tripAndReset_sound exc [] sound
    · exact (recordFailure_counts exc _ sound).1
    · exact (recordFailure_counts exc _ sound).1
    · exact sound

/-- Every result counts as a success, whatever its error. -/
theorem account_returned {result : AdapterResult} (h : call.outcome = .returned result) :
    .recordSuccess ∈ (account settings platform call state).actions := by
  unfold account
  rw [h]
  cases recordSuccess state.circuit platform <;> simp

theorem account_openCircuit {exc : Raised} (h : call.outcome = .raised exc)
    (degraded : OpenCircuit state.circuit platform) :
    OpenCircuit (account settings platform call state).state.circuit platform := by
  unfold account
  rw [h]
  dsimp only
  split_ifs
  · cases isDegraded state.circuit platform with
    | none => exact degraded
    | some flag => exact tripAndReset_openCircuit exc [] degraded
  · exact recordFailure_openCircuit exc _ degraded
  · exact recordFailure_openCircuit exc _ degraded
  · exact degraded

theorem soundFile_isDegraded {file : StateFile} (sound : SoundFile file) (platform : String) :
    ∃ flag, isDegraded file platform = some flag := by
  cases file with
  | missing => exact ⟨_, rfl⟩
  | undecodable | unparsable | nonObject => exact sound.elim
  | object entries =>
    cases h : entries platform with
    | none => exact ⟨false, by simp [isDegraded, getState, h, CircuitEntry.view]⟩
    | some json =>
      obtain ⟨entry, rfl, -⟩ := sound platform json h
      exact ⟨entry.tripped, by simp [isDegraded, getState, h, CircuitEntry.view]⟩

/-- Without a trip the counter grows by the upstream error of the call and stays below the
threshold of its kind. -/
theorem account_counts {exc : Raised} (h : call.outcome = .raised exc)
    (sound : SoundState state platform)
    (untripped : .trip ∉ (account settings platform call state).actions) (kind : Upstream) :
    state.health.get platform ≤ (account settings platform call state).state.health.get platform ∧
    (upstream call.outcome = some kind →
      (account settings platform call state).state.health.get platform =
          state.health.get platform + 1 ∧
        state.health.get platform + 1 < settings.threshold kind) := by
  have counts (threshold : ℤ)
      (untripped : .trip ∉ (recordFailureAndMaybeTrip platform call exc threshold state).actions) :=
    (recordFailure_counts exc threshold sound).2 untripped
  rw [h]
  unfold account at untripped ⊢
  unfold upstream
  rw [h] at untripped ⊢
  dsimp only at untripped ⊢
  split_ifs at untripped ⊢
  · obtain ⟨flag, degraded⟩ := soundFile_isDegraded sound.circuit platform
    rw [degraded] at untripped
    exact absurd (mem_actions_tripAndReset exc []) untripped
  · obtain ⟨counted, below⟩ := counts _ untripped
    refine ⟨by omega, ?_⟩
    rintro ⟨⟩
    exact ⟨counted, below⟩
  · obtain ⟨counted, below⟩ := counts _ untripped
    refine ⟨by omega, ?_⟩
    rintro ⟨⟩
    exact ⟨counted, below⟩
  · exact ⟨Int.le_refl _, fun h => by cases h⟩

theorem next_sound (active : settings.mode ≠ .off) (sound : SoundState state platform) :
    SoundState (next settings platform state call) platform := by
  rcases publish_cases platform state call active with
    ⟨-, -, health, checked⟩ | ⟨-, circuit, checked, published⟩
  · exact ⟨checked.sound sound.circuit, health ▸ sound.health⟩
  · unfold next
    rw [published]
    exact account_sound ⟨checked.sound sound.circuit, sound.health⟩

end Calls

/-! ## Runs -/

section Sequences
variable {settings : PolicySettings} {platform : String} {state : PolicyState}
  {calls : List PolicyCall} {P Q : PolicyState → PolicyCall → Prop}

theorem eachCall_append (calls' : List PolicyCall) :
    EachCall settings platform P state (calls ++ calls') ↔
      EachCall settings platform P state calls ∧
        EachCall settings platform P (stateAfter settings platform state calls) calls' := by
  induction calls generalizing state with
  | nil => simp [EachCall, stateAfter]
  | cons call calls ih =>
    change P state call ∧ EachCall settings platform P _ (calls ++ calls') ↔ _
    rw [ih, ← and_assoc]
    rfl

theorem EachCall.mono (each : EachCall settings platform P state calls)
    (imp : ∀ state call, P state call → Q state call) : EachCall settings platform Q state calls := by
  induction calls generalizing state with
  | nil => trivial
  | cons call calls ih => exact ⟨imp state call each.1, ih each.2⟩

theorem stateAfter_append (calls' : List PolicyCall) :
    stateAfter settings platform state (calls ++ calls') =
      stateAfter settings platform (stateAfter settings platform state calls) calls' :=
  List.foldl_append

variable (calls) in
theorem stateAfter_sound (active : settings.mode ≠ .off) (sound : SoundState state platform) :
    SoundState (stateAfter settings platform state calls) platform := by
  induction calls generalizing state with
  | nil => exact sound
  | cons call calls ih => exact ih (next_sound active sound)

/-- Where no result is a success and none carries an error, the adapters raise. -/
theorem raised_of_failing {call : PolicyCall}
    (failing : dispatched settings platform state call = true → ¬ Succeeds call.outcome)
    (raising : dispatched settings platform state call = true → ¬ FailedRow call.outcome)
    (asked : dispatched settings platform state call = true) :
    ∃ exc, call.outcome = .raised exc := by
  cases houtcome : call.outcome with
  | raised exc => exact ⟨exc, rfl⟩
  | returned result =>
    exfalso
    by_cases inBand : result.inBandError = none
    · exact failing asked ⟨result, houtcome, inBand⟩
    · exact raising asked ⟨result, houtcome, inBand⟩

theorem failing_openCircuit (active : settings.mode ≠ .off)
    (failing : Failing settings platform state calls)
    (raising : Raising settings platform state calls)
    (degraded : OpenCircuit state.circuit platform) :
    OpenCircuit (stateAfter settings platform state calls).circuit platform := by
  induction calls generalizing state with
  | nil => exact degraded
  | cons call calls ih =>
    apply ih failing.2 raising.2
    rcases publish_cases platform state call active with
      ⟨-, -, -, checked⟩ | ⟨asked, circuit, checked, published⟩
    · exact checked.openCircuit degraded
    · obtain ⟨exc, houtcome⟩ := raised_of_failing failing.1 raising.1 asked
      unfold next
      rw [published]
      exact account_openCircuit houtcome (checked.openCircuit degraded)

/-- Failing calls that never trip leave room for the errors of a kind below its threshold. -/
theorem untripped_below (active : settings.mode ≠ .off) (sound : SoundState state platform)
    (failing : Failing settings platform state calls)
    (raising : Raising settings platform state calls)
    (untripped : Untripped settings platform state calls) (kind : Upstream) :
    upstreamErrors settings platform kind state calls = 0 ∨
      state.health.get platform + upstreamErrors settings platform kind state calls <
        settings.threshold kind := by
  induction calls generalizing state with
  | nil => exact .inl rfl
  | cons call calls ih =>
    have later := ih (next_sound active sound) failing.2 raising.2 untripped.2
    have first : .trip ∉ (publishWithPolicy settings platform state call).actions := untripped.1
    unfold upstreamErrors
    rcases publish_cases platform state call active with
      ⟨held, -, health, -⟩ | ⟨asked, circuit, checked, published⟩
    · rw [health] at later
      simpa [held] using later
    · obtain ⟨exc, houtcome⟩ := raised_of_failing failing.1 raising.1 asked
      have sound' : SoundState { state with circuit } platform :=
        ⟨checked.sound sound.circuit, sound.health⟩
      rw [published] at first
      obtain ⟨grows, counted⟩ := account_counts houtcome sound' first kind
      unfold next at later ⊢
      rw [published] at later ⊢
      by_cases same : upstream call.outcome = some kind
      · obtain ⟨counted, below⟩ := counted same
        simp only [asked, same, decide_true, Bool.and_self, if_true]
        dsimp only at counted below
        right
        push_cast
        omega
      · simp only [asked, same, decide_false, Bool.and_false, Bool.false_eq_true, if_false]
        dsimp only at grows
        push_cast
        omega

variable (settings) in
theorem threshold_pos (kind : Upstream) : 0 < settings.threshold kind := by
  have positive (configured : Option ℤ) (default : ℤ) (h : 0 < default) :
      0 < PublishPolicy.threshold configured default := by
    cases configured with
    | none => exact h
    | some value =>
      change 0 < max 1 value
      omega
  cases kind with
  | auth => exact positive _ 3 (by decide)
  | external => exact positive _ 5 (by decide)

end Sequences

/-- With an active policy, failed rows are left out of the count of successes exactly in the runs
in which the adapters return no result with an error. -/
theorem counts_failed_rows_iff (settings : PolicySettings) (platform : String) (start : PolicyState)
    (calls : List PolicyCall) (active : settings.mode ≠ .off) (sound : SoundState start platform) :
    CountsFailedRows settings platform start calls ↔ Raising settings platform start calls := by
  constructor
  · intro counts
    apply counts.uncounted.mono
    intro state call uncounted asked failed
    rcases publish_cases platform state call active with
      ⟨held, -⟩ | ⟨-, circuit, -, published⟩
    · rw [held] at asked
      cases asked
    · obtain ⟨result, houtcome, -⟩ := id failed
      have recorded := (uncounted failed).1
      rw [published] at recorded
      exact recorded (account_returned houtcome)
  · intro raising
    have within {pre failing post : List PolicyCall} (h : calls = pre ++ failing ++ post) :
        Raising settings platform (stateAfter settings platform start pre) failing := by
      rw [h] at raising
      exact ((eachCall_append failing).1 ((eachCall_append post).1 raising).1).2
    refine ⟨?_, ?_, ?_⟩
    · apply raising.mono
      intro state call raising failed
      rcases publish_cases platform state call active with
        ⟨-, held, -⟩ | ⟨asked, -⟩
      · rw [held]
        exact ⟨List.not_mem_nil, List.not_mem_nil⟩
      · exact absurd failed (raising asked)
    · intro pre failing post split fails degraded
      rw [stateAfter_append]
      exact failing_openCircuit active fails (within split) degraded
    · intro pre failing post kind split fails reached untripped
      have positive := threshold_pos settings kind
      have sound' := stateAfter_sound pre active sound
      have nonneg := sound'.health.get_nonneg
      have below := untripped_below active sound' fails (within split) untripped kind
      omega

def plainHost : Host where
  now := 0
  writtenAt := 0
  cooldown := 300
  threshold := 3

def plainCall (outcome : AdapterOutcome) : PolicyCall where
  gateHost := plainHost
  statusHost := plainHost
  tripHost := plainHost
  outcome := outcome

def upstreamCall : PolicyCall := plainCall (.raised (.of .externalServiceError "bad gateway"))

def rejectedCall : PolicyCall :=
  plainCall (.returned { status := "failed", adapter := "velog-graphql", platform := "velog"
                         error := some "rejected" })

def observing : PolicySettings := { mode := .observe }

theorem counts_failed_rows_iff_observing :
    CountsFailedRows observing "velog" ⟨.missing, .missing⟩ (List.replicate 5 upstreamCall) ↔
      Raising observing "velog" ⟨.missing, .missing⟩ (List.replicate 5 upstreamCall) :=
  counts_failed_rows_iff observing "velog" ⟨.missing, .missing⟩ (List.replicate 5 upstreamCall)
    (by decide) ⟨trivial, trivial⟩

/-- A rejected row among five upstream errors keeps the breaker from tripping; after the trip it
closes the circuit. -/
theorem rejected_row_counts_as_success :
    ¬ CountsFailedRows observing "velog" ⟨.missing, .missing⟩
        (List.replicate 4 upstreamCall ++ [rejectedCall, upstreamCall]) ∧
      ¬ CountsFailedRows observing "velog" ⟨.missing, .missing⟩
        (List.replicate 5 upstreamCall ++ [rejectedCall]) := by
  have upstream_fails : ¬ Succeeds upstreamCall.outcome := by
    intro ⟨result, houtcome, _⟩
    cases houtcome
  have rejected_fails : ¬ Succeeds rejectedCall.outcome := by
    intro ⟨result, houtcome, inBand⟩
    rw [← AdapterOutcome.returned.inj houtcome] at inBand
    exact absurd inBand (by decide)
  constructor
  · intro counts
    refine counts.trips [] (List.replicate 4 upstreamCall ++ [rejectedCall, upstreamCall]) []
      .external rfl ?_ (by decide) ?_
    · exact ⟨fun _ => upstream_fails, fun _ => upstream_fails, fun _ => upstream_fails,
        fun _ => upstream_fails, fun _ => rejected_fails, fun _ => upstream_fails, trivial⟩
    · exact ⟨by decide, by decide, by decide, by decide, by decide, by decide, trivial⟩
  · intro counts
    have opened : OpenCircuit (stateAfter observing "velog" ⟨.missing, .missing⟩
        (List.replicate 5 upstreamCall)).circuit "velog" := ⟨_, _, rfl, rfl, .inl rfl⟩
    obtain ⟨entries, entry, hfile, hentry, hstate⟩ :=
      counts.degraded (List.replicate 5 upstreamCall) [rejectedCall] [] rfl
        ⟨fun _ => rejected_fails, trivial⟩ opened
    have closed : (getState (stateAfter observing "velog" ⟨.missing, .missing⟩
        (List.replicate 5 upstreamCall ++ [rejectedCall])).circuit "velog").map StateView.state =
      some (.circuit .closed) := by decide +kernel
    have kept : (getState (.object entries) "velog").map StateView.state = some entry.state := by
      rcases hstate with hstate | hstate <;> simp [getState, hentry, CircuitEntry.view, hstate]
    rw [hfile, kept] at closed
    rw [Option.some.inj closed] at hstate
    simp at hstate

end BacklinkPublisher.PublishPolicy
