import Mathlib.Data.List.Dedup
import Mathlib.Data.Rat.Defs
import Mathlib.Logic.Function.Basic
import Mathlib.Tactic.Common

set_option autoImplicit false

/-!
# The dedup store

`idempotency/store.py`: one row per `(platform, account, canonical target_url)`
in `dedup.db`. Every writer is one `BEGIN IMMEDIATE` transaction, so it is a
function of the table it starts from. The table is indexed by its primary key
and the key columns are left out of the row.
-/
namespace BacklinkPublisher.DedupStore

inductive DedupState where
  | attempting
  | done
  | failed
  | uncertain
  deriving DecidableEq, Repr

def DedupState.terminal : DedupState → Bool
  | .done | .failed => true
  | .attempting | .uncertain => false

structure DedupKey where
  platform : String
  targetUrl : String
  account : String := "default"
  deriving DecidableEq, Repr

/-- `DedupKey.__post_init__`; `canonicalizeUrl` is `none` where `canonicalize_url`
raises. -/
def DedupKey.make (canonicalizeUrl : String → Option String)
    (platform targetUrl account : String) : Option DedupKey :=
  (canonicalizeUrl targetUrl).map fun url => ⟨platform, url, account⟩

structure DedupRecord where
  state : DedupState
  verifyOk : Option Bool
  liveUrl : Option String
  runId : Option String
  ownerPid : Option Int
  ownerRunId : Option String
  ownerStartedAt : Option ℚ
  updatedAt : ℚ
  deriving DecidableEq, Repr

abbrev DedupTable := DedupKey → Option DedupRecord

/-- The ownership columns a claim writes; `ownerPid` is after the `os.getpid()`
default. -/
structure Claimant where
  runId : Option String
  ownerPid : Int
  ownerRunId : Option String
  ownerStartedAt : Option ℚ := none
  deriving DecidableEq, Repr

/-- What one gate transaction reads from its host: the clock at the staleness
test, the clock at the write, and `_pid_alive`. -/
structure Host where
  now : ℚ
  writtenAt : ℚ
  pidAlive : Int → Bool

def staleTtl : ℚ := 3600

def isStaleAttempting (record : DedupRecord) (host : Host) (ttl : ℚ) : Bool :=
  if record.state ≠ .attempting then false
  else if record.ownerPid.any fun pid => !host.pidAlive pid then true
  else decide (host.now - record.updatedAt > ttl)

inductive GateVerdict where
  | dispatch
  | skip
  | hold
  | conflict
  deriving DecidableEq, Repr

structure GateDecision where
  verdict : GateVerdict
  record : Option DedupRecord := none
  deriving DecidableEq, Repr

def claimed (claimant : Claimant) (writtenAt : ℚ) : DedupRecord where
  state := .attempting
  verifyOk := none
  liveUrl := none
  runId := claimant.runId
  ownerPid := some claimant.ownerPid
  ownerRunId := claimant.ownerRunId
  ownerStartedAt := claimant.ownerStartedAt
  updatedAt := writtenAt

def claim (table : DedupTable) (key : DedupKey) (claimant : Claimant) (writtenAt : ℚ) :
    DedupTable :=
  Function.update table key (some (claimed claimant writtenAt))

/-- The stale row held for adjudication; `run_id` stays as provenance. -/
def promoted (record : DedupRecord) (writtenAt : ℚ) : DedupRecord :=
  { record with state := .uncertain, ownerPid := none, ownerRunId := none, updatedAt := writtenAt }

def gateAndClaim (table : DedupTable) (key : DedupKey) (claimant : Claimant) (host : Host)
    (ttl : ℚ) (force : Bool) : DedupTable × GateDecision :=
  match table key with
  | none => (claim table key claimant host.writtenAt, ⟨.dispatch, none⟩)
  | some record =>
    match record.state with
    | .done => (table, ⟨if force then .conflict else .skip, some record⟩)
    | .uncertain =>
      if force then (claim table key claimant host.writtenAt, ⟨.dispatch, some record⟩)
      else (table, ⟨.hold, some record⟩)
    | .failed => (claim table key claimant host.writtenAt, ⟨.dispatch, some record⟩)
    | .attempting =>
      if isStaleAttempting record host ttl then
        if force then (claim table key claimant host.writtenAt, ⟨.dispatch, some record⟩)
        else
          (Function.update table key (some (promoted record host.writtenAt)), ⟨.hold, some record⟩)
      else (table, ⟨.hold, some record⟩)

structure IntentOutcome where
  won : Bool
  existingState : Option DedupState := none
  deriving DecidableEq, Repr

/-- The `IntegrityError` arm of the source is dead under the write lock. -/
def intentWrite (table : DedupTable) (key : DedupKey) (claimant : Claimant) (writtenAt : ℚ) :
    DedupTable × IntentOutcome :=
  match table key with
  | some record => (table, ⟨false, some record.state⟩)
  | none => (claim table key claimant writtenAt, ⟨true, none⟩)

inductive TransitionError where
  | illegalTarget (toState : DedupState)
  | absentKey (key : DedupKey)
  | unexpectedState (key : DedupKey) (current : DedupState) (expected : List DedupState)
  | terminalState (key : DedupKey) (current : DedupState)
  deriving DecidableEq, Repr

/-- Optional arguments of `transition`; a `none` column value keeps the column. -/
structure TransitionArgs where
  liveUrl : Option String := none
  verifyOk : Option Bool := none
  runId : Option String := none
  allowFromTerminal : Bool := false
  expectFrom : Option (List DedupState) := none
  deriving DecidableEq, Repr

/-- The `UPDATE` of `transition`, with its `COALESCE`s. -/
def settled (record : DedupRecord) (toState : DedupState) (args : TransitionArgs)
    (writtenAt : ℚ) : DedupRecord :=
  { record with
    state := toState
    liveUrl := args.liveUrl.or record.liveUrl
    verifyOk := args.verifyOk.or record.verifyOk
    runId := args.runId.or record.runId
    updatedAt := writtenAt }

def transition (table : DedupTable) (key : DedupKey) (toState : DedupState)
    (args : TransitionArgs) (writtenAt : ℚ) : Except TransitionError DedupTable :=
  if toState = .attempting then .error (.illegalTarget toState)
  else
    match table key with
    | none => .error (.absentKey key)
    | some record =>
      if !args.expectFrom.all fun expected => decide (record.state ∈ expected) then
        .error (.unexpectedState key record.state (args.expectFrom.getD []))
      else if record.state.terminal && !args.allowFromTerminal then
        .error (.terminalState key record.state)
      else .ok (Function.update table key (some (settled record toState args writtenAt)))

/-- `INSERT OR IGNORE`; `true` iff a row was inserted. -/
def seed (table : DedupTable) (key : DedupKey) (state : DedupState) (liveUrl : Option String)
    (verifyOk : Option Bool) (writtenAt : ℚ) : DedupTable × Bool :=
  match table key with
  | some _ => (table, false)
  | none =>
    (Function.update table key (some
      { state, verifyOk, liveUrl, runId := none, ownerPid := none, ownerRunId := none,
        ownerStartedAt := none, updatedAt := writtenAt }), true)

def forget (table : DedupTable) (key : DedupKey) : DedupTable × Option DedupState :=
  (Function.update table key none, (table key).map (·.state))

def getMany (table : DedupTable) (keys : List DedupKey) : List (DedupKey × DedupRecord) :=
  keys.dedup.filterMap fun key => (table key).map fun record => (key, record)

theorem getMany_lookup (table : DedupTable) (keys : List DedupKey) (key : DedupKey)
    (record : DedupRecord) :
    (key, record) ∈ getMany table keys ↔ key ∈ keys ∧ table key = some record := by
  simp only [getMany, List.mem_filterMap, List.mem_dedup, Option.map_eq_some_iff, Prod.mk.injEq]
  constructor
  · rintro ⟨_, hk, _, hr, rfl, rfl⟩
    exact ⟨hk, hr⟩
  · rintro ⟨hk, hr⟩
    exact ⟨key, hk, record, hr, rfl, rfl⟩

theorem lookup_getMany {table : DedupTable} {keys : List DedupKey} {key : DedupKey}
    (hkey : key ∈ keys) : (getMany table keys).lookup key = table key := by
  cases hrow : table key with
  | none =>
    rw [List.lookup_eq_none_iff]
    rintro ⟨other, record⟩ hmem
    have hother := ((getMany_lookup table keys other record).1 hmem).2
    refine bne_iff_ne.2 fun same => ?_
    subst same
    simp [hrow] at hother
  | some record =>
    obtain ⟨found, hfound⟩ : ∃ found, (getMany table keys).lookup key = some found := by
      rw [← Option.isSome_iff_exists, List.lookup_isSome_iff]
      exact ⟨(key, record), (getMany_lookup table keys key record).2 ⟨hkey, hrow⟩, by simp⟩
    obtain ⟨_, _, hsplit, -⟩ := List.lookup_eq_some_iff.1 hfound
    have hmem : (key, found) ∈ getMany table keys := by simp [hsplit]
    rw [hfound, ← hrow, ((getMany_lookup table keys key found).1 hmem).2]

/-! ## What each transaction does to the table -/

/-- The rows a gate may claim: none, a `failed` one, and under `force` a held one. -/
def Claimable (table : DedupTable) (key : DedupKey) (force : Bool) : Prop :=
  ∀ record, table key = some record →
    record.state = .failed ∨ (force = true ∧ record.state ≠ .done)

inductive GateEffect (table : DedupTable) (key : DedupKey) (claimant : Claimant) (host : Host)
    (force : Bool) : DedupTable × GateDecision → Prop where
  | dispatched (claimable : Claimable table key force) :
      GateEffect table key claimant host force
        (claim table key claimant host.writtenAt, ⟨.dispatch, table key⟩)
  | promoted (record : DedupRecord) (row : table key = some record)
      (attempting : record.state = .attempting) (unforced : force = false) :
      GateEffect table key claimant host force
        (Function.update table key (some (promoted record host.writtenAt)), ⟨.hold, some record⟩)
  | kept (decision : GateDecision) (refused : decision.verdict ≠ .dispatch) :
      GateEffect table key claimant host force (table, decision)

theorem gateAndClaim_effect (table : DedupTable) (key : DedupKey) (claimant : Claimant)
    (host : Host) (ttl : ℚ) (force : Bool) :
    GateEffect table key claimant host force
      (gateAndClaim table key claimant host ttl force) := by
  cases hrow : table key with
  | none =>
    have claimable : Claimable table key force := fun _ h => by simp [hrow] at h
    have dispatched : GateEffect table key claimant host force _ := .dispatched claimable
    simpa only [gateAndClaim, hrow] using dispatched
  | some record =>
    have dispatched (h : record.state = .failed ∨ (force = true ∧ record.state ≠ .done)) :
        GateEffect table key claimant host force
          (claim table key claimant host.writtenAt, ⟨.dispatch, some record⟩) := by
      rw [← hrow]
      refine .dispatched fun other hother => ?_
      obtain rfl : record = other := by simpa [hrow] using hother
      exact h
    have held : GateEffect table key claimant host force (table, ⟨.hold, some record⟩) :=
      .kept _ (by simp)
    simp only [gateAndClaim, hrow]
    cases hstate : record.state with
    | done => exact .kept _ (by dsimp only; split <;> simp)
    | failed => exact dispatched (.inl hstate)
    | uncertain =>
      dsimp only
      split_ifs with hforce
      · exact dispatched (.inr ⟨hforce, by simp [hstate]⟩)
      · exact held
    | attempting =>
      dsimp only
      split_ifs with hstale hforce
      · exact dispatched (.inr ⟨hforce, by simp [hstate]⟩)
      · exact .promoted record hrow hstate (by simpa using hforce)
      · exact held

theorem transition_ok_iff (table next : DedupTable) (key : DedupKey) (toState : DedupState)
    (args : TransitionArgs) (writtenAt : ℚ) :
    transition table key toState args writtenAt = .ok next ↔
      toState ≠ .attempting ∧ ∃ record, table key = some record ∧
        (∀ expected, args.expectFrom = some expected → record.state ∈ expected) ∧
        (record.state.terminal = true → args.allowFromTerminal = true) ∧
        Function.update table key (some (settled record toState args writtenAt)) = next := by
  unfold transition
  by_cases hto : toState = .attempting
  · simp [hto]
  · cases hrow : table key with
    | none => simp [hto]
    | some record =>
      have hexp : (args.expectFrom.all fun expected => decide (record.state ∈ expected)) = true ↔
          ∀ expected, args.expectFrom = some expected → record.state ∈ expected := by
        cases args.expectFrom <;> simp
      by_cases hall : (args.expectFrom.all fun expected => decide (record.state ∈ expected)) = true
      · have hmem := hexp.1 hall
        cases ht : record.state.terminal <;> cases args.allowFromTerminal <;>
          simp [hto, hall, ht]
        all_goals exact fun _ => hmem
      · have hnone := mt hexp.2 hall
        simp [hto, hall, hnone]

end BacklinkPublisher.DedupStore
