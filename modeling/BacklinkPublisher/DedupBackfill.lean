import BacklinkPublisher.DedupStore
import BacklinkPublisher.EventStore
import BacklinkPublisher.LedgerJoin
import BacklinkPublisher.OrderedDicts

set_option autoImplicit false

/-!
# Backfill and the enforce check

`run_backfill` of `idempotency/backfill.py`, `check_enforce_readiness` of
`idempotency/reconcile.py` and `touched_keys` of `idempotency/audit_log.py`. An exception ends a
call; every row that `seed` has inserted before it stays.
-/
namespace BacklinkPublisher.DedupBackfill
open DedupStore EventStore OrderedDicts
open LedgerJoin (adapterStringToPlatform)

/-- A row of `events`; a `payload_json` that is `NULL` or no JSON is the empty payload. -/
structure StoredEvent where
  kind : EventKind
  targetUrl : Option String
  payload : Payload
  deriving DecidableEq, Repr

def backfillKinds : List EventKind := [.publishConfirmed, .publishUnverified]

/-- An entry of the audit log; `account` is `none` where the entry has no such field. -/
structure AuditEntry where
  platform : Value
  account : Option Value
  targetUrl : Value
  deriving DecidableEq, Repr

inductive BackfillError where
  | unhashable
  | canonicalize
  | unbindable
  deriving DecidableEq, Repr

/-- `canonicalize_url`, Python's `str`, and the text that SQLite stores for a number. -/
structure Texts where
  canonicalizeUrl : String → Option String
  str : Value → String
  column : Value → String

def field (payload : Payload) (name : String) : Value := (payload.lookup name).getD .null

/-- `_ADAPTER_STRING_TO_PLATFORM.get(adapter_string or "")`. -/
def platformOf (adapterString : Value) : Except BackfillError (Option String) :=
  if adapterString.truthy then
    match adapterString with
    | .text s => .ok (adapterStringToPlatform.lookup s)
    | .compound _ _ => .error .unhashable
    | .null | .scalar _ _ => .ok none
  else .ok none

section Scans
variable (texts : Texts)

/-- `str(target_url)` of the column or of the payload, where it is not empty. -/
def targetOf (event : StoredEvent) : Option String :=
  match event.targetUrl with
  | some url => if url ≠ "" then some url else fromPayload
  | none => fromPayload
where
  fromPayload : Option String :=
    let value := field event.payload "target_url"
    if value.truthy then some (value.asText.getD (texts.str value)) else none

/-- The first statements of both loops: the key of an event, `none` for the quarantine. -/
def eventKey (event : StoredEvent) : Except BackfillError (Option DedupKey) :=
  match platformOf (field event.payload "platform") with
  | .error error => .error error
  | .ok none => .ok none
  | .ok (some platform) =>
    match targetOf texts event with
    | none => .ok none
    | some targetUrl =>
      match DedupKey.make texts.canonicalizeUrl platform targetUrl "default" with
      | none => .error .canonicalize
      | some key => .ok (some key)

def liveUrl (event : StoredEvent) : Value := field event.payload "live_url"

def isDone (event : StoredEvent) : Bool :=
  decide (event.kind = .publishConfirmed) && (liveUrl event).truthy

/-! ## Backfill -/

structure Best where
  key : DedupKey
  state : DedupState
  liveUrl : Value
  deriving DecidableEq, Repr

/-- The stronger outcome, with a live URL where both are done. -/
def Best.stronger (next old : Best) : Best :=
  if next.state = .done ∧ (old.state ≠ .done ∨ (old.liveUrl = .null ∧ next.liveUrl.truthy = true))
  then { old with state := next.state, liveUrl := next.liveUrl }
  else old

abbrev TouchedKey := Value × Value × Value

def hashable : Value → Bool
  | .compound _ _ => false
  | _ => true

def touchedKeys : List AuditEntry → Except BackfillError (List TouchedKey)
  | [] => .ok []
  | entry :: entries =>
    if entry.platform.truthy && entry.targetUrl.truthy then
      let account := entry.account.getD (.text "default")
      if hashable entry.platform && hashable account && hashable entry.targetUrl then
        (touchedKeys entries).map ((entry.platform, account, entry.targetUrl) :: ·)
      else .error .unhashable
    else touchedKeys entries

/-- `tup in touched`. -/
def touches (touched : List TouchedKey) (key : DedupKey) : Bool :=
  decide ((Value.text key.platform, Value.text key.account, Value.text key.targetUrl) ∈ touched)

structure BackfillResult where
  seededDone : ℕ := 0
  seededUncertain : ℕ := 0
  quarantined : ℕ := 0
  skippedExisting : ℕ := 0
  skippedOperatorTouched : ℕ := 0
  deriving DecidableEq, Repr

def BackfillResult.seeded (result : BackfillResult) : ℕ :=
  result.seededDone + result.seededUncertain

def BackfillResult.count (result : BackfillResult) (state : DedupState) (inserted : Bool) :
    BackfillResult :=
  if inserted then
    if state = .done then { result with seededDone := result.seededDone + 1 }
    else { result with seededUncertain := result.seededUncertain + 1 }
  else { result with skippedExisting := result.skippedExisting + 1 }

/-- `missing` are the missing keys in order; the report counts them and digests the first ten. -/
structure ReconResult where
  eventKeyCount : ℕ := 0
  coveredCount : ℕ := 0
  missing : List DedupKey := []
  quarantineCount : ℕ := 0
  deriving DecidableEq, Repr

def ReconResult.missingCount (result : ReconResult) : ℕ := result.missing.length

def ReconResult.missingDigests (keyDigest : DedupKey → String) (result : ReconResult) :
    List String :=
  (result.missing.take 10).map keyDigest

def ReconResult.ok (acknowledged : Bool) (result : ReconResult) : Bool :=
  decide (result.missingCount = 0) && (decide (result.quarantineCount = 0) || acknowledged)

def covered (table : DedupTable) (key : DedupKey) : Bool :=
  (table key).any fun record => record.state = .done ∨ record.state = .uncertain

end Scans

/-! ## What is aggregated -/

section Aggregation
variable {texts : Texts}

/-- Some event of the list has the key, and is a confirmed one with a live URL. -/
def confirms (texts : Texts) (events : List StoredEvent) (key : DedupKey) : Prop :=
  ∃ event ∈ events, eventKey texts event = .ok (some key) ∧ isDone event = true

def occurs (texts : Texts) (events : List StoredEvent) (key : DedupKey) : Prop :=
  ∃ event ∈ events, eventKey texts event = .ok (some key)

end Aggregation

/-! ## What is seeded -/

section Seeds
variable {texts : Texts} {touched : List TouchedKey} {now : DedupKey → ℚ}

section Steps
variable {table : DedupTable} {result : BackfillResult} {entry : Best} {best : List Best}

end Steps

end Seeds

/-! ## What the check reports -/

section Reports
variable {texts : Texts}

end Reports

/-! ## Agreement -/

section Agreement
variable {texts : Texts}

/-- The operator has acted on the key. -/
def operatorTouched (audit : List AuditEntry) (key : DedupKey) : Prop :=
  ∃ touched, touchedKeys audit = .ok touched ∧ touches touched key = true

section Runs

def plain : Texts := ⟨some, fun _ => "", fun _ => ""⟩

def post (platform url : String) (kind : EventKind) (live : Value) : StoredEvent :=
  ⟨kind, some url, [("platform", .text platform), ("live_url", live)]⟩

def forgotten : List AuditEntry := [⟨.text "velog", none, .text "https://example.org/c"⟩]

end Runs

end Agreement

end BacklinkPublisher.DedupBackfill
