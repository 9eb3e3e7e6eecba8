import BacklinkPublisher.CanonicalUrl
import BacklinkPublisher.DedupBackfill
import BacklinkPublisher.EventPayloads

set_option autoImplicit false

/-!
# Rows of the event log

`run_backfill` and `check_enforce_readiness` over the rows as the log holds them: a payload that
need not be JSON, JSON that need not be an object, a URL that `canonicalize_url` need not accept.
-/
namespace BacklinkPublisher.BackfillRows
open DedupBackfill DedupStore EventPayloads EventStore

structure EventRow where
  kind : String
  targetUrl : Option String
  payloadJson : Option String
  deriving DecidableEq, Repr

inductive RowError where
  | payload (error : PayloadError)
  | event (error : BackfillError)
  deriving DecidableEq, Repr

def publishRows (rows : List EventRow) : List EventRow :=
  rows.filter fun row => row.kind ∈ backfillKinds.map EventKind.value

/-- `sqlite3` takes no container, and no integer of more than 64 bits. -/
def binds (fits : Value → Bool) (value : Value) : Bool := value.bindable && fits value

section Loops
variable (loads : String → JsonOutcome) (texts : Texts) (fits : Value → Bool)

def kindOf (row : EventRow) : EventKind :=
  if row.kind = EventKind.publishConfirmed.value then .publishConfirmed else .publishUnverified

def eventOf (row : EventRow) : Except RowError StoredEvent :=
  match payloadOf loads row.payloadJson with
  | .error error => .error (.payload error)
  | .ok payload => .ok ⟨kindOf row, row.targetUrl, payload⟩

end Loops

/-! ## Payloads that are read -/

section Payloads
variable {loads : String → JsonOutcome} {texts : Texts}

def storedEvent (loads : String → JsonOutcome) (row : EventRow) : StoredEvent :=
  ⟨kindOf row, row.targetUrl, readPayload loads row.payloadJson⟩

/-- The key of a row, where it has one. -/
def keyOf (loads : String → JsonOutcome) (texts : Texts) (row : EventRow) : Option DedupKey :=
  match eventOf loads row with
  | .error _ => none
  | .ok event =>
    match eventKey texts event with
    | .error _ => none
    | .ok key => key

def unkeyedRows (loads : String → JsonOutcome) (texts : Texts) (rows : List EventRow) : ℕ :=
  (publishRows rows).countP fun row => keyOf loads texts row = none

end Payloads

/-! ## The loops over rows and over events -/

section Loading
variable {loads : String → JsonOutcome} {texts : Texts} {fits : Value → Bool}

def raised {α : Type} : Except BackfillError α → Except RowError α :=
  Except.mapError RowError.event

end Loading

/-! ## The live URL that is kept -/

section Kept
variable {texts : Texts}

def hasKey (texts : Texts) (key : DedupKey) (event : StoredEvent) : Bool :=
  match eventKey texts event with
  | .ok (some other) => decide (other = key)
  | _ => false

/-- The live URL of the first confirmed event of the key that has one, else of its first event. -/
def keptLive (texts : Texts) (events : List StoredEvent) (key : DedupKey) : Value :=
  match events.find? fun event => hasKey texts key event && isDone event with
  | some event => liveUrl event
  | none => ((events.find? (hasKey texts key)).map liveUrl).getD .null

end Kept

/-! ## Event content that stops the passes -/

section Contents
variable {loads : String → JsonOutcome} {texts : Texts} {fits : Value → Bool}

/-- The `platform` of an event can be hashed, and its target URL, where it is looked at, can be
canonicalized. -/
structure Classifiable (texts : Texts) (event : StoredEvent) : Prop where
  hashed : ∀ code, field event.payload "platform" ≠ .compound code true
  accepted : ∀ platform targetUrl,
    platformOf (field event.payload "platform") = .ok (some platform) →
      targetOf texts event = some targetUrl → ∃ url, texts.canonicalizeUrl targetUrl = some url

structure Harmless (loads : String → JsonOutcome) (texts : Texts) (fits : Value → Bool)
    (rows : List EventRow) (audit : List AuditEntry) : Prop where
  readable : ∀ row ∈ publishRows rows, Readable loads row.payloadJson
  classifiable : ∀ row ∈ publishRows rows, Classifiable texts (storedEvent loads row)
  audited : publishRows rows = [] ∨ ∃ touched, touchedKeys audit = .ok touched
  bound : ∀ key, occurs texts ((publishRows rows).map (storedEvent loads)) key →
    ¬ operatorTouched audit key →
      binds fits (keptLive texts ((publishRows rows).map (storedEvent loads)) key) = true

section Runs

end Runs

end Contents
end BacklinkPublisher.BackfillRows
