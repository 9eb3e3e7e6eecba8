import BacklinkPublisher.EventStore

set_option autoImplicit false

/-!
# Payloads of events

The guarded `json.loads` of the readers of `events`: a missing text and one that is no JSON are the
empty payload, a value that is no object raises where its first key is looked up.
-/
namespace BacklinkPublisher.EventPayloads
open EventStore

/-- What `json.loads` makes of a text; `other` is a value that is no object. -/
inductive JsonOutcome where
  | object (payload : Payload)
  | other
  | valueError
  | recursionError
  deriving DecidableEq, Repr

inductive PayloadError where
  | noGet
  | recursion
  deriving DecidableEq, Repr

section Payloads
variable (loads : String → JsonOutcome)

def payloadOf : Option String → Except PayloadError Payload
  | none => .ok []
  | some text =>
    if text = "" then .ok []
    else
      match loads text with
      | .object payload => .ok payload
      | .valueError => .ok []
      | .other => .error .noGet
      | .recursionError => .error .recursion

/-- A payload is missing, no JSON, or the JSON of an object that is not nested too deep. -/
def Readable (payloadJson : Option String) : Prop :=
  ∀ text, payloadJson = some text → text ≠ "" →
    loads text = .valueError ∨ ∃ payload, loads text = .object payload

def readPayload : Option String → Payload
  | none => []
  | some text =>
    if text = "" then []
    else
      match loads text with
      | .object payload => payload
      | _ => []

end Payloads

variable {loads : String → JsonOutcome}

theorem payloadOf_of_readable {payloadJson : Option String}
    (readable : Readable loads payloadJson) :
    payloadOf loads payloadJson = .ok (readPayload loads payloadJson) := by
  cases payloadJson with
  | none => rfl
  | some text =>
    unfold payloadOf readPayload
    dsimp only
    split_ifs with empty
    · rfl
    · rcases readable text rfl empty with outcome | ⟨payload, outcome⟩
      · rw [outcome]
      · rw [outcome]

theorem readable_of_payloadOf {payloadJson : Option String} {payload : Payload}
    (read : payloadOf loads payloadJson = .ok payload) : Readable loads payloadJson := by
  intro text some_ empty
  rw [some_] at read
  unfold payloadOf at read
  dsimp only at read
  rw [if_neg empty] at read
  cases outcome : loads text with
  | object payload => exact .inr ⟨payload, rfl⟩
  | valueError => exact .inl rfl
  | other =>
    rw [outcome] at read
    cases read
  | recursionError =>
    rw [outcome] at read
    cases read

theorem not_readable_of_error {payloadJson : Option String} {error : PayloadError}
    (raised : payloadOf loads payloadJson = .error error) : ¬ Readable loads payloadJson := by
  intro readable
  rw [payloadOf_of_readable readable] at raised
  cases raised

end BacklinkPublisher.EventPayloads
