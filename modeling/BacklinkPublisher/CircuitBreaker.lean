import Mathlib.Data.Rat.Defs
import Mathlib.Logic.Function.Basic
import Mathlib.Tactic.Common

set_option autoImplicit false

/-!
# The circuit breaker

`publishing/reliability/circuit.py`. `none` is an exception that the function lets
through; a call that raises leaves the state file as it was.
-/
namespace BacklinkPublisher.CircuitBreaker

inductive CircuitState where
  | closed
  | opened
  | halfOpen
  deriving DecidableEq, Repr

/-- The `state` of an entry: missing, a member of the enum, or another value. -/
inductive StateField where
  | missing
  | circuit (state : CircuitState)
  | unknown
  deriving DecidableEq, Repr

/-- `tripped_at_iso`: missing or falsy, not accepted by `fromisoformat`, or a time. -/
inductive TrippedAt where
  | missing
  | malformed
  | seconds (time : ℚ)
  deriving DecidableEq, Repr

/-- An entry that is an object. `tripped` is a truth value, `consecutiveErrors` is
`none` where it is not a number. -/
structure CircuitEntry where
  state : StateField := .missing
  tripped : Bool := false
  trippedAt : TrippedAt := .missing
  consecutiveErrors : Option ℚ := some 0
  deriving DecidableEq, Repr

inductive JsonEntry where
  | object (entry : CircuitEntry)
  | null
  | other
  deriving DecidableEq, Repr

abbrev Entries := String → Option JsonEntry

/-- What is at the path: no file, bytes whose read raises a `ValueError` that is no
`JSONDecodeError` (such as bytes that are no UTF-8), text that is no JSON, JSON that is
no object, or an object. -/
inductive StateFile where
  | missing
  | undecodable
  | unparsable
  | nonObject
  | object (entries : Entries)

/-- What a call reads of its surroundings: the time at its cooldown check, the time it
writes, and the two settings. -/
structure Host where
  now : ℚ
  writtenAt : ℚ
  cooldown : ℤ
  threshold : ℤ

/-- `_now_iso`, which drops the fraction of a second. -/
def Host.stamp (host : Host) : TrippedAt := .seconds (host.writtenAt.floor : ℤ)

def Host.elapsed (host : Host) (since : ℚ) : Bool := decide ((host.cooldown : ℚ) ≤ host.now - since)

/-! ## Readers -/

structure StateView where
  state : StateField
  tripped : Bool
  trippedAt : TrippedAt

def CircuitEntry.view (entry : CircuitEntry) : StateView where
  state := if entry.state = .missing then .circuit .closed else entry.state
  tripped := entry.tripped
  trippedAt := entry.trippedAt

def getState (file : StateFile) (platform : String) : Option StateView :=
  match file with
  | .missing => some (CircuitEntry.view {})
  | .undecodable | .unparsable => some ⟨.circuit .opened, true, .missing⟩
  | .nonObject => none
  | .object entries =>
    match entries platform with
    | none => some (CircuitEntry.view {})
    | some (.object entry) => some entry.view
    | some _ => none

def isDegraded (file : StateFile) (platform : String) : Option Bool :=
  (getState file platform).map StateView.tripped

inductive CircuitStatus where
  | closed
  | opened
  | halfOpen
  | unreadable
  deriving DecidableEq, Repr

def circuitStatus (file : StateFile) (platform : String) (host : Host) : CircuitStatus :=
  match file with
  | .missing => .closed
  | .undecodable | .unparsable | .nonObject => .unreadable
  | .object entries =>
    match entries platform with
    | none | some .null => .closed
    | some .other => .unreadable
    | some (.object entry) =>
      if !entry.tripped then .closed
      else
        match entry.trippedAt with
        | .missing | .malformed => .unreadable
        | .seconds since =>
          if host.elapsed since then .halfOpen
          else if entry.state = .missing ∨ entry.state = .circuit .opened then .opened
          else .halfOpen

/-! ## Writers -/

/-- The object that a writer works on: an unparsable file counts as empty, the other
read errors and what is no object raise. -/
def StateFile.forUpdate : StateFile → Option Entries
  | .missing | .unparsable => some fun _ => none
  | .undecodable | .nonObject => none
  | .object entries => some entries

def put (entries : Entries) (platform : String) (entry : CircuitEntry) : StateFile :=
  .object (Function.update entries platform (some (.object entry)))

/-- `state.get(platform, {})` of a writer that goes on to use it as an object. -/
def entryOf (entries : Entries) (platform : String) : Option CircuitEntry :=
  match entries platform with
  | none => some {}
  | some (.object entry) => some entry
  | some _ => none

def openEntry (host : Host) : CircuitEntry where
  state := .circuit .opened
  tripped := true
  trippedAt := host.stamp

def halfOpenEntry (host : Host) : CircuitEntry where
  state := .circuit .halfOpen
  tripped := true
  trippedAt := host.stamp

def closedEntry : CircuitEntry where
  state := .circuit .closed

def trip (file : StateFile) (platform : String) (host : Host) : Option StateFile :=
  file.forUpdate.map fun entries => put entries platform (openEntry host)

def transientStatusCodes : List ℤ := [429, 502, 503, 504]

def tripOnError (file : StateFile) (platform : String) (host : Host) (statusCode : Option ℤ) :
    Option StateFile := do
  let entries ← file.forUpdate
  let entry ← entryOf entries platform
  let errors ← entry.consecutiveErrors
  let currentErrors := errors + 1
  if statusCode.any (· ∈ transientStatusCodes) || decide ((host.threshold : ℚ) ≤ currentErrors) then
    some (put entries platform (openEntry host))
  else
    some (put entries platform { entry with
      consecutiveErrors := some currentErrors
      state := .circuit .closed
      tripped := false })

/-- The flag and the time of a trip stay. -/
def recordSuccess (file : StateFile) (platform : String) : Option StateFile := do
  let entries ← file.forUpdate
  let entry ← entryOf entries platform
  some (put entries platform { entry with
    consecutiveErrors := some 0
    state := .circuit .closed })

def transitionToHalfOpen (file : StateFile) (platform : String) (host : Host) : Option StateFile :=
  file.forUpdate.map fun entries => put entries platform (halfOpenEntry host)

def resetCircuit (file : StateFile) (platform : String) : Option StateFile :=
  file.forUpdate.map fun entries => put entries platform closedEntry

/-- `is_tripped`: the answer, and the file with the transition it may make. -/
def isTripped (file : StateFile) (platform : String) (host : Host) : Option (Bool × StateFile) := do
  let view ← getState file platform
  match view.state, view.trippedAt with
  | .circuit .halfOpen, .seconds since =>
    if host.elapsed since then
      (transitionToHalfOpen file platform host).map fun file => (false, file)
    else some (false, file)
  | .circuit .opened, .seconds since =>
    if host.elapsed since then
      (transitionToHalfOpen file platform host).map fun file => (false, file)
    else some (true, file)
  | .circuit .opened, _ => some (true, file)
  | _, _ => some (false, file)

/-! ## Calls -/

inductive Call where
  | trip (platform : String) (host : Host)
  | tripOnError (platform : String) (host : Host) (statusCode : Option ℤ)
  | recordSuccess (platform : String)
  | resetCircuit (platform : String)
  | isTripped (platform : String) (host : Host)

def Call.platform : Call → String
  | .trip platform _ | .tripOnError platform _ _ | .recordSuccess platform
  | .resetCircuit platform | .isTripped platform _ => platform

def Call.writes : Call → Bool
  | .isTripped _ _ => false
  | _ => true

def run (file : StateFile) : Call → Option StateFile
  | .trip platform host => CircuitBreaker.trip file platform host
  | .tripOnError platform host statusCode =>
    CircuitBreaker.tripOnError file platform host statusCode
  | .recordSuccess platform => CircuitBreaker.recordSuccess file platform
  | .resetCircuit platform => CircuitBreaker.resetCircuit file platform
  | .isTripped platform host => (CircuitBreaker.isTripped file platform host).map Prod.snd

inductive Written (entries : Entries) (platform : String) : CircuitEntry → Prop where
  | opened (host : Host) : Written entries platform (openEntry host)
  | halfOpen (host : Host) : Written entries platform (halfOpenEntry host)
  | reset : Written entries platform closedEntry
  | counted (entry : CircuitEntry) (before : entryOf entries platform = some entry) (errors : ℚ) :
      Written entries platform { entry with
        consecutiveErrors := some errors, state := .circuit .closed, tripped := false }
  | succeeded (entry : CircuitEntry) (before : entryOf entries platform = some entry) :
      Written entries platform { entry with
        consecutiveErrors := some 0, state := .circuit .closed }

section Effects
variable {file file' : StateFile} {platform : String} {host : Host}

theorem isTripped_some {blocked : Bool}
    (h : isTripped file platform host = some (blocked, file')) :
    file' = file ∨ blocked = false ∧ transitionToHalfOpen file platform host = some file' := by
  obtain ⟨view, -, h⟩ := Option.bind_eq_some_iff.1 h
  have transition (h : (transitionToHalfOpen file platform host).map (fun file => (false, file)) =
      some (blocked, file')) :
      blocked = false ∧ transitionToHalfOpen file platform host = some file' := by
    obtain ⟨_, hfile, heq⟩ := Option.map_eq_some_iff.1 h
    obtain ⟨rfl, rfl⟩ := Prod.mk.inj heq
    exact ⟨rfl, hfile⟩
  split at h
  · split at h
    · exact .inr (transition h)
    · exact .inl (Prod.mk.inj (Option.some.inj h)).2.symm
  · split at h
    · exact .inr (transition h)
    · exact .inl (Prod.mk.inj (Option.some.inj h)).2.symm
  · exact .inl (Prod.mk.inj (Option.some.inj h)).2.symm
  · exact .inl (Prod.mk.inj (Option.some.inj h)).2.symm

/-- A call leaves the file alone, or writes one entry of its own platform. -/
theorem run_some {call : Call} (h : run file call = some file') :
    file' = file ∨ ∃ entries entry, file.forUpdate = some entries ∧
      Written entries call.platform entry ∧ file' = put entries call.platform entry := by
  cases call with
  | trip platform host =>
    obtain ⟨entries, hentries, rfl⟩ := Option.map_eq_some_iff.1 h
    exact .inr ⟨entries, _, hentries, .opened host, rfl⟩
  | tripOnError platform host statusCode =>
    obtain ⟨entries, hentries, h⟩ := Option.bind_eq_some_iff.1 h
    obtain ⟨entry, hentry, h⟩ := Option.bind_eq_some_iff.1 h
    obtain ⟨errors, -, h⟩ := Option.bind_eq_some_iff.1 h
    simp only at h
    split at h
    · exact .inr ⟨entries, _, hentries, .opened host, (Option.some.inj h).symm⟩
    · exact .inr ⟨entries, _, hentries, .counted entry hentry _, (Option.some.inj h).symm⟩
  | recordSuccess platform =>
    obtain ⟨entries, hentries, h⟩ := Option.bind_eq_some_iff.1 h
    obtain ⟨entry, hentry, h⟩ := Option.bind_eq_some_iff.1 h
    exact .inr ⟨entries, _, hentries, .succeeded entry hentry, (Option.some.inj h).symm⟩
  | resetCircuit platform =>
    obtain ⟨entries, hentries, rfl⟩ := Option.map_eq_some_iff.1 h
    exact .inr ⟨entries, _, hentries, .reset, rfl⟩
  | isTripped platform host =>
    obtain ⟨⟨blocked, _⟩, htripped, rfl⟩ := Option.map_eq_some_iff.1 h
    rcases isTripped_some htripped with same | ⟨-, htransition⟩
    · exact .inl same
    · obtain ⟨entries, hentries, hput⟩ := Option.map_eq_some_iff.1 htransition
      exact .inr ⟨entries, _, hentries, .halfOpen host, hput.symm⟩

end Effects

end BacklinkPublisher.CircuitBreaker
