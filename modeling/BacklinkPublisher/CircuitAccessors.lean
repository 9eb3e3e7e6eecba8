import BacklinkPublisher.CircuitBreaker
import BacklinkPublisher.TransitionSystems

set_option autoImplicit false

/-!
# The accessors of the circuit breaker

The three readers agree in every state that calls lead to. A success after a trip
clears the state but not the flag, which two of the readers go by.
-/
namespace BacklinkPublisher.CircuitAccessors
open TransitionSystems CircuitBreaker

/-- The entries that the writers leave. -/
structure SoundEntry (entry : CircuitEntry) : Prop where
  timed : entry.tripped = true → ∃ since, entry.trippedAt = .seconds since
  state : entry.state = .circuit .closed ∨
    (entry.state = .circuit .opened ∨ entry.state = .circuit .halfOpen) ∧ entry.tripped = true
  counted : entry.consecutiveErrors.isSome

/-- A file that only the writers have written to. -/
def SoundFile : StateFile → Prop
  | .missing => True
  | .object entries => ∀ platform json, entries platform = some json →
      ∃ entry, json = .object entry ∧ SoundEntry entry
  | _ => False

section Sound
variable {file file' : StateFile}

theorem SoundFile.entries (sound : SoundFile file) :
    ∃ entries, file.forUpdate = some entries ∧ SoundFile (.object entries) := by
  cases file with
  | missing => exact ⟨_, rfl, by simp [SoundFile]⟩
  | object entries => exact ⟨entries, rfl, sound⟩
  | undecodable | unparsable | nonObject => exact sound.elim

theorem SoundFile.put {entries : Entries} (sound : SoundFile (.object entries)) {platform : String}
    {entry : CircuitEntry} (hentry : SoundEntry entry) : SoundFile (put entries platform entry) := by
  intro other json hjson
  by_cases same : other = platform
  · subst same
    rw [Function.update_self] at hjson
    exact ⟨entry, (Option.some.inj hjson).symm, hentry⟩
  · rw [Function.update_of_ne same] at hjson
    exact sound other json hjson

theorem SoundFile.entryOf {entries : Entries} (sound : SoundFile (.object entries))
    (platform : String) : ∃ entry, entryOf entries platform = some entry ∧
      (entry.tripped = true → ∃ since, entry.trippedAt = .seconds since) := by
  unfold CircuitBreaker.entryOf
  cases h : entries platform with
  | none => exact ⟨_, rfl, by simp⟩
  | some json =>
    obtain ⟨entry, rfl, hentry⟩ := sound platform json h
    exact ⟨entry, rfl, hentry.timed⟩

theorem SoundFile.timed {entries : Entries} (sound : SoundFile (.object entries))
    {platform : String} {entry : CircuitEntry}
    (hentry : CircuitBreaker.entryOf entries platform = some entry) :
    entry.tripped = true → ∃ since, entry.trippedAt = .seconds since := by
  obtain ⟨_, hentry', timed⟩ := sound.entryOf platform
  obtain rfl := Option.some.inj (hentry.symm.trans hentry')
  exact timed

theorem soundEntry_of_written {entries : Entries} {platform : String} {entry : CircuitEntry}
    (sound : SoundFile (.object entries)) (h : Written entries platform entry) :
    SoundEntry entry := by
  cases h with
  | opened host => exact ⟨fun _ => ⟨_, rfl⟩, .inr ⟨.inl rfl, rfl⟩, rfl⟩
  | halfOpen host => exact ⟨fun _ => ⟨_, rfl⟩, .inr ⟨.inr rfl, rfl⟩, rfl⟩
  | reset => exact ⟨fun h => by simp [closedEntry] at h, .inl rfl, rfl⟩
  | counted entry before errors => exact ⟨fun h => by simp at h, .inl rfl, rfl⟩
  | succeeded entry before =>
    have timed := sound.timed before
    exact ⟨timed, .inl rfl, rfl⟩

theorem run_sound {call : Call} (sound : SoundFile file) (h : run file call = some file') :
    SoundFile file' := by
  obtain ⟨entries, hentries, hsound⟩ := sound.entries
  obtain rfl | ⟨_, entry, hentries', written, rfl⟩ := run_some h
  · exact sound
  · obtain rfl := Option.some.inj (hentries.symm.trans hentries')
    exact hsound.put (soundEntry_of_written hsound written)

end Sound

structure AccessorsAgree (file : StateFile) (platform : String) (host : Host) : Prop where
  readable : circuitStatus file platform host ≠ .unreadable
  tripped : ∃ blocked file', isTripped file platform host = some (blocked, file') ∧
    (blocked = true ↔ circuitStatus file platform host = .opened)
  degraded : ∃ flag, isDegraded file platform = some flag ∧
    (flag = true ↔ circuitStatus file platform host = .opened ∨
      circuitStatus file platform host = .halfOpen)

/-- Whatever the time and the cooldown, the platform reads closed and not degraded. -/
def ReadsClosed (file : StateFile) (platform : String) : Prop :=
  (∀ host, circuitStatus file platform host = .closed) ∧ isDegraded file platform = some false

section Readers
variable {file : StateFile} {platform : String}

theorem agree_of_closed {host : Host} (view : StateView) (hview : getState file platform = some view)
    (hstate : view.state = .circuit .closed) (htripped : view.tripped = false)
    (hstatus : circuitStatus file platform host = .closed) : AccessorsAgree file platform host where
  readable := by simp [hstatus]
  tripped := ⟨false, file, by simp [isTripped, hview, hstate], by simp [hstatus]⟩
  degraded := ⟨false, by simp [isDegraded, hview, htripped], by simp [hstatus]⟩

/-- A tripped entry reads open until its cooldown has elapsed, unless a success has closed
its state, and half-open otherwise. -/
theorem agree_of_tripped {entries : Entries} {entry : CircuitEntry} {since : ℚ}
    (hjson : entries platform = some (.object entry)) (sound : SoundEntry entry)
    (htripped : entry.tripped = true) (hsince : entry.trippedAt = .seconds since) (host : Host) :
    AccessorsAgree (.object entries) platform host := by
  have degraded : isDegraded (.object entries) platform = some true := by
    simp [isDegraded, getState, hjson, CircuitEntry.view, htripped]
  have blocked_of_open (hstate : entry.state = .circuit .opened)
      (running : host.elapsed since = false) :
      AccessorsAgree (.object entries) platform host := by
    have hstatus : circuitStatus (.object entries) platform host = .opened := by
      simp [circuitStatus, hjson, htripped, hsince, running, hstate]
    have hblocked : isTripped (.object entries) platform host = some (true, .object entries) := by
      simp [isTripped, getState, hjson, CircuitEntry.view, hstate, hsince, running]
    exact ⟨by simp [hstatus], ⟨_, _, hblocked, by simp [hstatus]⟩, ⟨_, degraded, by simp [hstatus]⟩⟩
  have passes_of_halfOpen (file' : StateFile)
      (hstatus : circuitStatus (.object entries) platform host = .halfOpen)
      (hpasses : isTripped (.object entries) platform host = some (false, file')) :
      AccessorsAgree (.object entries) platform host :=
    ⟨by simp [hstatus], ⟨_, _, hpasses, by simp [hstatus]⟩, ⟨_, degraded, by simp [hstatus]⟩⟩
  cases elapsed : host.elapsed since with
  | true =>
    have hstatus : circuitStatus (.object entries) platform host = .halfOpen := by
      simp [circuitStatus, hjson, htripped, hsince, elapsed]
    rcases sound.state with hstate | ⟨hstate | hstate, -⟩
    · exact passes_of_halfOpen (.object entries) hstatus
        (by simp [isTripped, getState, hjson, CircuitEntry.view, hstate])
    · exact passes_of_halfOpen (put entries platform (halfOpenEntry host)) hstatus
        (by simp [isTripped, getState, hjson, CircuitEntry.view, hstate, hsince, elapsed,
          transitionToHalfOpen, StateFile.forUpdate])
    · exact passes_of_halfOpen (put entries platform (halfOpenEntry host)) hstatus
        (by simp [isTripped, getState, hjson, CircuitEntry.view, hstate, hsince, elapsed,
          transitionToHalfOpen, StateFile.forUpdate])
  | false =>
    rcases sound.state with hstate | ⟨hstate | hstate, -⟩
    · exact passes_of_halfOpen (.object entries)
        (by simp [circuitStatus, hjson, htripped, hsince, elapsed, hstate])
        (by simp [isTripped, getState, hjson, CircuitEntry.view, hstate])
    · exact blocked_of_open hstate elapsed
    · exact passes_of_halfOpen (.object entries)
        (by simp [circuitStatus, hjson, htripped, hsince, elapsed, hstate])
        (by simp [isTripped, getState, hjson, CircuitEntry.view, hstate, hsince, elapsed])

theorem accessors_agree (sound : SoundFile file) (platform : String) (host : Host) :
    AccessorsAgree file platform host := by
  cases file with
  | undecodable | unparsable | nonObject => exact sound.elim
  | missing => exact agree_of_closed (CircuitEntry.view {}) rfl rfl rfl rfl
  | object entries =>
    cases hjson : entries platform with
    | none =>
      exact agree_of_closed (CircuitEntry.view {}) (by simp [getState, hjson]) rfl rfl
        (by simp [circuitStatus, hjson])
    | some json =>
      obtain ⟨entry, rfl, hentry⟩ := sound platform json hjson
      have hview : getState (.object entries) platform = some entry.view := by
        simp [getState, hjson]
      cases htripped : entry.tripped with
      | false =>
        have hstate : entry.state = .circuit .closed :=
          hentry.state.resolve_right fun h => by simp [htripped] at h
        exact agree_of_closed entry.view hview (by simp [CircuitEntry.view, hstate]) htripped
          (by simp [circuitStatus, hjson, htripped])
      | true =>
        obtain ⟨since, hsince⟩ := hentry.timed htripped
        exact agree_of_tripped hjson hentry htripped hsince host

theorem readsClosed_put {entries : Entries} {entry : CircuitEntry} :
    ReadsClosed (put entries platform entry) platform ↔ entry.tripped = false := by
  have degraded : isDegraded (put entries platform entry) platform = some entry.tripped := by
    simp [isDegraded, getState, put, CircuitEntry.view]
  constructor
  · intro reads
    exact Option.some.inj (degraded.symm.trans reads.2)
  · intro htripped
    exact ⟨fun host => by simp [circuitStatus, put, htripped], by rw [degraded, htripped]⟩

theorem isDegraded_of_entryOf {entries : Entries} {entry : CircuitEntry} (sound : SoundFile file)
    (hentries : file.forUpdate = some entries) (hentry : entryOf entries platform = some entry) :
    isDegraded file platform = some entry.tripped := by
  cases file with
  | undecodable | unparsable | nonObject => exact sound.elim
  | missing =>
    obtain rfl := Option.some.inj hentries
    obtain rfl : {} = entry := Option.some.inj hentry
    rfl
  | object entries' =>
    obtain rfl := Option.some.inj hentries
    unfold entryOf at hentry
    split at hentry
    · rename_i hjson
      obtain rfl := Option.some.inj hentry
      simp [isDegraded, getState, hjson, CircuitEntry.view]
    · rename_i hjson
      obtain rfl := Option.some.inj hentry
      simp [isDegraded, getState, hjson, CircuitEntry.view]
    · contradiction

end Readers

/-- In every state that calls lead to from no file, at any time, the accessors agree; a
reset reads closed, and a success reads closed exactly where the trip flag was down. -/
theorem circuit_accessors_agree (file : StateFile)
    (reached : Reaches run (fun _ _ => True) .missing file) (platform : String) :
    (∀ host, AccessorsAgree file platform host) ∧
      (∃ file', resetCircuit file platform = some file' ∧ ReadsClosed file' platform) ∧
      ∃ file', recordSuccess file platform = some file' ∧
        (ReadsClosed file' platform ↔ isDegraded file platform = some false) := by
  have sound : SoundFile file :=
    reached.invariant (I := SoundFile) trivial fun _ _ _ sound _ hrun => run_sound sound hrun
  refine ⟨accessors_agree sound platform, ?_, ?_⟩
  · obtain ⟨entries, hentries, -⟩ := sound.entries
    exact ⟨put entries platform closedEntry, by simp [resetCircuit, hentries], readsClosed_put.2 rfl⟩
  · obtain ⟨entries, hentries, hsound⟩ := sound.entries
    obtain ⟨entry, hentry, -⟩ := hsound.entryOf platform
    have hrun : recordSuccess file platform = some (put entries platform
        { entry with consecutiveErrors := some 0, state := .circuit .closed }) := by
      simp [recordSuccess, hentries, hentry]
    refine ⟨_, hrun, readsClosed_put.trans ?_⟩
    rw [isDegraded_of_entryOf sound hentries hentry]
    simp

/-! ## A success after a trip -/

def noon : Host := ⟨1000, 1000, 300, 3⟩

def trippedFile : StateFile := put (fun _ => none) "medium" (openEntry noon)

theorem circuit_accessors_agree_tripped :
    (∀ host, AccessorsAgree trippedFile "medium" host) ∧
      (∃ file, resetCircuit trippedFile "medium" = some file ∧ ReadsClosed file "medium") ∧
      ∃ file, recordSuccess trippedFile "medium" = some file ∧
        (ReadsClosed file "medium" ↔ isDegraded trippedFile "medium" = some false) :=
  circuit_accessors_agree trippedFile (.single ⟨.trip "medium" noon, trivial, rfl⟩) "medium"

theorem success_reads_halfOpen :
    Reaches run (fun _ _ => True) .missing trippedFile ∧
      (recordSuccess trippedFile "medium").map
        (fun file => (circuitStatus file "medium" noon, isDegraded file "medium")) =
          some (.halfOpen, some true) :=
  ⟨.single ⟨.trip "medium" noon, trivial, rfl⟩, by decide +kernel⟩

end BacklinkPublisher.CircuitAccessors
