import BacklinkPublisher.DedupRuns

set_option autoImplicit false

/-!
# At most one unsettled dispatch of a key

Enforce-mode runs without a force flag. A dispatch keeps its key held until its
terminal write has put `failed` into the row; the row itself says whether the
key is held.
-/
namespace BacklinkPublisher.DedupAtMostOnce
open DedupStore DedupGate DedupRuns TransitionSystems

/-- The terminal write went through and left the row `failed`. -/
def Released : Progress → Prop
  | .settled outcome => outcome.toState = .failed
  | _ => False

theorem released_iff (progress : Progress) :
    Released progress ↔ ∃ errorClass, progress = .settled (.failure errorClass) ∧
      errorClass ≠ some "http_5xx" := by
  cases progress with
  | settled outcome => simp [Released, Outcome.toState_failed_iff]
  | _ => simp [Released]

theorem unsettled_not_released {progress : Progress} (h : progress.unsettled = true) :
    ¬ Released progress := by
  cases progress <;> simp_all [Released, Progress.unsettled]

/-- What ties the rows of the store to the dispatches so far. -/
structure Invariant (w : World) : Prop where
  unique : ∀ {i j : ℕ} {d e : Dispatch}, w.history[i]? = some d → w.history[j]? = some e →
    d.key = e.key → ¬ Released d.progress → ¬ Released e.progress → i = j
  held : ∀ {i : ℕ} {d : Dispatch}, w.history[i]? = some d → ¬ Released d.progress →
    ∃ record, w.table d.key = some record ∧ record.state ≠ .failed
  fresh : ∀ {i : ℕ} {d : Dispatch} {outcome : Outcome} {allow : Bool},
    w.history[i]? = some d → d.progress = .reading outcome allow → allow = false

theorem invariant_start (table : DedupTable) : Invariant (World.start table) where
  unique h := by simp [World.start] at h
  held h := by simp [World.start] at h
  fresh h := by simp [World.start] at h

/-- An unforced gate claims a key only where every dispatch of it is released. -/
theorem Invariant.released_of_dispatch {w : World} (inv : Invariant w) {key : DedupKey}
    {run : PublishRun} {host : Host} {stored : Bool}
    (verdict : (DedupGate.gate w.table (some key) run host true false stored).2.verdict = .dispatch)
    {i : ℕ} {d : Dispatch} (entry : w.history[i]? = some d) (hkey : d.key = key) :
    Released d.progress := by
  by_contra hr
  obtain ⟨record, hrow, hne⟩ := inv.held entry hr
  have claimable := (gate_dispatch_claims verdict).1 record (hkey ▸ hrow)
  simp [hne] at claimable

theorem refused_row {table : DedupTable} {key : DedupKey} {run : PublishRun} {host : Host}
    {stored : Bool}
    (verdict : (DedupGate.gate table (some key) run host true false stored).2.verdict ≠ .dispatch)
    {k : DedupKey} {record : DedupRecord} (row : table k = some record)
    (hne : record.state ≠ .failed) :
    ∃ record', (DedupGate.gate table (some key) run host true false stored).1 k = some record' ∧
      record'.state ≠ .failed := by
  rcases gate_refusal_promotes verdict with same | ⟨old, _, _, moved⟩
  · exact ⟨record, by rw [same, row], hne⟩
  · rw [moved]
    by_cases hk : k = key
    · subst hk
      exact ⟨promoted old host.writtenAt, by simp, by simp [promoted]⟩
    · exact ⟨record, by simpa [hk] using row, hne⟩

theorem Invariant.refused {w : World} (inv : Invariant w) {table : DedupTable}
    (rows : ∀ {k : DedupKey} {record : DedupRecord}, w.table k = some record →
      record.state ≠ .failed → ∃ record', table k = some record' ∧ record'.state ≠ .failed) :
    Invariant { w with table } where
  unique := inv.unique
  held entry hr := by
    obtain ⟨record, hrow, hne⟩ := inv.held entry hr
    exact rows hrow hne
  fresh := inv.fresh

theorem Invariant.granted {w : World} (inv : Invariant w) {key : DedupKey} {run : PublishRun}
    {claimant : Claimant} {writtenAt : ℚ}
    (released : ∀ {i : ℕ} {d : Dispatch}, w.history[i]? = some d → d.key = key →
      Released d.progress) (b : Bool) :
    Invariant (w.grant (claim w.table key claimant writtenAt) key run b) where
  unique := by
    intro i j d e hi hj hkey hd he
    rcases (w.grant_entry _ key run b i d).1 hi with ⟨rfl, rfl⟩ | hi
    · rcases (w.grant_entry _ key run b j e).1 hj with ⟨rfl, rfl⟩ | hj
      · rfl
      · exact absurd (released hj hkey.symm) he
    · rcases (w.grant_entry _ key run b j e).1 hj with ⟨rfl, rfl⟩ | hj
      · exact absurd (released hi hkey) hd
      · exact inv.unique hi hj hkey hd he
  held := by
    intro i d hi hd
    have hnew : (claim w.table key claimant writtenAt) key =
        some (claimed claimant writtenAt) := by simp [claim]
    rcases (w.grant_entry _ key run b i d).1 hi with ⟨rfl, rfl⟩ | hi
    · exact ⟨_, hnew, by simp [claimed]⟩
    · have hk : d.key ≠ key := fun hk => hd (released hi hk)
      obtain ⟨record, hrow, hne⟩ := inv.held hi hd
      exact ⟨record, by simpa [World.grant, claim, hk] using hrow, hne⟩
  fresh := by
    intro i d outcome allow hi hp
    rcases (w.grant_entry _ key run b i d).1 hi with ⟨rfl, rfl⟩ | hi
    · simp at hp
    · exact inv.fresh hi hp

theorem Invariant.moved {w : World} (inv : Invariant w) {index : ℕ} {d : Dispatch}
    {progress : Progress} (entry : w.history[index]? = some d)
    (before : d.progress.unsettled = true)
    (reads : ∀ outcome allow, progress = .reading outcome allow →
      terminalDecision (w.table d.key) outcome.toState = some allow) :
    Invariant (w.put index d progress) := by
  have hd := unsettled_not_released before
  have key_entry {j : ℕ} {e : Dispatch} (hj : (w.put index d progress).history[j]? = some e)
      (he : ¬ Released e.progress) :
      ∃ e', w.history[j]? = some e' ∧ e'.key = e.key ∧ ¬ Released e'.progress := by
    rcases (World.put_entry entry progress j e).1 hj with ⟨rfl, rfl⟩ | ⟨_, hj⟩
    · exact ⟨d, entry, rfl, hd⟩
    · exact ⟨e, hj, rfl, he⟩
  constructor
  · intro i j e f hi hj hkey he hf
    obtain ⟨e', hi', hek, he'⟩ := key_entry hi he
    obtain ⟨f', hj', hfk, hf'⟩ := key_entry hj hf
    exact inv.unique hi' hj' (by rw [hek, hfk, hkey]) he' hf'
  · intro i e hi he
    obtain ⟨e', hi', hek, he'⟩ := key_entry hi he
    rw [← hek]
    exact inv.held hi' he'
  · intro i e outcome allow hi hp
    rcases (World.put_entry entry progress i e).1 hi with ⟨rfl, rfl⟩ | ⟨_, hi⟩
    · obtain ⟨record, hrow, hne⟩ := inv.held entry hd
      obtain ⟨r, hr, _, _, _, rfl⟩ := (terminalDecision_some_iff _ _ _).1 (reads _ _ hp)
      obtain rfl : record = r := by simpa [hrow] using hr
      simpa using hne
    · exact inv.fresh hi hp

theorem Invariant.wrote {w : World} (inv : Invariant w) {index : ℕ} {d : Dispatch}
    {outcome : Outcome} {allow : Bool} {record' : DedupRecord}
    (entry : w.history[index]? = some d) (before : d.progress = .reading outcome allow)
    (written : record'.state = outcome.toState) :
    Invariant (w.settle (Function.update w.table d.key (some record')) index d outcome) := by
  have hd : ¬ Released d.progress := by simp [before, Released]
  have other {j : ℕ} {e : Dispatch} (hj : w.history[j]? = some e) (hne : j ≠ index)
      (he : ¬ Released e.progress) : e.key ≠ d.key :=
    fun hkey => hne (inv.unique hj entry hkey he hd)
  have entries {j : ℕ} {e : Dispatch} := World.put_entry entry (.settled outcome) j e
  constructor
  · intro i j e f hi hj hkey he hf
    rcases entries.1 hi with ⟨rfl, rfl⟩ | ⟨hie, hi'⟩
    · rcases entries.1 hj with ⟨rfl, rfl⟩ | ⟨hje, hj'⟩
      · rfl
      · exact absurd hkey.symm (other hj' hje hf)
    · rcases entries.1 hj with ⟨rfl, rfl⟩ | ⟨_, hj'⟩
      · exact absurd hkey (other hi' hie he)
      · exact inv.unique hi' hj' hkey he hf
  · intro i e hi he
    rcases entries.1 hi with ⟨rfl, rfl⟩ | ⟨hie, hi⟩
    · exact ⟨record', by simp [World.settle], by rw [written]; exact he⟩
    · obtain ⟨record, hrow, hne⟩ := inv.held hi he
      exact ⟨record, by simpa [World.settle, other hi hie he] using hrow, hne⟩
  · intro i e o a hi hp
    rcases entries.1 hi with ⟨rfl, rfl⟩ | ⟨_, hi⟩
    · simp at hp
    · exact inv.fresh hi hp

theorem Invariant.step {w w' : World} {a : Action} (inv : Invariant w) (ha : a.enforced = true)
    (h : DedupRuns.step w a = some w') : Invariant w' := by
  cases step_effect h with
  | refused run key host enforce force stored verdict =>
    obtain ⟨rfl, rfl⟩ : enforce = true ∧ force = false := by simpa [Action.enforced] using ha
    exact inv.refused fun hrow hne => refused_row verdict hrow hne
  | granted run key host enforce force stored verdict =>
    obtain ⟨rfl, rfl⟩ : enforce = true ∧ force = false := by simpa [Action.enforced] using ha
    rw [(gate_dispatch_claims verdict).2]
    exact inv.granted (fun entry hkey => inv.released_of_dispatch verdict entry hkey) _
  | moved _ index d progress entry before after reads => exact inv.moved entry before reads
  | unwritten index stored writtenAt d outcome allow entry before =>
    exact inv.moved entry (by simp [before, Progress.unsettled]) (by simp)
  | wrote index writtenAt d outcome allow record entry before row =>
    exact inv.wrote entry before rfl
  | adjudicated => simp [Action.enforced] at ha
  | forgotten => simp [Action.enforced] at ha

theorem invariant_reaches {table : DedupTable} {w : World}
    (run : Reaches DedupRuns.step (fun _ a => a.enforced = true) (World.start table) w) :
    Invariant w :=
  Reaches.invariant run (invariant_start table) fun _ _ _ inv ha hs => inv.step ha hs

/-- Whenever an unforced enforce-mode gate dispatches a key, every earlier
dispatch of that key was settled as a failure that is not `http_5xx`. -/
theorem dispatch_after_failures (table : DedupTable) (w : World) (key : DedupKey)
    (run : PublishRun) (host : Host) (stored : Bool)
    (reached : Reaches DedupRuns.step (fun _ a => a.enforced = true) (World.start table) w)
    (verdict : (DedupGate.gate w.table (some key) run host true false stored).2.verdict = .dispatch) :
    ∀ d ∈ w.history, d.key = key →
      ∃ errorClass, d.progress = .settled (.failure errorClass) ∧ errorClass ≠ some "http_5xx" := by
  intro d hd hkey
  obtain ⟨i, hi⟩ := List.mem_iff_getElem?.1 hd
  exact (released_iff _).1 ((invariant_reaches reached).released_of_dispatch verdict hi hkey)

def rejectedAttempt : List Action :=
  [.gate runA pageKey (hostAt 0) true false true, .finish 0 (.failure (some "content_rejected")),
    .readRow 0 true, .writeRow 0 true 1]

def afterRejection : World :=
  final DedupRuns.step (fun _ a => a.enforced) (World.start fun _ => none) rejectedAttempt

theorem dispatch_after_rejection :
    afterRejection.history.length = 1 ∧
      (DedupGate.gate afterRejection.table (some pageKey) runB (hostAt 2) true false true).2.verdict =
        .dispatch ∧
      ∀ d ∈ afterRejection.history, d.key = pageKey →
        ∃ errorClass, d.progress = .settled (.failure errorClass) ∧
          errorClass ≠ some "http_5xx" :=
  ⟨by decide, by decide,
    dispatch_after_failures (fun _ => none) afterRejection pageKey runB (hostAt 2) true
      (reaches_final _ _ _ (by decide)) (by decide)⟩

end BacklinkPublisher.DedupAtMostOnce
