import BacklinkPublisher.CheckpointProjection

set_option autoImplicit false

/-!
# What reaches the event log from a checkpoint

A flush drops an intent or a failure whose target already had one in the same
flush, whatever the platform, and its cursor moves on all the same. What holds is
that the first item of each target is reported, and the others through it.
-/
namespace BacklinkPublisher.CheckpointLog
open EventStore OptionFolds ProjectionHelpers CheckpointProjection

/-- The items that the log is to show: first seen pending, or newly failed. -/
inductive Due (prior : Option ItemState) (item : CheckpointItem) (state : ItemState) :
    EventKind → Prop where
  | pending (now : state.status = "pending") (unseen : prior = none) :
      Due prior item state .publishIntent
  | failed (now : state.status = "failed") (hclass : item.errorClass ≠ .text Checkpoints.policySkip)
      (changed : prior ≠ some state) : Due prior item state .publishFailed

theorem due_of_role {prior : Option ItemState} {item : CheckpointItem} {state : ItemState}
    {kind : EventKind} (h : item.role prior state = .due kind) : Due prior item state kind := by
  unfold CheckpointItem.role at h
  split at h
  · contradiction
  rename_i changed
  split at h
  · rename_i now
    split at h
    · contradiction
    · rename_i unseen
      obtain rfl := Role.due.inj h
      exact .pending now (by simpa using unseen)
  split at h
  · contradiction
  split at h
  · rename_i now
    split at h
    · contradiction
    · rename_i hclass
      obtain rfl := Role.due.inj h
      exact .failed now hclass changed
  · contradiction

/-- The `target_url` that a dedup key stands for. -/
def keyTarget (text : String) : Value := if text = "" then .null else .text text

section Pass
variable {lib : Helpers} {runId : String} {startedAt : Value} {prior : String → Option ItemState}
  {r r' : Reduction}

theorem hostOf_orNull {url : Value} (h : lib.hostOf url.orNull ≠ none) :
    url.orNull = keyTarget (targetText url.orNull) := by
  cases url with
  | null => rfl
  | text s =>
    by_cases hs : s = "" <;>
      simp [Value.orNull, Value.truthy, hs, targetText, Value.asText, keyTarget]
  | scalar code truthy | compound code truthy =>
    cases truthy with
    | false => rfl
    | true => simp [Helpers.hostOf, Value.orNull, Value.truthy] at h

theorem keyTarget_of_projected {item : CheckpointItem} {id : String} {state : ItemState}
    (hstate : item.state = some (id, state))
    (h : projectCheckpointItem lib runId startedAt prior r (some item) = some r') :
    item.targetUrl = keyTarget (targetText item.targetUrl) := by
  simp only [projectCheckpointItem, hstate, Option.bind_eq_bind, Option.bind_eq_some_iff] at h
  obtain ⟨payload, hpayload, host, hhost, -⟩ := h
  have own : payload.targetUrl.orNull = item.targetUrl := by
    simp [CheckpointItem.targetUrl, hpayload]
  rw [← own]
  have accepted : lib.hostOf payload.targetUrl.orNull ≠ none := by simp [hhost]
  exact hostOf_orNull accepted

/-- An iteration sees no new key, or that of a due item together with its event. -/
theorem seen_step {entry : Option CheckpointItem}
    (hstep : projectCheckpointItem lib runId startedAt prior r entry = some r') :
    r'.seen = r.seen ∨ ∃ item id state kind event, entry = some item ∧
      item.state = some (id, state) ∧ Due (prior id) item state kind ∧
      item.targetUrl = keyTarget (targetText item.targetUrl) ∧
      Reports event kind runId item.targetUrl ∧ r'.tx.events = r.tx.events ++ [event] ∧
      r'.seen = (targetText item.targetUrl, kind) :: r.seen := by
  cases hentry : considered entry with
  | none =>
    obtain rfl : r = r' := by simpa [projectCheckpointItem_ignored hentry] using hstep
    exact .inl rfl
  | some idState =>
    obtain ⟨item, rfl, hstate⟩ := Option.bind_eq_some_iff.1 hentry
    have effect := (projectCheckpointItem_effect hstate hstep).1
    cases hrole : item.role (prior idState.1) idState.2 with
    | silent => rw [hrole] at effect; exact .inl effect.2
    | confirmed => rw [hrole] at effect; exact .inl effect.2.2
    | due kind =>
      rw [hrole] at effect
      obtain ⟨-, -, same⟩ | ⟨-, event, reports, -, rows, hseen⟩ := effect
      · exact .inl same
      · exact .inr ⟨item, _, _, kind, event, rfl, hstate, due_of_role hrole,
          keyTarget_of_projected hstate hstep, reports, congrArg Prod.fst rows, hseen⟩

def SeenLogged (runId : String) (events : List Event) (r : Reduction) : Prop :=
  ∃ emitted, r.tx.events = events ++ emitted ∧
    ∀ text kind, (text, kind) ∈ r.seen →
      ∃ event ∈ emitted, Reports event kind runId (keyTarget text)

theorem SeenLogged.grow {events : List Event} (h : SeenLogged runId events r)
    (grows : Extends r.tx.tables r'.tx.tables) (same : r'.seen = r.seen) :
    SeenLogged runId events r' := by
  obtain ⟨emitted, hevents, hseen⟩ := h
  obtain ⟨more, hmore⟩ := grows.1
  refine ⟨emitted ++ more, ?_, fun text kind hkey => ?_⟩
  · rw [← List.append_assoc, ← hevents]
    exact hmore.symm
  · obtain ⟨event, hmem, reports⟩ := hseen text kind (same ▸ hkey)
    exact ⟨event, by simp [hmem], reports⟩

theorem SeenLogged.step {events : List Event} {entry : Option CheckpointItem}
    (h : SeenLogged runId events r)
    (hstep : projectCheckpointItem lib runId startedAt prior r entry = some r') :
    SeenLogged runId events r' := by
  obtain same | ⟨item, id, state, kind, event, -, -, -, target, reports, rows, hseen⟩ :=
    seen_step hstep
  · exact h.grow (projectCheckpointItem_extends hstep) same
  · obtain ⟨emitted, hevents, hkeys⟩ := h
    refine ⟨emitted ++ [event], by rw [rows, hevents, List.append_assoc], ?_⟩
    intro text kind' hkey
    rw [hseen] at hkey
    rcases List.mem_cons.1 hkey with heq | hkey
    · obtain ⟨rfl, rfl⟩ := Prod.mk.inj heq
      exact ⟨event, by simp, target ▸ reports⟩
    · obtain ⟨other, hmem, hreports⟩ := hkeys text kind' hkey
      exact ⟨other, by simp [hmem], hreports⟩

end Pass

section Flush
variable {lib : Helpers} {file : CheckpointFile} {store : ProjectedStore ItemCursor}
  {flushed : Flushed ItemCursor}

end Flush

end BacklinkPublisher.CheckpointLog
