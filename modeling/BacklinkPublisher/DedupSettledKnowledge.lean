import BacklinkPublisher.DedupRuns

set_option autoImplicit false

/-!
# What later automatic steps do to a settled row

A terminal write decides on the row it read and writes in a second transaction
that does not look at the state again. The row keeps what was known about it in
every step that is not such an overtaken write.
-/
namespace BacklinkPublisher.DedupSettledKnowledge
open DedupStore DedupGate DedupRuns TransitionSystems

/-- `uncertain` may only be confirmed; `done` keeps its state and its URL. -/
structure RowKept (record record' : DedupRecord) : Prop where
  uncertain : record.state = .uncertain → record'.state = .uncertain ∨ record'.state = .done
  done : record.state = .done → record'.state = .done ∧ record'.liveUrl = record.liveUrl

def TableKept (table table' : DedupTable) : Prop :=
  ∀ (key : DedupKey) (record : DedupRecord), table key = some record →
    record.state = .uncertain ∨ record.state = .done →
      ∃ record', table' key = some record' ∧ RowKept record record'

theorem RowKept.refl (record : DedupRecord) : RowKept record record := ⟨.inl, fun h => ⟨h, rfl⟩⟩

theorem RowKept.trans {r s t : DedupRecord} (h : RowKept r s) (h' : RowKept s t) :
    RowKept r t where
  uncertain hr := by
    rcases h.uncertain hr with hs | hs
    · exact h'.uncertain hs
    · exact .inr (h'.done hs).1
  done hr := by
    obtain ⟨hs, hurl⟩ := h.done hr
    obtain ⟨ht, hurl'⟩ := h'.done hs
    exact ⟨ht, hurl'.trans hurl⟩

theorem TableKept.refl (table : DedupTable) : TableKept table table :=
  fun _ record row _ => ⟨record, row, .refl record⟩

theorem TableKept.trans {t u v : DedupTable} (h : TableKept t u) (h' : TableKept u v) :
    TableKept t v := by
  intro key record row settled
  obtain ⟨record', row', kept⟩ := h key record row settled
  have settled' : record'.state = .uncertain ∨ record'.state = .done :=
    settled.elim kept.uncertain fun hd => .inr (kept.done hd).1
  obtain ⟨record'', row'', kept'⟩ := h' key record' row' settled'
  exact ⟨record'', row'', kept.trans kept'⟩

/-- Only a success is written over a row that was read as `failed`. -/
def ReadDecisions (w : World) : Prop :=
  ∀ (i : ℕ) (d : Dispatch) (outcome : Outcome), w.history[i]? = some d →
    d.progress = .reading outcome true → outcome.toState = .done

theorem ReadDecisions.step {w w' : World} {a : Action} (inv : ReadDecisions w)
    (h : DedupRuns.step w a = some w') : ReadDecisions w' := by
  intro i e o hi hp
  cases step_effect h with
  | refused => exact inv i e o hi hp
  | granted run key host enforce force stored =>
    rcases (World.grant_entry _ _ _ _ _ _ _).1 hi with ⟨rfl, rfl⟩ | hi'
    · simp at hp
    · exact inv i e o hi' hp
  | moved _ index d progress entry before after reads =>
    rcases (World.put_entry entry progress i e).1 hi with ⟨rfl, rfl⟩ | ⟨_, hi'⟩
    · obtain ⟨r, _, _, _, failed, allow⟩ := (terminalDecision_some_iff _ _ _).1 (reads _ _ hp)
      have hr : r.state = .failed := by simpa using allow.symm
      simpa [hr] using failed
    · exact inv i e o hi' hp
  | unwritten index stored writtenAt d outcome allow entry =>
    rcases (World.put_entry entry (.dropped outcome) i e).1 hi with ⟨rfl, rfl⟩ | ⟨_, hi'⟩
    · simp at hp
    · exact inv i e o hi' hp
  | wrote index writtenAt d outcome allow record entry =>
    rcases (World.put_entry entry (.settled outcome) i e).1 hi with ⟨rfl, rfl⟩ | ⟨_, hi'⟩
    · simp at hp
    · exact inv i e o hi' hp
  | adjudicated => exact inv i e o hi hp
  | forgotten => exact inv i e o hi hp

/-- The row was promoted to `uncertain` while a failure is being written, or
settled as `done` while a success with another URL is written over `failed`. -/
def overwrites (record : DedupRecord) (outcome : Outcome) (allow : Bool) : Bool :=
  match record.state with
  | .uncertain => decide (outcome.toState = .failed)
  | .done =>
    match outcome with
    | .success (some liveUrl) _ => allow && decide (record.liveUrl ≠ some liveUrl)
    | _ => false
  | .attempting | .failed => false

/-- The step is a terminal write whose row another step has moved since its read. -/
def overtaken (w : World) : Action → Bool
  | .writeRow index true _ =>
    match w.history[index]? with
    | some d =>
      match d.progress, w.table d.key with
      | .reading outcome allow, some record => overwrites record outcome allow
      | _, _ => false
    | none => false
  | _ => false

def undisturbed (w : World) (a : Action) : Bool := a.automatic && !overtaken w a

end BacklinkPublisher.DedupSettledKnowledge
