import BacklinkPublisher.CheckpointProjection
import BacklinkPublisher.HistoryProjection
import BacklinkPublisher.DraftsProjection

set_option autoImplicit false

/-!
# Flushing an unchanged file again

The cursors of checkpoints and drafts hold the last record of each id. A record
that differs from it is looked at again by every flush, and may emit again.
-/
namespace BacklinkPublisher.RepeatedFlushes
open EventStore OptionFolds ProjectionHelpers ProjectionEmit

section Checkpoints
open CheckpointProjection
variable {lib : Helpers} {runId : String} {startedAt : Value} {prior : ItemCursor}
  {r r' : Reduction}

/-- A record that no flush after the first has anything to do for. -/
def Inert (item : CheckpointItem) (state : ItemState) : Prop :=
  state.status = "pending" ∨
    state.status = "failed" ∧ item.errorClass = .text Checkpoints.policySkip ∨
    classify .checkpoint state.status = .quarantine

theorem role_silent_iff {item : CheckpointItem} {known state : ItemState}
    (changed : some known ≠ some state) :
    item.role (some known) state = .silent ↔ Inert item state := by
  unfold CheckpointItem.role Inert
  by_cases hpending : state.status = "pending"
  · simp [changed, hpending]
  by_cases hdone : state.status = "done" ∨ state.status = "succeeded"
  · rcases hdone with hdone | hdone <;> simp [changed, hdone, classify]
  by_cases hfailed : state.status = "failed"
  · by_cases hclass : item.errorClass = .text Checkpoints.policySkip <;>
      simp [changed, hfailed, hclass, classify]
  · simp [changed, hpending, hdone, hfailed, classify]

/-- The flush with this cursor does nothing for the entry. -/
def SilentEntry (prior : ItemCursor) (entry : Option CheckpointItem) : Prop :=
  ∀ item id state, entry = some item → item.state = some (id, state) →
    item.role (prior id) state = .silent

/-- As long as the flush has emitted nothing, an iteration changes the tables or is silent. -/
theorem projectCheckpointItem_silent {entry : Option CheckpointItem} (fresh : r.seen = [])
    (h : projectCheckpointItem lib runId startedAt prior r entry = some r') :
    (SilentEntry prior entry → r'.tx.tables = r.tx.tables ∧ r'.seen = []) ∧
      (¬ SilentEntry prior entry → r'.tx.tables ≠ r.tx.tables) := by
  cases hentry : considered entry with
  | none =>
    obtain rfl : r = r' := by simpa [projectCheckpointItem_ignored hentry] using h
    refine ⟨fun _ => ⟨rfl, fresh⟩, fun noisy => absurd ?_ noisy⟩
    rintro item id state rfl hstate
    simp [considered, hstate] at hentry
  | some idState =>
    obtain ⟨item, rfl, hstate⟩ := Option.bind_eq_some_iff.1 hentry
    have silent_iff : SilentEntry prior (some item) ↔
        item.role (prior idState.1) idState.2 = .silent := by
      refine ⟨fun silent => silent item _ _ rfl hstate, fun silent item' id state heq hstate' => ?_⟩
      obtain rfl := Option.some.inj heq
      obtain rfl := Option.some.inj (hstate.symm.trans hstate')
      exact silent
    have effect := (projectCheckpointItem_effect hstate h).1
    rw [silent_iff]
    generalize item.role (prior idState.1) idState.2 = role at effect
    cases role with
    | silent => exact ⟨fun _ => ⟨effect.1, effect.2.trans fresh⟩, fun noisy => absurd rfl noisy⟩
    | confirmed => exact ⟨(fun silent => by cases silent), fun _ => effect.2.1⟩
    | due kind =>
      refine ⟨(fun silent => by cases silent), fun _ => ?_⟩
      obtain ⟨known, -⟩ | ⟨-, event, -, -, rows, -⟩ := effect
      · simp [fresh] at known
      · rw [rows]
        simp [Tx.tables]

theorem projectCheckpointItems_silent {entries : List (Option CheckpointItem)}
    (fresh : r.seen = [])
    (h : entries.foldlM (projectCheckpointItem lib runId startedAt prior) r = some r') :
    r'.tx.tables = r.tx.tables ↔ ∀ entry ∈ entries, SilentEntry prior entry :=
  foldlM_unchanged_iff (π := fun r : Reduction => r.tx.tables) (I := fun r => r.seen = [])
    (R := Extends) h fresh (fun _ _ _ => Extends.trans) Extends.refl (fun _ _ => Extends.antisymm)
    (fun _ _ _ => projectCheckpointItem_extends)
    (fun _ _ _ fresh hstep silent => ((projectCheckpointItem_silent fresh hstep).1 silent).symm)
    fun _ _ _ fresh hstep noisy => (projectCheckpointItem_silent fresh hstep).2 noisy

/-- Every record that is not its id's last state is inert. -/
def CheckpointSettled (items : List (Option CheckpointItem)) : Prop :=
  ∀ item id state, some item ∈ items → item.state = some (id, state) →
    latest considered items id ≠ some state → Inert item state

theorem projectCheckpoint_repeated {file : CheckpointFile} {store : ProjectedStore ItemCursor}
    {first second : Flushed ItemCursor} (h : projectCheckpoint lib file store = some first)
    (h' : projectCheckpoint lib file first.store = some second) :
    second.store.tables = first.store.tables ↔ CheckpointSettled file.items := by
  have cursor := projectCheckpoint_cursor h
  obtain ⟨runId, r, -, hpass, rfl⟩ := projectCheckpoint_some h'
  refine (projectCheckpointItems_silent rfl hpass).trans ?_
  rw [cursor]
  have role_iff {item : CheckpointItem} {id : String} {state : ItemState}
      (hmem : some item ∈ file.items) (hstate : item.state = some (id, state)) :
      item.role (latest considered file.items id) state = .silent ↔
        (latest considered file.items id ≠ some state → Inert item state) := by
    have hentry : considered (some item) = some (id, state) := by simpa [considered] using hstate
    obtain ⟨known, hknown⟩ := Option.isSome_iff_exists.1 (isSome_latest hmem hentry)
    rw [hknown]
    by_cases same : some known = some state
    · simp [same, CheckpointItem.role]
    · simp [role_silent_iff same, same]
  constructor
  · exact fun silent item id state hmem hstate =>
      (role_iff hmem hstate).1 (silent _ hmem item id state rfl hstate)
  · rintro settled _ hmem item id state rfl hstate
    exact (role_iff hmem hstate).2 (settled item id state hmem hstate)

end Checkpoints

open CheckpointProjection (CheckpointFile CheckpointItem ItemCursor projectCheckpoint)
open HistoryProjection (HistoryFile HistoryRow projectHistory)
open DraftsProjection (DraftRow StatusCursor projectDrafts DraftsSettled)

/-- Two flushes of one file that both return: the second leaves the tables as the first
left them, for a history always, for the other two exactly where every record that its
id's last record has overtaken has nothing more to say. -/
theorem repeated_flush_unchanged_iff (lib : Helpers) :
    (∀ (file : HistoryFile) (store : ProjectedStore (List String)) (first second : Flushed _),
        projectHistory lib file store = some first →
        projectHistory lib file first.store = some second →
        second.store.tables = first.store.tables) ∧
      (∀ (file : CheckpointFile) (store : ProjectedStore ItemCursor) (first second : Flushed _),
        projectCheckpoint lib file store = some first →
        projectCheckpoint lib file first.store = some second →
        (second.store.tables = first.store.tables ↔ CheckpointSettled file.items)) ∧
      ∀ (rows : List (Option DraftRow)) (store : ProjectedStore StatusCursor)
        (first second : Flushed _),
        projectDrafts lib rows store = some first →
        projectDrafts lib rows first.store = some second →
        (second.store.tables = first.store.tables ↔ DraftsSettled lib rows store) :=
  ⟨fun _ _ _ _ => HistoryProjection.projectHistory_repeated,
    fun _ _ _ _ => projectCheckpoint_repeated,
    fun _ _ _ _ => DraftsProjection.projectDrafts_repeated⟩

/-! ## Records that share an id -/

def checkpointOf (items : List CheckpointItem) : CheckpointFile where
  runId := .text "run-1"
  items := items.map some

def twoStates : CheckpointFile :=
  checkpointOf [
    { id := .text "a", status := .text "done", publishedUrl := .text "https://blog.example/1" },
    { id := .text "a", status := .text "pending" }]

def twoStatuses : List (Option DraftRow) :=
  [some { id := .text "a", status := .text "scheduled" },
    some { id := .text "a", status := .text "drafted" }]

def publishedHistory : HistoryFile :=
  .rows [some {
    id := .text "h"
    status := .text "published"
    articleUrls := some [.text "https://blog.example/1"] }]

def oneDone : CheckpointFile :=
  checkpointOf [
    { id := .text "a", status := .text "done", publishedUrl := .text "https://blog.example/1" }]

def oneDraft : List (Option DraftRow) :=
  [some { id := .text "a", status := .text "scheduled" }]

theorem repeated_flush_unchanged_witness :
    (∃ first second, projectHistory plainHelpers publishedHistory { cursor := [] } = some first ∧
        projectHistory plainHelpers publishedHistory first.store = some second ∧
        second.store.tables = first.store.tables) ∧
      (∃ first second, projectCheckpoint plainHelpers oneDone noRecords = some first ∧
        projectCheckpoint plainHelpers oneDone first.store = some second ∧
        (second.store.tables = first.store.tables ↔ CheckpointSettled oneDone.items)) ∧
      ∃ first second, projectDrafts plainHelpers oneDraft noRecords = some first ∧
        projectDrafts plainHelpers oneDraft first.store = some second ∧
        (second.store.tables = first.store.tables ↔ DraftsSettled plainHelpers oneDraft noRecords) :=
  ⟨⟨_, _, rfl, rfl,
      (repeated_flush_unchanged_iff plainHelpers).1 publishedHistory { cursor := [] } _ _ rfl rfl⟩,
    ⟨_, _, rfl, rfl, (repeated_flush_unchanged_iff plainHelpers).2.1 oneDone noRecords _ _ rfl rfl⟩,
    ⟨_, _, rfl, rfl, (repeated_flush_unchanged_iff plainHelpers).2.2 oneDraft noRecords _ _ rfl rfl⟩⟩

theorem repeated_flush_emits_again :
    let project := projectCheckpoint plainHelpers twoStates
    let project' := projectDrafts plainHelpers twoStatuses
    (flush project (flush project noRecords)).tables ≠ (flush project noRecords).tables ∧
      (flush project' (flush project' noRecords)).tables ≠ (flush project' noRecords).tables := by
  decide

end BacklinkPublisher.RepeatedFlushes
