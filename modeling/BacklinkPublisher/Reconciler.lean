import BacklinkPublisher.Checkpoints
import BacklinkPublisher.DedupStore
import BacklinkPublisher.TransitionSystems
import Mathlib.Data.List.Sort

set_option autoImplicit false

/-!
# The checkpoint reconciler

`_reconcile_checkpoints` of `events/reconciler.py` and the `quarantine_log` helpers
of `events/reconcile.py`, where no I/O fails.
-/
namespace BacklinkPublisher.Reconciler
open Checkpoints DedupStore TransitionSystems

/-! ## The checkpoint directory -/

/-- A checkpoint file; its name is the run id. -/
structure RunFile where
  checkpoint : Checkpoint
  mtime : ℚ

def listAllRuns (dir : List RunFile) : List RunFile :=
  ((dir.insertionSort fun a b => b.mtime ≤ a.mtime).take 100).insertionSort
    fun a b => ¬ a.checkpoint.startedAt < b.checkpoint.startedAt

def isOpen (item : CheckpointItem) : Bool := item.status = .pending || item.status = .failed

def listFailedItems (dir : List RunFile) : List (String × CheckpointItem) :=
  (listAllRuns dir).flatMap fun file =>
    (file.checkpoint.items.filter isOpen).map fun item => (file.checkpoint.runId, item)

/-- `update_item(run_id, item_id, "done")`. -/
def settleItem (dir : List RunFile) (runId itemId : String) (writtenAt : ℚ) : List RunFile :=
  dir.map fun file =>
    if file.checkpoint.runId = runId then ⟨file.checkpoint.updateItem itemId .done {}, writtenAt⟩
    else file

/-! ## The quarantine log -/

/-- The columns of `quarantine_log` that tell rows apart. -/
structure QuarantineRow where
  source : String
  runId : Option String := none
  rowId : Option String := none
  dedupKey : Option String := none
  deriving DecidableEq, Repr

/-- `_quarantine`: nothing where the source has a row, or where the `UNIQUE` index on
`dedup_key` rejects the new one. -/
def quarantine (log : List QuarantineRow) (row : QuarantineRow) : List QuarantineRow :=
  if log.any (·.source = row.source) then log
  else if row.dedupKey.isSome && log.any (·.dedupKey = row.dedupKey) then log
  else log ++ [row]

def clearQuarantine (log : List QuarantineRow) (source : String) : List QuarantineRow :=
  log.filter (·.source ≠ source)

def clearQuarantineByDedupKey (log : List QuarantineRow) (dedupKey : String) :
    List QuarantineRow :=
  log.filter (·.dedupKey ≠ some dedupKey)

/-- `EventStore.quarantine`, an `INSERT OR IGNORE` under a hash. -/
def recordQuarantine (log : List QuarantineRow) (row : QuarantineRow) : List QuarantineRow :=
  if log.any (·.dedupKey = row.dedupKey) then log else log ++ [row]

def reconcilerQuarantineSet (log : List QuarantineRow) : List String :=
  log.filterMap fun row => row.dedupKey.filter (· ≠ "")

/-! ## The pass -/

structure ReconciliationSummary where
  autoFixed : ℕ := 0
  quarantined : ℕ := 0
  cleared : ℕ := 0
  totalCheckpoints : ℕ := 0
  skippedQuarantined : ℕ := 0
  deriving DecidableEq, Repr

structure CheckpointProbe where
  itemId : String
  runId : String
  itemStatus : ItemStatus
  platform : String
  canon : String
  createdAt : Option String
  key : DedupKey

/-- `_canonicalize_url` of the item's target. -/
def canonicalUrl (canonicalizeUrl : String → Option String) (item : CheckpointItem) :
    Option String :=
  (truthy item.payload.targetUrl).bind canonicalizeUrl

inductive Resolution where
  | dropped
  | quarantined
  | probe (probe : CheckpointProbe)

def resolveCheckpointProbe (canonicalizeUrl : String → Option String) (skipSet : List String)
    (runId : String) (item : CheckpointItem) : Resolution :=
  match canonicalUrl canonicalizeUrl item with
  | none => .dropped
  | some canon =>
    if item.platform = "" then .dropped
    else if canon ∈ skipSet then .quarantined
    else
      -- the key canonicalizes the canonical URL once more
      match DedupKey.make canonicalizeUrl item.platform canon "default" with
      | none => .dropped
      | some key =>
        .probe ⟨item.id, runId, item.status, item.platform, canon,
          (truthy item.completedAt).or (truthy item.createdAt), key⟩

/-- What the pass reads of the clock at its n-th probe: the age of a timestamp in
seconds, 0 for one that does not parse, and the time of a write. -/
structure PassClock where
  age : ℕ → String → ℚ
  writtenAt : ℕ → ℚ

def staleGapThreshold : ℚ := 86400

structure PassState where
  dir : List RunFile
  log : List QuarantineRow
  summary : ReconciliationSummary := {}

def autoFixCheckpoint (clock : PassClock) (s : PassState) (probe : CheckpointProbe) (n : ℕ) :
    PassState where
  dir := settleItem s.dir probe.runId probe.itemId (clock.writtenAt n)
  log := clearQuarantineByDedupKey s.log probe.canon
  summary := { s.summary with
    autoFixed := s.summary.autoFixed + 1
    cleared := s.summary.cleared + 1 }

def reconcilerSource (canon : String) : String := "reconciler:" ++ canon

def gapRow (probe : CheckpointProbe) : QuarantineRow where
  source := reconcilerSource probe.canon
  runId := some probe.runId
  rowId := some probe.itemId
  dedupKey := some probe.canon

def isStaleGap (clock : PassClock) (probe : CheckpointProbe) (n : ℕ) : Bool :=
  decide (staleGapThreshold ≤ (probe.createdAt.map (clock.age n)).getD 0)

def quarantineIfStale (clock : PassClock) (s : PassState) (probe : CheckpointProbe) (n : ℕ) :
    PassState :=
  if isStaleGap clock probe n then
    { s with
      log := quarantine s.log (gapRow probe)
      summary := { s.summary with quarantined := s.summary.quarantined + 1 } }
  else s

/-- The batch read says that the probe's record is `done`. -/
def isConfirmed (records : List (DedupKey × DedupRecord)) (probe : CheckpointProbe) : Bool :=
  (records.lookup probe.key).any (·.state = .done)

def crossReference (clock : PassClock) (records : List (DedupKey × DedupRecord)) (s : PassState)
    (entry : CheckpointProbe × ℕ) : PassState :=
  if isConfirmed records entry.1 then autoFixCheckpoint clock s entry.1 entry.2
  else quarantineIfStale clock s entry.1 entry.2

structure World where
  dir : List RunFile
  table : DedupTable
  log : List QuarantineRow

/-- Pass 1. -/
def resolutions (canonicalizeUrl : String → Option String) (w : World) : List Resolution :=
  (listFailedItems w.dir).map fun entry =>
    resolveCheckpointProbe canonicalizeUrl (reconcilerQuarantineSet w.log) entry.1 entry.2

def Resolution.toProbe : Resolution → Option CheckpointProbe
  | .probe found => some found
  | _ => none

def Resolution.isQuarantined : Resolution → Bool
  | .quarantined => true
  | _ => false

def pendingProbes (canonicalizeUrl : String → Option String) (w : World) : List CheckpointProbe :=
  (resolutions canonicalizeUrl w).filterMap Resolution.toProbe

def reconcileCheckpoints (canonicalizeUrl : String → Option String) (clock : PassClock)
    (w : World) : PassState :=
  let pending := pendingProbes canonicalizeUrl w
  let records := getMany w.table (pending.map (·.key))
  pending.zipIdx.foldl (crossReference clock records)
    { dir := w.dir
      log := w.log
      summary := {
        totalCheckpoints := (listFailedItems w.dir).length
        skippedQuarantined := (resolutions canonicalizeUrl w).countP Resolution.isQuarantined } }

/-! ## Runs -/

/-- What happens between passes. `park`, `release` and `record` are the writes of
`project_on_read` to the log, `work` is everything that checkpoints and dedup store
go through meanwhile. -/
inductive Activity where
  | reconcile (clock : PassClock)
  | park (source : String)
  | release (source : String)
  | record (source hash : String)
  | work (dir : List RunFile) (table : DedupTable)

def step (canonicalizeUrl : String → Option String) (w : World) : Activity → Option World
  | .reconcile clock =>
    let s := reconcileCheckpoints canonicalizeUrl clock w
    some ⟨s.dir, w.table, s.log⟩
  | .park source => some { w with log := quarantine w.log { source := source } }
  | .release source => some { w with log := clearQuarantine w.log source }
  | .record source hash =>
    some { w with log := recordQuarantine w.log { source := source, dedupKey := some hash } }
  | .work dir table => some { w with dir := dir, table := table }

/-- The sources of `project_on_read` are paths and event kinds. -/
def Admitted (_ : World) : Activity → Prop
  | .park source | .record source _ => ∀ canon, source ≠ reconcilerSource canon
  | _ => True

def World.start (dir : List RunFile) (table : DedupTable) : World := ⟨dir, table, []⟩

/-! ## The quarantine log over a pass -/

/-- The URL has an open reconciler gap. -/
def Quarantined (log : List QuarantineRow) (canon : String) : Prop :=
  ∃ row ∈ log, row.dedupKey = some canon

/-- The rows that the reconciler writes have the URL of their source. -/
def WellKeyed (log : List QuarantineRow) : Prop :=
  ∀ row ∈ log, ∀ canon, row.source = reconcilerSource canon → row.dedupKey = some canon

theorem reconcilerSource_inj {canon canon' : String}
    (h : reconcilerSource canon = reconcilerSource canon') : canon = canon' := by
  simpa [reconcilerSource] using h

theorem quarantined_clear {log : List QuarantineRow} {canon url : String} :
    Quarantined (clearQuarantineByDedupKey log canon) url ↔ Quarantined log url ∧ url ≠ canon := by
  simp only [Quarantined, clearQuarantineByDedupKey, List.mem_filter, decide_eq_true_eq]
  constructor
  · rintro ⟨row, ⟨hmem, hne⟩, hkey⟩
    exact ⟨⟨row, hmem, hkey⟩, fun same => hne (same ▸ hkey)⟩
  · rintro ⟨⟨row, hmem, hkey⟩, hne⟩
    exact ⟨row, ⟨hmem, fun same => hne (Option.some.inj (hkey.symm.trans same))⟩, hkey⟩

theorem quarantined_gap {log : List QuarantineRow} (keyed : WellKeyed log)
    (probe : CheckpointProbe) (url : String) :
    Quarantined (quarantine log (gapRow probe)) url ↔ Quarantined log url ∨ url = probe.canon := by
  have known (h : Quarantined log probe.canon) :
      Quarantined log url ↔ Quarantined log url ∨ url = probe.canon :=
    ⟨.inl, fun h' => h'.elim id fun same => same ▸ h⟩
  unfold quarantine
  split
  · rename_i hsource
    obtain ⟨row, hmem, hrow⟩ := List.any_eq_true.1 hsource
    exact known ⟨row, hmem, keyed row hmem _ (of_decide_eq_true hrow)⟩
  split
  · rename_i hkey
    obtain ⟨-, hkey⟩ := Bool.and_eq_true_iff.1 hkey
    obtain ⟨row, hmem, hrow⟩ := List.any_eq_true.1 hkey
    exact known ⟨row, hmem, of_decide_eq_true hrow⟩
  · simp [Quarantined, gapRow, or_and_right, exists_or, eq_comm]

theorem WellKeyed.sublist {log log' : List QuarantineRow} (keyed : WellKeyed log)
    (h : ∀ row ∈ log', row ∈ log) : WellKeyed log' :=
  fun row hmem => keyed row (h row hmem)

theorem WellKeyed.concat {log : List QuarantineRow} (keyed : WellKeyed log) {row : QuarantineRow}
    (h : ∀ canon, row.source = reconcilerSource canon → row.dedupKey = some canon) :
    WellKeyed (log ++ [row]) := by
  intro other hmem
  rcases List.mem_append.1 hmem with hmem | hmem
  · exact keyed other hmem
  · obtain rfl : other = row := by simpa using hmem
    exact h

theorem WellKeyed.quarantine {log : List QuarantineRow} (keyed : WellKeyed log)
    {row : QuarantineRow}
    (h : ∀ canon, row.source = reconcilerSource canon → row.dedupKey = some canon) :
    WellKeyed (quarantine log row) := by
  unfold Reconciler.quarantine
  split
  · exact keyed
  split
  · exact keyed
  · exact keyed.concat h

theorem wellKeyed_gap {log : List QuarantineRow} (keyed : WellKeyed log) (probe : CheckpointProbe) :
    WellKeyed (quarantine log (gapRow probe)) := by
  refine keyed.quarantine fun canon hsource => ?_
  rw [← reconcilerSource_inj hsource]
  rfl

section Passes
variable {clock : PassClock} {records : List (DedupKey × DedupRecord)}

theorem crossReference_wellKeyed {s : PassState} (keyed : WellKeyed s.log)
    (entry : CheckpointProbe × ℕ) : WellKeyed (crossReference clock records s entry).log := by
  unfold crossReference
  split
  · exact keyed.sublist fun row hmem => (List.mem_filter.1 hmem).1
  · unfold quarantineIfStale
    split
    · exact wellKeyed_gap keyed entry.1
    · exact keyed

theorem crossReferences_wellKeyed {entries : List (CheckpointProbe × ℕ)} {s : PassState}
    (keyed : WellKeyed s.log) :
    WellKeyed (entries.foldl (crossReference clock records) s).log := by
  induction entries generalizing s with
  | nil => exact keyed
  | cons entry entries ih => exact ih (crossReference_wellKeyed keyed entry)

def LeavesGap (clock : PassClock) (records : List (DedupKey × DedupRecord)) (url : String)
    (entry : CheckpointProbe × ℕ) : Prop :=
  entry.1.canon = url ∧ isConfirmed records entry.1 = false ∧ isStaleGap clock entry.1 entry.2 = true

def Clears (records : List (DedupKey × DedupRecord)) (url : String)
    (entry : CheckpointProbe × ℕ) : Prop :=
  entry.1.canon = url ∧ isConfirmed records entry.1 = true

theorem crossReference_quarantined {s : PassState} (keyed : WellKeyed s.log)
    (entry : CheckpointProbe × ℕ) (url : String) :
    Quarantined (crossReference clock records s entry).log url ↔
      (Quarantined s.log url ∧ ¬ Clears records url entry) ∨ LeavesGap clock records url entry := by
  unfold crossReference
  cases hconfirmed : isConfirmed records entry.1 with
  | true =>
    have clears : Clears records url entry ↔ url = entry.1.canon := by
      simp [Clears, hconfirmed, eq_comm]
    have leaves : ¬ LeavesGap clock records url entry := by simp [LeavesGap, hconfirmed]
    rw [clears, or_iff_left leaves]
    exact quarantined_clear
  | false =>
    have kept : ¬ Clears records url entry := by simp [Clears, hconfirmed]
    rw [and_iff_left kept]
    cases hstale : isStaleGap clock entry.1 entry.2 with
    | true =>
      have leaves : LeavesGap clock records url entry ↔ url = entry.1.canon := by
        simp [LeavesGap, hconfirmed, hstale, eq_comm]
      rw [leaves]
      simpa [quarantineIfStale, hstale] using quarantined_gap keyed entry.1 url
    | false =>
      have leaves : ¬ LeavesGap clock records url entry := by simp [LeavesGap, hstale]
      rw [or_iff_left leaves]
      simp [quarantineIfStale, hstale]

theorem exists_split_cons {α : Type} {R : α → List α → Prop} {a : α} {as : List α} :
    (∃ before b after, a :: as = before ++ b :: after ∧ R b after) ↔
      R a as ∨ ∃ before b after, as = before ++ b :: after ∧ R b after := by
  constructor
  · rintro ⟨before, b, after, hsplit, hR⟩
    cases before with
    | nil =>
      obtain ⟨rfl, rfl⟩ := List.cons.inj hsplit
      exact .inl hR
    | cons first before => exact .inr ⟨before, b, after, (List.cons.inj hsplit).2, hR⟩
  · rintro (hR | ⟨before, b, after, rfl, hR⟩)
    · exact ⟨[], a, as, rfl, hR⟩
    · exact ⟨a :: before, b, after, rfl, hR⟩

/-- The last probe of a URL that clears it or leaves a gap decides. -/
theorem pass_quarantined {entries : List (CheckpointProbe × ℕ)} {s : PassState}
    (keyed : WellKeyed s.log) (url : String) :
    Quarantined (entries.foldl (crossReference clock records) s).log url ↔
      (Quarantined s.log url ∧ ∀ entry ∈ entries, ¬ Clears records url entry) ∨
        ∃ before entry after, entries = before ++ entry :: after ∧
          LeavesGap clock records url entry ∧ ∀ later ∈ after, ¬ Clears records url later := by
  induction entries generalizing s with
  | nil => simp
  | cons entry entries ih =>
    rw [List.foldl_cons, ih (crossReference_wellKeyed keyed entry),
      crossReference_quarantined keyed entry, exists_split_cons, List.forall_mem_cons]
    tauto

/-! ## The checkpoints over a pass -/

def statusAt (dir : List RunFile) (k i : ℕ) : Option ItemStatus :=
  dir[k]?.bind fun file => file.checkpoint.outcomes[i]?.map Prod.fst

/-- `update_item` for the probe changes the i-th item of the k-th file. -/
def Hits (dir : List RunFile) (k i : ℕ) (probe : CheckpointProbe) : Prop :=
  ∃ file, dir[k]? = some file ∧ file.checkpoint.runId = probe.runId ∧
    file.checkpoint.position probe.itemId = some i

theorem hits_settleItem {dir : List RunFile} {runId itemId : String} {writtenAt : ℚ} {k i : ℕ}
    {probe : CheckpointProbe} :
    Hits (settleItem dir runId itemId writtenAt) k i probe ↔ Hits dir k i probe := by
  have same (file : RunFile) :
      ((if file.checkpoint.runId = runId then
            (⟨file.checkpoint.updateItem itemId .done {}, writtenAt⟩ : RunFile)
          else file).checkpoint.runId = probe.runId ∧
        (if file.checkpoint.runId = runId then
            (⟨file.checkpoint.updateItem itemId .done {}, writtenAt⟩ : RunFile)
          else file).checkpoint.position probe.itemId = some i) ↔
      file.checkpoint.runId = probe.runId ∧ file.checkpoint.position probe.itemId = some i := by
    split
    · simp [Checkpoint.position_updateItem]
    · rfl
  simp only [Hits, settleItem, List.getElem?_map, Option.map_eq_some_iff]
  constructor
  · rintro ⟨_, ⟨file, hfile, rfl⟩, hits⟩
    exact ⟨file, hfile, (same file).1 hits⟩
  · rintro ⟨file, hfile, hits⟩
    exact ⟨_, ⟨file, hfile, rfl⟩, (same file).2 hits⟩

theorem statusAt_settleItem {dir : List RunFile} {probe : CheckpointProbe} {writtenAt : ℚ}
    {k i : ℕ} :
    statusAt (settleItem dir probe.runId probe.itemId writtenAt) k i = some .done ↔
      statusAt dir k i = some .done ∨ Hits dir k i probe := by
  simp only [statusAt, settleItem, Hits, List.getElem?_map]
  cases hfile : dir[k]? with
  | none => simp
  | some file =>
    by_cases hrun : file.checkpoint.runId = probe.runId
    · simp only [Option.map_some, Option.bind_some, hrun, if_true, Checkpoint.updateItem_outcomes]
      cases hposition : file.checkpoint.position probe.itemId with
      | none => simp [hrun, hposition]
      | some index =>
        have hlt : index < file.checkpoint.outcomes.length := by
          simpa [Checkpoint.outcomes] using Checkpoint.position_lt hposition
        by_cases hi : index = i
        · subst hi
          simp [hrun, hposition, hlt]
        · simp [hrun, hposition, hi]
    · simp [hrun]

theorem crossReference_hits {s : PassState} {entry : CheckpointProbe × ℕ} {k i : ℕ}
    {probe : CheckpointProbe} :
    Hits (crossReference clock records s entry).dir k i probe ↔ Hits s.dir k i probe := by
  unfold crossReference
  split
  · exact hits_settleItem
  · unfold quarantineIfStale
    split <;> rfl

theorem crossReference_status {s : PassState} {entry : CheckpointProbe × ℕ} {k i : ℕ} :
    statusAt (crossReference clock records s entry).dir k i = some .done ↔
      statusAt s.dir k i = some .done ∨
        isConfirmed records entry.1 = true ∧ Hits s.dir k i entry.1 := by
  unfold crossReference
  split
  · rename_i hconfirmed
    rw [and_iff_right hconfirmed]
    exact statusAt_settleItem
  · rename_i hconfirmed
    rw [or_iff_left fun h => hconfirmed h.1]
    unfold quarantineIfStale
    split <;> rfl

/-- A pass turns exactly those items to `done` that the update of a confirmed probe hits. -/
theorem pass_status {entries : List (CheckpointProbe × ℕ)} {s : PassState} {k i : ℕ} :
    statusAt (entries.foldl (crossReference clock records) s).dir k i = some .done ↔
      statusAt s.dir k i = some .done ∨
        ∃ entry ∈ entries, isConfirmed records entry.1 = true ∧ Hits s.dir k i entry.1 := by
  induction entries generalizing s with
  | nil => simp
  | cons entry entries ih =>
    rw [List.foldl_cons, ih, crossReference_status]
    simp only [crossReference_hits, List.exists_mem_cons_iff, or_assoc]

end Passes

end BacklinkPublisher.Reconciler
