import BacklinkPublisher.ReconcilerPasses

set_option autoImplicit false

/-!
# The age of a gap

The reconciler reads the age of an open item from `completed_at` or `created_at`. No
item is written with the second, and every update to `failed` resets the first, so an
open item has no age: a pass leaves no gap behind, however late it comes.
-/
namespace BacklinkPublisher.ReconcilerAging
open Checkpoints DedupStore TransitionSystems Reconciler ReconcilerPasses

/-! ## The checkpoints that the code writes -/

/-- The `update_item` calls of the publish, resume and reconciler code. -/
inductive ItemUpdate where
  /-- `_try_update_ckpt_failed`, `_record_resume_failure`, the arms for an expired
  session and for an error in the result, and the second validation of a resume. -/
  | failed (error errorClass : String)
  /-- `_process_publish_result`; a resume gives no `article_urls`. -/
  | published (publishedUrl adapter completedAt : String) (articleUrls : Option (List String))
      (verified : Bool)
  /-- The dedup skip of a resume. -/
  | skipped (liveUrl : Option String) (platform completedAt : String)
  /-- `_auto_fix_checkpoint`. -/
  | settled

def ItemUpdate.status : ItemUpdate → ItemStatus
  | .failed .. => .failed
  | .published .. | .skipped .. | .settled => .done

def ItemUpdate.fields : ItemUpdate → ItemFields
  | .failed error errorClass => { error := some error, errorClass := some errorClass }
  | .published publishedUrl adapter completedAt articleUrls verified =>
    { publishedUrl := some publishedUrl
      articleUrls := articleUrls
      adapter := some adapter
      completedAt := some completedAt
      verified := some verified }
  | .skipped liveUrl platform completedAt =>
    { publishedUrl := liveUrl
      adapter := some platform
      completedAt := some completedAt
      verified := some true }
  | .settled => {}

/-- A checkpoint of `create_checkpoint` that only these calls have changed. -/
inductive Maintained : Checkpoint → Prop where
  | created (runId startedAt : String) (rows : List PublishRow) (platform : Option String)
      (mode : String) (skipPublishTimeCheck : Bool) :
      Maintained (createCheckpoint runId startedAt rows platform mode skipPublishTimeCheck)
  | updated {ckpt : Checkpoint} (h : Maintained ckpt) (itemId : String) (update : ItemUpdate) :
      Maintained (ckpt.updateItem itemId update.status update.fields)

/-- Whatever else happens between passes, the checkpoints are the code's own. -/
def Written (_ : World) : Activity → Prop
  | .work dir _ => ∀ file ∈ dir, Maintained file.checkpoint
  | _ => True

/-- Nothing that an age could be read from. -/
def Undated (item : CheckpointItem) : Prop :=
  item.createdAt = none ∧ (isOpen item = true → item.completedAt = none)

theorem update_undated {item : CheckpointItem} (h : Undated item) (update : ItemUpdate) :
    Undated (item.update update.status update.fields) := by
  refine ⟨h.1, fun hopen => ?_⟩
  cases update with
  | failed error errorClass => rfl
  | published publishedUrl adapter completedAt articleUrls verified =>
    simp [isOpen, CheckpointItem.update, ItemUpdate.status] at hopen
  | skipped liveUrl platform completedAt =>
    simp [isOpen, CheckpointItem.update, ItemUpdate.status] at hopen
  | settled => rfl

theorem updateItem_mem {ckpt : Checkpoint} {itemId : String} {status : ItemStatus}
    {fields : ItemFields} {item : CheckpointItem}
    (h : item ∈ (ckpt.updateItem itemId status fields).items) :
    item ∈ ckpt.items ∨ ∃ old ∈ ckpt.items, item = old.update status fields := by
  unfold Checkpoint.updateItem at h
  split at h
  · rename_i index hindex
    obtain ⟨i, hi⟩ := List.mem_iff_getElem?.1 h
    rw [List.getElem?_modify] at hi
    obtain ⟨old, hold, rfl⟩ := Option.map_eq_some_iff.1 hi
    have hmem : old ∈ ckpt.items := List.mem_of_getElem? hold
    by_cases hsame : index = i
    · rw [if_pos hsame]
      exact .inr ⟨old, hmem, rfl⟩
    · rw [if_neg hsame]
      exact .inl hmem
  · exact .inl h

theorem Maintained.undated {ckpt : Checkpoint} (h : Maintained ckpt) :
    ∀ item ∈ ckpt.items, Undated item := by
  induction h with
  | created runId startedAt rows platform mode skipPublishTimeCheck =>
    intro item hitem
    obtain ⟨row, -, rfl⟩ := List.mem_map.1 hitem
    exact ⟨rfl, fun _ => rfl⟩
  | updated _ itemId update ih =>
    intro item hitem
    rcases updateItem_mem hitem with hold | ⟨old, hold, rfl⟩
    · exact ih item hold
    · exact update_undated (ih old hold) update

/-! ## What a pass writes -/

section Passes
variable {canonicalizeUrl : String → Option String} {clock : PassClock}
  {records : List (DedupKey × DedupRecord)} {w : World}

theorem settleItem_maintained {dir : List RunFile} {runId itemId : String} {writtenAt : ℚ}
    (h : ∀ file ∈ dir, Maintained file.checkpoint) :
    ∀ file ∈ settleItem dir runId itemId writtenAt, Maintained file.checkpoint := by
  intro file hfile
  obtain ⟨old, hold, rfl⟩ := List.mem_map.1 hfile
  split
  · exact .updated (h old hold) itemId .settled
  · exact h old hold

theorem crossReference_maintained {s : PassState} (entry : CheckpointProbe × ℕ)
    (h : ∀ file ∈ s.dir, Maintained file.checkpoint) :
    ∀ file ∈ (crossReference clock records s entry).dir, Maintained file.checkpoint := by
  unfold crossReference
  split
  · exact settleItem_maintained h
  · unfold quarantineIfStale
    split
    · exact h
    · exact h

theorem crossReferences_maintained {entries : List (CheckpointProbe × ℕ)} {s : PassState}
    (h : ∀ file ∈ s.dir, Maintained file.checkpoint) :
    ∀ file ∈ (entries.foldl (crossReference clock records) s).dir, Maintained file.checkpoint := by
  induction entries generalizing s with
  | nil => exact h
  | cons entry entries ih => exact ih (crossReference_maintained entry h)

theorem step_maintained {w w' : World} {activity : Activity}
    (h : ∀ file ∈ w.dir, Maintained file.checkpoint) (written : Written w activity)
    (hstep : step canonicalizeUrl w activity = some w') :
    ∀ file ∈ w'.dir, Maintained file.checkpoint := by
  cases activity with
  | reconcile clock =>
    obtain rfl := Option.some.inj hstep
    exact crossReferences_maintained h
  | park source =>
    obtain rfl := Option.some.inj hstep
    exact h
  | release source =>
    obtain rfl := Option.some.inj hstep
    exact h
  | record source hash =>
    obtain rfl := Option.some.inj hstep
    exact h
  | work dir table =>
    obtain rfl := Option.some.inj hstep
    exact written

/-- Every checkpoint of every run is one that the code wrote. -/
theorem reaches_maintained {table : DedupTable}
    (h : Reaches (step canonicalizeUrl) Written (World.start [] table) w) :
    ∀ file ∈ w.dir, Maintained file.checkpoint :=
  h.invariant (I := fun w => ∀ file ∈ w.dir, Maintained file.checkpoint)
    (fun _ hfile => absurd hfile List.not_mem_nil)
    fun _ _ _ maintained written hstep => step_maintained maintained written hstep

theorem mem_listAllRuns {dir : List RunFile} {file : RunFile} (h : file ∈ listAllRuns dir) :
    file ∈ dir := by
  unfold listAllRuns at h
  rw [List.mem_insertionSort] at h
  exact (List.mem_insertionSort _).1 (List.mem_of_mem_take h)

theorem pendingProbes_undated (h : ∀ file ∈ w.dir, Maintained file.checkpoint)
    {probe : CheckpointProbe} (hprobe : probe ∈ pendingProbes canonicalizeUrl w) :
    probe.createdAt = none := by
  obtain ⟨resolution, hresolution, hsome⟩ := List.mem_filterMap.1 hprobe
  obtain ⟨⟨runId, item⟩, hentry, rfl⟩ := List.mem_map.1 hresolution
  obtain ⟨file, hfile, hitem⟩ := List.mem_flatMap.1 hentry
  obtain ⟨own, hown, heq⟩ := List.mem_map.1 hitem
  obtain ⟨rfl, rfl⟩ := Prod.mk.inj heq
  obtain ⟨hmem, hopen⟩ := List.mem_filter.1 hown
  obtain ⟨canon, key, -, -, -, -, rfl⟩ := resolveCheckpointProbe_probe.1 hsome
  obtain ⟨uncreated, uncompleted⟩ := (h file (mem_listAllRuns hfile)).undated own hmem
  rw [probeOf, uncreated, uncompleted hopen]
  rfl

theorem isStaleGap_undated {probe : CheckpointProbe} (h : probe.createdAt = none) (n : ℕ) :
    isStaleGap clock probe n = false := by
  rw [isStaleGap, h]
  change decide ((86400 : ℚ) ≤ 0) = false
  decide +kernel

theorem crossReference_log {s : PassState} {entry : CheckpointProbe × ℕ}
    (h : entry.1.createdAt = none) {row : QuarantineRow}
    (hrow : row ∈ (crossReference clock records s entry).log) : row ∈ s.log := by
  unfold crossReference at hrow
  split at hrow
  · exact (List.mem_filter.1 hrow).1
  · rw [quarantineIfStale, isStaleGap_undated h] at hrow
    exact hrow

theorem crossReferences_log {entries : List (CheckpointProbe × ℕ)} {s : PassState}
    (h : ∀ entry ∈ entries, entry.1.createdAt = none) {row : QuarantineRow}
    (hrow : row ∈ (entries.foldl (crossReference clock records) s).log) : row ∈ s.log := by
  induction entries generalizing s with
  | nil => exact hrow
  | cons entry entries ih =>
    have later := ih (fun other hother => h other (List.mem_cons_of_mem _ hother)) hrow
    exact crossReference_log (h entry List.mem_cons_self) later

/-- A pass writes no row to the quarantine log. -/
theorem pass_adds_no_row (h : ∀ file ∈ w.dir, Maintained file.checkpoint) {row : QuarantineRow}
    (hrow : row ∈ (reconcileCheckpoints canonicalizeUrl clock w).log) : row ∈ w.log :=
  crossReferences_log
    (fun _ hentry => pendingProbes_undated h (mem_of_mem_zipIdx hentry)) hrow

end Passes

/-! ## What is expected of a pass -/

/-- An open item with a usable key that is not done, and no row for its URL. -/
structure Gap (canonicalizeUrl : String → Option String) (w : World) (file : RunFile)
    (item : CheckpointItem) (canon : String) (key : DedupKey) : Prop where
  hfile : file ∈ w.dir
  hitem : item ∈ file.checkpoint.items
  hopen : isOpen item = true
  platform : item.platform ≠ ""
  canonical : canonicalUrl canonicalizeUrl item = some canon
  hkey : DedupKey.make canonicalizeUrl item.platform canon "default" = some key
  undone : ¬ Done w.table key
  unquarantined : ¬ Quarantined w.log canon

/-- Each reading of the clock is at least 24 hours after the run's `started_at`. -/
def Aged (clock : PassClock) (file : RunFile) : Prop :=
  ∀ n, staleGapThreshold ≤ clock.age n file.checkpoint.startedAt

def Recent (clock : PassClock) (file : RunFile) : Prop :=
  ∀ n, clock.age n file.checkpoint.startedAt < staleGapThreshold

def InQuarantine (log : List QuarantineRow) (file : RunFile) (item : CheckpointItem)
    (canon : String) : Prop :=
  ∃ row ∈ log, row.runId = some file.checkpoint.runId ∧ row.rowId = some item.id ∧
    row.dedupKey = some canon

/-- The pass puts an aged gap in the quarantine log, and a recent one not. -/
def AgesOut (canonicalizeUrl : String → Option String) (clock : PassClock) (w : World)
    (file : RunFile) (item : CheckpointItem) (canon : String) : Prop :=
  (Aged clock file →
      InQuarantine (reconcileCheckpoints canonicalizeUrl clock w).log file item canon) ∧
    (Recent clock file →
      ¬ InQuarantine (reconcileCheckpoints canonicalizeUrl clock w).log file item canon)

theorem gap_not_quarantined {canonicalizeUrl : String → Option String} (clock : PassClock)
    {w : World} {file : RunFile} {item : CheckpointItem} {canon : String} {key : DedupKey}
    (h : ∀ file ∈ w.dir, Maintained file.checkpoint)
    (gap : Gap canonicalizeUrl w file item canon key) :
    ¬ InQuarantine (reconcileCheckpoints canonicalizeUrl clock w).log file item canon := by
  rintro ⟨row, hrow, -, -, hkey⟩
  exact gap.unquarantined ⟨row, pass_adds_no_row h hrow, hkey⟩

/-- From any state of any run, a pass treats a gap as expected exactly where it is not
yet the time to quarantine it. -/
theorem gap_ages_out_iff (canonicalizeUrl : String → Option String) (table : DedupTable)
    (w : World) (run : Reaches (step canonicalizeUrl) Written (World.start [] table) w)
    (clock : PassClock) (file : RunFile) (item : CheckpointItem) (canon : String) (key : DedupKey)
    (gap : Gap canonicalizeUrl w file item canon key) :
    AgesOut canonicalizeUrl clock w file item canon ↔ ¬ Aged clock file := by
  have left := gap_not_quarantined clock (reaches_maintained run) gap
  constructor
  · intro agesOut aged
    exact left (agesOut.1 aged)
  · intro early
    exact ⟨fun aged => absurd aged early, fun _ => left⟩

/-! ## A gap of more than a day -/

def timeout : ItemUpdate := .failed "timeout" "transient"

def pageRow : PublishRow := { id := "a", platform := some "medium", targetUrl := some pageUrl }

def pageRun : Checkpoint :=
  createCheckpoint "20260101T000000-0123abcd" "2026-01-01T00:00:00+00:00" [pageRow] none "draft"
    false

/-- A run whose only item failed. -/
def failedOnce : RunFile where
  checkpoint := pageRun.updateItem "a" timeout.status timeout.fields
  mtime := 0

def noRecord : DedupTable := fun _ => none

def afterFailure : World := World.start [failedOnce] noRecord

def failedPage : CheckpointItem :=
  (createItem none pageRow).update timeout.status timeout.fields

theorem afterFailure_reached :
    Reaches (step some) Written (World.start [] noRecord) afterFailure := by
  refine .single ⟨.work [failedOnce] noRecord, ?_, rfl⟩
  intro file hfile
  obtain rfl := List.mem_singleton.1 hfile
  have created : Maintained pageRun := .created _ _ _ _ _ _
  exact created.updated "a" timeout

theorem afterFailure_gap :
    Gap some afterFailure failedOnce failedPage pageUrl ⟨"medium", pageUrl, "default"⟩ where
  hfile := List.mem_singleton_self _
  hitem := by decide
  hopen := rfl
  platform := by decide
  canonical := rfl
  hkey := rfl
  undone := fun ⟨_, hrecord, _⟩ => Option.some_ne_none _ hrecord.symm
  unquarantined := fun ⟨_, hrow, _⟩ => List.not_mem_nil hrow

theorem gap_ages_out_iff_late :
    AgesOut some lateClock afterFailure failedOnce failedPage pageUrl ↔
      ¬ Aged lateClock failedOnce :=
  gap_ages_out_iff some noRecord afterFailure afterFailure_reached lateClock _ _ _ _
    afterFailure_gap

/-- More than a day after the run a pass leaves the log empty. -/
theorem aged_gap_not_quarantined :
    Reaches (step some) Written (World.start [] noRecord) afterFailure ∧
      Gap some afterFailure failedOnce failedPage pageUrl ⟨"medium", pageUrl, "default"⟩ ∧
      Aged lateClock failedOnce ∧
      (reconcileCheckpoints some lateClock afterFailure).log = [] ∧
      ¬ AgesOut some lateClock afterFailure failedOnce failedPage pageUrl := by
  have aged : Aged lateClock failedOnce := fun _ => by
    change (86400 : ℚ) ≤ 100000
    decide +kernel
  have left := gap_not_quarantined lateClock (reaches_maintained afterFailure_reached)
    afterFailure_gap
  refine ⟨afterFailure_reached, afterFailure_gap, aged, ?_, fun agesOut => left (agesOut.1 aged)⟩
  exact List.eq_nil_iff_forall_not_mem.2 fun row hrow =>
    List.not_mem_nil (pass_adds_no_row (reaches_maintained afterFailure_reached) hrow)

end BacklinkPublisher.ReconcilerAging
