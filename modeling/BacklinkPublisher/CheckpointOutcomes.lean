import BacklinkPublisher.ProjectionHelpers
import BacklinkPublisher.PublishLoop

set_option autoImplicit false

/-!
# What a checkpoint says of its rows

The `update_item` calls of a publish run, in the order of its rows, and what a later
`--resume` selects.
-/
namespace BacklinkPublisher.CheckpointOutcomes
open ProjectionHelpers PublishErrors Checkpoints PublishSeams PublishLoop

/-- Status and fields of an `update_item` call. -/
abbrev ItemCall := ItemStatus × ItemFields

/-- A row without a call was not processed, or its call did not reach the file. -/
def record (ckpt : Checkpoint) (row : PublishRow) : Option ItemCall → Checkpoint
  | none => ckpt
  | some (status, fields) => ckpt.updateItem row.id status fields

def recordAll : Checkpoint → List (PublishRow × Option ItemCall) → Checkpoint
  | ckpt, [] => ckpt
  | ckpt, entry :: entries => recordAll (record ckpt entry.1 entry.2) entries

/-- The row at `i` is the only one with its id. -/
def Unshared (rows : List PublishRow) (i : ℕ) : Prop :=
  ∀ j row row', rows[i]? = some row → rows[j]? = some row' → row'.id = row.id → j = i

/-! ## Positions -/

theorem indexOfIds_eq (ids : List String) :
    indexOfIds ids = latest (fun entry : String × ℕ => some (entry.1, entry.2)) ids.zipIdx := rfl

theorem indexOfIds_some {ids : List String} {id : String} {i : ℕ} (h : indexOfIds ids id = some i) :
    ids[i]? = some id := by
  rw [indexOfIds_eq] at h
  obtain ⟨entry, hmem, hentry⟩ := latest_some h
  have same : entry = (id, i) := Option.some.inj hentry
  rw [same] at hmem
  exact List.mk_mem_zipIdx_iff_getElem?.1 hmem

theorem isSome_indexOfIds {ids : List String} {id : String} {i : ℕ} (h : ids[i]? = some id) :
    (indexOfIds ids id).isSome := by
  rw [indexOfIds_eq]
  exact isSome_latest (List.mk_mem_zipIdx_iff_getElem?.2 h) rfl

section Created
variable (runId startedAt : String) (rows : List PublishRow) (platform : Option String)
  (mode : String) (skipPublishTimeCheck : Bool)

abbrev created : Checkpoint :=
  createCheckpoint runId startedAt rows platform mode skipPublishTimeCheck

theorem created_position {id : String} {i : ℕ}
    (h : (created runId startedAt rows platform mode skipPublishTimeCheck).position id = some i) :
    ∃ row, rows[i]? = some row ∧ row.id = id := by
  unfold Checkpoint.position created createCheckpoint at h
  simp only [List.length_map] at h
  have scanned (h : (rows.map (createItem platform)).findIdx? (·.id = id) = some i) :
      ∃ row, rows[i]? = some row ∧ row.id = id := by
    obtain ⟨hlt, hid, -⟩ := List.findIdx?_eq_some_iff_getElem.1 h
    have hrow : i < rows.length := by simpa using hlt
    refine ⟨rows[i], List.getElem?_eq_getElem hrow, ?_⟩
    simpa [createItem] using hid
  cases hindex : indexOfIds (rows.map (·.id)) id with
  | none =>
    rw [hindex] at h
    exact scanned h
  | some j =>
    rw [hindex] at h
    simp only at h
    split_ifs at h with hlt
    · have hj : j = i := Option.some.inj h
      have hid := indexOfIds_some hindex
      rw [hj, List.getElem?_map] at hid
      exact Option.map_eq_some_iff.1 hid
    · exact scanned h

theorem created_position_unshared {i : ℕ} {row : PublishRow} (unshared : Unshared rows i)
    (hrow : rows[i]? = some row) :
    (created runId startedAt rows platform mode skipPublishTimeCheck).position row.id = some i := by
  have hid : (rows.map (·.id))[i]? = some row.id := by rw [List.getElem?_map, hrow]; rfl
  obtain ⟨j, hj⟩ := Option.isSome_iff_exists.1 (isSome_indexOfIds hid)
  have at_j := indexOfIds_some hj
  rw [List.getElem?_map] at at_j
  obtain ⟨row', hrow', hid'⟩ := Option.map_eq_some_iff.1 at_j
  have same : j = i := unshared j row row' hrow hrow' hid'
  have hlt : i < rows.length := (List.getElem?_eq_some_iff.1 hrow).1
  rw [same] at hj
  simp [Checkpoint.position, createCheckpoint, hj, hlt]

end Created

/-! ## Calls -/

section Recorded
variable {ckpt : Checkpoint} {i : ℕ}

theorem record_position (row : PublishRow) (call : Option ItemCall) (id : String) :
    (record ckpt row call).position id = ckpt.position id := by
  cases call with
  | none => rfl
  | some call => exact Checkpoint.position_updateItem ckpt row.id call.1 call.2 id

theorem record_other {row : PublishRow} {call : Option ItemCall}
    (other : ckpt.position row.id ≠ some i) :
    (record ckpt row call).items[i]? = ckpt.items[i]? := by
  cases call with
  | none => rfl
  | some call =>
    change (ckpt.updateItem row.id call.1 call.2).items[i]? = _
    unfold Checkpoint.updateItem
    cases hposition : ckpt.position row.id with
    | none => rfl
    | some j =>
      have hne : j ≠ i := by
        rintro rfl
        exact other hposition
      exact List.getElem?_modify_ne _ _ hne

/-- The `i`-th item changes only by calls whose id the checkpoint finds at `i`. -/
theorem recordAll_others {entries : List (PublishRow × Option ItemCall)}
    (others : ∀ entry ∈ entries, ckpt.position entry.1.id ≠ some i) :
    (recordAll ckpt entries).items[i]? = ckpt.items[i]? := by
  induction entries generalizing ckpt with
  | nil => rfl
  | cons entry entries ih =>
    change (recordAll (record ckpt entry.1 entry.2) entries).items[i]? = _
    rw [ih, record_other (others entry List.mem_cons_self)]
    intro other hother
    rw [record_position]
    exact others other (List.mem_cons_of_mem _ hother)

theorem recordAll_append (entries entries' : List (PublishRow × Option ItemCall)) :
    recordAll ckpt (entries ++ entries') = recordAll (recordAll ckpt entries) entries' := by
  induction entries generalizing ckpt with
  | nil => rfl
  | cons entry entries ih => exact ih

theorem recordAll_position (entries : List (PublishRow × Option ItemCall)) (id : String) :
    (recordAll ckpt entries).position id = ckpt.position id := by
  induction entries generalizing ckpt with
  | nil => rfl
  | cons entry entries ih =>
    change (recordAll (record ckpt entry.1 entry.2) entries).position id = _
    rw [ih, record_position]

end Recorded

/-- The item that a row's own call leaves. -/
def settle (item : CheckpointItem) : Option ItemCall → CheckpointItem
  | none => item
  | some (status, fields) => item.update status fields

theorem record_own {ckpt : Checkpoint} {row : PublishRow} {i : ℕ} (call : Option ItemCall)
    (own : ckpt.position row.id = some i) :
    (record ckpt row call).items[i]? = (ckpt.items[i]?).map (settle · call) := by
  cases call with
  | none => simp [record, settle]
  | some call =>
    change (ckpt.updateItem row.id call.1 call.2).items[i]? = _
    unfold Checkpoint.updateItem
    rw [own]
    exact List.getElem?_modify_eq _ _ _

/-- After all calls the item of a row that shares its id with no other is the one that the
row's own call leaves. -/
theorem recordAll_created (runId startedAt : String) (platform : Option String) (mode : String)
    (skipPublishTimeCheck : Bool) (entries : List (PublishRow × Option ItemCall)) {i : ℕ}
    {row : PublishRow} {call : Option ItemCall} (hentry : entries[i]? = some (row, call))
    (unshared : Unshared (entries.map Prod.fst) i) :
    (recordAll (created runId startedAt (entries.map Prod.fst) platform mode skipPublishTimeCheck)
      entries).items[i]? = some (settle (createItem platform row) call) := by
  set ckpt := created runId startedAt (entries.map Prod.fst) platform mode skipPublishTimeCheck
    with hckpt
  have hlt : i < entries.length := (List.getElem?_eq_some_iff.1 hentry).1
  have hrow : (entries.map Prod.fst)[i]? = some row := by rw [List.getElem?_map, hentry]; rfl
  have own : ckpt.position row.id = some i :=
    created_position_unshared runId startedAt _ platform mode skipPublishTimeCheck unshared hrow
  have elsewhere (j : ℕ) (entry : PublishRow × Option ItemCall) (hj : entries[j]? = some entry)
      (hne : j ≠ i) : ckpt.position entry.1.id ≠ some i := by
    intro found
    obtain ⟨row', hrow', hid⟩ :=
      created_position runId startedAt _ platform mode skipPublishTimeCheck found
    have same : row' = row := Option.some.inj (hrow'.symm.trans hrow)
    have hj' : (entries.map Prod.fst)[j]? = some entry.1 := by rw [List.getElem?_map, hj]; rfl
    exact hne (unshared j row entry.1 hrow hj' (by rw [← same, hid]))
  have before : ∀ entry ∈ entries.take i, ckpt.position entry.1.id ≠ some i := by
    intro entry hmem
    obtain ⟨j, hj, hget⟩ := List.mem_take_iff_getElem.1 hmem
    exact elsewhere j entry (List.getElem?_eq_some_iff.2 ⟨by omega, hget⟩) (by omega)
  have after : ∀ entry ∈ entries.drop (i + 1), ckpt.position entry.1.id ≠ some i := by
    intro entry hmem
    obtain ⟨j, hj, hget⟩ := List.mem_drop_iff_getElem.1 hmem
    exact elsewhere (i + 1 + j) entry (List.getElem?_eq_some_iff.2 ⟨by omega, hget⟩) (by omega)
  have split : entries = entries.take i ++ (row, call) :: entries.drop (i + 1) := by
    have hget : entries[i] = (row, call) := (List.getElem?_eq_some_iff.1 hentry).2
    rw [← hget, List.getElem_cons_drop, List.take_append_drop]
  have created_item : ckpt.items[i]? = some (createItem platform row) := by
    rw [hckpt]
    change ((entries.map Prod.fst).map (createItem platform))[i]? = _
    rw [List.getElem?_map, hrow]
    rfl
  calc
    (recordAll ckpt entries).items[i]? =
        (recordAll (record (recordAll ckpt (entries.take i)) row call)
          (entries.drop (i + 1))).items[i]? := by
      conv_lhs => rw [split, recordAll_append]
      rfl
    _ = (record (recordAll ckpt (entries.take i)) row call).items[i]? := by
      apply recordAll_others
      intro entry hmem
      rw [record_position, recordAll_position]
      exact after entry hmem
    _ = ((recordAll ckpt (entries.take i)).items[i]?).map (settle · call) := by
      apply record_own
      rw [recordAll_position, own]
    _ = some (settle (createItem platform row) call) := by
      rw [recordAll_others before, created_item]
      rfl

/-! ## The calls of the publish loop -/

/-- The `update_item` call of the `except` arms; a missing prerequisite makes none. -/
def armCall (config : SeamConfig) (exc : Raised) : Option ItemCall :=
  let failed (errorClass message : String) : Option ItemCall :=
    some (.failed, { error := some message, errorClass := some errorClass })
  if exc.isInstance .authExpiredError then failed "auth_expired" exc.message
  else if exc.isInstance .bannerUploadError then
    failed "banner_upload" ("banner upload failed: " ++ exc.message)
  else if exc.isInstance .contentRejectedError then
    failed "content_rejected" ("content rejected: " ++ exc.message)
  else if exc.isInstance .dependencyError then none
  else if exc.isInstance .externalServiceError then
    failed (classifyException config.isWord exc).value ("service error: " ++ exc.message)
  else failed "unexpected" ("unexpected error: " ++ exc.message)

def resultCall (options : PublishOptions) (answers : RowAnswers) (result : AdapterResult) :
    ItemCall :=
  match result.inBandError with
  | some error => (.failed, { error := some error, errorClass := some (inBandErrorClass result) })
  | none => (.done,
      { publishedUrl := some result.publishedUrl
        articleUrls := some ([result.publishedUrl, result.draftUrl].filter (· ≠ ""))
        adapter := some result.adapter
        completedAt := some answers.completedAt
        verified := some (doVerify options.noVerify options.dryRun result answers.verified) })

section Calls
variable (config : SeamConfig) (options : PublishOptions) (answers : RowAnswers)
  (forced : DedupStore.DedupKey → Bool) (state : PublishRunState) (stores : Stores)
  (row : PublishRow) (ts : String)

def rowCall : Option ItemCall :=
  match checkPublishPreconditions config options answers forced state stores row ts with
  | (_, _, some _) => none
  | (state, _, none) => state.runId.bind fun _ =>
    match answers.outcome with
    | .raised exc => armCall config exc
    | .returned result => some (resultCall options answers result)

@[simp] theorem config_record_checkpoint (platform : String) (runId : Option String)
    (outcome : DedupGate.Outcome) :
    (config.record answers stores row platform runId outcome).checkpoint = stores.checkpoint := by
  unfold SeamConfig.record
  split_ifs <;> rfl

theorem checkPublishPreconditions_checkpoint :
    (checkPublishPreconditions config options answers forced state stores row ts).2.1.checkpoint =
      stores.checkpoint := by
  unfold checkPublishPreconditions
  dsimp only
  generalize preflight options answers state row (platformOf options.platform row) ts = checked
  obtain ⟨state', sentinel⟩ := checked
  cases sentinel with
  | some sentinel => rfl
  | none =>
    dsimp only
    generalize gateWithForce config answers stores.table _ state'.runId forced = decided
    obtain ⟨table, verdict, record⟩ := decided
    cases verdict <;> rfl

theorem freshArms_checkpoint (platform : String) (exc : Raised) :
    (freshArms config answers state stores row platform ts exc).2.1.checkpoint =
      record stores.checkpoint row (state.runId.bind fun _ => armCall config exc) := by
  unfold freshArms armCall
  cases started : state.runId with
  | none =>
    dsimp only
    split_ifs <;> simp [recordPublishFailure, SeamConfig.recordFailure, tryUpdateCkptFailed,
      started, record]
  | some runId =>
    dsimp only
    split_ifs <;> simp [recordPublishFailure, SeamConfig.recordFailure, tryUpdateCkptFailed,
      started, record, Stores.updateItem]

theorem processPublishResult_checkpoint (rowIdx : ℕ) (platform : String) (result : AdapterResult) :
    (processPublishResult config options answers state stores rowIdx row platform ts
        result).2.checkpoint =
      record stores.checkpoint row
        (state.runId.bind fun _ => some (resultCall options answers result)) := by
  unfold processPublishResult resultCall
  cases result.inBandError <;> cases started : state.runId <;>
    simp [SeamConfig.recordFailure, SeamConfig.recordDone, tryUpdateCkptFailed, record,
      Stores.updateItem]

/-- A row changes the checkpoint by its one call. -/
theorem publishOneRow_checkpoint (rowIdx : ℕ) :
    (publishOneRow config options answers forced state stores rowIdx row ts).2.1.checkpoint =
      record stores.checkpoint row (rowCall config options answers forced state stores row ts) := by
  have kept := checkPublishPreconditions_checkpoint config options answers forced state stores row ts
  unfold publishOneRow rowCall
  generalize checkPublishPreconditions config options answers forced state stores row ts = checked
    at kept
  obtain ⟨state', stores', sentinel⟩ := checked
  cases sentinel with
  | some sentinel => exact kept
  | none =>
    have same : stores'.checkpoint = stores.checkpoint := kept
    dsimp only
    rw [← same]
    cases answers.outcome with
    | raised exc => exact freshArms_checkpoint config answers state' stores' row ts _ exc
    | returned result =>
      exact processPublishResult_checkpoint config options answers state' stores' row ts rowIdx _
        result

/-- A row is recorded as done exactly where the adapter returned a result without an error. -/
theorem rowCall_done_iff :
    (∃ fields, rowCall config options answers forced state stores row ts = some (.done, fields)) ↔
      ∃ state' stores' runId result,
        checkPublishPreconditions config options answers forced state stores row ts =
          (state', stores', none) ∧
        state'.runId = some runId ∧ answers.outcome = .returned result ∧
        result.inBandError = none := by
  unfold rowCall
  generalize checkPublishPreconditions config options answers forced state stores row ts = checked
  obtain ⟨state', stores', sentinel⟩ := checked
  cases sentinel with
  | some sentinel => simp
  | none =>
    cases started : state'.runId with
    | none => simp [started]
    | some runId =>
      cases houtcome : answers.outcome with
      | raised exc =>
        have unsettled (fields : ItemFields) : armCall config exc ≠ some (.done, fields) := by
          unfold armCall
          dsimp only
          split_ifs <;> simp
        simp [started, unsettled]
      | returned result =>
        cases inBand : result.inBandError with
        | none => simp [started, resultCall, inBand]
        | some error => simp [started, resultCall, inBand]

/-- The calls of the loop, row by row; the rows after one that ends the run make none. -/
def loopCalls : ℕ → List LoopRow → PublishRunState → Stores → List (PublishRow × Option ItemCall)
  | _, [], _, _ => []
  | rowIdx, entry :: rows, state, stores =>
    let call := rowCall config options entry.answers forced state stores entry.row ts
    let (state, stores, result) :=
      publishOneRow config options entry.answers forced state stores rowIdx entry.row ts
    (entry.row, call) ::
      if aborts result then rows.map fun entry => (entry.row, none)
      else loopCalls (rowIdx + 1) rows state stores

theorem recordAll_idle (ckpt : Checkpoint) (rows : List LoopRow) :
    recordAll ckpt (rows.map fun entry => (entry.row, none)) = ckpt := by
  induction rows with
  | nil => rfl
  | cons entry rows ih => exact ih

theorem loopCalls_rows (rows : List LoopRow) (rowIdx : ℕ) :
    (loopCalls config options forced ts rowIdx rows state stores).map Prod.fst =
      rows.map LoopRow.row := by
  induction rows generalizing rowIdx state stores with
  | nil => rfl
  | cons entry rows ih =>
    unfold loopCalls
    dsimp only
    rw [List.map_cons, List.map_cons]
    congr 1
    split_ifs
    · rw [List.map_map]
      rfl
    · exact ih _ _ _

/-- The checkpoint that the loop leaves is the one that its calls leave. -/
theorem runPublishLoop_checkpoint (rows : List LoopRow) (rowIdx : ℕ) :
    (runPublishLoop config options forced ts rowIdx rows state stores).stores.checkpoint =
      recordAll stores.checkpoint (loopCalls config options forced ts rowIdx rows state stores) := by
  induction rows generalizing rowIdx state stores with
  | nil => rfl
  | cons entry rows ih =>
    have row := publishOneRow_checkpoint config options entry.answers forced state stores entry.row
      ts rowIdx
    unfold runPublishLoop loopCalls recordAll
    dsimp only
    rw [← row]
    generalize publishOneRow config options entry.answers forced state stores rowIdx entry.row ts =
      done
    obtain ⟨state', stores', result⟩ := done
    cases result with
    | none => exact ih _ _ _
    | some action =>
      cases action with
      | rowContinue => exact ih _ _ _
      | authAbort => exact (recordAll_idle _ rows).symm
      | depAbort => exact (recordAll_idle _ rows).symm
      | conflictAbort => exact (recordAll_idle _ rows).symm

end Calls

/-! ## What a resume selects -/

/-- The classes of failure that a resume does not try again. -/
def leftOut : List (Option String) :=
  [some retroLanguageFailed, some retroAnchorFailed, some policySkip]

theorem mem_selectResumeItems {ckpt : Checkpoint} {item : CheckpointItem} (hmem : item ∈ ckpt.items) :
    item ∈ selectResumeItems ckpt ↔ item.status ≠ .done ∧ item.errorClass ∉ leftOut := by
  unfold selectResumeItems leftOut
  rw [List.mem_filter]
  cases hstatus : item.status <;> simp [hmem]

/-- Of a row that shares its id with no other, the item is done exactly where its own call
says so, and a resume selects it unless it is done or was refused for good. -/
theorem own_outcome_carried (runId startedAt : String) (platform : Option String) (mode : String)
    (skipPublishTimeCheck : Bool) (entries : List (PublishRow × Option ItemCall)) (i : ℕ)
    (row : PublishRow) (call : Option ItemCall) (hentry : entries[i]? = some (row, call))
    (unshared : Unshared (entries.map Prod.fst) i) :
    let ckpt := recordAll
      (createCheckpoint runId startedAt (entries.map Prod.fst) platform mode skipPublishTimeCheck)
      entries
    ∃ item, ckpt.items[i]? = some item ∧
      (item.status = .done ↔ ∃ fields, call = some (.done, fields)) ∧
      (item ∈ selectResumeItems ckpt ↔ (¬ ∃ fields, call = some (.done, fields)) ∧
        ∀ status fields, call = some (status, fields) → fields.errorClass ∉ leftOut) := by
  intro ckpt
  have settled : ckpt.items[i]? = some (settle (createItem platform row) call) :=
    recordAll_created runId startedAt platform mode skipPublishTimeCheck entries hentry unshared
  have hmem : settle (createItem platform row) call ∈ ckpt.items := List.mem_of_getElem? settled
  refine ⟨settle (createItem platform row) call, settled, ?_, ?_⟩
  · cases call with
    | none => simp [settle, createItem]
    | some call =>
      obtain ⟨status, fields⟩ := call
      simp [settle, CheckpointItem.update]
  · rw [mem_selectResumeItems hmem]
    cases call with
    | none => simp [settle, createItem, leftOut]
    | some call =>
      obtain ⟨status, fields⟩ := call
      simp [settle, CheckpointItem.update]

/-! ## Runs of the loop -/

def plainEntries (rows : List LoopRow) : List (PublishRow × Option ItemCall) :=
  loopCalls plainConfig {} (fun _ => false) "2026-01-01T00:00:00+00:00" 0 rows
    { runId := some "20260101T000000-0123abcd" } (plainStores (rows.map LoopRow.row))

def plainCheckpoint (entries : List (PublishRow × Option ItemCall)) : Checkpoint :=
  recordAll (createCheckpoint "20260101T000000-0123abcd" "2026-01-01T00:00:00+00:00"
    (entries.map Prod.fst) none "draft" false) entries

theorem own_outcome_carried_published :
    ∃ call, (plainEntries mixedRows)[0]? = some (plainRow "a", call) ∧
      ∃ item, (plainCheckpoint (plainEntries mixedRows)).items[0]? = some item ∧
        (item.status = .done ↔ ∃ fields, call = some (.done, fields)) ∧
        (item ∈ selectResumeItems (plainCheckpoint (plainEntries mixedRows)) ↔
          (¬ ∃ fields, call = some (.done, fields)) ∧
          ∀ status fields, call = some (status, fields) → fields.errorClass ∉ leftOut) := by
  have unshared : Unshared ((plainEntries mixedRows).map Prod.fst) 0 := by
    intro j row row' hrow hrow' same
    have ids : (plainEntries mixedRows).map Prod.fst =
      [plainRow "a", plainRow "b", plainRow "c"] := by decide
    rw [ids] at hrow hrow'
    have hfirst : plainRow "a" = row := Option.some.inj hrow
    match j with
    | 0 => rfl
    | 1 | 2 =>
      have hother := Option.some.inj hrow'
      rw [← hfirst, ← hother] at same
      exact absurd same (by decide)
    | j + 3 => simp at hrow'
  exact ⟨_, rfl, own_outcome_carried "20260101T000000-0123abcd" "2026-01-01T00:00:00+00:00" none
    "draft" false (plainEntries mixedRows) 0 (plainRow "a") _ rfl unshared⟩

/-- Every item carries the outcome of its row, and a resume selects what was not published. -/
def OutcomesCarried (entries : List (PublishRow × Option ItemCall)) : Prop :=
  ∀ (i : Nat) (row : PublishRow) (call : Option ItemCall), entries[i]? = some (row, call) →
    ∃ item, (plainCheckpoint entries).items[i]? = some item ∧
      (item.status = .done ↔ ∃ fields, call = some (.done, fields)) ∧
      (item ∈ selectResumeItems (plainCheckpoint entries) ↔ ¬ ∃ fields, call = some (.done, fields))

/-- Two rows with one id, the first published and the second quarantined. -/
def sharedRows : List LoopRow :=
  [⟨plainRow "a", plainAnswers publishedOutcome⟩,
    ⟨plainRow "a", { plainAnswers publishedOutcome with canarySkip := true }⟩]

/-- A row that the reliability policy refuses. -/
def refusedRows : List LoopRow :=
  [⟨plainRow "a", plainAnswers
    (.returned ⟨"skipped_policy", "policy", "velog", "", "", some "channel not bound", 0⟩)⟩]

theorem outcomes_lost : ¬ OutcomesCarried (plainEntries sharedRows) ∧
    ¬ OutcomesCarried (plainEntries refusedRows) := by
  constructor
  · intro carried
    obtain ⟨item, hitem, done, -⟩ := carried 0 (plainRow "a") _ rfl
    have stale : (plainCheckpoint (plainEntries sharedRows)).items[0]?.map (·.status) =
      some .pending := by decide
    rw [hitem] at stale
    have pending : item.status = .pending := Option.some.inj stale
    have settled := done.2 ⟨_, rfl⟩
    rw [pending] at settled
    cases settled
  · intro carried
    obtain ⟨item, hitem, -, selected⟩ := carried 0 (plainRow "a") _ rfl
    have unselected : selectResumeItems (plainCheckpoint (plainEntries refusedRows)) = [] := by decide
    have recorded : ((plainEntries refusedRows)[0]?.map fun entry => entry.2.map Prod.fst) =
      some (some .failed) := by decide
    rw [unselected] at selected
    have absent : ¬ item ∈ ([] : List CheckpointItem) := List.not_mem_nil
    refine absent (selected.2 ?_)
    rintro ⟨fields, done⟩
    rw [show (plainEntries refusedRows)[0]? = some (plainRow "a", some (.done, fields)) from
      congrArg (fun call => some (plainRow "a", call)) done] at recorded
    cases recorded

end BacklinkPublisher.CheckpointOutcomes
