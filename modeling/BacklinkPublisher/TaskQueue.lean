import BacklinkPublisher.OptionFolds
import BacklinkPublisher.OrderedDicts
import Mathlib.Algebra.Order.Ring.Rat
import Mathlib.Tactic.Common

set_option autoImplicit false

/-!
# The task queue

The SQL statements of `webui_store/queue_store.py` on the rows of `tasks`, and what each call of
`QueueSqliteStore` does to them when it runs alone. A task is a JSON object.
-/
namespace BacklinkPublisher.TaskQueue
open OptionFolds OrderedDicts

/-- A JSON value; a list or an object is its text. -/
inductive Value where
  | null
  | bool (b : Bool)
  | int (i : ℤ)
  | text (s : String)
  | compound (json : String)
  deriving DecidableEq, Repr

structure Task where
  entries : List (String × Value)
  nodup : (entries.map Prod.fst).Nodup
  deriving DecidableEq

def Task.get (task : Task) (key : String) : Option Value :=
  (lookup Prod.fst key task.entries).map Prod.snd

def Task.put (task : Task) (key : String) (value : Value) : Task where
  entries := adjust Prod.fst key (fun entry => (entry.1, value))
    (ensure Prod.fst (key, value) task.entries)
  nodup := by
    rw [keys_adjust (f := fun entry => (entry.1, value)) fun _ => rfl]
    exact nodup_keys_ensure task.nodup

/-- `dict.update`, and what `json_set` does with the pairs that it is given. -/
def Task.update (task updates : Task) : Task :=
  updates.entries.foldl (fun task entry => task.put entry.1 entry.2) task

/-- A bound value in a `TEXT` column, `none` for `NULL`; `sqlite3` binds no list and no dict. -/
def Value.column : Value → Option (Option String)
  | .null => some none
  | .bool b => some (some (if b then "1" else "0"))
  | .int i => some (some (toString i))
  | .text s => some (some s)
  | .compound _ => none

/-- A bound value in the JSON of `json_set`. -/
def Value.stored : Value → Value
  | .bool b => .int (if b then 1 else 0)
  | value => value

def Value.truthy : Value → Bool
  | .null => false
  | .bool b => b
  | .int i => decide (i ≠ 0)
  | .text s => decide (s ≠ "")
  | .compound json => decide (json ≠ "[]" ∧ json ≠ "{}")

def Task.column (task : Task) (key : String) : Option (Option String) :=
  ((task.get key).getD .null).column

def Task.stored (task : Task) : Task where
  entries := task.entries.map fun entry => (entry.1, entry.2.stored)
  nodup := by
    rw [List.map_map]
    exact task.nodup

structure Row where
  id : Option String
  status : String
  nextRetryAt : Option String
  data : Task
  deriving DecidableEq

/-- `status` and `next_retry_at`; `status` is `NOT NULL`. -/
def Task.columns (task : Task) : Option (String × Option String) :=
  match task.column "status", task.column "next_retry_at" with
  | some (some status), some nextRetryAt => some (status, nextRetryAt)
  | _, _ => none

/-! ## Statements -/

def loadTasks (rows : List Row) : List Task := rows.map Row.data

def Task.row (task : Task) : Option Row :=
  match task.column "id", task.columns with
  | some id, some (status, nextRetryAt) => some ⟨id, status, nextRetryAt, task⟩
  | _, _ => none

/-- The transaction of `save`, `none` where it is rolled back. -/
def saveTasks (tasks : List Task) : Option (List Row) :=
  (tasks.mapM Task.row).filter fun rows => (rows.filterMap Row.id).Nodup

def selectTask (taskId : String) (rows : List Row) : Option Row :=
  rows.find? fun row => row.id = some taskId

/-- The `UPDATE` of `update_task`. -/
def writeTask (taskId : String) (task : Task) (rows : List Row) : Option (List Row) :=
  task.columns.map fun (status, nextRetryAt) => rows.map fun row =>
    if row.id = some taskId then
      { row with status := status, nextRetryAt := nextRetryAt, data := task }
    else row

/-- `[A-Za-z_][A-Za-z0-9_]*` -/
def isIdentifier (key : String) : Bool :=
  match key.toList with
  | [] => false
  | first :: rest => (first.isAlpha || first = '_') && rest.all fun c => c.isAlphanum || c = '_'

/-- The updates are not empty, their keys are identifiers and their values can be bound. -/
def acceptable (updates : Task) : Bool :=
  decide (updates.entries ≠ []) &&
    updates.entries.all fun entry => isIdentifier entry.1 && entry.2.column.isSome

def Row.merge (row : Row) (updates : Task) : Row where
  id := row.id
  status := match updates.get "status" with
    | none => row.status
    | some value => value.column.join.getD row.status
  nextRetryAt := match updates.get "next_retry_at" with
    | none => row.nextRetryAt
    | some value => value.column.join
  data := row.data.update updates.stored

def guarded (taskId forbiddenStatus : String) (row : Row) : Bool :=
  decide (row.id = some taskId ∧ row.status ≠ forbiddenStatus)

/-- What the `UPDATE` of `update_task_if_status` answers. -/
inductive Guarded where
  | raised
  | unmatched
  | changed (rows : List Row)

def guardedUpdate (taskId : String) (updates : Task) (forbiddenStatus : String) (rows : List Row) :
    Guarded :=
  if acceptable updates = false then .raised
  else if rows.any (guarded taskId forbiddenStatus) then
    -- `status` is `NOT NULL`
    if updates.get "status" = some .null then .raised
    else .changed (rows.map fun row =>
      if guarded taskId forbiddenStatus row then row.merge updates else row)
  else .unmatched

section Calls
-- `datetime.fromisoformat`, `none` where it raises
variable (fromisoformat : String → Option ℚ)

/-- `none` where the comparison raises. -/
def due (now : ℚ) (task : Task) : Option Bool :=
  match task.get "next_retry_at" with
  | none => some true
  | some value =>
    if value.truthy then
      match value with
      | .text s => (fromisoformat s).map fun time => decide (time ≤ now)
      | _ => none
    else some true

def runnable (now : ℚ) (rows : List Row) : Option (List Task) :=
  (loadTasks (rows.filter fun row => row.status = "pending" ∨ row.status = "failed")).filterM
    (due fromisoformat now)

/-! ## Calls -/

inductive TaskUpdateOutcome where
  | updated
  | notFound
  | rejected
  deriving DecidableEq, Repr

inductive Call where
  | updateTask (taskId : String) (updates : Task)
  | update (fn : List Task → List Task)
  | updateTaskIfStatus (taskId : String) (updates : Task) (forbiddenStatus : String)
  | getRunnable (now : ℚ)

inductive Result where
  | done
  | tasks (tasks : List Task)
  | outcome (outcome : TaskUpdateOutcome)
  | raised
  deriving DecidableEq

/-- A call that nothing interrupts. -/
def perform : Call → List Row → List Row × Result
  | .updateTask taskId updates, rows =>
    match selectTask taskId rows with
    | none => (rows, .done)
    | some row =>
      match writeTask taskId (row.data.update updates) rows with
      | none => (rows, .raised)
      | some rows' => (rows', .done)
  | .update fn, rows =>
    let value := fn (loadTasks rows)
    match saveTasks value with
    | none => (rows, .raised)
    | some rows' => (rows', .tasks value)
  | .updateTaskIfStatus taskId updates forbiddenStatus, rows =>
    match guardedUpdate taskId updates forbiddenStatus rows with
    | .raised => (rows, .raised)
    | .changed rows' => (rows', .outcome .updated)
    | .unmatched =>
      (rows, .outcome (if (selectTask taskId rows).isNone then .notFound else .rejected))
  | .getRunnable now, rows =>
    match runnable fromisoformat now rows with
    | none => (rows, .raised)
    | some tasks => (rows, .tasks tasks)

end Calls

/-! ## Fields -/

section Fields
variable (task updates : Task) (key other : String) (value : Value)

theorem get_put : (task.put key value).get other =
    if other = key then some value else task.get other := by
  unfold Task.get Task.put
  rw [lookup_adjust (f := fun entry => (entry.1, value)) fun _ => rfl, lookup_ensure]
  by_cases same : other = key
  · subst same
    cases found : lookup Prod.fst other task.entries with
    | none => simp
    | some entry => simp
  · simp [same]

theorem get_update : (task.update updates).get key = (updates.get key).or (task.get key) := by
  have fold (entries : List (String × Value)) (nodup : (entries.map Prod.fst).Nodup)
      (task : Task) : (entries.foldl (fun task entry => task.put entry.1 entry.2) task).get key =
        ((lookup Prod.fst key entries).map Prod.snd).or (task.get key) := by
    induction entries generalizing task with
    | nil => rfl
    | cons entry entries ih =>
      rw [List.map_cons, List.nodup_cons] at nodup
      rw [List.foldl_cons, ih nodup.2, get_put]
      unfold lookup
      rw [List.find?_cons]
      by_cases same : key = entry.1
      · have absent : entries.find? (fun value => decide (value.1 = key)) = none := by
          rw [same]
          exact lookup_eq_none nodup.1
        rw [absent]
        simp [same]
      · have different : entry.1 ≠ key := fun h => same h.symm
        simp [same, different]
  exact fold updates.entries updates.nodup task

theorem get_stored : task.stored.get key = (task.get key).map Value.stored := by
  unfold Task.get Task.stored lookup
  rw [List.find?_map, Option.map_map, Option.map_map]
  rfl

/-- A value is mirrored in the same way whether it is dumped or set by SQLite. -/
theorem column_stored : value.stored.column = value.column := by
  cases value with
  | bool b => cases b <;> rfl
  | null | int i | text s | compound json => rfl

end Fields

/-! ## Rows -/

def Row.Mirrored (row : Row) : Prop := row.data.columns = some (row.status, row.nextRetryAt)

structure Sound (rows : List Row) : Prop where
  unique : (rows.filterMap Row.id).Nodup
  mirrored : ∀ row ∈ rows, row.Mirrored

section Rows
variable {rows rows' : List Row} {taskId : String}

theorem ids_map {f : Row → Row} (kept : ∀ row, (f row).id = row.id) (rows : List Row) :
    (rows.map f).filterMap Row.id = rows.filterMap Row.id := by
  rw [List.filterMap_map]
  exact List.filterMap_congr fun row _ => kept row

theorem selectTask_map {f : Row → Row} (kept : ∀ row, (f row).id = row.id) (taskId : String)
    (rows : List Row) : selectTask taskId (rows.map f) = (selectTask taskId rows).map f := by
  unfold selectTask
  rw [List.find?_map]
  congr 2
  funext row
  simp only [Function.comp_apply, kept]

theorem selectTask_id {row : Row} (h : selectTask taskId rows = some row) :
    row ∈ rows ∧ row.id = some taskId :=
  ⟨List.mem_of_find?_eq_some h, by simpa using List.find?_some h⟩

theorem selectTask_of_mem {row : Row} (unique : (rows.filterMap Row.id).Nodup) (h : row ∈ rows)
    (own : row.id = some taskId) : selectTask taskId rows = some row := by
  unfold selectTask
  induction rows with
  | nil => cases h
  | cons first rows ih =>
    rw [List.find?_cons]
    by_cases same : first.id = some taskId
    · rw [List.filterMap_cons, same] at unique
      rw [decide_eq_true same]
      rcases List.mem_cons.1 h with eq | later
      · rw [eq]
      · have again : taskId ∈ rows.filterMap Row.id := List.mem_filterMap.2 ⟨row, later, own⟩
        exact absurd again (List.nodup_cons.1 unique).1
    · rw [decide_eq_false same]
      have later : row ∈ rows := by
        rcases List.mem_cons.1 h with eq | later
        · rw [eq] at own
          exact absurd own same
        · exact later
      have unique' : (rows.filterMap Row.id).Nodup :=
        unique.sublist ((List.sublist_cons_self _ _).filterMap _)
      exact ih unique' later

theorem Task.columns_eq_some {task : Task} {status : String} {nextRetryAt : Option String} :
    task.columns = some (status, nextRetryAt) ↔
      task.column "status" = some (some status) ∧
        task.column "next_retry_at" = some nextRetryAt := by
  unfold Task.columns
  split
  · rename_i status' next' first second
    rw [first, second]
    simp
  · rename_i other
    constructor
    · intro h
      cases h
    · intro ⟨first, second⟩
      exact absurd second (other _ _ first)

theorem mirrored_row {task : Task} {row : Row} (h : task.row = some row) :
    row.data = task ∧ row.Mirrored := by
  unfold Task.row at h
  split at h
  · rename_i columns
    cases h
    exact ⟨rfl, columns⟩
  · cases h

theorem sound_saveTasks {tasks : List Task} (h : saveTasks tasks = some rows) : Sound rows := by
  unfold saveTasks at h
  rw [Option.filter_eq_some_iff] at h
  refine ⟨of_decide_eq_true h.2, ?_⟩
  intro row hrow
  have ⟨task, _, made⟩ := mem_of_mapM_some h.1 hrow
  exact (mirrored_row made).2

/-- The row that the `UPDATE` of `update_task` leaves of a row. -/
def Row.write (row : Row) (taskId : String) (task : Task) (columns : String × Option String) : Row :=
  if row.id = some taskId then
    { row with status := columns.1, nextRetryAt := columns.2, data := task }
  else row

theorem writeTask_eq {task : Task} (h : writeTask taskId task rows = some rows') :
    ∃ columns, task.columns = some columns ∧
      rows' = rows.map fun row => row.write taskId task columns := by
  have ⟨columns, found, eq⟩ := Option.map_eq_some_iff.1 h
  exact ⟨columns, found, eq.symm⟩

theorem Row.write_id (row : Row) (taskId : String) (task : Task)
    (columns : String × Option String) : (row.write taskId task columns).id = row.id := by
  unfold Row.write
  split_ifs <;> rfl

theorem sound_writeTask {task : Task} (sound : Sound rows)
    (h : writeTask taskId task rows = some rows') : Sound rows' := by
  have ⟨columns, found, eq⟩ := writeTask_eq h
  rw [eq]
  constructor
  · rw [ids_map fun row => row.write_id taskId task columns]
    exact sound.unique
  · intro row hrow
    have ⟨old, hold, is⟩ := List.mem_map.1 hrow
    rw [← is]
    unfold Row.write
    split_ifs
    · exact found
    · exact sound.mirrored old hold

theorem column_update (task updates : Task) (key : String) :
    (task.update updates.stored).column key =
      ((updates.get key).map Value.column).getD (task.column key) := by
  unfold Task.column
  rw [get_update, get_stored]
  cases updates.get key with
  | none => rfl
  | some value => exact column_stored value

theorem bound_of_acceptable {updates : Task} {key : String} {value : Value}
    (accepted : acceptable updates = true) (h : updates.get key = some value) :
    ∃ column, value.column = some column := by
  unfold acceptable at accepted
  rw [Bool.and_eq_true, List.all_eq_true] at accepted
  have ⟨entry, found, eq⟩ := Option.map_eq_some_iff.1 h
  have checks := accepted.2 entry (List.mem_of_find?_eq_some found)
  rw [Bool.and_eq_true, eq] at checks
  exact Option.isSome_iff_exists.1 checks.2

theorem mirrored_merge {row : Row} {updates : Task} (mirrored : row.Mirrored)
    (accepted : acceptable updates = true) (named : updates.get "status" ≠ some .null) :
    (row.merge updates).Mirrored := by
  have ⟨status, nextRetryAt⟩ := Task.columns_eq_some.1 mirrored
  apply Task.columns_eq_some.2
  unfold Row.merge
  dsimp only
  rw [column_update, column_update]
  constructor
  · cases given : updates.get "status" with
    | none => exact status
    | some value =>
      have ⟨column, bound⟩ := bound_of_acceptable accepted given
      have set_ : column ≠ none := by
        rintro rfl
        apply named
        rw [given]
        cases value <;> first | rfl | cases bound
      have ⟨text, eq⟩ := Option.ne_none_iff_exists'.1 set_
      rw [Option.map_some, Option.getD_some, bound, eq]
      simp [bound, eq]
  · cases given : updates.get "next_retry_at" with
    | none => exact nextRetryAt
    | some value =>
      have ⟨column, bound⟩ := bound_of_acceptable accepted given
      rw [Option.map_some, Option.getD_some, bound]
      simp [bound]

theorem merge_id (taskId forbiddenStatus : String) (updates : Task) (row : Row) :
    (if guarded taskId forbiddenStatus row then row.merge updates else row).id = row.id := by
  split_ifs <;> rfl

/-- What an `UPDATE` of `update_task_if_status` has checked where it changes rows. -/
theorem guardedUpdate_changed {updates : Task} {forbiddenStatus : String}
    (h : guardedUpdate taskId updates forbiddenStatus rows = .changed rows') :
    acceptable updates = true ∧ rows.any (guarded taskId forbiddenStatus) = true ∧
      updates.get "status" ≠ some .null ∧ rows' = rows.map fun row =>
        if guarded taskId forbiddenStatus row then row.merge updates else row := by
  unfold guardedUpdate at h
  split_ifs at h with bad matched null
  cases h
  exact ⟨by simpa using bad, matched, null, rfl⟩

theorem guardedUpdate_unmatched {updates : Task} {forbiddenStatus : String} :
    guardedUpdate taskId updates forbiddenStatus rows = .unmatched ↔
      acceptable updates = true ∧ rows.any (guarded taskId forbiddenStatus) = false := by
  unfold guardedUpdate
  split_ifs with bad matched null <;> simp_all

theorem sound_guardedUpdate {updates : Task} {forbiddenStatus : String} (sound : Sound rows)
    (h : guardedUpdate taskId updates forbiddenStatus rows = .changed rows') : Sound rows' := by
  have ⟨accepted, _, named, eq⟩ := guardedUpdate_changed h
  rw [eq]
  constructor
  · rw [ids_map (merge_id taskId forbiddenStatus updates)]
    exact sound.unique
  · intro row hrow
    have ⟨old, hold, is⟩ := List.mem_map.1 hrow
    rw [← is]
    split_ifs
    · exact mirrored_merge (sound.mirrored old hold) accepted named
    · exact sound.mirrored old hold

end Rows

/-- The columns stay the mirror of the JSON, and the ids unique. -/
theorem sound_perform (fromisoformat : String → Option ℚ) (call : Call) {rows : List Row}
    (sound : Sound rows) : Sound (perform fromisoformat call rows).1 := by
  cases call with
  | updateTask taskId updates =>
    simp only [perform]
    split
    · exact sound
    · split
      · exact sound
      · rename_i written
        exact sound_writeTask sound written
  | update fn =>
    simp only [perform]
    split
    · exact sound
    · rename_i saved
      exact sound_saveTasks saved
  | updateTaskIfStatus taskId updates forbiddenStatus =>
    simp only [perform]
    split
    · exact sound
    · rename_i changed
      exact sound_guardedUpdate sound changed
    · exact sound
  | getRunnable now =>
    simp only [perform]
    split <;> exact sound

/-! ## The value of a field -/

def fieldAt (taskId key : String) (rows : List Row) : Option Value :=
  (selectTask taskId rows).bind fun row => row.data.get key

/-- The call sets the field of the task; an `update`, if it leaves it with another value. -/
def Call.sets (fromisoformat : String → Option ℚ) (taskId key : String) (rows : List Row) :
    Call → Prop
  | .updateTask other updates | .updateTaskIfStatus other updates _ =>
    other = taskId ∧ (updates.get key).isSome = true
  | .update fn => fieldAt taskId key (perform fromisoformat (.update fn) rows).1 ≠
      fieldAt taskId key rows
  | .getRunnable _ => False

theorem fieldAt_map {f : Row → Row} (kept : ∀ row, (f row).id = row.id) {taskId key : String}
    {rows : List Row}
    (same : ∀ row ∈ rows, row.id = some taskId → (f row).data.get key = row.data.get key) :
    fieldAt taskId key (rows.map f) = fieldAt taskId key rows := by
  unfold fieldAt
  rw [selectTask_map kept]
  cases found : selectTask taskId rows with
  | none => rfl
  | some row =>
    have ⟨mem, own⟩ := selectTask_id found
    exact same row mem own

/-- A call that does not set a field keeps it. -/
theorem fieldAt_perform {fromisoformat : String → Option ℚ} {taskId key : String} {call : Call}
    {rows : List Row} (unset : ¬ call.sets fromisoformat taskId key rows) :
    fieldAt taskId key (perform fromisoformat call rows).1 = fieldAt taskId key rows := by
  have kept {updates : Task} (absent : ¬ (updates.get key).isSome = true) (task : Task) :
      (task.update updates).get key = task.get key := by
    rw [get_update, Option.not_isSome_iff_eq_none.1 absent]
    rfl
  cases call with
  | updateTask other updates =>
    simp only [perform]
    split
    · rfl
    · rename_i row found
      split
      · rfl
      · rename_i written
        have ⟨columns, _, eq⟩ := writeTask_eq written
        rw [eq]
        by_cases own : other = taskId
        · have absent : ¬ (updates.get key).isSome = true := fun h => unset ⟨own, h⟩
          unfold fieldAt
          rw [selectTask_map fun row => row.write_id other _ columns, ← own, found]
          unfold Row.write
          rw [Option.map_some, if_pos (selectTask_id found).2]
          exact kept absent row.data
        · apply fieldAt_map fun row => row.write_id other _ columns
          intro row _ at_
          unfold Row.write
          rw [if_neg]
          rw [at_]
          exact fun h => own (Option.some.inj h).symm
  | update fn => exact not_not.1 unset
  | updateTaskIfStatus other updates forbiddenStatus =>
    simp only [perform]
    split
    · rfl
    · rename_i changed
      rw [(guardedUpdate_changed changed).2.2.2]
      apply fieldAt_map (merge_id other forbiddenStatus updates)
      intro row _ at_
      split_ifs with matched
      · have own : other = taskId := by
          have ⟨at', _⟩ := of_decide_eq_true matched
          rw [at_] at at'
          exact (Option.some.inj at').symm
        have absent : ¬ (updates.stored.get key).isSome = true := by
          rw [get_stored, Option.isSome_map]
          exact fun h => unset ⟨own, h⟩
        exact kept absent row.data
      · rfl
    · rfl
  | getRunnable now =>
    simp only [perform]
    split <;> rfl

/-- An update that is reported has set its fields. -/
theorem fieldAt_updated {fromisoformat : String → Option ℚ} {taskId forbiddenStatus key : String}
    {updates : Task} {rows : List Row} {value : Value} (sound : Sound rows)
    (h : (perform fromisoformat (.updateTaskIfStatus taskId updates forbiddenStatus) rows).2 =
      .outcome .updated) (given : updates.get key = some value) :
    fieldAt taskId key
      (perform fromisoformat (.updateTaskIfStatus taskId updates forbiddenStatus) rows).1 =
        some value.stored := by
  simp only [perform] at h ⊢
  cases answer : guardedUpdate taskId updates forbiddenStatus rows with
  | raised =>
    rw [answer] at h
    cases h
  | changed rows' =>
    have ⟨_, matched, _, eq⟩ := guardedUpdate_changed answer
    have ⟨row, hrow, guard⟩ := List.any_eq_true.1 matched
    have own : row.id = some taskId := (of_decide_eq_true guard).1
    dsimp only
    unfold fieldAt
    rw [eq, selectTask_map (merge_id taskId forbiddenStatus updates),
      selectTask_of_mem sound.unique hrow own, Option.map_some, if_pos guard, Option.bind_some]
    unfold Row.merge
    rw [get_update, get_stored, given]
    rfl
  | unmatched =>
    rw [answer] at h
    dsimp only at h
    split_ifs at h <;> cases h

end BacklinkPublisher.TaskQueue
