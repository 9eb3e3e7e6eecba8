import BacklinkPublisher.OutputSchema
import BacklinkPublisher.TaskQueue
import BacklinkPublisher.TransitionSystems

set_option autoImplicit false

/-!
# The ticks of the queue processor

`_process_queue_job` of `webui_app/scheduler.py` on the rows of `tasks`, one tick after another.
-/
namespace BacklinkPublisher.QueueTicks
open OptionFolds OutputSchema TaskQueue TransitionSystems

/-- The functions of `datetime` that a tick calls. -/
structure Host where
  fromisoformat : String → Option ℚ
  isoformat : ℚ → String
  hourMinute : ℚ → String

/-- What comes of a publish; it raises also where the seed cannot be made of the task. -/
inductive Publish where
  | success
  | failure (error : Option String)
  | raised (message : String)
  deriving DecidableEq, Repr

def Publish.failed : Publish → Bool
  | .success => false
  | .failure _ => true
  | .raised _ => true

/-- What the clock reads in `get_runnable` and in the tick, and what comes of the publish. -/
structure Tick where
  polled : ℚ
  now : ℚ
  publish : Publish

/-- `_RATE_LIMIT_RETRY_DELAY_S`. -/
def rateLimitRetryDelay : ℚ := 300

def orFailed (message : String) : String := if message = "" then "发布失败" else message

def rateLimited (err : String) : Bool := contains "429" err || contains "Too Many Requests" err

def processing : Task := ⟨[("status", .text "processing")], by decide⟩

/-- The updates of a task after its publish. -/
def outcomeUpdates (host : Host) (now : ℚ) : Publish → Task
  | .success =>
    ⟨[("status", .text "success"), ("completed_at", .text (host.isoformat now))], by simp⟩
  | .failure error =>
    let err := orFailed (error.getD "")
    if rateLimited err then
      let nextRetry := now + rateLimitRetryDelay
      ⟨[("status", .text "failed"),
        ("error", .text ("频率限制 (429)，将在 " ++ host.hourMinute nextRetry ++ " 重试")),
        ("next_retry_at", .text (host.isoformat nextRetry))], by simp⟩
    else ⟨[("status", .text "failed"), ("error", .text err)], by simp⟩
  | .raised message =>
    ⟨[("status", .text "failed"), ("error", .text (orFailed message))], by simp⟩

/-- `update_task`. -/
def write (host : Host) (taskId : String) (updates : Task) (rows : List Row) : List Row :=
  (perform host.fromisoformat (.updateTask taskId updates) rows).1

def idOf (task : Task) : Option String :=
  match task.get "id" with
  | some (.text id) => some id
  | _ => none

/-- The task that a tick attempts. -/
def attempted (host : Host) (tick : Tick) (rows : List Row) : Option Task :=
  (runnable host.fromisoformat tick.polled rows).bind List.head?

/-- The rows after a tick, and the id of the task that it has attempted. The id of a task is a
text. -/
def processQueueJob (host : Host) (tick : Tick) (rows : List Row) : List Row × Option String :=
  match (attempted host tick rows).bind idOf with
  | none => (rows, none)
  | some taskId =>
    (write host taskId (outcomeUpdates host tick.now tick.publish)
      (write host taskId processing rows), some taskId)

/-! ## What has been attempted -/

structure Attempt where
  taskId : String
  failed : Bool
  deriving DecidableEq, Repr

def noted (attempts : List Attempt) (tick : Tick) : Option String → List Attempt
  | none => attempts
  | some taskId => attempts ++ [⟨taskId, tick.publish.failed⟩]

/-- What holds of each tick of a run, where it begins. -/
def EachTick (host : Host) (P : List Attempt → List Row → Tick → Prop) :
    List Attempt → List Row → List Tick → Prop
  | _, _, [] => True
  | attempts, rows, tick :: ticks =>
    P attempts rows tick ∧
      EachTick host P (noted attempts tick (processQueueJob host tick rows).2)
        (processQueueJob host tick rows).1 ticks

def statusAt (rows : List Row) (taskId : String) : Option String :=
  (selectTask taskId rows).map Row.status

/-- The task was failed when the run began, or an attempt has failed since. -/
def HasFailed (start : List Row) (attempts : List Attempt) (taskId : String) : Prop :=
  statusAt start taskId = some "failed" ∨ ⟨taskId, true⟩ ∈ attempts

/-- The task was pending when the run began, and no tick has attempted it. -/
def Unattempted (start : List Row) (attempts : List Attempt) (taskId : String) : Prop :=
  statusAt start taskId = some "pending" ∧ ∀ attempt ∈ attempts, attempt.taskId ≠ taskId

/-- The tick attempts a task that has failed while another runnable one has not been attempted. -/
def Blocks (host : Host) (start : List Row) (attempts : List Attempt) (rows : List Row)
    (tick : Tick) : Prop :=
  ∃ taskId, (processQueueJob host tick rows).2 = some taskId ∧ HasFailed start attempts taskId ∧
    ∃ tasks, runnable host.fromisoformat tick.polled rows = some tasks ∧
      ∃ task ∈ tasks, ∃ other, idOf task = some other ∧ other ≠ taskId ∧
        Unattempted start attempts other

/-- What the tick attempts is a pending or failed task whose retry time is not ahead. -/
def Permitted (host : Host) (rows : List Row) (tick : Tick) : Prop :=
  ∀ taskId, (processQueueJob host tick rows).2 = some taskId →
    ∃ row ∈ rows, row.id = some taskId ∧ (row.status = "pending" ∨ row.status = "failed") ∧
      ∀ text time, row.data.get "next_retry_at" = some (.text text) → text ≠ "" →
        host.fromisoformat text = some time → time ≤ tick.polled

/-- The rows whose tasks are runnable, in the order of the table. -/
def waiting (host : Host) (polled : ℚ) (rows : List Row) : List Row :=
  rows.filter fun row => decide (row.status = "pending" ∨ row.status = "failed") &&
    decide (due host.fromisoformat polled row.data = some true)

/-- Where the tick can read every retry time, the first runnable task of the table has not failed,
or none behind it is pending. -/
def YieldsToPending (host : Host) (rows : List Row) (tick : Tick) : Prop :=
  (runnable host.fromisoformat tick.polled rows).isSome = true →
    ∀ first rest, waiting host tick.polled rows = first :: rest → first.status = "failed" →
      ∀ row ∈ rest, row.status ≠ "pending"

/-- The rows of a queue whose ids are texts. -/
structure Settled (rows : List Row) : Prop where
  sound : Sound rows
  named : ∀ row ∈ rows, ∃ id, row.id = some id ∧ idOf row.data = some id

/-! ## The queues that there are -/

/-- What happens to the queue: a request queues a task or retries one, the program starts, or a tick
runs. -/
inductive Event where
  | queueTask (task : Task)
  | retryTask (taskId : String)
  | restart
  | tick (tick : Tick)

def retried : Task := ⟨[("status", .text "pending"), ("error", .null)], by decide⟩

def pending : Task := ⟨[("status", .text "pending")], by decide⟩

/-- `_restore_processing_tasks`. -/
def restoreProcessingTasks (tasks : List Task) : List Task :=
  tasks.map fun task =>
    if task.get "status" = some (.text "processing") then task.update pending else task

def Event.apply (host : Host) (rows : List Row) : Event → List Row
  | .queueTask task => (perform host.fromisoformat (.update fun tasks => tasks ++ [task]) rows).1
  | .retryTask taskId =>
    (perform host.fromisoformat (.updateTaskIfStatus taskId retried "processing") rows).1
  | .restart => (perform host.fromisoformat (.update restoreProcessingTasks) rows).1
  | .tick polled => (processQueueJob host polled rows).1

/-- A new task has an id. -/
def Event.allowed : Event → Prop
  | .queueTask task => (idOf task).isSome = true
  | _ => True

def Reachable (host : Host) (rows : List Row) : Prop :=
  Reaches (fun rows (event : Event) => some (event.apply host rows))
    (fun _ event => event.allowed) [] rows

/-! ## Runnable tasks -/

theorem filterAuxM_eq {α : Type} {p : α → Option Bool} {xs acc ys : List α}
    (h : xs.filterAuxM p acc = some ys) :
    ys = (xs.filter fun x => p x = some true).reverse ++ acc := by
  induction xs generalizing acc with
  | nil =>
    cases h
    rfl
  | cons x xs ih =>
    have ⟨chosen, hx, rest⟩ := Option.bind_eq_some_iff.1 h
    rw [ih rest, List.filter_cons, hx]
    cases chosen with
    | true => simp
    | false => simp

theorem filterM_eq {α : Type} {p : α → Option Bool} {xs ys : List α} (h : xs.filterM p = some ys) :
    ys = xs.filter fun x => p x = some true := by
  have ⟨reversed, filtered, same⟩ := Option.bind_eq_some_iff.1 h
  rw [filterAuxM_eq filtered, List.append_nil] at same
  rw [← Option.some.inj same, List.reverse_reverse]

variable {host : Host} {tick : Tick} {rows start : List Row} {attempts : List Attempt}

theorem runnable_eq {tasks : List Task} {polled : ℚ}
    (polls : runnable host.fromisoformat polled rows = some tasks) :
    tasks = (waiting host polled rows).map Row.data := by
  rw [filterM_eq polls]
  unfold waiting loadTasks
  rw [List.filter_map, List.filter_filter]
  apply congrArg
  apply List.filter_congr
  intro row _
  exact Bool.and_comm _ _

theorem mem_waiting {row : Row} {polled : ℚ} : row ∈ waiting host polled rows ↔
    row ∈ rows ∧ (row.status = "pending" ∨ row.status = "failed") ∧
      due host.fromisoformat polled row.data = some true := by
  unfold waiting
  rw [List.mem_filter, Bool.and_eq_true, decide_eq_true_iff, decide_eq_true_iff]

/-! ## What a tick writes -/

/-- The updates that a tick writes. -/
structure Updates (updates : Task) (status : String) : Prop where
  status : updates.get "status" = some (.text status)
  id : updates.get "id" = none
  retry : updates.get "next_retry_at" = none ∨
    ∃ text, updates.get "next_retry_at" = some (.text text)

theorem updates_processing : Updates processing "processing" := ⟨rfl, rfl, .inl rfl⟩

theorem updates_outcome (host : Host) (now : ℚ) (publish : Publish) :
    Updates (outcomeUpdates host now publish) (if publish.failed then "failed" else "success") := by
  cases publish with
  | success => exact ⟨rfl, rfl, .inl rfl⟩
  | failure error =>
    change Updates _ "failed"
    unfold outcomeUpdates
    dsimp only
    split_ifs with limited
    · exact ⟨rfl, rfl, .inr ⟨_, rfl⟩⟩
    · exact ⟨rfl, rfl, .inl rfl⟩
  | raised message => exact ⟨rfl, rfl, .inl rfl⟩

/-- The columns of a task after an update that a tick writes. -/
theorem columns_update {row : Row} {updates : Task} {status : String} (mirrored : row.Mirrored)
    (given : Updates updates status) :
    ∃ retry, (row.data.update updates).columns = some (status, retry) := by
  have kept := (Task.columns_eq_some.1 mirrored).2
  have status' : (row.data.update updates).column "status" = some (some status) := by
    unfold Task.column
    rw [get_update, given.status]
    rfl
  have ⟨retry, bound⟩ : ∃ retry, (row.data.update updates).column "next_retry_at" = some retry := by
    unfold Task.column at kept ⊢
    rw [get_update]
    rcases given.retry with absent | ⟨text, present⟩
    · rw [absent, Option.none_or]
      exact ⟨_, kept⟩
    · rw [present]
      exact ⟨_, rfl⟩
  exact ⟨retry, Task.columns_eq_some.2 ⟨status', bound⟩⟩

theorem idOf_update {task updates : Task} (kept : updates.get "id" = none) :
    idOf (task.update updates) = idOf task := by
  unfold idOf
  rw [get_update, kept, Option.none_or]

/-- The row of the task has the new status, and the others stay. -/
structure Writes (taskId status : String) (rows rows' : List Row) : Prop where
  settled : Settled rows'
  own : ∀ row ∈ rows', row.id = some taskId → row.status = status
  others : ∀ row, row.id ≠ some taskId → (row ∈ rows' ↔ row ∈ rows)
  kept : ∃ row ∈ rows', row.id = some taskId

theorem write_spec (host : Host) (settled : Settled rows) {taskId status : String}
    {updates : Task} {row : Row} (member : row ∈ rows) (own : row.id = some taskId)
    (given : Updates updates status) :
    Writes taskId status rows (write host taskId updates rows) := by
  have found := selectTask_of_mem settled.sound.unique member own
  have ⟨retry, columns⟩ := columns_update (settled.sound.mirrored row member) given
  have written : writeTask taskId (row.data.update updates) rows =
      some (rows.map fun held => held.write taskId (row.data.update updates) (status, retry)) := by
    unfold writeTask
    rw [columns]
    rfl
  have same : write host taskId updates rows =
      rows.map fun held => held.write taskId (row.data.update updates) (status, retry) := by
    unfold write perform
    dsimp only
    rw [found]
    dsimp only
    rw [written]
  rw [same]
  constructor
  · constructor
    · exact sound_writeTask settled.sound written
    · intro held among
      have ⟨old, among', is⟩ := List.mem_map.1 among
      rw [← is, Row.write_id]
      unfold Row.write
      split_ifs with here
      · have ⟨id, hid, named⟩ := settled.named row member
        rw [own, Option.some_inj] at hid
        exact ⟨taskId, here, by rw [idOf_update given.id, named, hid]⟩
      · exact settled.named old among'
  · intro held among here
    have ⟨old, _, is⟩ := List.mem_map.1 among
    rw [← is, Row.write_id] at here
    rw [← is, Row.write, if_pos here]
  · intro held other
    rw [List.mem_map]
    constructor
    · rintro ⟨old, among, is⟩
      have apart : old.id ≠ some taskId := by
        rw [← is, Row.write_id] at other
        exact other
      rw [Row.write, if_neg apart] at is
      rw [← is]
      exact among
    · intro among
      exact ⟨held, among, by rw [Row.write, if_neg other]⟩
  · exact ⟨_, List.mem_map_of_mem member, by rw [Row.write_id, own]⟩

/-- Where a tick attempts a task it writes its status, and otherwise it writes nothing. -/
theorem processQueueJob_spec (host : Host) (tick : Tick) (settled : Settled rows) :
    ((processQueueJob host tick rows).2 = none ∧ (processQueueJob host tick rows).1 = rows) ∨
    ∃ taskId row, (processQueueJob host tick rows).2 = some taskId ∧
      attempted host tick rows = some row.data ∧ row ∈ rows ∧ row.id = some taskId ∧
      (row.status = "pending" ∨ row.status = "failed") ∧
      due host.fromisoformat tick.polled row.data = some true ∧
      Writes taskId (if tick.publish.failed then "failed" else "success") rows
        (processQueueJob host tick rows).1 := by
  cases chosen : (attempted host tick rows).bind idOf with
  | none =>
    left
    unfold processQueueJob
    rw [chosen]
    exact ⟨rfl, rfl⟩
  | some taskId =>
    right
    have ⟨task, first, named⟩ := Option.bind_eq_some_iff.1 chosen
    have ⟨tasks, polls, head⟩ := Option.bind_eq_some_iff.1 first
    have among := List.mem_of_mem_head? head
    rw [runnable_eq polls] at among
    have ⟨row, waits, same⟩ := List.mem_map.1 among
    have ⟨member, status, isDue⟩ := mem_waiting.1 waits
    subst same
    have ⟨id, hid, named'⟩ := settled.named row member
    rw [named, Option.some_inj] at named'
    rw [← named'] at hid
    have claimed := write_spec host settled member hid updates_processing
    have ⟨row', member', hid'⟩ := claimed.kept
    have done := write_spec host claimed.settled member' hid'
      (updates_outcome host tick.now tick.publish)
    have result : processQueueJob host tick rows = (write host taskId
        (outcomeUpdates host tick.now tick.publish) (write host taskId processing rows),
        some taskId) := by
      unfold processQueueJob
      rw [chosen]
    rw [result]
    refine ⟨taskId, row, rfl, first, member, hid, status, isDue, done.settled, done.own, ?_,
      done.kept⟩
    intro other apart
    rw [done.others other apart, claimed.others other apart]

/-- `update` keeps a queue settled where every task has an id. -/
theorem settled_update {fn : List Task → List Task} (settled : Settled rows)
    (named : ∀ task ∈ fn (loadTasks rows), (idOf task).isSome = true) :
    Settled (perform host.fromisoformat (.update fn) rows).1 := by
  constructor
  · exact sound_perform host.fromisoformat (.update fn) settled.sound
  · unfold perform
    dsimp only
    cases saved : saveTasks (fn (loadTasks rows)) with
    | none => exact settled.named
    | some rows' =>
      intro row member
      unfold saveTasks at saved
      rw [Option.filter_eq_some_iff] at saved
      have ⟨task, among, made⟩ := mem_of_mapM_some saved.1 member
      have ⟨id, hid⟩ := Option.isSome_iff_exists.1 (named task among)
      refine ⟨id, ?_, by rw [(mirrored_row made).1, hid]⟩
      have column : task.column "id" = some (some id) := by
        unfold idOf at hid
        unfold Task.column
        split at hid
        · next given =>
          cases hid
          rw [given]
          rfl
        · cases hid
      unfold Task.row at made
      rw [column] at made
      split at made
      · next first _ =>
        cases made
        cases first
        rfl
      · cases made

theorem settled_apply (settled : Settled rows) (event : Event) (allowed : event.allowed) :
    Settled (event.apply host rows) := by
  have named : ∀ task ∈ loadTasks rows, (idOf task).isSome = true := by
    intro task member
    have ⟨row, among, same⟩ := List.mem_map.1 member
    have ⟨id, _, hid⟩ := settled.named row among
    rw [← same, hid]
    rfl
  cases event with
  | queueTask task =>
    apply settled_update settled
    intro task' member
    rcases List.mem_append.1 member with old | new
    · exact named task' old
    · rw [List.mem_singleton.1 new]
      exact allowed
  | retryTask taskId =>
    constructor
    · exact sound_perform host.fromisoformat _ settled.sound
    · unfold Event.apply perform
      dsimp only
      cases answer : guardedUpdate taskId retried "processing" rows with
      | raised => exact settled.named
      | unmatched => exact settled.named
      | changed rows' =>
        intro row member
        change row ∈ rows' at member
        rw [(guardedUpdate_changed answer).2.2.2] at member
        have ⟨old, among, same⟩ := List.mem_map.1 member
        have ⟨id, own, hid⟩ := settled.named old among
        rw [← same, merge_id]
        refine ⟨id, own, ?_⟩
        split_ifs
        · change idOf (old.data.update retried.stored) = some id
          rw [idOf_update rfl, hid]
        · exact hid
  | restart =>
    apply settled_update settled
    intro task member
    have ⟨old, among, same⟩ := List.mem_map.1 member
    rw [← same]
    split_ifs
    · rw [idOf_update rfl]
      exact named old among
    · exact named old among
  | tick tick =>
    change Settled (processQueueJob host tick rows).1
    rcases processQueueJob_spec host tick settled with ⟨_, same⟩ | spec
    · rw [same]
      exact settled
    · have ⟨_, _, _, _, _, _, _, _, writes⟩ := spec
      exact writes.settled

theorem Reachable.settled (reached : Reachable host rows) : Settled rows := by
  apply Reaches.invariant reached
  · exact ⟨⟨List.nodup_nil, fun _ h => by cases h⟩, fun _ h => by cases h⟩
  · intro rows event rows' settled allowed step
    rw [← Option.some.inj step]
    exact settled_apply settled event allowed

/-! ## What the statuses tell of the attempts -/

/-- The pending tasks are those that no tick has attempted, and the failed ones have failed. -/
structure Tracks (start : List Row) (attempts : List Attempt) (rows : List Row) : Prop where
  settled : Settled rows
  pending : ∀ row ∈ rows, ∀ id, row.id = some id →
    (row.status = "pending" ↔ Unattempted start attempts id)
  failed : ∀ row ∈ rows, ∀ id, row.id = some id → row.status = "failed" →
    HasFailed start attempts id

theorem tracks_start (settled : Settled start) : Tracks start [] start where
  settled := settled
  pending row member id own := by
    unfold Unattempted statusAt
    rw [selectTask_of_mem settled.sound.unique member own, Option.map_some, Option.some_inj]
    exact ⟨fun status => ⟨status, fun _ h => by cases h⟩, fun h => h.1⟩
  failed row member id own status := by
    left
    unfold statusAt
    rw [selectTask_of_mem settled.sound.unique member own, Option.map_some, status]

theorem not_unattempted {taskId : String} (failed : HasFailed start attempts taskId) :
    ¬ Unattempted start attempts taskId := by
  intro ⟨status, fresh⟩
  rcases failed with before | since
  · rw [before, Option.some_inj] at status
    exact absurd status (by decide)
  · exact fresh _ since rfl

theorem Tracks.next (tracks : Tracks start attempts rows) :
    Tracks start (noted attempts tick (processQueueJob host tick rows).2)
      (processQueueJob host tick rows).1 := by
  rcases processQueueJob_spec host tick tracks.settled with ⟨none, same⟩ | spec
  · rw [none, same]
    exact tracks
  · have ⟨taskId, _, tried, _, _, _, _, _, writes⟩ := spec
    rw [tried]
    have now : ∀ other, Unattempted start (noted attempts tick (some taskId)) other ↔
        Unattempted start attempts other ∧ other ≠ taskId := by
      intro other
      unfold Unattempted noted
      rw [List.forall_mem_append, List.forall_mem_singleton]
      exact ⟨fun h => ⟨⟨h.1, h.2.1⟩, h.2.2.symm⟩, fun h => ⟨h.1.1, h.1.2, h.2.symm⟩⟩
    constructor
    · exact writes.settled
    · intro row member id own
      rw [now]
      by_cases same : id = taskId
      · rw [same] at own
        rw [writes.own row member own]
        constructor
        · intro pending
          split_ifs at pending <;> exact absurd pending (by decide)
        · exact fun h => (h.2 same).elim
      · have apart : row.id ≠ some taskId := by
          rw [own]
          exact fun h => same (Option.some.inj h)
        rw [tracks.pending row ((writes.others row apart).1 member) id own]
        exact ⟨fun h => ⟨h, same⟩, fun h => h.1⟩
    · intro row member id own status
      by_cases same : id = taskId
      · rw [same] at own
        have result := writes.own row member own
        rw [status] at result
        right
        unfold noted
        rw [List.mem_append, List.mem_singleton]
        right
        cases bad : tick.publish.failed with
        | true => rw [same]
        | false =>
          rw [bad, if_neg (by decide)] at result
          exact absurd result (by decide)
      · have apart : row.id ≠ some taskId := by
          rw [own]
          exact fun h => same (Option.some.inj h)
        rcases tracks.failed row ((writes.others row apart).1 member) id own status with
          before | since
        · exact .inl before
        · exact .inr (List.mem_append_left _ since)

/-- What holds of a tick from tracked rows holds of each tick of a run. -/
theorem eachTick_congr {P Q : List Attempt → List Row → Tick → Prop}
    (same : ∀ attempts rows tick, Tracks start attempts rows →
      (P attempts rows tick ↔ Q attempts rows tick)) (tracks : Tracks start attempts rows)
    (ticks : List Tick) :
    EachTick host P attempts rows ticks ↔ EachTick host Q attempts rows ticks := by
  induction ticks generalizing attempts rows with
  | nil => exact Iff.rfl
  | cons tick ticks ih => exact and_congr (same attempts rows tick tracks) (ih tracks.next)

theorem eachTick_of_tracks {P : List Attempt → List Row → Tick → Prop}
    (holds : ∀ attempts rows tick, Tracks start attempts rows → P attempts rows tick)
    (tracks : Tracks start attempts rows) (ticks : List Tick) :
    EachTick host P attempts rows ticks := by
  induction ticks generalizing attempts rows with
  | nil => trivial
  | cons tick ticks ih => exact ⟨holds attempts rows tick tracks, ih tracks.next⟩

/-! ## Which ticks block -/

theorem blocks_iff (tracks : Tracks start attempts rows) :
    ¬ Blocks host start attempts rows tick ↔ YieldsToPending host rows tick := by
  rw [not_iff_comm]
  unfold YieldsToPending Blocks
  constructor
  · intro clash
    push Not at clash
    have ⟨polls, first, rest, queue, failed, row, behind, pending⟩ := clash
    have ⟨tasks, hpolls⟩ := Option.isSome_iff_exists.1 polls
    have listed := runnable_eq hpolls
    rw [queue] at listed
    have waits : first ∈ waiting host tick.polled rows := by
      rw [queue]
      exact List.mem_cons_self
    have waits' : row ∈ waiting host tick.polled rows := by
      rw [queue]
      exact List.mem_cons_of_mem _ behind
    have member := (mem_waiting.1 waits).1
    have member' := (mem_waiting.1 waits').1
    have ⟨id, own, named⟩ := tracks.settled.named first member
    have ⟨id', own', named'⟩ := tracks.settled.named row member'
    have failed' := tracks.failed first member id own failed
    have fresh := (tracks.pending row member' id' own').1 pending
    have tried : (processQueueJob host tick rows).2 = some id := by
      unfold processQueueJob attempted
      rw [hpolls, listed, Option.bind_some, List.map_cons, List.head?_cons, Option.bind_some,
        named]
    have apart : id' ≠ id := by
      rintro rfl
      exact not_unattempted failed' fresh
    have among : row.data ∈ tasks := by
      rw [listed]
      exact List.mem_map_of_mem (List.mem_cons_of_mem _ behind)
    exact ⟨id, tried, failed', tasks, hpolls, row.data, among, id', named', apart, fresh⟩
  · rintro ⟨id, tried, failed, tasks, hpolls, task, among, other, named, apart, fresh⟩ yields
    have listed := runnable_eq hpolls
    rw [listed] at among
    have ⟨row, waits, same⟩ := List.mem_map.1 among
    have ⟨member, _, _⟩ := mem_waiting.1 waits
    have ⟨id', own', named'⟩ := tracks.settled.named row member
    rw [same, named, Option.some_inj] at named'
    rw [← named'] at own'
    have pending := (tracks.pending row member other own').2 fresh
    cases queue : waiting host tick.polled rows with
    | nil =>
      rw [queue] at waits
      cases waits
    | cons first rest =>
      have here : first ∈ waiting host tick.polled rows := by
        rw [queue]
        exact List.mem_cons_self
      have ⟨member', status, _⟩ := mem_waiting.1 here
      have ⟨head, own, named''⟩ := tracks.settled.named first member'
      have headTried : (processQueueJob host tick rows).2 = some head := by
        unfold processQueueJob attempted
        rw [hpolls, listed, queue, Option.bind_some, List.map_cons, List.head?_cons,
          Option.bind_some, named'']
      rw [headTried, Option.some_inj] at tried
      rw [tried] at own
      have notPending : first.status ≠ "pending" := fun h =>
        not_unattempted failed ((tracks.pending first member' id own).1 h)
      have behind : row ∈ rest := by
        rw [queue] at waits
        rcases List.mem_cons.1 waits with rfl | behind
        · exact absurd pending notPending
        · exact behind
      exact yields (by rw [hpolls]; rfl) first rest queue (status.resolve_left notPending) row
        behind pending

theorem permitted (tracks : Tracks start attempts rows) : Permitted host rows tick := by
  intro taskId tried
  rcases processQueueJob_spec host tick tracks.settled with ⟨none, _⟩ | spec
  · rw [none] at tried
    cases tried
  · have ⟨taskId', row, tried', _, member, own, status, isDue, _⟩ := spec
    rw [tried', Option.some_inj] at tried
    rw [tried] at own
    refine ⟨row, member, own, status, fun text time given some_ parsed => ?_⟩
    unfold due at isDue
    rw [given] at isDue
    have truthy : (Value.text text).truthy = true := decide_eq_true some_
    dsimp only at isDue
    rw [if_pos truthy, parsed, Option.map_some, Option.some_inj, decide_eq_true_iff] at isDue
    exact isDue

/-- No tick of a run attempts a failed task while an unattempted one could run exactly where every
tick finds its first runnable task not failed, or none behind it pending. What a tick attempts is
always pending or failed, and its retry time is not ahead. -/
theorem unblocked_iff (host : Host) (start : List Row) (reached : Reachable host start)
    (ticks : List Tick) :
    (EachTick host (fun attempts rows tick => ¬ Blocks host start attempts rows tick) [] start
        ticks ↔
      EachTick host (fun _ rows tick => YieldsToPending host rows tick) [] start ticks) ∧
    EachTick host (fun _ rows tick => Permitted host rows tick) [] start ticks :=
  ⟨eachTick_congr (fun _ _ _ tracks => blocks_iff tracks) (tracks_start reached.settled) ticks,
    eachTick_of_tracks (fun _ _ _ tracks => permitted tracks) (tracks_start reached.settled) ticks⟩

/-- Times as numerals; what is no numeral of these is no time. -/
def wallClock : Host where
  fromisoformat text := if text = "300" then some 300 else none
  isoformat time := if time = 300 then "300" else ""
  hourMinute _ := "00:05"

def newTask (id : String) : Task := ⟨[("id", .text id), ("status", .text "pending")], by simp⟩

def taskRow (id : String) : Row := ⟨some id, "pending", none, newTask id⟩

theorem reachable_two_tasks : Reachable wallClock [taskRow "a", taskRow "b"] := by
  have first : Reachable wallClock [taskRow "a"] :=
    .tail .refl ⟨.queueTask (newTask "a"), by unfold Event.allowed; decide, by decide⟩
  exact .tail first ⟨.queueTask (newTask "b"), by unfold Event.allowed; decide, by decide⟩

/-- A publish that is limited, and one that succeeds while the first task waits. -/
def limitedTicks : List Tick := [⟨0, 0, .failure (some "HTTP 429")⟩, ⟨60, 60, .success⟩]

theorem limited_unblocked :
    (EachTick wallClock (fun attempts rows tick =>
        ¬ Blocks wallClock [taskRow "a", taskRow "b"] attempts rows tick) []
        [taskRow "a", taskRow "b"] limitedTicks ↔
      EachTick wallClock (fun _ rows tick => YieldsToPending wallClock rows tick) []
        [taskRow "a", taskRow "b"] limitedTicks) ∧
    EachTick wallClock (fun _ rows tick => Permitted wallClock rows tick) []
      [taskRow "a", taskRow "b"] limitedTicks :=
  unblocked_iff wallClock [taskRow "a", taskRow "b"] reachable_two_tasks limitedTicks

/-- A publish that fails otherwise, and the next tick. -/
def failingTicks : List Tick := [⟨0, 0, .failure (some "timeout")⟩, ⟨60, 60, .success⟩]

/-- The second tick attempts the failed task again while the other one waits. -/
theorem failed_task_blocks :
    Reachable wallClock [taskRow "a", taskRow "b"] ∧
    ¬ EachTick wallClock (fun attempts rows tick =>
        ¬ Blocks wallClock [taskRow "a", taskRow "b"] attempts rows tick) []
        [taskRow "a", taskRow "b"] failingTicks := by
  refine ⟨reachable_two_tasks, fun ⟨_, second, _⟩ => second ?_⟩
  refine ⟨"a", by decide, .inr (by decide), _, rfl, newTask "b", by decide, "b", by decide,
    by decide, by decide, ?_⟩
  intro attempt member
  have only : attempt = ⟨"a", true⟩ := List.mem_singleton.1 member
  rw [only]
  decide

end BacklinkPublisher.QueueTicks
