import BacklinkPublisher.Linearizability
import BacklinkPublisher.TaskQueue
import BacklinkPublisher.TransitionSystems
import Mathlib.Data.Fintype.Basic
import Mathlib.Data.List.Permutation

set_option autoImplicit false

/-!
# Threads on the task queue

The calls of `QueueSqliteStore` in `n` threads. An SQL statement is one step, with the `COMMIT` after
it; so are the statements of the transaction of `save`. `history` and `events` are ghosts: the rows
before each step, and the calls that have returned.
-/
namespace BacklinkPublisher.TaskQueueRuns
open TransitionSystems Linearizability TaskQueue

/-- What a thread has read; the lock is held from a read of `update_task` and of `update` on. -/
inductive Phase where
  | idle
  | merging (taskId : String) (updates : Task) (row : Row) (invoked : ℕ)
  | rewriting (fn : List Task → List Task) (tasks : List Task) (invoked : ℕ)
  /-- The `UPDATE` has matched no row; `missing` if there was none of the task. -/
  | lookingUp (taskId : String) (updates : Task) (forbiddenStatus : String) (missing : Bool)
      (invoked : ℕ)

def Phase.holdsLock : Phase → Bool
  | .merging _ _ _ _ | .rewriting _ _ _ => true
  | .idle | .lookingUp _ _ _ _ _ => false

structure Queue (n : ℕ) where
  rows : List Row
  phase : Fin n → Phase
  now : ℕ
  history : ℕ → List Row
  events : List (Event Call Result)

def Queue.start (n : ℕ) (rows : List Row) : Queue n := ⟨rows, fun _ => .idle, 0, fun _ => rows, []⟩

inductive Action (n : ℕ) where
  | call (thread : Fin n) (call : Call)
  | advance (thread : Fin n)

variable {n : ℕ}

def Queue.lockFree (w : Queue n) : Bool := decide (∀ thread, (w.phase thread).holdsLock = false)

/-- A step after which the call goes on. -/
def Queue.pass (w : Queue n) (thread : Fin n) (phase : Phase) : Queue n :=
  { w with
    phase := Function.update w.phase thread phase
    now := w.now + 1
    history := Function.update w.history (w.now + 1) w.rows }

def Queue.returns (w : Queue n) (thread : Fin n) (rows : List Row) (call : Call) (result : Result)
    (invoked point : ℕ) : Queue n where
  rows := rows
  phase := Function.update w.phase thread .idle
  now := w.now + 1
  history := Function.update w.history (w.now + 1) rows
  events := w.events ++ [⟨call, result, invoked, point, w.now⟩]

section Steps
variable (fromisoformat : String → Option ℚ)

/-- The first statement of a call. -/
def Queue.firstStatement (w : Queue n) (thread : Fin n) (call : Call) : Option (Queue n) :=
  match call with
  | .updateTask taskId updates =>
    if w.lockFree then
      match selectTask taskId w.rows with
      | none => some (w.returns thread w.rows call .done w.now w.now)
      | some row => some (w.pass thread (.merging taskId updates row w.now))
    else none
  | .update fn =>
    if w.lockFree then some (w.pass thread (.rewriting fn (loadTasks w.rows) w.now)) else none
  | .updateTaskIfStatus taskId updates forbiddenStatus =>
    match guardedUpdate taskId updates forbiddenStatus w.rows with
    | .raised => some (w.returns thread w.rows call .raised w.now w.now)
    | .changed rows => some (w.returns thread rows call (.outcome .updated) w.now w.now)
    | .unmatched =>
      let missing := (selectTask taskId w.rows).isNone
      some (w.pass thread (.lookingUp taskId updates forbiddenStatus missing w.now))
  | .getRunnable now =>
    match runnable fromisoformat now w.rows with
    | none => some (w.returns thread w.rows call .raised w.now w.now)
    | some tasks => some (w.returns thread w.rows call (.tasks tasks) w.now w.now)

/-- The second one. -/
def Queue.secondStatement (w : Queue n) (thread : Fin n) : Option (Queue n) :=
  match w.phase thread with
  | .idle => none
  | .merging taskId updates row invoked =>
    let call := .updateTask taskId updates
    match writeTask taskId (row.data.update updates) w.rows with
    | none => some (w.returns thread w.rows call .raised invoked w.now)
    | some rows => some (w.returns thread rows call .done invoked w.now)
  | .rewriting fn tasks invoked =>
    let value := fn tasks
    match saveTasks value with
    | none => some (w.returns thread w.rows (.update fn) .raised invoked w.now)
    | some rows => some (w.returns thread rows (.update fn) (.tasks value) invoked w.now)
  | .lookingUp taskId updates forbiddenStatus missing invoked =>
    let call := .updateTaskIfStatus taskId updates forbiddenStatus
    match selectTask taskId w.rows with
    | none => some (w.returns thread w.rows call (.outcome .notFound) invoked w.now)
    | some _ =>
      let point := if missing then w.now else invoked
      some (w.returns thread w.rows call (.outcome .rejected) invoked point)

def step (w : Queue n) : Action n → Option (Queue n)
  | .call thread call =>
    match w.phase thread with
    | .idle => w.firstStatement fromisoformat thread call
    | _ => none
  | .advance thread => w.secondStatement thread

end Steps

/-- The thread will write what it has read of the task. -/
def Phase.overwrites (taskId : String) : Phase → Bool
  | .merging other _ _ _ => decide (other = taskId)
  | .rewriting _ _ _ => true
  | .idle | .lookingUp _ _ _ _ _ => false

/-- No `update_task_if_status` changes a task between the read and the write of a call that will
overwrite it, and where its `UPDATE` has found no row of the task, its `SELECT` finds none either, or
one with the forbidden status. -/
def undisturbed (w : Queue n) : Action n → Bool
  | .call _ (.updateTaskIfStatus taskId updates forbiddenStatus) =>
    match guardedUpdate taskId updates forbiddenStatus w.rows with
    | .changed _ => decide (∀ other, (w.phase other).overwrites taskId = false)
    | _ => true
  | .advance thread =>
    match w.phase thread with
    | .lookingUp taskId _ forbiddenStatus missing _ =>
      !missing || w.rows.all fun row => !guarded taskId forbiddenStatus row
    | _ => true
  | _ => true

/-! ## What a step keeps -/

def Phase.point : Phase → Option ℕ
  | .lookingUp _ _ _ _ invoked => some invoked
  | _ => none

section Runs
variable {fromisoformat : String → Option ℚ} {initial : List Row} {w : Queue n} {thread : Fin n}

/-- What a thread has read is what there is, and a lookup has still to take its place. -/
def Fits (fromisoformat : String → Option ℚ) (w : Queue n) : Phase → Prop
  | .idle => True
  | .merging taskId _ row invoked => selectTask taskId w.rows = some row ∧ invoked ≤ w.now
  | .rewriting _ tasks invoked => loadTasks w.rows = tasks ∧ invoked ≤ w.now
  | .lookingUp taskId updates forbiddenStatus missing invoked =>
    invoked < w.now ∧ acceptable updates = true ∧ (∀ e ∈ w.events, e.point ≠ invoked) ∧
      (missing = false →
        perform fromisoformat (.updateTaskIfStatus taskId updates forbiddenStatus)
          (w.history invoked) = (w.history invoked, .outcome .rejected))

structure Invariant (fromisoformat : String → Option ℚ) (initial : List Row) (w : Queue n) :
    Prop where
  linearized : Linearized (perform fromisoformat) initial w.history w.now w.events
  current : w.history w.now = w.rows
  lock : ∀ a b, (w.phase a).holdsLock = true → (w.phase b).holdsLock = true → a = b
  fits : ∀ thread, Fits fromisoformat w (w.phase thread)
  apart : ∀ a b point, (w.phase a).point = some point → (w.phase b).point = some point → a = b

theorem invariant_start (fromisoformat : String → Option ℚ) (n : ℕ) (initial : List Row) :
    Invariant fromisoformat initial (Queue.start n initial) where
  linearized := linearized_start initial
  current := rfl
  lock _ _ h := by cases h
  fits _ := trivial
  apart _ _ _ h := by cases h

theorem phase_update (w : Queue n) (thread other : Fin n) (phase : Phase) :
    Function.update w.phase thread phase other = if other = thread then phase else w.phase other :=
  Function.update_apply w.phase thread phase other

theorem Fits.point_lt {phase : Phase} {point : ℕ} (fits : Fits fromisoformat w phase)
    (h : phase.point = some point) : point < w.now := by
  cases phase with
  | lookingUp taskId updates forbiddenStatus missing invoked =>
    rw [← Option.some.inj h]
    exact fits.1
  | idle | merging taskId updates row invoked | rewriting fn tasks invoked => cases h

theorem Fits.pass {phase : Phase} (fits : Fits fromisoformat w phase) (thread : Fin n)
    (next : Phase) : Fits fromisoformat (w.pass thread next) phase := by
  cases phase with
  | idle => trivial
  | merging taskId updates row invoked => exact ⟨fits.1, fits.2.trans (Nat.le_succ _)⟩
  | rewriting fn tasks invoked => exact ⟨fits.1, fits.2.trans (Nat.le_succ _)⟩
  | lookingUp taskId updates forbiddenStatus missing invoked =>
    have ⟨past, accepted, fresh, rejected⟩ := fits
    refine ⟨past.trans (Nat.lt_succ_self _), accepted, fresh, ?_⟩
    change missing = false → perform _ _ (Function.update w.history (w.now + 1) w.rows invoked) =
      (Function.update w.history (w.now + 1) w.rows invoked, _)
    rw [update_le _ past.le]
    exact rejected

theorem Invariant.pass (inv : Invariant fromisoformat initial w) {phase : Phase}
    (fits : Fits fromisoformat (w.pass thread phase) phase)
    (free : phase.holdsLock = true → w.lockFree = true)
    (point : ∀ t, phase.point = some t → t = w.now) :
    Invariant fromisoformat initial (w.pass thread phase) where
  linearized := by
    have pass := inv.linearized.pass
    rw [inv.current] at pass
    exact pass
  current := Function.update_self ..
  lock a b ha hb := by
    change (Function.update w.phase thread phase a).holdsLock = true at ha
    change (Function.update w.phase thread phase b).holdsLock = true at hb
    rw [phase_update] at ha hb
    split_ifs at ha hb with own own' own'
    · rw [own, own']
    · have unlocked := of_decide_eq_true (free ha) b
      rw [hb] at unlocked
      cases unlocked
    · have unlocked := of_decide_eq_true (free hb) a
      rw [ha] at unlocked
      cases unlocked
    · exact inv.lock a b ha hb
  fits other := by
    change Fits _ _ (Function.update w.phase thread phase other)
    rw [phase_update]
    split_ifs
    · exact fits
    · exact (inv.fits other).pass thread phase
  apart a b t ha hb := by
    change (Function.update w.phase thread phase a).point = some t at ha
    change (Function.update w.phase thread phase b).point = some t at hb
    rw [phase_update] at ha hb
    split_ifs at ha hb with own own' own'
    · rw [own, own']
    · have past := (inv.fits b).point_lt hb
      have now := point t ha
      omega
    · have past := (inv.fits a).point_lt ha
      have now := point t hb
      omega
    · exact inv.apart a b t ha hb

/-- A return with these rows, at this point, leaves true what the thread has read. -/
def Stable (w : Queue n) (rows : List Row) (point : ℕ) : Phase → Prop
  | .idle => True
  | .merging taskId _ _ _ => selectTask taskId rows = selectTask taskId w.rows
  | .rewriting _ _ _ => rows = w.rows
  | .lookingUp _ _ _ _ invoked => point ≠ invoked

theorem Fits.returns {phase : Phase} (fits : Fits fromisoformat w phase) {rows : List Row}
    {call : Call} {result : Result} {invoked point : ℕ} (stable : Stable w rows point phase) :
    Fits fromisoformat (w.returns thread rows call result invoked point) phase := by
  cases phase with
  | idle => trivial
  | merging taskId updates row invoked =>
    refine ⟨?_, fits.2.trans (Nat.le_succ _)⟩
    change selectTask taskId rows = some row
    rw [← fits.1]
    exact stable
  | rewriting fn tasks invoked =>
    refine ⟨?_, fits.2.trans (Nat.le_succ _)⟩
    change loadTasks rows = tasks
    rw [← fits.1]
    exact congrArg loadTasks stable
  | lookingUp taskId updates forbiddenStatus missing at_ =>
    have ⟨past, accepted, fresh, rejected⟩ := fits
    refine ⟨past.trans (Nat.lt_succ_self _), accepted, ?_, ?_⟩
    · intro e he
      rcases List.mem_append.1 he with old | new
      · exact fresh e old
      · rw [List.mem_singleton.1 new]
        exact stable
    · change missing = false → perform _ _ (Function.update w.history (w.now + 1) rows at_) =
        (Function.update w.history (w.now + 1) rows at_, _)
      rw [update_le _ past.le]
      exact rejected

theorem Invariant.returns (inv : Invariant fromisoformat initial w) {rows : List Row} {call : Call}
    {result : Result} {invoked point : ℕ}
    (linearized : Linearized (perform fromisoformat) initial
      (Function.update w.history (w.now + 1) rows) (w.now + 1)
      (w.events ++ [⟨call, result, invoked, point, w.now⟩]))
    (stable : ∀ other, other ≠ thread → Stable w rows point (w.phase other)) :
    Invariant fromisoformat initial (w.returns thread rows call result invoked point) where
  linearized := linearized
  current := Function.update_self ..
  lock a b ha hb := by
    have before (other : Fin n)
        (h : (Function.update w.phase thread .idle other).holdsLock = true) :
        (w.phase other).holdsLock = true := by
      rw [phase_update] at h
      split_ifs at h
      · cases h
      · exact h
    exact inv.lock a b (before a ha) (before b hb)
  fits other := by
    change Fits _ _ (Function.update w.phase thread .idle other)
    rw [phase_update]
    split_ifs with own
    · trivial
    · exact (inv.fits other).returns (stable other own)
  apart a b t ha hb := by
    have before (other : Fin n)
        (h : (Function.update w.phase thread .idle other).point = some t) :
        (w.phase other).point = some t := by
      rw [phase_update] at h
      split_ifs at h
      · cases h
      · exact h
    exact inv.apart a b t (before a ha) (before b hb)

/-- A call that takes its effect as it returns. -/
theorem Invariant.take (inv : Invariant fromisoformat initial w) {rows : List Row} {call : Call}
    {result : Result} {invoked : ℕ} (le : invoked ≤ w.now)
    (effect : perform fromisoformat call w.rows = (rows, result))
    (stable : ∀ other, other ≠ thread → Stable w rows w.now (w.phase other)) :
    Invariant fromisoformat initial (w.returns thread rows call result invoked w.now) := by
  refine inv.returns ?_ stable
  rw [← inv.current] at effect
  exact inv.linearized.take le effect

theorem Invariant.stable_same (inv : Invariant fromisoformat initial w) (other : Fin n) :
    Stable w w.rows w.now (w.phase other) := by
  have fits := inv.fits other
  cases phase : w.phase other with
  | idle => trivial
  | merging taskId updates row invoked => rfl
  | rewriting fn tasks invoked => rfl
  | lookingUp taskId updates forbiddenStatus missing invoked =>
    rw [phase] at fits
    exact fits.1.ne'

/-- A thread with the lock may write. -/
theorem Invariant.stable_locked (inv : Invariant fromisoformat initial w)
    (locked : (w.phase thread).holdsLock = true) (rows : List Row) (other : Fin n)
    (different : other ≠ thread) : Stable w rows w.now (w.phase other) := by
  have unlocked : (w.phase other).holdsLock ≠ true := fun h =>
    different (inv.lock other thread h locked)
  have fits := inv.fits other
  cases phase : w.phase other with
  | idle => trivial
  | merging taskId updates row invoked => exact absurd (by rw [phase]; rfl) unlocked
  | rewriting fn tasks invoked => exact absurd (by rw [phase]; rfl) unlocked
  | lookingUp taskId updates forbiddenStatus missing invoked =>
    rw [phase] at fits
    exact fits.1.ne'

theorem Invariant.firstStatement {w' : Queue n} {call : Call}
    (inv : Invariant fromisoformat initial w)
    (ok : undisturbed w (.call thread call) = true)
    (h : w.firstStatement fromisoformat thread call = some w') :
    Invariant fromisoformat initial w' := by
  cases call with
  | updateTask taskId updates =>
    simp only [Queue.firstStatement] at h
    split_ifs at h with free
    cases found : selectTask taskId w.rows with
    | none =>
      rw [found] at h
      rw [← Option.some.inj h]
      refine inv.take (le_refl _) ?_ fun other _ => inv.stable_same other
      simp only [perform, found]
    | some row =>
      rw [found] at h
      rw [← Option.some.inj h]
      exact inv.pass ⟨found, Nat.le_succ _⟩ (fun _ => free) fun t ht => by cases ht
  | update fn =>
    simp only [Queue.firstStatement] at h
    split_ifs at h with free
    rw [← Option.some.inj h]
    exact inv.pass ⟨rfl, Nat.le_succ _⟩ (fun _ => free) fun t ht => by cases ht
  | updateTaskIfStatus taskId updates forbiddenStatus =>
    simp only [Queue.firstStatement] at h
    simp only [undisturbed] at ok
    cases answer : guardedUpdate taskId updates forbiddenStatus w.rows with
    | raised =>
      rw [answer] at h
      rw [← Option.some.inj h]
      refine inv.take (le_refl _) ?_ fun other _ => inv.stable_same other
      simp only [perform, answer]
    | changed rows =>
      rw [answer] at h ok
      rw [← Option.some.inj h]
      refine inv.take (le_refl _) ?_ ?_
      · simp only [perform, answer]
      · intro other _
        have apart := of_decide_eq_true ok other
        have fits := inv.fits other
        cases phase : w.phase other with
        | idle => trivial
        | merging otherId updates' row invoked =>
          rw [phase] at apart fits
          have different : otherId ≠ taskId := of_decide_eq_false apart
          change selectTask otherId rows = selectTask otherId w.rows
          rw [(guardedUpdate_changed answer).2.2.2,
            selectTask_map (merge_id taskId forbiddenStatus updates), fits.1, Option.map_some,
            if_neg]
          intro guard
          have own := (of_decide_eq_true guard).1
          rw [(selectTask_id fits.1).2] at own
          exact different (Option.some.inj own)
        | rewriting fn tasks invoked =>
          rw [phase] at apart
          cases apart
        | lookingUp otherId updates' other' missing invoked =>
          rw [phase] at fits
          exact fits.1.ne'
    | unmatched =>
      rw [answer] at h
      rw [← Option.some.inj h]
      refine inv.pass ⟨Nat.lt_succ_self _, (guardedUpdate_unmatched.1 answer).1, ?_, ?_⟩
        (fun locked => by cases locked) fun t ht => (Option.some.inj ht).symm
      · intro e he
        have bounds := inv.linearized.within e he
        omega
      · intro known
        change perform _ _ (Function.update w.history (w.now + 1) w.rows w.now) =
          (Function.update w.history (w.now + 1) w.rows w.now, _)
        rw [update_le _ (le_refl _), inv.current]
        simp only [perform, answer, known]
        rfl
  | getRunnable now =>
    simp only [Queue.firstStatement] at h
    cases answer : runnable fromisoformat now w.rows with
    | none =>
      rw [answer] at h
      rw [← Option.some.inj h]
      refine inv.take (le_refl _) ?_ fun other _ => inv.stable_same other
      simp only [perform, answer]
    | some tasks =>
      rw [answer] at h
      rw [← Option.some.inj h]
      refine inv.take (le_refl _) ?_ fun other _ => inv.stable_same other
      simp only [perform, answer]

theorem perform_unmatched {taskId forbiddenStatus : String} {updates : Task} {rows : List Row}
    (accepted : acceptable updates = true)
    (unmatched : ∀ row ∈ rows, guarded taskId forbiddenStatus row = false) :
    perform fromisoformat (.updateTaskIfStatus taskId updates forbiddenStatus) rows =
      (rows, .outcome (if (selectTask taskId rows).isNone then .notFound else .rejected)) := by
  have answer : guardedUpdate taskId updates forbiddenStatus rows = .unmatched := by
    refine guardedUpdate_unmatched.2 ⟨accepted, List.any_eq_false.2 fun row hrow => ?_⟩
    rw [unmatched row hrow]
    exact Bool.false_ne_true
  simp only [perform, answer]

theorem Invariant.secondStatement {w' : Queue n} (inv : Invariant fromisoformat initial w)
    (ok : undisturbed w (.advance thread) = true) (h : w.secondStatement thread = some w') :
    Invariant fromisoformat initial w' := by
  have fits := inv.fits thread
  cases phase : w.phase thread with
  | idle => simp [Queue.secondStatement, phase] at h
  | merging taskId updates row invoked =>
    simp only [Queue.secondStatement, phase] at h
    rw [phase] at fits
    have locked : (w.phase thread).holdsLock = true := by rw [phase]; rfl
    cases written : writeTask taskId (row.data.update updates) w.rows with
    | none =>
      rw [written] at h
      rw [← Option.some.inj h]
      refine inv.take fits.2 ?_ fun other _ => inv.stable_same other
      simp only [perform, fits.1, written]
    | some rows =>
      rw [written] at h
      rw [← Option.some.inj h]
      refine inv.take fits.2 ?_ (inv.stable_locked locked rows)
      simp only [perform, fits.1, written]
  | rewriting fn tasks invoked =>
    simp only [Queue.secondStatement, phase] at h
    rw [phase] at fits
    have locked : (w.phase thread).holdsLock = true := by rw [phase]; rfl
    cases saved : saveTasks (fn tasks) with
    | none =>
      rw [saved] at h
      rw [← Option.some.inj h]
      refine inv.take fits.2 ?_ fun other _ => inv.stable_same other
      simp only [perform, fits.1, saved]
    | some rows =>
      rw [saved] at h
      rw [← Option.some.inj h]
      refine inv.take fits.2 ?_ (inv.stable_locked locked rows)
      simp only [perform, fits.1, saved]
  | lookingUp taskId updates forbiddenStatus missing invoked =>
    simp only [Queue.secondStatement, phase] at h
    simp only [undisturbed, phase] at ok
    rw [phase] at fits
    obtain ⟨past, accepted, fresh, rejected⟩ := fits
    cases found : selectTask taskId w.rows with
    | none =>
      rw [found] at h
      rw [← Option.some.inj h]
      refine inv.take past.le ?_ fun other _ => inv.stable_same other
      rw [perform_unmatched accepted, found]
      · rfl
      · intro row hrow
        have different := List.find?_eq_none.1 found row hrow
        unfold guarded
        rw [decide_eq_false_iff_not]
        exact fun guard => different (decide_eq_true guard.1)
    | some row =>
      rw [found] at h
      rw [← Option.some.inj h]
      cases missing with
      | true =>
        refine inv.take past.le ?_ fun other _ => inv.stable_same other
        rw [Bool.not_true, Bool.false_or, List.all_eq_true] at ok
        rw [perform_unmatched accepted, found]
        · rfl
        · intro row hrow
          simpa using ok row hrow
      | false =>
        refine inv.returns ?_ ?_
        · have late := inv.linearized.late (le_refl invoked) past fresh (rejected rfl)
          rw [inv.current] at late
          exact late
        · intro other different
          cases at_ : w.phase other with
          | idle => trivial
          | merging otherId updates' row invoked' => rfl
          | rewriting fn tasks invoked' => rfl
          | lookingUp otherId updates' other' missing invoked' =>
            intro same
            have at_other : (w.phase other).point = some invoked := by
              rw [at_]
              exact congrArg some same.symm
            exact different (inv.apart other thread invoked at_other (by rw [phase]; rfl))

end Runs

theorem Invariant.step {fromisoformat : String → Option ℚ} {initial : List Row} {w w' : Queue n}
    {a : Action n} (inv : Invariant fromisoformat initial w) (ok : undisturbed w a = true)
    (h : step fromisoformat w a = some w') : Invariant fromisoformat initial w' := by
  cases a with
  | call thread call =>
    simp only [TaskQueueRuns.step] at h
    split at h
    · exact inv.firstStatement ok h
    · cases h
  | advance thread => exact inv.secondStatement ok h

/-! ## The queue -/

/-- The `UPDATE` of `update_task_if_status` leaves a task of the forbidden status as it is. -/
theorem forbidden_kept {fromisoformat : String → Option ℚ} {w w' : Queue n} {thread : Fin n}
    {taskId forbiddenStatus : String} {updates : Task}
    (h : step fromisoformat w (.call thread (.updateTaskIfStatus taskId updates forbiddenStatus)) =
      some w') {i : ℕ} {row : Row} (found : w.rows[i]? = some row)
    (forbidden : row.status = forbiddenStatus) : w'.rows[i]? = some row := by
  simp only [step] at h
  split at h
  · simp only [Queue.firstStatement] at h
    cases answer : guardedUpdate taskId updates forbiddenStatus w.rows with
    | raised =>
      rw [answer] at h
      rw [← Option.some.inj h]
      exact found
    | changed rows =>
      rw [answer] at h
      rw [← Option.some.inj h]
      change rows[i]? = some row
      rw [(guardedUpdate_changed answer).2.2.2, List.getElem?_map, found, Option.map_some, if_neg]
      intro guard
      exact (of_decide_eq_true guard).2 forbidden
    | unmatched =>
      rw [answer] at h
      rw [← Option.some.inj h]
      exact found
  · cases h

/-- None of the calls, one after the other from these rows on, sets the field. -/
def Unset (fromisoformat : String → Option ℚ) (taskId key : String) :
    List Row → List (Event Call Result) → Prop
  | _, [] => True
  | rows, e :: events => ¬ e.call.sets fromisoformat taskId key rows ∧
    Unset fromisoformat taskId key (perform fromisoformat e.call rows).1 events

/-- What an `UPDATED` call has set stays until a later call sets it. -/
def Lasting (fromisoformat : String → Option ℚ) (initial rows : List Row)
    (order : List (Event Call Result)) : Prop :=
  ∀ before e after taskId updates forbiddenStatus key value, order = before ++ e :: after →
    e.call = .updateTaskIfStatus taskId updates forbiddenStatus →
    e.result = .outcome .updated → updates.get key = some value →
    Unset fromisoformat taskId key
      (replay (perform fromisoformat) initial (before ++ [e])) after →
    fieldAt taskId key rows = some value.stored

theorem fieldAt_unset {fromisoformat : String → Option ℚ} {taskId key : String}
    {rows rows' : List Row} {events : List (Event Call Result)}
    (legal : Legal (perform fromisoformat) rows events rows')
    (unset : Unset fromisoformat taskId key rows events) :
    fieldAt taskId key rows' = fieldAt taskId key rows := by
  induction events generalizing rows with
  | nil =>
    change rows = rows' at legal
    rw [legal]
  | cons e events ih => rw [ih legal.2 unset.2, fieldAt_perform unset.1]

theorem lasting_of_legal {fromisoformat : String → Option ℚ} {initial rows : List Row}
    {order : List (Event Call Result)} (sound : Sound initial)
    (legal : Legal (perform fromisoformat) initial order rows) :
    Lasting fromisoformat initial rows order := by
  intro before e after taskId updates forbiddenStatus key value split_ call result given unset
  rw [split_] at legal
  have ⟨m, first, answered, rest⟩ := legal_append.1 legal
  have sound' : Sound m := first.keeps (fun e _ s => sound_perform fromisoformat e.call) sound
  have reached : replay (perform fromisoformat) initial (before ++ [e]) =
      (perform fromisoformat e.call m).1 := by
    unfold replay
    rw [List.foldl_concat]
    exact congrArg (fun rows => (perform fromisoformat e.call rows).1) first.replay
  rw [reached] at unset
  rw [fieldAt_unset rest unset]
  rw [call] at answered ⊢
  exact fieldAt_updated sound' (answered.trans result) given

/-- The calls are those of a sequential order that respects real time, in every run in which no
`update_task_if_status` changes a task between the read and the write of another call and no lookup
of one finds a task that has come since. -/
theorem task_queue_linearizable {fromisoformat : String → Option ℚ} {initial : List Row}
    (sound : Sound initial) {w : Queue n}
    (h : Reaches (step fromisoformat) (fun w a => undisturbed w a = true) (Queue.start n initial)
      w) :
    (∃ order, order.Perm w.events ∧ Legal (perform fromisoformat) initial order w.rows ∧
      (order.Pairwise fun a b => ¬ b.returned < a.invoked) ∧
      Lasting fromisoformat initial w.rows order) ∧
    (∀ thread taskId updates forbiddenStatus w', step fromisoformat w
      (.call thread (.updateTaskIfStatus taskId updates forbiddenStatus)) = some w' →
      ∀ (i : ℕ) (row : Row), w.rows[i]? = some row → row.status = forbiddenStatus →
        w'.rows[i]? = some row) ∧
    Sound w.rows := by
  have inv : Invariant fromisoformat initial w :=
    Reaches.invariant h (invariant_start fromisoformat n initial) fun _ _ _ inv ok step =>
      inv.step ok step
  have ⟨order, perm, legal, real⟩ := inv.linearized.order
  rw [inv.current] at legal
  refine ⟨⟨order, perm, legal, real, lasting_of_legal sound legal⟩, ?_, ?_⟩
  · intro thread taskId updates forbiddenStatus w' stepped i row found forbidden
    exact forbidden_kept stepped found forbidden
  · exact legal.keeps (fun e _ s => sound_perform fromisoformat e.call) sound

/-- A pending task, and the tasks that a request adds. -/
def pendingTask : Task :=
  ⟨[("id", .text "a"), ("status", .text "pending")], by decide⟩

def newTask : Task := ⟨[("id", .text "b"), ("status", .text "pending")], by decide⟩

def cancelled : Task := ⟨[("status", .text "cancelled")], by decide⟩

def pendingRow : Row := ⟨some "a", "pending", none, pendingTask⟩

theorem sound_pendingRow : Sound [pendingRow] where
  unique := by decide
  mirrored row h := by
    rw [List.mem_singleton.1 h]
    rfl

def enqueue : Call := .update fun tasks => tasks ++ [newTask]

def cancel : Call := .updateTaskIfStatus "a" cancelled "processing"

/-- One thread adds a task, and another cancels one after it. -/
def cancelAfterwards : List (Action 2) :=
  [.call 0 enqueue, .advance 0, .call 1 cancel, .call 0 (.getRunnable 0)]

theorem task_queue_linearizable_in_turn :
    let w := final (step fun _ => none) undisturbed (Queue.start 2 [pendingRow]) cancelAfterwards
    (∃ order, order.Perm w.events ∧ Legal (perform fun _ => none) [pendingRow] order w.rows ∧
      (order.Pairwise fun a b => ¬ b.returned < a.invoked) ∧
      Lasting (fun _ => none) [pendingRow] w.rows order) ∧
    (∀ thread taskId updates forbiddenStatus w', step (fun _ => none) w
      (.call thread (.updateTaskIfStatus taskId updates forbiddenStatus)) = some w' →
      ∀ (i : ℕ) (row : Row), w.rows[i]? = some row → row.status = forbiddenStatus →
        w'.rows[i]? = some row) ∧
    Sound w.rows :=
  task_queue_linearizable sound_pendingRow
    (reaches_final undisturbed _ cancelAfterwards (by decide +kernel))

/-- The task is cancelled between the read and the write of the thread that adds one. -/
def cancelBetween : List (Action 2) := [.call 0 enqueue, .call 1 cancel, .advance 0]

/-- The cancelled task is pending again, which no order of the two calls explains. -/
theorem cancel_undone :
    ¬ ∀ (fromisoformat : String → Option ℚ) (initial : List Row) (w : Queue 2), Sound initial →
      Reaches (step fromisoformat) (fun _ _ => True) (Queue.start 2 initial) w →
      (∀ thread, w.phase thread = .idle) →
      ∃ order, order.Perm w.events ∧ Legal (perform fromisoformat) initial order w.rows := by
  intro h
  let last : Queue 2 :=
    final (step fun _ => none) (fun _ _ => true) (Queue.start 2 [pendingRow]) cancelBetween
  have run : Reaches (step fun _ => none) (fun _ _ => True) (Queue.start 2 [pendingRow]) last :=
    Reaches.mono (reaches_final (fun _ _ => true) _ cancelBetween (by decide +kernel))
      fun _ _ _ => trivial
  have returned : ∀ thread, last.phase thread = .idle := Fin.forall_fin_two.2 ⟨rfl, rfl⟩
  have ⟨order, perm, legal⟩ := h _ _ last sound_pendingRow run returned
  have events : last.events = [⟨cancel, .outcome .updated, 1, 1, 1⟩,
      ⟨enqueue, .tasks [pendingTask, newTask], 0, 2, 2⟩] := rfl
  rw [events] at perm
  rcases List.perm_pair.1 perm with eq | eq
  · rw [eq] at legal
    exact absurd legal (by decide +kernel)
  · rw [eq] at legal
    exact absurd legal (by decide +kernel)

end BacklinkPublisher.TaskQueueRuns
