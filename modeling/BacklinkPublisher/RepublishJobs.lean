import BacklinkPublisher.Keepalive
import BacklinkPublisher.Texts
import BacklinkPublisher.TransitionSystems
import Mathlib.Data.Fintype.Basic
import Mathlib.Data.List.Sort

set_option autoImplicit false

/-!
# Republish jobs

`issue_confirm_token`, `start_republish` and `_run_republish` of `KeepaliveJobRegistry` in
`webui_app/services/keepalive_job.py`, with `n` request threads and one worker thread a job. A call
of `gap_fn`, a lock block and a turn of a worker's loop are one step each. `closed` are the gaps
that the workers have closed and that have not opened again.
-/
namespace BacklinkPublisher.RepublishJobs
open TransitionSystems OrderedDicts Keepalive
open scoped List
open scoped Texts

/-- The target and the platform of a gap. -/
abbrev Gap := String × String

def gapOf (seed : Seed) : Gap := (seed.targetUrl, seed.platform)

/-- `uuid4` gives every token a new number. -/
structure Nonce where
  token : ℕ
  fingerprint : String
  deriving DecidableEq, Repr

inductive Status where
  | running
  | done
  | error
  deriving DecidableEq, Repr

/-- What a job was inserted with: its token, its plan, and the gaps closed at that moment. -/
structure Launch where
  token : ℕ
  plan : List Seed
  closed : List Gap
  deriving DecidableEq, Repr

structure RepublishJob where
  launch : Launch
  status : Status
  /-- What the loop over the plan has left. -/
  publishing : List Seed
  results : List PublishResult
  published : ℕ
  failed : ℕ
  /-- What the loop over `ok_results` has left, once it is reached. -/
  reverifying : Option (List PublishResult)
  restripped : ℕ
  confirmedAlive : ℕ
  state : String
  deriving DecidableEq, Repr

def RepublishJob.new (launch : Launch) : RepublishJob where
  launch := launch
  status := .running
  publishing := launch.plan
  results := []
  published := 0
  failed := 0
  reverifying := none
  restripped := 0
  confirmedAlive := 0
  state := ""

inductive UsageError where
  | nonSticky
  | alreadyRunning
  | invalidToken
  | gapSetChanged
  deriving DecidableEq, Repr

/-- Where a request thread is in its call. -/
inductive Phase where
  | idle
  | refused (error : UsageError)
  | issuing (fingerprint : String)
  | starting (fingerprint : String) (plan : List Seed) (confirmToken : ℕ)
  deriving DecidableEq, Repr

def Phase.free : Phase → Bool
  | .idle | .refused _ => true
  | .issuing _ | .starting _ _ _ => false

def Phase.plan : Phase → List Seed
  | .starting _ plan _ => plan
  | _ => []

structure Registry (n : ℕ) where
  /-- What `gap_fn` returns. -/
  gaps : List Seed
  closed : List Gap
  confirmNonces : List Nonce
  issued : ℕ
  jobs : List RepublishJob
  phase : Fin n → Phase
  deriving DecidableEq

def Registry.start (n : ℕ) (gaps : List Seed) : Registry n := ⟨gaps, [], [], 0, [], fun _ => .idle⟩

inductive Action (n : ℕ) where
  /-- The gaps change other than by a worker. -/
  | observe (gaps : List Seed)
  /-- `gap_fn` of `issue_confirm_token`, and its lock block. -/
  | derive (thread : Fin n)
  | issue (thread : Fin n)
  /-- `gap_fn` of `start_republish`, and its lock block. -/
  | plan (thread : Fin n) (selectedTargets : List String) (confirmToken : ℕ)
  | insert (thread : Fin n)
  | publish (job : ℕ) (outcome : PublishOutcome)
  | recheck (job : ℕ)
  | reverify (job : ℕ) (verdict : String)
  | finish (job : ℕ)
  | crash (job : ℕ)
  deriving DecidableEq, Repr

variable {n : ℕ}

def Registry.goto (w : Registry n) (thread : Fin n) (phase : Phase) : Registry n :=
  { w with phase := Function.update w.phase thread phase }

def Registry.setJob (w : Registry n) (job : ℕ) (value : RepublishJob) : Registry n :=
  { w with jobs := w.jobs.set job value }

/-- The running job of a number. -/
def Registry.worker (w : Registry n) (job : ℕ) : Option RepublishJob :=
  (w.jobs[job]?).filter fun value => value.status = .running

def republishState (job : RepublishJob) : String :=
  if 0 < job.restripped then "treadmill"
  else if job.published = 0 then "all_failed"
  else if job.failed = 0 then "all_success"
  else "partial_success"

def RepublishJob.record (job : RepublishJob) (result : PublishResult) : RepublishJob :=
  { job with
    results := job.results ++ [result]
    published := job.published + if result.publishedUrl ≠ "" then 1 else 0
    failed := job.failed + if result.publishedUrl ≠ "" then 0 else 1 }

def RepublishJob.reverified (job : RepublishJob) (verdict : String) : RepublishJob :=
  if verdict ∈ deadVerdicts then { job with restripped := job.restripped + 1 }
  else if verdict = "alive" then { job with confirmedAlive := job.confirmedAlive + 1 }
  else job

/-- A new URL that is alive closes the gap of its seed. -/
def Registry.close (w : Registry n) (gap : Gap) : Registry n :=
  { w with
    gaps := w.gaps.filter fun seed => gapOf seed ≠ gap
    closed := w.closed ++ [gap] }

section Steps
-- the hash of the JSON text, cut to 16 characters
variable (digest : List Gap → String) (stickyPlatforms : List String)

def gapFingerprint (seeds : List Seed) : String :=
  digest ((seeds.map gapOf).insertionSort fun a b => a.1 < b.1 ∨ (a.1 = b.1 ∧ a.2 ≤ b.2))

def planOf (seeds : List Seed) (selectedTargets : List String) : List Seed :=
  seeds.filter fun seed => seed.targetUrl ∈ selectedTargets ∧ seed.platform ∈ stickyPlatforms

/-- The lock block of `start_republish`. -/
def Registry.insertJob (w : Registry n) (thread : Fin n) (fingerprint : String) (plan : List Seed)
    (confirmToken : ℕ) : Registry n :=
  if w.jobs.any fun job => job.status = .running then w.goto thread (.refused .alreadyRunning)
  else
    let popped := { w with confirmNonces := remove Nonce.token confirmToken w.confirmNonces }
    match lookup Nonce.token confirmToken w.confirmNonces with
    | none => popped.goto thread (.refused .invalidToken)
    | some nonce =>
      if nonce.fingerprint ≠ fingerprint then popped.goto thread (.refused .gapSetChanged)
      else
        { popped.goto thread .idle with
          jobs := w.jobs ++ [.new ⟨confirmToken, plan, w.closed⟩] }

def step (w : Registry n) : Action n → Option (Registry n)
  | .observe gaps =>
    some { w with gaps := gaps, closed := w.closed.filter fun gap => gap ∉ gaps.map gapOf }
  | .derive thread =>
    if (w.phase thread).free then some (w.goto thread (.issuing (gapFingerprint digest w.gaps)))
    else none
  | .issue thread =>
    match w.phase thread with
    | .issuing fingerprint =>
      some { w.goto thread .idle with
        confirmNonces := w.confirmNonces ++ [⟨w.issued, fingerprint⟩]
        issued := w.issued + 1 }
    | _ => none
  | .plan thread selectedTargets confirmToken =>
    if (w.phase thread).free then
      if w.gaps.any fun seed => seed.platform ∉ stickyPlatforms then
        some (w.goto thread (.refused .nonSticky))
      else
        some (w.goto thread (.starting (gapFingerprint digest w.gaps)
          (planOf stickyPlatforms w.gaps selectedTargets) confirmToken))
    else none
  | .insert thread =>
    match w.phase thread with
    | .starting fingerprint plan confirmToken =>
      some (w.insertJob thread fingerprint plan confirmToken)
    | _ => none
  | .publish job outcome =>
    match w.worker job with
    | some value =>
      match value.publishing with
      | seed :: publishing =>
        some (w.setJob job { value.record (publishSeed seed outcome) with publishing := publishing })
      | [] => none
    | none => none
  | .recheck job =>
    match w.worker job with
    | some value =>
      if value.publishing = [] ∧ value.reverifying = none then
        some (w.setJob job { value with
          reverifying := some (value.results.filter fun result => result.publishedUrl ≠ "") })
      else none
    | none => none
  | .reverify job verdict =>
    match w.worker job with
    | some value =>
      match value.reverifying with
      | some (result :: rest) =>
        let next := w.setJob job { value.reverified verdict with reverifying := some rest }
        some (if verdict = "alive" then next.close (result.targetUrl, result.platform) else next)
      | _ => none
    | none => none
  | .finish job =>
    match w.worker job with
    | some value =>
      if value.reverifying = some [] then
        some (w.setJob job { value with state := republishState value, status := .done })
      else none
    | none => none
  | .crash job => (w.worker job).map fun value => w.setJob job { value with status := .error }

end Steps

/-- The gap that a step of a worker closes. -/
def closing (w : Registry n) : Action n → Option Gap
  | .reverify job verdict =>
    match (w.worker job).bind RepublishJob.reverifying with
    | some (result :: _) =>
      if verdict = "alive" then some (result.targetUrl, result.platform) else none
    | _ => none
  | _ => none

/-- No gap is closed while a `start_republish` that has planned to republish it is before its
lock block. -/
def undisturbed (w : Registry n) (a : Action n) : Bool :=
  (closing w a).all fun gap => decide (∀ thread, gap ∉ (w.phase thread).plan.map gapOf)

/-! ## What every step keeps -/

def Registry.runs (w : Registry n) (job : ℕ) : Prop :=
  ∃ value, w.jobs[job]? = some value ∧ value.status = .running

def Registry.launches (w : Registry n) : List Launch := w.jobs.map RepublishJob.launch

theorem worker_eq_some {w : Registry n} {job : ℕ} {value : RepublishJob}
    (h : w.worker job = some value) : w.jobs[job]? = some value ∧ value.status = .running := by
  unfold Registry.worker at h
  rw [Option.filter_eq_some_iff] at h
  exact ⟨h.1, of_decide_eq_true h.2⟩

theorem launches_setJob {w : Registry n} {job : ℕ} {old value : RepublishJob}
    (found : w.worker job = some old) (same : value.launch = old.launch) :
    (w.setJob job value).launches = w.launches := by
  have ⟨here, _⟩ := worker_eq_some found
  unfold Registry.launches Registry.setJob
  apply List.ext_getElem?
  intro i
  rw [List.getElem?_map, List.getElem?_map, List.getElem?_set]
  split_ifs with at_job bound
  · subst at_job
    rw [here]
    exact congrArg some same
  · subst at_job
    rw [List.getElem?_eq_none (by omega)]
  · rfl

theorem runs_setJob {w : Registry n} {job : ℕ} {old value : RepublishJob}
    (found : w.worker job = some old) {i : ℕ} (h : (w.setJob job value).runs i) : w.runs i := by
  have ⟨next, here, running⟩ := h
  change (w.jobs.set job value)[i]? = some next at here
  by_cases same : job = i
  · subst same
    exact ⟨old, worker_eq_some found⟩
  · rw [List.getElem?_set_ne same] at here
    exact ⟨next, here, running⟩

/-- A step of a worker changes its own job only, and not its launch. -/
structure WorkerStep (w w' : Registry n) : Prop where
  launches : w'.launches = w.launches
  runs : ∀ i, w'.runs i → w.runs i
  confirmNonces : w'.confirmNonces = w.confirmNonces
  issued : w'.issued = w.issued
  phase : w'.phase = w.phase

theorem workerStep_setJob {w : Registry n} {job : ℕ} {old value : RepublishJob}
    (found : w.worker job = some old) (same : value.launch = old.launch) :
    WorkerStep w (w.setJob job value) where
  launches := launches_setJob found same
  runs _ := runs_setJob found
  confirmNonces := rfl
  issued := rfl
  phase := rfl

section Runs
variable {digest : List Gap → String} {stickyPlatforms : List String}

def Registry.issueToken (w : Registry n) (thread : Fin n) (fingerprint : String) : Registry n :=
  { w.goto thread .idle with
    confirmNonces := w.confirmNonces ++ [⟨w.issued, fingerprint⟩]
    issued := w.issued + 1 }

/-- What a step can do. -/
inductive Effect (w : Registry n) (a : Action n) (w' : Registry n) : Prop where
  | observe (gaps : List Seed)
      (eq : w' = { w with gaps := gaps, closed := w.closed.filter fun gap => gap ∉ gaps.map gapOf })
  | goto (thread : Fin n) (phase : Phase) (eq : w' = w.goto thread phase)
      (plan : ∀ seed ∈ phase.plan, seed ∈ w.gaps)
  | issue (thread : Fin n) (fingerprint : String) (eq : w' = w.issueToken thread fingerprint)
  | insert (thread : Fin n) (fingerprint : String) (plan : List Seed) (confirmToken : ℕ)
      (phase : w.phase thread = .starting fingerprint plan confirmToken)
      (eq : w' = w.insertJob thread fingerprint plan confirmToken)
  | work (next : Registry n) (worker : WorkerStep w next) (gaps : next.gaps = w.gaps)
      (closed : next.closed = w.closed)
      (eq : w' = match closing w a with
        | some gap => next.close gap
        | none => next)

theorem effect_setJob {w : Registry n} {a : Action n} {job : ℕ} {old value : RepublishJob}
    (quiet : closing w a = none) (found : w.worker job = some old)
    (same : value.launch = old.launch) : Effect w a (w.setJob job value) :=
  .work _ (workerStep_setJob found same) rfl rfl (by rw [quiet])

theorem effect_of_step {w w' : Registry n} {a : Action n}
    (h : step digest stickyPlatforms w a = some w') : Effect w a w' := by
  cases a with
  | observe gaps => exact .observe gaps (Option.some.inj h).symm
  | derive thread =>
    simp only [step] at h
    split_ifs at h
    exact .goto thread _ (Option.some.inj h).symm (by simp [Phase.plan])
  | issue thread =>
    simp only [step] at h
    split at h
    · rename_i fingerprint _
      exact .issue thread fingerprint (Option.some.inj h).symm
    · cases h
  | plan thread selectedTargets confirmToken =>
    simp only [step] at h
    split_ifs at h
    · exact .goto thread _ (Option.some.inj h).symm (by simp [Phase.plan])
    · refine .goto thread _ (Option.some.inj h).symm ?_
      intro seed hseed
      exact List.mem_of_mem_filter hseed
  | insert thread =>
    simp only [step] at h
    split at h
    · rename_i fingerprint plan confirmToken phase
      exact .insert thread fingerprint plan confirmToken phase (Option.some.inj h).symm
    · cases h
  | publish job outcome =>
    simp only [step] at h
    split at h
    · rename_i value found
      split at h
      · cases h
        exact effect_setJob rfl found rfl
      · cases h
    · cases h
  | recheck job =>
    simp only [step] at h
    split at h
    · rename_i value found
      split_ifs at h
      cases h
      exact effect_setJob rfl found rfl
    · cases h
  | reverify job verdict =>
    simp only [step] at h
    split at h
    · rename_i value found
      split at h
      · rename_i result rest reverifying
        have launch : (value.reverified verdict).launch = value.launch := by
          unfold RepublishJob.reverified
          split_ifs <;> rfl
        have worker : WorkerStep w (w.setJob job { value.reverified verdict with
            reverifying := some rest }) := workerStep_setJob found launch
        refine .work _ worker rfl rfl ?_
        simp only [closing, found, Option.bind_some, reverifying]
        split_ifs at h ⊢ with alive
        · exact (Option.some.inj h).symm
        · exact (Option.some.inj h).symm
      · cases h
    · cases h
  | finish job =>
    simp only [step] at h
    split at h
    · rename_i value found
      split_ifs at h
      cases h
      exact effect_setJob rfl found rfl
    · cases h
  | crash job =>
    have ⟨value, found, eq⟩ := Option.map_eq_some_iff.1 h
    exact eq ▸ effect_setJob rfl found rfl

/-- The tokens that are out, and those that have started a job. -/
def Registry.tokens (w : Registry n) : List ℕ :=
  w.confirmNonces.map Nonce.token ++ w.launches.map Launch.token

/-- What holds in every run. -/
structure Exclusive (w : Registry n) : Prop where
  one : ∀ i j, w.runs i → w.runs j → i = j
  fresh : ∀ token ∈ w.tokens, token < w.issued
  nodup : w.tokens.Nodup

/-- What holds where no gap is closed under a waiting start. -/
structure Open (w : Registry n) : Prop where
  gaps : ∀ seed ∈ w.gaps, gapOf seed ∉ w.closed
  plans : ∀ thread, ∀ seed ∈ (w.phase thread).plan, gapOf seed ∉ w.closed
  launched : ∀ launch ∈ w.launches, ∀ seed ∈ launch.plan, gapOf seed ∉ launch.closed

theorem exclusive_start (n : ℕ) (gaps : List Seed) : Exclusive (Registry.start n gaps) where
  one _ _ h := by
    have ⟨_, found, _⟩ := h
    cases found
  fresh _ h := by cases h
  nodup := List.nodup_nil

theorem open_start (n : ℕ) (gaps : List Seed) : Open (Registry.start n gaps) where
  gaps _ _ h := by cases h
  plans _ _ h := by cases h
  launched _ h := by cases h

/-- The lock block inserts a job only where none is running and the token is out. -/
theorem insertJob_cases (w : Registry n) (thread : Fin n) (fingerprint : String)
    (plan : List Seed) (confirmToken : ℕ) :
    (∃ error, w.insertJob thread fingerprint plan confirmToken = w.goto thread (.refused error)) ∨
    (∃ error, w.insertJob thread fingerprint plan confirmToken =
      { w with confirmNonces := remove Nonce.token confirmToken w.confirmNonces }.goto thread
        (.refused error)) ∨
    ((∀ job, ¬ w.runs job) ∧ confirmToken ∈ w.confirmNonces.map Nonce.token ∧
      w.insertJob thread fingerprint plan confirmToken =
        { { w with confirmNonces := remove Nonce.token confirmToken w.confirmNonces }.goto thread
            .idle with
          jobs := w.jobs ++ [.new ⟨confirmToken, plan, w.closed⟩] }) := by
  unfold Registry.insertJob
  by_cases running : w.jobs.any (fun job => job.status = .running) = true
  · rw [if_pos running]
    exact .inl ⟨_, rfl⟩
  · rw [if_neg running]
    right
    cases found : lookup Nonce.token confirmToken w.confirmNonces with
    | none => exact .inl ⟨_, rfl⟩
    | some nonce =>
      by_cases changed : nonce.fingerprint ≠ fingerprint
      · exact .inl ⟨.gapSetChanged, by simp only [if_pos changed]⟩
      · refine .inr ⟨?_, ?_, by simp only [if_neg changed]⟩
        · intro job ⟨value, here, runs⟩
          apply running
          rw [List.any_eq_true]
          exact ⟨value, List.mem_of_getElem? here, decide_eq_true runs⟩
        · unfold lookup at found
          have same : nonce.token = confirmToken := by simpa using List.find?_some found
          exact same ▸ List.mem_map_of_mem (List.mem_of_find?_eq_some found)

theorem tokens_remove {nonces : List Nonce} (nodup : (nonces.map Nonce.token).Nodup)
    (token : ℕ) :
    (remove Nonce.token token nonces).map Nonce.token = (nonces.map Nonce.token).erase token := by
  rw [nodup.erase_eq_filter, List.filter_map]
  unfold remove
  congr 1
  apply List.filter_congr
  intro nonce _
  by_cases same : nonce.token = token <;> simp [same]

theorem Exclusive.pop {w : Registry n} (inv : Exclusive w) (token : ℕ) :
    Exclusive { w with confirmNonces := remove Nonce.token token w.confirmNonces } := by
  have sublist : (remove Nonce.token token w.confirmNonces).map Nonce.token ++
      w.launches.map Launch.token <+ w.tokens :=
    ((List.filter_sublist).map _).append_right _
  constructor
  case one => exact inv.one
  case fresh =>
    intro t ht
    exact inv.fresh t (sublist.subset ht)
  case nodup => exact inv.nodup.sublist sublist

theorem Exclusive.launch {w : Registry n} (inv : Exclusive w) {thread : Fin n} {plan : List Seed}
    {confirmToken : ℕ} (idle : ∀ job, ¬ w.runs job)
    (out : confirmToken ∈ w.confirmNonces.map Nonce.token) :
    Exclusive { { w with
        confirmNonces := remove Nonce.token confirmToken w.confirmNonces }.goto thread .idle with
      jobs := w.jobs ++ [.new ⟨confirmToken, plan, w.closed⟩] } := by
  have unique := inv.nodup
  unfold Registry.tokens at unique
  have perm : (remove Nonce.token confirmToken w.confirmNonces).map Nonce.token ++
      (w.jobs ++ [RepublishJob.new ⟨confirmToken, plan, w.closed⟩]).map
        (fun job => job.launch.token) ~ w.tokens := by
    rw [tokens_remove (List.nodup_append.1 unique).1, List.map_append, List.map_singleton,
      ← List.append_assoc]
    refine (List.perm_append_singleton _ _).trans ?_
    have restored := List.perm_cons_erase out
    have tail : w.launches.map Launch.token = w.jobs.map fun job => job.launch.token := by
      unfold Registry.launches
      rw [List.map_map]
      rfl
    unfold Registry.tokens
    rw [tail]
    exact (restored.append_right _).symm
  have tokens : ∀ w' : Registry n, w'.tokens = w'.confirmNonces.map Nonce.token ++
      w'.jobs.map fun job => job.launch.token := by
    intro w'
    unfold Registry.tokens Registry.launches
    rw [List.map_map]
    rfl
  constructor
  case one =>
    have last : ∀ i, (∃ value, (w.jobs ++ [RepublishJob.new ⟨confirmToken, plan, w.closed⟩])[i]? =
        some value ∧ value.status = .running) → i = w.jobs.length := by
      intro i ⟨value, found, running⟩
      by_cases old : i < w.jobs.length
      · rw [List.getElem?_append_left old] at found
        exact absurd ⟨value, found, running⟩ (idle i)
      · have bound := (List.getElem?_eq_some_iff.1 found).1
        rw [List.length_append, List.length_singleton] at bound
        omega
    intro i j hi hj
    rw [last i hi, last j hj]
  case fresh =>
    intro t ht
    rw [tokens] at ht
    exact inv.fresh t (perm.subset ht)
  case nodup =>
    rw [tokens]
    exact perm.nodup_iff.2 inv.nodup

theorem Exclusive.issue {w : Registry n} (inv : Exclusive w) (thread : Fin n)
    (fingerprint : String) : Exclusive (w.issueToken thread fingerprint) := by
  have perm : (w.issueToken thread fingerprint).tokens ~ w.issued :: w.tokens := by
    unfold Registry.tokens Registry.issueToken
    rw [List.map_append, List.map_singleton, List.append_assoc]
    exact List.perm_middle
  constructor
  case one => exact inv.one
  case fresh =>
    intro t ht
    change t < w.issued + 1
    rcases List.mem_cons.1 (perm.subset ht) with rfl | old
    · omega
    · have before := inv.fresh t old
      omega
  case nodup =>
    rw [perm.nodup_iff, List.nodup_cons]
    refine ⟨?_, inv.nodup⟩
    intro known
    have before := inv.fresh _ known
    omega

theorem WorkerStep.exclusive {w w' : Registry n} (worker : WorkerStep w w') (inv : Exclusive w) :
    Exclusive w' := by
  have tokens : w'.tokens = w.tokens := by
    unfold Registry.tokens
    rw [worker.confirmNonces, worker.launches]
  constructor
  case one =>
    intro i j hi hj
    exact inv.one i j (worker.runs i hi) (worker.runs j hj)
  case fresh =>
    rw [tokens, worker.issued]
    exact inv.fresh
  case nodup =>
    rw [tokens]
    exact inv.nodup

theorem Exclusive.step {w w' : Registry n} {a : Action n} (inv : Exclusive w)
    (h : step digest stickyPlatforms w a = some w') : Exclusive w' := by
  cases effect_of_step h with
  | observe gaps eq => exact eq ▸ ⟨inv.one, inv.fresh, inv.nodup⟩
  | goto thread phase eq _ => exact eq ▸ ⟨inv.one, inv.fresh, inv.nodup⟩
  | issue thread fingerprint eq => exact eq ▸ inv.issue thread fingerprint
  | insert thread fingerprint plan confirmToken _ eq =>
    rw [eq]
    rcases insertJob_cases w thread fingerprint plan confirmToken with
      ⟨error, same⟩ | ⟨error, popped⟩ | ⟨idle, out, inserted⟩
    · rw [same]
      exact ⟨inv.one, inv.fresh, inv.nodup⟩
    · rw [popped]
      have inv := inv.pop confirmToken
      exact ⟨inv.one, inv.fresh, inv.nodup⟩
    · rw [inserted]
      exact inv.launch idle out
  | work next worker _ _ eq =>
    have inv := worker.exclusive inv
    rw [eq]
    split
    · exact ⟨inv.one, inv.fresh, inv.nodup⟩
    · exact inv

theorem Open.goto {w : Registry n} (inv : Open w) (thread : Fin n) {phase : Phase}
    (open_ : ∀ seed ∈ phase.plan, gapOf seed ∉ w.closed) : Open (w.goto thread phase) where
  gaps := inv.gaps
  plans other seed hseed := by
    change seed ∈ (Function.update w.phase thread phase other).plan at hseed
    rw [Function.update_apply] at hseed
    split_ifs at hseed
    · exact open_ seed hseed
    · exact inv.plans other seed hseed
  launched := inv.launched

theorem Open.insert {w : Registry n} (inv : Open w) {thread : Fin n} {fingerprint : String}
    {plan : List Seed} {confirmToken : ℕ}
    (phase : w.phase thread = .starting fingerprint plan confirmToken) :
    Open (w.insertJob thread fingerprint plan confirmToken) := by
  have returned : ∀ phase : Phase, phase.plan = [] →
      ∀ seed ∈ phase.plan, gapOf seed ∉ w.closed := by
    intro phase none seed hseed
    rw [none] at hseed
    cases hseed
  rcases insertJob_cases w thread fingerprint plan confirmToken with
    ⟨error, same⟩ | ⟨error, popped⟩ | ⟨_, _, inserted⟩
  · rw [same]
    exact inv.goto thread (returned _ rfl)
  · rw [popped]
    have inv := inv.goto thread (returned (.refused error) rfl)
    exact ⟨inv.gaps, inv.plans, inv.launched⟩
  · rw [inserted]
    have back := inv.goto thread (returned .idle rfl)
    refine ⟨back.gaps, back.plans, ?_⟩
    intro launch hlaunch
    unfold Registry.launches at hlaunch
    rw [List.map_append, List.mem_append] at hlaunch
    rcases hlaunch with old | new
    · exact inv.launched launch old
    · rw [List.map_singleton, List.mem_singleton] at new
      rw [new]
      intro seed hseed
      apply inv.plans thread seed
      rw [phase]
      exact hseed

theorem WorkerStep.isOpen {w w' : Registry n} (worker : WorkerStep w w') (gaps : w'.gaps = w.gaps)
    (closed : w'.closed = w.closed) (inv : Open w) : Open w' where
  gaps := by
    rw [gaps, closed]
    exact inv.gaps
  plans := by
    rw [worker.phase, closed]
    exact inv.plans
  launched := by
    rw [worker.launches]
    exact inv.launched

theorem Open.close {w : Registry n} (inv : Open w) {gap : Gap}
    (unplanned : ∀ thread, gap ∉ (w.phase thread).plan.map gapOf) : Open (w.close gap) where
  gaps seed hseed := by
    have ⟨here, other⟩ := List.mem_filter.1 hseed
    have other : gapOf seed ≠ gap := of_decide_eq_true other
    change gapOf seed ∉ w.closed ++ [gap]
    rw [List.mem_append, List.mem_singleton]
    rintro (before | now)
    · exact inv.gaps seed here before
    · exact other now
  plans thread seed hseed := by
    change gapOf seed ∉ w.closed ++ [gap]
    rw [List.mem_append, List.mem_singleton]
    rintro (before | now)
    · exact inv.plans thread seed hseed before
    · exact unplanned thread (now ▸ List.mem_map_of_mem hseed)
  launched := inv.launched

theorem Open.step {w w' : Registry n} {a : Action n} (inv : Open w)
    (quiet : undisturbed w a = true) (h : step digest stickyPlatforms w a = some w') :
    Open w' := by
  cases effect_of_step h with
  | observe gaps eq =>
    rw [eq]
    constructor
    case gaps =>
      intro seed hseed hclosed
      have reopened : gapOf seed ∉ gaps.map gapOf :=
        of_decide_eq_true (List.mem_filter.1 hclosed).2
      exact reopened (List.mem_map_of_mem hseed)
    case plans =>
      intro thread seed hseed hclosed
      exact inv.plans thread seed hseed (List.mem_of_mem_filter hclosed)
    case launched => exact inv.launched
  | goto thread phase eq plan =>
    rw [eq]
    exact inv.goto thread fun seed hseed => inv.gaps seed (plan seed hseed)
  | issue thread fingerprint eq =>
    have back : Open (w.goto thread .idle) := inv.goto thread fun _ hseed => by cases hseed
    exact eq ▸ ⟨back.gaps, back.plans, back.launched⟩
  | insert thread fingerprint plan confirmToken phase eq => exact eq ▸ inv.insert phase
  | work next worker gaps closed eq =>
    have inv := worker.isOpen gaps closed inv
    rw [eq]
    split
    · rename_i gap closes
      apply inv.close
      rw [worker.phase]
      unfold undisturbed at quiet
      rw [closes, Option.all_some] at quiet
      exact of_decide_eq_true quiet
    · exact inv

/-- At most one job runs at a time and a token starts at most one job, in every run; and where no
gap is closed under a waiting `start_republish`, no job is started on a closed gap. -/
theorem republishes_open_gaps (digest : List Gap → String) (stickyPlatforms : List String) (n : ℕ)
    (gaps : List Seed) (w : Registry n) :
    (Reaches (step digest stickyPlatforms) (fun _ _ => True) (Registry.start n gaps) w →
      (∀ i j, w.runs i → w.runs j → i = j) ∧ (w.launches.map Launch.token).Nodup) ∧
    (Reaches (step digest stickyPlatforms) (fun w a => undisturbed w a = true)
        (Registry.start n gaps) w →
      ∀ launch ∈ w.launches, ∀ seed ∈ launch.plan, gapOf seed ∉ launch.closed) := by
  constructor
  · intro reached
    have inv : Exclusive w := Reaches.invariant reached (exclusive_start n gaps)
      fun _ _ _ inv _ hs => inv.step hs
    exact ⟨inv.one, (List.nodup_append.1 inv.nodup).2.1⟩
  · intro reached
    have inv : Open w := Reaches.invariant reached (open_start n gaps)
      fun _ _ _ inv quiet hs => inv.step quiet hs
    exact inv.launched

section Schedules

def page : Seed := ⟨"https://example.org/page", "blogger", "https://example.org", "en", "A", "draft"⟩

/-- The text that `digest` stands for, without the hash. -/
def joined (gaps : List Gap) : String :=
  gaps.foldl (fun text gap => text ++ gap.1 ++ " " ++ gap.2 ++ "\n") ""

/-- A job closes the gap, which opens again before the second job starts. -/
def jobsInTurn : List (Action 2) :=
  [.derive 0, .issue 0, .plan 0 [page.targetUrl] 0, .insert 0,
    .publish 0 (.url "https://p.blogger.example/1"), .recheck 0, .reverify 0 "alive", .finish 0,
    .observe [page], .derive 1, .issue 1, .plan 1 [page.targetUrl] 1, .insert 1]

def afterJobs : Registry 2 :=
  final (step joined ["blogger"]) undisturbed (Registry.start 2 [page]) jobsInTurn

theorem republishes_open_gaps_in_turn :
    ((∀ i j, afterJobs.runs i → afterJobs.runs j → i = j) ∧
      (afterJobs.launches.map Launch.token).Nodup) ∧
    ∀ launch ∈ afterJobs.launches, ∀ seed ∈ launch.plan, gapOf seed ∉ launch.closed :=
  have reached : Reaches (step joined ["blogger"]) (fun w a => undisturbed w a = true)
      (Registry.start 2 [page]) afterJobs := reaches_final undisturbed _ jobsInTurn (by decide)
  ⟨(republishes_open_gaps joined ["blogger"] 2 [page] afterJobs).1
      (Reaches.mono reached fun _ _ _ => trivial),
    (republishes_open_gaps joined ["blogger"] 2 [page] afterJobs).2 reached⟩

/-- The second request has made its plan before the first job closes the gap, and enters its lock
block after it. -/
def stalePlan : List (Action 2) :=
  [.derive 0, .issue 0, .derive 1, .issue 1, .plan 0 [page.targetUrl] 0, .insert 0,
    .plan 1 [page.targetUrl] 1, .publish 0 (.url "https://p.blogger.example/1"), .recheck 0,
    .reverify 0 "alive", .finish 0, .insert 1]

theorem closed_gap_republished :
    ¬ ∀ (digest : List Gap → String) (stickyPlatforms : List String) (n : ℕ) (gaps : List Seed)
      (w : Registry n),
      Reaches (step digest stickyPlatforms) (fun _ _ => True) (Registry.start n gaps) w →
        ∀ launch ∈ w.launches, ∀ seed ∈ launch.plan, gapOf seed ∉ launch.closed := by
  intro always
  have plans := always joined ["blogger"] 2 [page] _
    (Reaches.mono (reaches_final (fun _ _ => true) _ stalePlan (by decide)) fun _ _ _ => trivial)
  have launched := plans ⟨1, [page], [gapOf page]⟩ (by decide) page (by decide)
  exact launched (by decide)

end Schedules

end Runs

end BacklinkPublisher.RepublishJobs
