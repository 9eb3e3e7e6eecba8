import BacklinkPublisher.TransitionSystems
import Mathlib.Data.Int.Order.Basic
import Mathlib.Logic.Function.Basic
import Mathlib.Tactic.Common

set_option autoImplicit false

/-!
# Publish leases

`acquire_lease` and `release_lease` of `events/store.py`, one SQL statement a
step. A `SELECT` reads the committed table without a lock; the first write of a
transaction takes the write lock and keeps it until the commit. `granted` and
`raised` are ghosts: the leases that calls have returned, and whether a call has
raised. Times are microseconds.
-/
namespace BacklinkPublisher.PublishLeases
open TransitionSystems

structure Lease where
  ownerPid : ℤ
  startedAt : ℤ
  expireAt : ℤ
  deriving DecidableEq, Repr

/-- Where a process is in its current call. `written` holds the write lock: the
row it commits for its host, and the lease its caller then has. -/
inductive Phase where
  | idle
  | called (host : String) (now expire : ℤ)
  | selected (host : String) (now expire : ℤ) (row : Option Lease)
  | inserting (host : String) (now expire : ℤ)
  | updating (host : String) (now expire : ℤ)
  | releasing (host : String)
  | written (host : String) (row : Option Lease) (grant : Option ℤ)
  deriving DecidableEq, Repr

structure World where
  clock : ℤ
  alive : ℤ → Bool
  phase : ℤ → Phase
  table : String → Option Lease
  lock : Option ℤ
  granted : ℤ → String → Option ℤ
  raised : Bool

/-- Any table at any time, before any process has started. -/
def World.start (clock : ℤ) (table : String → Option Lease) : World where
  clock := clock
  alive _ := false
  phase _ := .idle
  table := table
  lock := none
  granted _ _ := none
  raised := false

inductive Action where
  | tick (elapsed : ℕ)
  | spawn (pid : ℤ)
  | die (pid : ℤ)
  /-- `elapsed` is the time between the two clock reads of the call. -/
  | acquire (pid : ℤ) (host : String) (ttl : ℤ) (elapsed : ℕ)
  | select (pid : ℤ)
  | decide (pid : ℤ)
  /-- The lock was not free in time; `_retry_sqlite` runs the transaction again. -/
  | retry (pid : ℤ)
  | release (pid : ℤ) (host : String)
  | write (pid : ℤ)
  | commit (pid : ℤ)
  deriving DecidableEq, Repr

def World.goto (w : World) (pid : ℤ) (phase : Phase) : World :=
  { w with phase := Function.update w.phase pid phase }

def World.pidAlive (w : World) (pid : ℤ) : Bool := decide (0 < pid) && w.alive pid

/-- Expired, owned by the caller, or held by a dead process. -/
def World.takeable (w : World) (pid now : ℤ) (row : Lease) : Bool :=
  decide (row.expireAt < now) || decide (row.ownerPid = pid) || !w.pidAlive row.ownerPid

def World.lockFor (w : World) (pid : ℤ) (host : String) (row : Option Lease) (grant : Option ℤ) :
    World :=
  { w.goto pid (.written host row grant) with lock := some pid }

def step (w : World) : Action → Option World
  | .tick elapsed => some { w with clock := w.clock + elapsed }
  | .spawn pid =>
    if 0 < pid ∧ w.alive pid = false then
      some { w with alive := Function.update w.alive pid true }
    else none
  | .die pid =>
    if w.alive pid then
      some { w.goto pid .idle with
        alive := Function.update w.alive pid false
        lock := if w.lock = some pid then none else w.lock
        granted := Function.update w.granted pid fun _ => none }
    else none
  | .acquire pid host ttl elapsed =>
    if w.alive pid ∧ w.phase pid = .idle then
      some { w.goto pid (.called host w.clock (w.clock + elapsed + ttl)) with
        clock := w.clock + elapsed }
    else none
  | .select pid =>
    match w.phase pid with
    | .called host now expire => some (w.goto pid (.selected host now expire (w.table host)))
    | _ => none
  | .decide pid =>
    match w.phase pid with
    | .selected host now expire none => some (w.goto pid (.inserting host now expire))
    | .selected host now expire (some row) =>
      some (w.goto pid (if w.takeable pid now row then .updating host now expire else .idle))
    | _ => none
  | .retry pid =>
    if w.lock = none then none
    else
      match w.phase pid with
      | .inserting host now expire | .updating host now expire =>
        some (w.goto pid (.called host now expire))
      | _ => none
  | .release pid host =>
    if w.alive pid ∧ w.phase pid = .idle then some (w.goto pid (.releasing host)) else none
  | .write pid =>
    if w.lock = none then
      match w.phase pid with
      | .inserting host now expire =>
        match w.table host with
        -- the `PRIMARY KEY` of the table: an `IntegrityError`, which is not retried
        | some _ => some { w.goto pid .idle with raised := true }
        | none => some (w.lockFor pid host (some ⟨pid, now, expire⟩) (some expire))
      | .updating host now expire =>
        some (w.lockFor pid host ((w.table host).map fun _ => ⟨pid, now, expire⟩) (some expire))
      | .releasing host =>
        some (w.lockFor pid host ((w.table host).filter (·.ownerPid ≠ pid)) none)
      | _ => none
    else none
  | .commit pid =>
    match w.phase pid with
    | .written host row grant =>
      some { w.goto pid .idle with
        table := Function.update w.table host row
        lock := none
        granted := Function.update w.granted pid (Function.update (w.granted pid) host grant) }
    | _ => none

/-- The process has been granted a lease that has not expired. -/
def World.holds (w : World) (pid : ℤ) (host : String) : Prop :=
  w.alive pid = true ∧ ∃ expire, w.granted pid host = some expire ∧ w.clock ≤ expire

/-- The row that a call of `acquire_lease` is about to write has changed since its
`SELECT` so that the call would not write it now. -/
def stale (w : World) : Action → Bool
  | .write pid =>
    match w.phase pid with
    | .inserting host _ _ => (w.table host).isSome
    | .updating host now _ => !(w.table host).any (w.takeable pid now)
    | _ => false
  | _ => false

/-! ## Runs without stale writes -/

def Phase.since : Phase → Option ℤ
  | .called _ now _ | .selected _ now _ _ | .inserting _ now _ | .updating _ now _ => some now
  | .idle | .releasing _ | .written _ _ _ => none

structure Invariant (w : World) : Prop where
  unraised : w.raised = false
  positive : ∀ pid, w.alive pid = true → 0 < pid
  gone : ∀ pid, w.alive pid = false → w.phase pid = .idle ∧ ∀ host, w.granted pid host = none
  past : ∀ pid now, (w.phase pid).since = some now → now ≤ w.clock
  /-- The row of an unexpired lease is the row it was granted on. -/
  held : ∀ pid host expire, w.granted pid host = some expire → w.clock ≤ expire →
    ∃ startedAt, w.table host = some ⟨pid, startedAt, expire⟩
  locked : ∀ pid host row grant, w.phase pid = .written host row grant → w.lock = some pid
  /-- A pending acquisition faces no unexpired lease of another process. -/
  acquires : ∀ pid host row expire, w.phase pid = .written host row (some expire) →
    (∃ startedAt, row = some ⟨pid, startedAt, expire⟩) ∧
      ∀ other until_, other ≠ pid → w.granted other host = some until_ → until_ < w.clock
  releases : ∀ pid host row, w.phase pid = .written host row none →
    row = (w.table host).filter (·.ownerPid ≠ pid)

theorem invariant_start (clock : ℤ) (table : String → Option Lease) :
    Invariant (World.start clock table) := by
  constructor <;> simp [World.start, Phase.since]

/-- The invariant only reads whether a phase is pending, and the time of its call. -/
theorem Invariant.goto {w : World} (inv : Invariant w) {pid : ℤ} {phase : Phase}
    (alive : w.alive pid = true) (unwritten : ∀ host row grant, phase ≠ .written host row grant)
    (past : ∀ now, phase.since = some now → now ≤ w.clock) : Invariant (w.goto pid phase) where
  unraised := inv.unraised
  positive := inv.positive
  gone other dead := by
    have hne : other ≠ pid := by
      rintro rfl
      simp [World.goto, alive] at dead
    simpa [World.goto, hne] using inv.gone other dead
  past other now h := by
    by_cases hp : other = pid
    · subst hp
      exact past now (by simpa [World.goto] using h)
    · exact inv.past other now (by simpa [World.goto, hp] using h)
  held := inv.held
  locked other host row grant h := by
    by_cases hp : other = pid
    · subst hp
      exact absurd (by simpa [World.goto] using h) (unwritten host row grant)
    · exact inv.locked other host row grant (by simpa [World.goto, hp] using h)
  acquires other host row expire h := by
    by_cases hp : other = pid
    · subst hp
      exact absurd (by simpa [World.goto] using h) (unwritten host row (some expire))
    · exact inv.acquires other host row expire (by simpa [World.goto, hp] using h)
  releases other host row h := by
    by_cases hp : other = pid
    · subst hp
      exact absurd (by simpa [World.goto] using h) (unwritten host row none)
    · exact inv.releases other host row (by simpa [World.goto, hp] using h)

theorem Invariant.elapse {w : World} (inv : Invariant w) (elapsed : ℕ) :
    Invariant { w with clock := w.clock + elapsed } where
  unraised := inv.unraised
  positive := inv.positive
  gone := inv.gone
  past pid now h := by
    have := inv.past pid now h
    simp only
    omega
  held pid host expire h valid := inv.held pid host expire h (by simp only at valid; omega)
  locked := inv.locked
  acquires pid host row expire h := by
    obtain ⟨row, expired⟩ := inv.acquires pid host row expire h
    refine ⟨row, fun other until_ hne hg => ?_⟩
    have := expired other until_ hne hg
    simp only
    omega
  releases := inv.releases

theorem Invariant.alive_of_phase {w : World} (inv : Invariant w) {pid : ℤ}
    (busy : w.phase pid ≠ .idle) : w.alive pid = true := by
  by_contra dead
  exact busy (inv.gone pid (by simpa using dead)).1

theorem Invariant.unwritten_of_unlocked {w : World} (inv : Invariant w) (free : w.lock = none)
    (pid : ℤ) (host : String) (row : Option Lease) (grant : Option ℤ) :
    w.phase pid ≠ .written host row grant := by
  intro h
  simpa [free] using inv.locked pid host row grant h

theorem Invariant.lockFor {w : World} (inv : Invariant w) {pid : ℤ} {host : String}
    {row : Option Lease} {grant : Option ℤ} (alive : w.alive pid = true) (free : w.lock = none)
    (acquires : ∀ expire, grant = some expire →
      (∃ startedAt, row = some ⟨pid, startedAt, expire⟩) ∧
        ∀ other until_, other ≠ pid → w.granted other host = some until_ → until_ < w.clock)
    (releases : grant = none → row = (w.table host).filter (·.ownerPid ≠ pid)) :
    Invariant (w.lockFor pid host row grant) := by
  have only {other : ℤ} {h : String} {r : Option Lease} {g : Option ℤ}
      (written : (w.lockFor pid host row grant).phase other = .written h r g) :
      other = pid ∧ h = host ∧ r = row ∧ g = grant := by
    by_cases hp : other = pid
    · subst hp
      have same : Phase.written host row grant = .written h r g := by
        simpa [World.lockFor, World.goto] using written
      cases same
      exact ⟨rfl, rfl, rfl, rfl⟩
    · exact absurd (by simpa [World.lockFor, World.goto, hp] using written)
        (inv.unwritten_of_unlocked free other h r g)
  constructor
  · exact inv.unraised
  · exact inv.positive
  · intro other dead
    have hne : other ≠ pid := by
      rintro rfl
      simp [World.lockFor, World.goto, alive] at dead
    simpa [World.lockFor, World.goto, hne] using inv.gone other dead
  · intro other now h
    by_cases hp : other = pid
    · subst hp
      simp [World.lockFor, World.goto, Phase.since] at h
    · exact inv.past other now (by simpa [World.lockFor, World.goto, hp] using h)
  · exact inv.held
  · intro other h r g written
    obtain ⟨rfl, _⟩ := only written
    rfl
  · intro other h r expire written
    obtain ⟨rfl, rfl, rfl, hg⟩ := only written
    exact acquires expire hg.symm
  · intro other h r written
    obtain ⟨rfl, rfl, rfl, hg⟩ := only written
    exact releases hg.symm

theorem Invariant.spawn {w : World} (inv : Invariant w) {pid : ℤ} (positive : 0 < pid) :
    Invariant { w with alive := Function.update w.alive pid true } where
  unraised := inv.unraised
  positive other h := by
    by_cases hp : other = pid
    · exact hp ▸ positive
    · exact inv.positive other (by simpa [hp] using h)
  gone other dead := by
    have hne : other ≠ pid := by
      rintro rfl
      simp at dead
    exact inv.gone other (by simpa [hne] using dead)
  past := inv.past
  held := inv.held
  locked := inv.locked
  acquires := inv.acquires
  releases := inv.releases

theorem Invariant.die {w : World} (inv : Invariant w) (pid : ℤ) :
    Invariant { w.goto pid .idle with
      alive := Function.update w.alive pid false
      lock := if w.lock = some pid then none else w.lock
      granted := Function.update w.granted pid fun _ => none } := by
  have phases {other : ℤ} {phase : Phase} (busy : phase ≠ .idle)
      (h : (w.goto pid .idle).phase other = phase) : other ≠ pid ∧ w.phase other = phase := by
    by_cases hp : other = pid
    · subst hp
      exact absurd (by simpa [World.goto] using h.symm) busy
    · exact ⟨hp, by simpa [World.goto, hp] using h⟩
  have grants {other : ℤ} {host : String} {expire : ℤ}
      (h : (Function.update w.granted pid fun _ => none) other host = some expire) :
      w.granted other host = some expire := by
    by_cases hp : other = pid
    · subst hp
      simp at h
    · simpa [hp] using h
  constructor
  · exact inv.unraised
  · intro other h
    by_cases hp : other = pid
    · subst hp
      simp at h
    · exact inv.positive other (by simpa [hp] using h)
  · intro other dead
    by_cases hp : other = pid
    · subst hp
      simp [World.goto]
    · simpa [World.goto, hp] using inv.gone other (by simpa [hp] using dead)
  · intro other now h
    by_cases hp : other = pid
    · subst hp
      simp [World.goto, Phase.since] at h
    · exact inv.past other now (by simpa [World.goto, hp] using h)
  · intro other host expire h valid
    exact inv.held other host expire (grants h) valid
  · intro other host row grant h
    obtain ⟨hne, hphase⟩ := phases (by simp) h
    have hlock := inv.locked other host row grant hphase
    simp [hlock, hne]
  · intro other host row expire h
    obtain ⟨_, hphase⟩ := phases (by simp) h
    obtain ⟨hrow, expired⟩ := inv.acquires other host row expire hphase
    exact ⟨hrow, fun o u hne hg => expired o u hne (grants hg)⟩
  · intro other host row h
    obtain ⟨_, hphase⟩ := phases (by simp) h
    exact inv.releases other host row hphase

theorem Invariant.commit {w : World} (inv : Invariant w) {pid : ℤ} {host : String}
    {row : Option Lease} {grant : Option ℤ} (written : w.phase pid = .written host row grant) :
    Invariant { w.goto pid .idle with
      table := Function.update w.table host row
      lock := none
      granted := Function.update w.granted pid (Function.update (w.granted pid) host grant) } := by
  have alive := inv.alive_of_phase (by simp [written] : w.phase pid ≠ .idle)
  have hlock := inv.locked pid host row grant written
  have idle {other : ℤ} {h : String} {r : Option Lease} {g : Option ℤ} :
      (w.goto pid .idle).phase other ≠ .written h r g := by
    intro hw
    by_cases hp : other = pid
    · subst hp
      simp [World.goto] at hw
    · have hother := inv.locked other h r g (by simpa [World.goto, hp] using hw)
      rw [hlock] at hother
      exact hp (Option.some.inj hother).symm
  constructor
  · exact inv.unraised
  · exact inv.positive
  · intro other dead
    have hne : other ≠ pid := by
      rintro rfl
      simp [World.goto, alive] at dead
    simpa [World.goto, hne] using inv.gone other dead
  · intro other now h
    by_cases hp : other = pid
    · subst hp
      simp [World.goto, Phase.since] at h
    · exact inv.past other now (by simpa [World.goto, hp] using h)
  · intro other h expire hg valid
    by_cases hp : other = pid
    · subst hp
      by_cases hh : h = host
      · subst hh
        obtain rfl : grant = some expire := by simpa using hg
        obtain ⟨⟨startedAt, rfl⟩, _⟩ := inv.acquires other h row expire written
        exact ⟨startedAt, by simp⟩
      · obtain ⟨startedAt, hrow⟩ := inv.held other h expire (by simpa [hh] using hg) valid
        exact ⟨startedAt, by simpa [hh] using hrow⟩
    · have hg' : w.granted other h = some expire := by simpa [hp] using hg
      obtain ⟨startedAt, hrow⟩ := inv.held other h expire hg' valid
      by_cases hh : h = host
      · subst hh
        cases grant with
        | none =>
          have kept := inv.releases pid h row written
          exact ⟨startedAt, by simp [kept, hrow, hp]⟩
        | some until_ =>
          have expired := (inv.acquires pid h row until_ written).2 other expire hp hg'
          simp only [World.goto] at valid
          omega
      · exact ⟨startedAt, by simpa [hh] using hrow⟩
  · intro other h r g hw
    exact absurd hw idle
  · intro other h r expire hw
    exact absurd hw idle
  · intro other h r hw
    exact absurd hw idle

/-- A write that is not stale neither raises nor takes an unexpired lease. -/
theorem Invariant.write {w w' : World} (inv : Invariant w) {pid : ℤ}
    (current : stale w (.write pid) = false) (h : step w (.write pid) = some w') : Invariant w' := by
  simp only [step] at h
  split_ifs at h with free
  cases phase : w.phase pid with
  | idle | called | selected | written => simp [phase] at h
  | inserting host now expire =>
    have alive := inv.alive_of_phase (by simp [phase] : w.phase pid ≠ .idle)
    have absent : w.table host = none := by simpa [stale, phase] using current
    simp only [phase, absent, Option.some.injEq] at h
    subst h
    refine inv.lockFor alive free (fun e he => ?_) (by simp)
    obtain rfl := Option.some.inj he
    refine ⟨⟨now, rfl⟩, fun other until_ _ hg => ?_⟩
    by_contra valid
    obtain ⟨startedAt, hrow⟩ := inv.held other host until_ hg (by omega)
    simp [absent] at hrow
  | updating host now expire =>
    have alive := inv.alive_of_phase (by simp [phase] : w.phase pid ≠ .idle)
    simp only [phase, Option.some.injEq] at h
    subst h
    cases row : w.table host with
    | none => simp [stale, phase, row] at current
    | some lease =>
      have takeable : w.takeable pid now lease = true := by
        simpa [stale, phase, row] using current
      refine inv.lockFor alive free (fun e he => ?_) (by simp)
      obtain rfl := Option.some.inj he
      refine ⟨⟨now, by simp⟩, fun other until_ hne hg => ?_⟩
      by_contra valid
      obtain ⟨startedAt, hrow⟩ := inv.held other host until_ hg (by omega)
      obtain rfl : lease = ⟨other, startedAt, until_⟩ := by simpa [row] using hrow
      have hother : w.alive other = true := by
        by_contra dead
        simpa [hg] using (inv.gone other (by simpa using dead)).2 host
      have hpast := inv.past pid now (by simp [phase, Phase.since])
      have expired : until_ < now := by
        simpa [World.takeable, World.pidAlive, hother, inv.positive other hother, hne] using takeable
      omega
  | releasing host =>
    have alive := inv.alive_of_phase (by simp [phase] : w.phase pid ≠ .idle)
    simp only [phase, Option.some.injEq] at h
    subst h
    exact inv.lockFor alive free (by simp) fun _ => rfl

theorem Invariant.step {w w' : World} {a : Action} (inv : Invariant w) (current : stale w a = false)
    (h : PublishLeases.step w a = some w') : Invariant w' := by
  cases a with
  | tick elapsed =>
    simp only [PublishLeases.step, Option.some.injEq] at h
    exact h ▸ inv.elapse elapsed
  | spawn pid =>
    simp only [PublishLeases.step] at h
    split_ifs at h with enabled
    exact Option.some.inj h ▸ inv.spawn enabled.1
  | die pid =>
    simp only [PublishLeases.step] at h
    split at h
    · exact Option.some.inj h ▸ inv.die pid
    · cases h
  | acquire pid host ttl elapsed =>
    simp only [PublishLeases.step] at h
    split_ifs at h with enabled
    have called : Invariant (w.goto pid (.called host w.clock (w.clock + elapsed + ttl))) :=
      inv.goto enabled.1 (by simp) (by simp [Phase.since])
    exact Option.some.inj h ▸ called.elapse elapsed
  | select pid =>
    simp only [PublishLeases.step] at h
    split at h
    · rename_i host now expire phase
      have past := inv.past pid now (by simp [phase, Phase.since])
      exact Option.some.inj h ▸ inv.goto (inv.alive_of_phase (by simp [phase])) (by simp)
        (by simpa [Phase.since] using past)
    · cases h
  | decide pid =>
    simp only [PublishLeases.step] at h
    split at h
    · rename_i host now expire phase
      have past := inv.past pid now (by simp [phase, Phase.since])
      exact Option.some.inj h ▸ inv.goto (inv.alive_of_phase (by simp [phase])) (by simp)
        (by simpa [Phase.since] using past)
    · rename_i host now expire row phase
      have past := inv.past pid now (by simp [phase, Phase.since])
      refine Option.some.inj h ▸ inv.goto (inv.alive_of_phase (by simp [phase])) ?_ ?_
      · split <;> simp
      · split <;> simp [Phase.since, past]
    · cases h
  | retry pid =>
    simp only [PublishLeases.step] at h
    split_ifs at h with free
    have recalled {host : String} {now expire : ℤ} (busy : w.phase pid ≠ .idle)
        (since : (w.phase pid).since = some now) :
        Invariant (w.goto pid (.called host now expire)) :=
      inv.goto (inv.alive_of_phase busy) (by simp)
        (by simpa [Phase.since] using inv.past pid now since)
    split at h
    · rename_i host now expire phase
      exact Option.some.inj h ▸ recalled (by simp [phase]) (by simp [phase, Phase.since])
    · rename_i host now expire phase
      exact Option.some.inj h ▸ recalled (by simp [phase]) (by simp [phase, Phase.since])
    · cases h
  | release pid host =>
    simp only [PublishLeases.step] at h
    split_ifs at h with enabled
    exact Option.some.inj h ▸ inv.goto enabled.1 (by simp) (by simp [Phase.since])
  | write pid => exact inv.write current h
  | commit pid =>
    simp only [PublishLeases.step] at h
    split at h
    · rename_i host row grant written
      exact Option.some.inj h ▸ inv.commit written
    · cases h

/-- In a run without stale writes no call raises, and at most one live process
holds an unexpired lease on a host. -/
theorem leases_exclusive (clock : ℤ) (table : String → Option Lease) (w : World)
    (reached : Reaches step (fun w a => stale w a = false) (World.start clock table) w) :
    w.raised = false ∧
      ∀ (host : String) (pid other : ℤ), w.holds pid host → w.holds other host → pid = other := by
  have inv : Invariant w := Reaches.invariant reached (invariant_start clock table)
    fun _ _ _ inv current hs => inv.step current hs
  refine ⟨inv.unraised, fun host pid other hpid hother => ?_⟩
  obtain ⟨_, expire, granted, valid⟩ := hpid
  obtain ⟨_, expire', granted', valid'⟩ := hother
  obtain ⟨startedAt, row⟩ := inv.held pid host expire granted valid
  obtain ⟨startedAt', row'⟩ := inv.held other host expire' granted' valid'
  rw [row] at row'
  simp only [Option.some.injEq, Lease.mk.injEq] at row'
  exact row'.1

/-- Two processes one after the other: the second takes over once the lease of
the first has expired. -/
def takeoverInTurn : List Action :=
  [.spawn 100, .spawn 200, .acquire 100 "velog" 50 1, .select 100, .decide 100, .write 100,
    .commit 100, .tick 60, .acquire 200 "velog" 50 1, .select 200, .decide 200, .write 200,
    .commit 200]

def afterTakeover : World :=
  final step (fun w a => !stale w a) (World.start 0 fun _ => none) takeoverInTurn

theorem leases_exclusive_takeover :
    afterTakeover.raised = false ∧
      ∀ (host : String) (pid other : ℤ), afterTakeover.holds pid host →
        afterTakeover.holds other host → pid = other :=
  leases_exclusive 0 (fun _ => none) afterTakeover
    (Reaches.mono (reaches_final (fun w a => !stale w a) _ _ (by decide))
      fun _ _ h => by simpa using h)

def simultaneousInsert : List Action :=
  [.spawn 100, .spawn 200, .acquire 100 "velog" 50 1, .acquire 200 "velog" 50 1, .select 100,
    .select 200, .decide 100, .decide 200, .write 100, .commit 100, .write 200]

/-- Two takeovers of the row that a dead process has left. -/
def simultaneousTakeover : List Action :=
  [.spawn 100, .spawn 200, .acquire 100 "velog" 50 1, .acquire 200 "velog" 50 1, .select 100,
    .select 200, .decide 100, .decide 200, .write 100, .commit 100, .write 200, .commit 200]

def abandoned : String → Option Lease := fun _ => some ⟨300, 0, 1000⟩

/-- Neither half holds of all runs. -/
theorem stale_writes :
    (¬ ∀ (clock : ℤ) (table : String → Option Lease) (w : World),
      Reaches step (fun _ _ => True) (World.start clock table) w → w.raised = false) ∧
    (¬ ∀ (clock : ℤ) (table : String → Option Lease) (w : World) (host : String) (pid other : ℤ),
      Reaches step (fun _ _ => True) (World.start clock table) w → w.holds pid host →
        w.holds other host → pid = other) := by
  constructor
  · intro always
    have unraised := always 0 (fun _ => none) _ (Reaches.mono
      (reaches_final (fun _ _ => true) _ simultaneousInsert (by decide))
      fun _ _ _ => trivial)
    exact absurd unraised (by decide)
  · intro always
    have one := always 0 abandoned _ "velog" 100 200 (Reaches.mono
      (reaches_final (fun _ _ => true) _ simultaneousTakeover (by decide))
      fun _ _ _ => trivial) ⟨by decide, 51, by decide, by decide⟩
      ⟨by decide, 52, by decide, by decide⟩
    exact absurd one (by decide)

end BacklinkPublisher.PublishLeases
