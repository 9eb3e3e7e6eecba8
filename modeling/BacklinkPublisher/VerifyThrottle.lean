import BacklinkPublisher.TransitionSystems
import Mathlib.Algebra.Order.Ring.Rat
import Mathlib.Algebra.BigOperators.Group.Finset.Basic
import Mathlib.Data.Fintype.Basic
import Mathlib.Tactic.Common

set_option autoImplicit false

/-!
# The throttle of URL verification

`try_acquire` and `release` of `webui_app/services/url_verify_throttle.py` for `n` callers, who
release each host they have acquired once. A critical section, an operation of a lock or of the
semaphore, and a read of the clock are one step each. Callers enter their first critical section in
the order in which they have read the clock, and no `try_acquire` takes longer than 60 seconds.
-/
namespace BacklinkPublisher.VerifyThrottle
open TransitionSystems

def windowSeconds : ℚ := 10

def maxPerWindow : ℕ := 6

def concurrencyCap : ℕ := 3

def hostLockIdlePruneSeconds : ℚ := 60

inductive Reason where
  | rateLimited
  | upstreamOverloaded
  | hostBusy
  deriving DecidableEq, Repr

/-- Where a caller is in `try_acquire` or `release`. -/
inductive Phase where
  | idle
  | refused (sessionId : String) (reason : Reason)
  | entered (sessionId host : String) (now : ℚ)
  | reserved (sessionId host : String) (now : ℚ)
  | permitted (sessionId host : String) (now : ℚ)
  | locking (sessionId host : String) (now : ℚ) (hostLock : ℕ)
  | busy (sessionId : String) (now : ℚ)
  | rollingBack (sessionId : String) (now : ℚ) (reason : Reason)
  | inFlight (host : String)
  | unlocking (host : String) (hostLock : Option ℕ)
  | unlocked
  deriving DecidableEq, Repr

/-- The time that a `try_acquire` in progress has read. -/
def Phase.started : Phase → Option ℚ
  | .entered _ _ now | .reserved _ _ now | .permitted _ _ now | .locking _ _ now _ | .busy _ now
  | .rollingBack _ now _ => some now
  | _ => none

def Phase.free : Phase → Bool
  | .idle | .refused _ _ => true
  | _ => false

structure Reservation (n : ℕ) where
  caller : Fin n
  sessionId : String
  time : ℚ
  deriving DecidableEq, Repr

/-- `_host_locks` and `_host_last_used`, and the lock objects: which are held, and how many have
been made. -/
structure HostTable where
  hostLocks : String → Option ℕ
  hostLastUsed : String → Option ℚ
  held : ℕ → Bool
  created : ℕ

structure Throttle (n : ℕ) where
  clock : ℚ
  /-- What the last caller in its first critical section has read. -/
  lastNow : ℚ
  sessionWindows : String → List ℚ
  hosts : HostTable
  permits : ℕ
  phase : Fin n → Phase
  /-- The reservations of the calls that have not failed. -/
  reservations : List (Reservation n)
  successes : List (Reservation n)

def Throttle.start (n : ℕ) (clock : ℚ) : Throttle n where
  clock := clock
  lastNow := clock
  sessionWindows _ := []
  hosts := ⟨fun _ => none, fun _ => none, fun _ => false, 0⟩
  permits := concurrencyCap
  phase _ := .idle
  reservations := []
  successes := []

inductive Action (n : ℕ) where
  | tick (time : ℚ)
  | tryAcquire (caller : Fin n) (sessionId host : String)
  /-- The next step of the caller; in flight, the first step of `release`. -/
  | advance (caller : Fin n)
  deriving DecidableEq, Repr

variable {n : ℕ}

def Throttle.goto (w : Throttle n) (caller : Fin n) (phase : Phase) : Throttle n :=
  { w with phase := Function.update w.phase caller phase }

def evictOld (window : List ℚ) (now span : ℚ) : List ℚ := window.dropWhile fun t => t ≤ now - span

/-! ## Host locks -/

/-- The host is stale, and its lock, if there is one, is free. -/
def HostTable.dropped (table : HostTable) (now : ℚ) (host : String) : Bool :=
  (table.hostLastUsed host).any (fun ts => decide (hostLockIdlePruneSeconds < now - ts)) &&
    (table.hostLocks host).all fun lock => !table.held lock

def HostTable.pruneIdleHostLocks (table : HostTable) (now : ℚ) : HostTable :=
  { table with
    hostLocks := fun host => if table.dropped now host then none else table.hostLocks host
    hostLastUsed := fun host => if table.dropped now host then none else table.hostLastUsed host }

/-- The lock of a host, made where there is none. -/
def HostTable.makeLock (table : HostTable) (host : String) : HostTable × ℕ :=
  match table.hostLocks host with
  | some lock => (table, lock)
  | none =>
    ({ table with
        hostLocks := Function.update table.hostLocks host (some table.created)
        held := Function.update table.held table.created false
        created := table.created + 1 }, table.created)

def HostTable.use (table : HostTable) (host : String) (time : ℚ) : HostTable :=
  { table with hostLastUsed := Function.update table.hostLastUsed host (some time) }

/-- The second critical section of `try_acquire`. -/
def HostTable.register (table : HostTable) (host : String) (now : ℚ) : HostTable × ℕ :=
  let (made, hostLock) := table.makeLock host
  let pruned := (made.use host now).pruneIdleHostLocks now
  let kept := (pruned.hostLocks host).getD hostLock
  ({ pruned with hostLocks := Function.update pruned.hostLocks host (some kept) }, kept)

def HostTable.hold (table : HostTable) (lock : ℕ) : HostTable :=
  { table with held := Function.update table.held lock true }

/-- A lock that is not held stays free. -/
def HostTable.free (table : HostTable) (hostLock : Option ℕ) : HostTable :=
  match hostLock with
  | none => table
  | some lock => { table with held := Function.update table.held lock false }

/-! ## Steps -/

/-- The first critical section. -/
def Throttle.reserve (w : Throttle n) (caller : Fin n) (sessionId host : String) (now : ℚ) :
    Throttle n :=
  let window := evictOld (w.sessionWindows sessionId) now windowSeconds
  let w := { w with lastNow := now }
  if maxPerWindow ≤ window.length then
    { w.goto caller (.refused sessionId .rateLimited) with
      sessionWindows := Function.update w.sessionWindows sessionId window }
  else
    { w.goto caller (.reserved sessionId host now) with
      sessionWindows := Function.update w.sessionWindows sessionId (window ++ [now])
      reservations := w.reservations ++ [⟨caller, sessionId, now⟩] }

def Throttle.acquirePermit (w : Throttle n) (caller : Fin n) (sessionId host : String) (now : ℚ) :
    Throttle n :=
  if w.permits = 0 then w.goto caller (.rollingBack sessionId now .upstreamOverloaded)
  else { w.goto caller (.permitted sessionId host now) with permits := w.permits - 1 }

/-- The semaphore is bounded. -/
def Throttle.releasePermit (w : Throttle n) : Throttle n :=
  { w with permits := if w.permits < concurrencyCap then w.permits + 1 else w.permits }

def Throttle.register (w : Throttle n) (caller : Fin n) (sessionId host : String) (now : ℚ) :
    Throttle n :=
  let (hosts, hostLock) := w.hosts.register host now
  { w.goto caller (.locking sessionId host now hostLock) with hosts := hosts }

def Throttle.acquireLock (w : Throttle n) (caller : Fin n) (sessionId host : String) (now : ℚ)
    (hostLock : ℕ) : Throttle n :=
  if w.hosts.held hostLock then w.goto caller (.busy sessionId now)
  else
    { w.goto caller (.inFlight host) with
      hosts := w.hosts.hold hostLock
      successes := w.successes ++ [⟨caller, sessionId, now⟩] }

def Throttle.rollBack (w : Throttle n) (caller : Fin n) (sessionId : String) (now : ℚ)
    (reason : Reason) : Throttle n :=
  { w.goto caller (.refused sessionId reason) with
    sessionWindows :=
      Function.update w.sessionWindows sessionId ((w.sessionWindows sessionId).erase now)
    reservations := w.reservations.erase ⟨caller, sessionId, now⟩ }

/-- The critical section of `release`. -/
def Throttle.release (w : Throttle n) (caller : Fin n) (host : String) : Throttle n :=
  { w.goto caller (.unlocking host (w.hosts.hostLocks host)) with hosts := w.hosts.use host w.clock }

def Throttle.releaseLock (w : Throttle n) (caller : Fin n) (hostLock : Option ℕ) : Throttle n :=
  { w.goto caller .unlocked with hosts := w.hosts.free hostLock }

def step (w : Throttle n) : Action n → Option (Throttle n)
  | .tick time =>
    if w.clock ≤ time ∧ ∀ caller, ∀ now ∈ (w.phase caller).started, time ≤ now + 60 then
      some { w with clock := time }
    else none
  | .tryAcquire caller sessionId host =>
    if (w.phase caller).free then some (w.goto caller (.entered sessionId host w.clock)) else none
  | .advance caller =>
    match w.phase caller with
    | .idle | .refused _ _ => none
    | .entered sessionId host now =>
      if w.lastNow ≤ now then some (w.reserve caller sessionId host now) else none
    | .reserved sessionId host now => some (w.acquirePermit caller sessionId host now)
    | .permitted sessionId host now => some (w.register caller sessionId host now)
    | .locking sessionId host now hostLock =>
      some (w.acquireLock caller sessionId host now hostLock)
    | .busy sessionId now =>
      some (w.releasePermit.goto caller (.rollingBack sessionId now .hostBusy))
    | .rollingBack sessionId now reason => some (w.rollBack caller sessionId now reason)
    | .inFlight host => some (w.release caller host)
    | .unlocking _ hostLock => some (w.releaseLock caller hostLock)
    | .unlocked => some (w.releasePermit.goto caller .idle)

/-- What a caller that has the lock of a host, and has not tried to acquire it, has read. -/
def Phase.awaits (host : String) : Phase → Option ℚ
  | .locking _ other now _ => if other = host then some now else none
  | _ => none

/-- No second critical section writes a time into `_host_last_used` that is older than what a
caller who is about to acquire the lock of the same host has read. -/
def undisturbed (w : Throttle n) : Action n → Bool
  | .advance caller =>
    match w.phase caller with
    | .permitted _ host now => decide (∀ other, ∀ t ∈ (w.phase other).awaits host, t ≤ now)
    | _ => true
  | _ => true

/-! ## What a step can do -/

inductive Effect (w : Throttle n) (a : Action n) (w' : Throttle n) : Prop where
  | tick (time : ℚ) (later : w.clock ≤ time)
      (within : ∀ caller, ∀ now ∈ (w.phase caller).started, time ≤ now + 60)
      (eq : w' = { w with clock := time })
  | enter (caller : Fin n) (sessionId host : String) (free : (w.phase caller).free = true)
      (eq : w' = w.goto caller (.entered sessionId host w.clock))
  | reserve (caller : Fin n) (sessionId host : String) (now : ℚ)
      (phase : w.phase caller = .entered sessionId host now) (order : w.lastNow ≤ now)
      (eq : w' = w.reserve caller sessionId host now)
  | acquirePermit (caller : Fin n) (sessionId host : String) (now : ℚ)
      (phase : w.phase caller = .reserved sessionId host now)
      (eq : w' = w.acquirePermit caller sessionId host now)
  | register (caller : Fin n) (sessionId host : String) (now : ℚ) (label : a = .advance caller)
      (phase : w.phase caller = .permitted sessionId host now)
      (eq : w' = w.register caller sessionId host now)
  | acquireLock (caller : Fin n) (sessionId host : String) (now : ℚ) (hostLock : ℕ)
      (phase : w.phase caller = .locking sessionId host now hostLock)
      (eq : w' = w.acquireLock caller sessionId host now hostLock)
  | giveBack (caller : Fin n) (sessionId : String) (now : ℚ)
      (phase : w.phase caller = .busy sessionId now)
      (eq : w' = w.releasePermit.goto caller (.rollingBack sessionId now .hostBusy))
  | rollBack (caller : Fin n) (sessionId : String) (now : ℚ) (reason : Reason)
      (phase : w.phase caller = .rollingBack sessionId now reason)
      (eq : w' = w.rollBack caller sessionId now reason)
  | release (caller : Fin n) (host : String) (phase : w.phase caller = .inFlight host)
      (eq : w' = w.release caller host)
  | releaseLock (caller : Fin n) (host : String) (hostLock : Option ℕ)
      (phase : w.phase caller = .unlocking host hostLock)
      (eq : w' = w.releaseLock caller hostLock)
  | finish (caller : Fin n) (phase : w.phase caller = .unlocked)
      (eq : w' = w.releasePermit.goto caller .idle)

theorem effect_of_step {w w' : Throttle n} {a : Action n} (h : step w a = some w') :
    Effect w a w' := by
  cases a with
  | tick time =>
    simp only [step] at h
    split_ifs at h with allowed
    exact .tick time allowed.1 allowed.2 (Option.some.inj h).symm
  | tryAcquire caller sessionId host =>
    simp only [step] at h
    split_ifs at h with free
    exact .enter caller sessionId host free (Option.some.inj h).symm
  | advance caller =>
    cases phase : w.phase caller with
    | idle | refused => simp [step, phase] at h
    | entered sessionId host now =>
      simp only [step, phase] at h
      split_ifs at h with order
      exact .reserve caller sessionId host now phase order (Option.some.inj h).symm
    | reserved sessionId host now =>
      simp only [step, phase] at h
      exact .acquirePermit caller sessionId host now phase (Option.some.inj h).symm
    | permitted sessionId host now =>
      simp only [step, phase] at h
      exact .register caller sessionId host now rfl phase (Option.some.inj h).symm
    | locking sessionId host now hostLock =>
      simp only [step, phase] at h
      exact .acquireLock caller sessionId host now hostLock phase (Option.some.inj h).symm
    | busy sessionId now =>
      simp only [step, phase] at h
      exact .giveBack caller sessionId now phase (Option.some.inj h).symm
    | rollingBack sessionId now reason =>
      simp only [step, phase] at h
      exact .rollBack caller sessionId now reason phase (Option.some.inj h).symm
    | inFlight host =>
      simp only [step, phase] at h
      exact .release caller host phase (Option.some.inj h).symm
    | unlocking host hostLock =>
      simp only [step, phase] at h
      exact .releaseLock caller host hostLock phase (Option.some.inj h).symm
    | unlocked =>
      simp only [step, phase] at h
      exact .finish caller phase (Option.some.inj h).symm

theorem goto_phase (w : Throttle n) (caller other : Fin n) (phase : Phase) :
    (w.goto caller phase).phase other = if other = caller then phase else w.phase other :=
  Function.update_apply w.phase caller phase other

/-! ## Permits -/

/-- The semaphore is held on the way from its acquisition to its release. -/
def Phase.permits : Phase → ℕ
  | .permitted _ _ _ | .locking _ _ _ _ | .busy _ _ | .inFlight _ | .unlocking _ _ | .unlocked => 1
  | _ => 0

def Throttle.permitsHeld (w : Throttle n) : ℕ := ∑ caller, (w.phase caller).permits

theorem permitsHeld_goto (w : Throttle n) (caller : Fin n) (phase : Phase) :
    (w.goto caller phase).permitsHeld + (w.phase caller).permits =
      w.permitsHeld + phase.permits := by
  have split_ (f : Fin n → Phase) : ∑ other, (f other).permits =
      (f caller).permits + ∑ other ∈ Finset.univ.erase caller, (f other).permits :=
    (Finset.add_sum_erase Finset.univ (fun other => (f other).permits)
      (Finset.mem_univ caller)).symm
  have others : ∑ other ∈ Finset.univ.erase caller, ((w.goto caller phase).phase other).permits =
      ∑ other ∈ Finset.univ.erase caller, (w.phase other).permits := by
    apply Finset.sum_congr rfl
    intro other hother
    rw [goto_phase, if_neg (Finset.ne_of_mem_erase hother)]
  unfold Throttle.permitsHeld
  rw [split_ w.phase, split_ (w.goto caller phase).phase, others, goto_phase, if_pos rfl]
  omega

/-- Every permit is free or held. -/
def Accounted (w : Throttle n) : Prop := w.permits + w.permitsHeld = concurrencyCap

theorem accounted_start (n : ℕ) (clock : ℚ) : Accounted (Throttle.start n clock) := by
  unfold Accounted Throttle.permitsHeld Throttle.start
  simp [Phase.permits]

/-- A caller that moves on with the permits it has. -/
theorem Accounted.moves {w w' : Throttle n} (inv : Accounted w) {caller : Fin n} {phase : Phase}
    (permits : w'.permits = w.permits) (moved : w'.phase = (w.goto caller phase).phase)
    (same : phase.permits = (w.phase caller).permits) : Accounted w' := by
  have sum := permitsHeld_goto w caller phase
  have held : w'.permitsHeld = (w.goto caller phase).permitsHeld := by
    unfold Throttle.permitsHeld
    rw [moved]
  unfold Accounted at inv ⊢
  omega

theorem Accounted.releasePermit {w : Throttle n} (inv : Accounted w) {caller : Fin n}
    {phase : Phase} (held : (w.phase caller).permits = 1) (free : phase.permits = 0) :
    Accounted (w.releasePermit.goto caller phase) := by
  have moved := permitsHeld_goto w caller phase
  unfold Accounted at inv ⊢
  change (if w.permits < concurrencyCap then w.permits + 1 else w.permits) +
    (w.goto caller phase).permitsHeld = _
  split_ifs <;> omega

theorem Accounted.step {w w' : Throttle n} {a : Action n} (inv : Accounted w)
    (h : step w a = some w') : Accounted w' := by
  cases effect_of_step h with
  | tick time later within eq =>
    rw [eq]
    exact inv
  | enter caller sessionId host free eq =>
    rw [eq]
    refine inv.moves rfl rfl ?_
    cases phase : w.phase caller <;> simp_all [Phase.free, Phase.permits]
  | reserve caller sessionId host now phase order eq =>
    rw [eq]
    unfold Throttle.reserve
    dsimp only
    split_ifs <;> exact inv.moves rfl rfl (by rw [phase]; rfl)
  | acquirePermit caller sessionId host now phase eq =>
    rw [eq]
    unfold Throttle.acquirePermit
    split_ifs with none_
    · exact inv.moves rfl rfl (by rw [phase]; rfl)
    · have moved := permitsHeld_goto w caller (.permitted sessionId host now)
      rw [phase] at moved
      unfold Accounted at inv ⊢
      change w.permits - 1 + (w.goto caller (.permitted sessionId host now)).permitsHeld = _
      simp only [Phase.permits] at moved
      omega
  | register caller sessionId host now label phase eq =>
    rw [eq]
    exact inv.moves rfl rfl (by rw [phase]; rfl)
  | acquireLock caller sessionId host now hostLock phase eq =>
    rw [eq]
    unfold Throttle.acquireLock
    split_ifs <;> exact inv.moves rfl rfl (by rw [phase]; rfl)
  | giveBack caller sessionId now phase eq =>
    rw [eq]
    exact inv.releasePermit (by rw [phase]; rfl) rfl
  | rollBack caller sessionId now reason phase eq =>
    rw [eq]
    exact inv.moves rfl rfl (by rw [phase]; rfl)
  | release caller host phase eq =>
    rw [eq]
    exact inv.moves rfl rfl (by rw [phase]; rfl)
  | releaseLock caller host hostLock phase eq =>
    rw [eq]
    exact inv.moves rfl rfl (by rw [phase]; rfl)
  | finish caller phase eq =>
    rw [eq]
    exact inv.releasePermit (by rw [phase]; rfl) rfl

end BacklinkPublisher.VerifyThrottle
