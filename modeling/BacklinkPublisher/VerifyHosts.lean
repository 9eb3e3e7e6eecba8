import BacklinkPublisher.VerifyWindows
import Mathlib.Algebra.BigOperators.Group.Finset.Piecewise
import Mathlib.Algebra.Order.BigOperators.Group.Finset

set_option autoImplicit false

/-!
# The host locks of the throttle

Which lock object stands for a host while a caller verifies on it or is about to acquire it: the
one that `_host_locks` has, as long as `_host_last_used` is not older than what that caller has read.
-/
namespace BacklinkPublisher.VerifyThrottle
open TransitionSystems

/-! ## The table -/

/-- Lock objects belong to one host each. -/
structure HostTable.Distinct (table : HostTable) : Prop where
  fresh : ∀ host lock, table.hostLocks host = some lock → lock < table.created
  injective : ∀ host other lock, table.hostLocks host = some lock →
    table.hostLocks other = some lock → host = other

section Register
variable {table : HostTable} {host other : String} {now : ℚ} {lock : ℕ}

theorem register_own (table : HostTable) (host : String) (now : ℚ) :
    (table.register host now).1.hostLocks host = some (table.register host now).2 :=
  Function.update_self ..

/-- A host keeps the lock that it has. -/
theorem register_lock (now : ℚ) (found : table.hostLocks host = some lock) :
    (table.register host now).2 = lock := by
  unfold HostTable.register HostTable.makeLock HostTable.pruneIdleHostLocks HostTable.use
  simp only [found]
  split_ifs <;> rfl

theorem register_lastUsed (table : HostTable) (host : String) (now : ℚ) :
    (table.register host now).1.hostLastUsed host = some now := by
  unfold HostTable.register HostTable.pruneIdleHostLocks HostTable.dropped HostTable.use
  simp [hostLockIdlePruneSeconds]

/-- The lock that is made is a new object. -/
theorem makeLock_cases (table : HostTable) (host : String) :
    (∃ lock, table.hostLocks host = some lock ∧ table.makeLock host = (table, lock)) ∨
      (table.hostLocks host = none ∧ table.makeLock host =
        ({ table with
            hostLocks := Function.update table.hostLocks host (some table.created)
            held := Function.update table.held table.created false
            created := table.created + 1 }, table.created)) := by
  unfold HostTable.makeLock
  cases found : table.hostLocks host with
  | some lock => exact .inl ⟨lock, rfl, rfl⟩
  | none => exact .inr ⟨rfl, rfl⟩

theorem register_created (table : HostTable) (host : String) (now : ℚ) :
    table.created ≤ (table.register host now).1.created := by
  change table.created ≤ (table.makeLock host).1.created
  rcases makeLock_cases table host with ⟨_, _, eq⟩ | ⟨_, eq⟩
  · rw [eq]
  · rw [eq]
    exact Nat.le_succ _

theorem register_held (host : String) (now : ℚ) (old : lock < table.created) :
    (table.register host now).1.held lock = table.held lock := by
  change (table.makeLock host).1.held lock = table.held lock
  rcases makeLock_cases table host with ⟨_, _, eq⟩ | ⟨_, eq⟩
  · rw [eq]
  · rw [eq]
    exact Function.update_of_ne old.ne _ _

theorem makeLock_other (table : HostTable) (different : other ≠ host) :
    (table.makeLock host).1.hostLocks other = table.hostLocks other := by
  rcases makeLock_cases table host with ⟨_, _, eq⟩ | ⟨_, eq⟩
  · rw [eq]
  · rw [eq]
    exact Function.update_of_ne different _ _

theorem makeLock_lastUsed (table : HostTable) (host : String) :
    (table.makeLock host).1.hostLastUsed = table.hostLastUsed := by
  rcases makeLock_cases table host with ⟨_, _, eq⟩ | ⟨_, eq⟩ <;> rw [eq]

theorem dropped_use_makeLock (distinct : table.Distinct) (different : other ≠ host) :
    ((table.makeLock host).1.use host now).dropped now other = table.dropped now other := by
  have used : ((table.makeLock host).1.use host now).hostLastUsed other =
      table.hostLastUsed other := by
    rw [← makeLock_lastUsed table host]
    exact Function.update_of_ne different _ _
  have locks : ((table.makeLock host).1.use host now).hostLocks other = table.hostLocks other :=
    makeLock_other table different
  unfold HostTable.dropped
  rw [used, locks]
  cases found : table.hostLocks other with
  | none => rfl
  | some lock =>
    have held : ((table.makeLock host).1.use host now).held lock = table.held lock :=
      register_held host now (distinct.fresh other lock found)
    simp [held]

/-- Another host keeps its entries, or is dropped. -/
theorem register_other (distinct : table.Distinct) (different : other ≠ host) :
    (table.register host now).1.hostLocks other =
        (if table.dropped now other then none else table.hostLocks other) ∧
      (table.register host now).1.hostLastUsed other =
        (if table.dropped now other then none else table.hostLastUsed other) := by
  have drops : ((table.makeLock host).1.use host now).dropped now other = table.dropped now other :=
    dropped_use_makeLock distinct different
  rw [← drops]
  constructor
  · rw [← makeLock_other table different]
    exact Function.update_of_ne different _ _
  · rw [← makeLock_lastUsed table host]
    have used : ((table.makeLock host).1.use host now).hostLastUsed other =
        (table.makeLock host).1.hostLastUsed other := Function.update_of_ne different _ _
    rw [← used]
    rfl

/-- What stands for a host after the second critical section stood for it before, or is new. -/
theorem register_origin (distinct : table.Distinct)
    (found : (table.register host now).1.hostLocks other = some lock) :
    table.hostLocks other = some lock ∨
      other = host ∧ lock = table.created ∧ (table.register host now).1.created = lock + 1 := by
  by_cases same : other = host
  · subst same
    rw [register_own] at found
    rcases makeLock_cases table other with ⟨old, known, _⟩ | ⟨absent, eq⟩
    · rw [register_lock now known] at found
      rw [known]
      exact .inl found
    · refine .inr ⟨rfl, ?_⟩
      have made : (table.register other now).2 = table.created := by
        unfold HostTable.register HostTable.pruneIdleHostLocks HostTable.use
        rw [eq]
        simp only [Function.update_self]
        split_ifs <;> rfl
      have count : (table.register other now).1.created = table.created + 1 := by
        change (table.makeLock other).1.created = _
        rw [eq]
      rw [made] at found
      rw [count, Option.some.inj found]
      exact ⟨rfl, rfl⟩
  · refine .inl ?_
    rw [(register_other distinct same).1] at found
    split_ifs at found
    exact found

theorem register_distinct (distinct : table.Distinct) (host : String) (now : ℚ) :
    (table.register host now).1.Distinct where
  fresh other lock found := by
    rcases register_origin distinct found with old | ⟨_, _, count⟩
    · exact (distinct.fresh other lock old).trans_le (register_created table host now)
    · omega
  injective first second lock hfirst hsecond := by
    rcases register_origin distinct hfirst with old | ⟨at_host, new, _⟩
    · rcases register_origin distinct hsecond with old' | ⟨_, new', _⟩
      · exact distinct.injective first second lock old old'
      · have bound := distinct.fresh first lock old
        omega
    · rcases register_origin distinct hsecond with old' | ⟨at_host', _, _⟩
      · have bound := distinct.fresh second lock old'
        omega
      · rw [at_host, at_host']

end Register

/-! ## Callers -/

/-- The host whose lock a caller has, and what it had read when it asked for it. -/
def Phase.pinned : Phase → Option (String × ℚ × ℕ)
  | .locking _ host now hostLock => some (host, now, hostLock)
  | _ => none

/-- The host that a caller verifies on, until its lock is released. -/
def Phase.verifying : Phase → Option String
  | .inFlight host | .unlocking host _ => some host
  | _ => none

variable {n : ℕ}

structure Exclusive (w : Throttle n) : Prop where
  started : ∀ caller, ∀ now ∈ (w.phase caller).started, now ≤ w.clock ∧ w.clock ≤ now + 60
  distinct : w.hosts.Distinct
  pinned : ∀ caller host now lock, (w.phase caller).pinned = some (host, now, lock) →
    w.hosts.hostLocks host = some lock ∧ ∃ ts, w.hosts.hostLastUsed host = some ts ∧ now ≤ ts
  verifying : ∀ caller host, (w.phase caller).verifying = some host →
    ∃ lock, w.hosts.hostLocks host = some lock ∧ w.hosts.held lock = true
  unlocking : ∀ caller host lock, w.phase caller = .unlocking host lock →
    lock = w.hosts.hostLocks host
  single : ∀ a b host, (w.phase a).verifying = some host → (w.phase b).verifying = some host →
    a = b

theorem exclusive_start (n : ℕ) (clock : ℚ) : Exclusive (Throttle.start n clock) := by
  constructor
  case distinct => constructor <;> simp [Throttle.start]
  all_goals simp [Throttle.start, Phase.started, Phase.pinned, Phase.verifying]

section Steps
variable {w w' : Throttle n} {caller : Fin n} {phase : Phase}

/-- A caller that moves on without the lock of a host. -/
theorem Exclusive.moves (inv : Exclusive w) (moved : w'.phase = (w.goto caller phase).phase)
    (clock : w'.clock = w.clock) (hosts : w'.hosts = w.hosts)
    (started : ∀ now ∈ phase.started, now ≤ w.clock ∧ w.clock ≤ now + 60)
    (unpinned : phase.pinned = none) (idle : phase.verifying = none) : Exclusive w' := by
  have at_ (other : Fin n) : w'.phase other = if other = caller then phase else w.phase other := by
    rw [moved, goto_phase]
  have verifies (other : Fin n) (host : String) (h : (w'.phase other).verifying = some host) :
      (w.phase other).verifying = some host := by
    rw [at_] at h
    split_ifs at h
    · rw [idle] at h
      cases h
    · exact h
  constructor
  case started =>
    intro other now h
    rw [at_] at h
    rw [clock]
    split_ifs at h
    · exact started now h
    · exact inv.started other now h
  case distinct =>
    rw [hosts]
    exact inv.distinct
  case pinned =>
    intro other host now lock h
    rw [at_] at h
    rw [hosts]
    split_ifs at h
    · rw [unpinned] at h
      cases h
    · exact inv.pinned other host now lock h
  case verifying =>
    intro other host h
    rw [hosts]
    exact inv.verifying other host (verifies other host h)
  case unlocking =>
    intro other host lock h
    rw [at_] at h
    rw [hosts]
    split_ifs at h
    · rw [h] at idle
      cases idle
    · exact inv.unlocking other host lock h
  case single =>
    intro a b host ha hb
    exact inv.single a b host (verifies a host ha) (verifies b host hb)

/-- A host that a caller waits for or verifies on is not pruned. -/
theorem Exclusive.kept (inv : Exclusive w) {now : ℚ} (past : now ≤ w.clock) {host : String}
    (used : (∃ other t lock, (w.phase other).pinned = some (host, t, lock)) ∨
      ∃ other, (w.phase other).verifying = some host) : w.hosts.dropped now host = false := by
  unfold HostTable.dropped
  rw [Bool.and_eq_false_iff]
  rcases used with ⟨other, t, lock, h⟩ | ⟨other, h⟩
  · refine .inl ?_
    have ⟨_, ts, found, later⟩ := inv.pinned other host t lock h
    have begun : (w.phase other).started = some t := by
      cases phase : w.phase other <;> simp_all [Phase.pinned, Phase.started]
    have ⟨_, within⟩ := inv.started other t begun
    rw [found, Option.any_some, decide_eq_false_iff_not, not_lt]
    unfold hostLockIdlePruneSeconds
    linarith
  · refine .inr ?_
    have ⟨lock, found, held⟩ := inv.verifying other host h
    rw [found, Option.all_some, held]
    rfl

theorem Exclusive.register (inv : Exclusive w) {sessionId host : String} {now : ℚ}
    (at_ : w.phase caller = .permitted sessionId host now)
    (newest : ∀ other, ∀ t ∈ (w.phase other).awaits host, t ≤ now) :
    Exclusive (w.register caller sessionId host now) := by
  obtain ⟨past, within⟩ := inv.started caller now (by rw [at_]; rfl)
  have at' (other : Fin n) : (w.register caller sessionId host now).phase other =
      if other = caller then .locking sessionId host now (w.hosts.register host now).2
      else w.phase other := goto_phase w caller other _
  have verifies (other : Fin n) (host' : String)
      (h : ((w.register caller sessionId host now).phase other).verifying = some host') :
      (w.phase other).verifying = some host' := by
    rw [at'] at h
    split_ifs at h
    · cases h
    · exact h
  have stays (host' : String) (lock : ℕ) (kept : w.hosts.dropped now host' = false)
      (found : w.hosts.hostLocks host' = some lock) :
      (w.hosts.register host now).1.hostLocks host' = some lock := by
    by_cases same : host' = host
    · rw [same] at found ⊢
      rw [register_own, register_lock now found]
    · rw [(register_other inv.distinct same).1, kept]
      exact found
  constructor
  case started =>
    intro other t h
    rw [at'] at h
    split_ifs at h
    · rw [← Option.some.inj h]
      exact ⟨past, within⟩
    · exact inv.started other t h
  case distinct => exact register_distinct inv.distinct host now
  case pinned =>
    intro other host' t lock h
    rw [at'] at h
    split_ifs at h
    · cases h
      exact ⟨register_own _ _ _, now, register_lastUsed _ _ _, le_refl _⟩
    · have kept := inv.kept past (.inl ⟨other, t, lock, h⟩)
      obtain ⟨found, ts, used, later⟩ := inv.pinned other host' t lock h
      refine ⟨stays host' lock kept found, ?_⟩
      by_cases same : host' = host
      · rw [same] at h ⊢
        refine ⟨now, register_lastUsed _ _ _, newest other t ?_⟩
        cases phase : w.phase other <;> simp_all [Phase.pinned, Phase.awaits]
      · have unused : (w.hosts.register host now).1.hostLastUsed host' =
            if w.hosts.dropped now host' then none else w.hosts.hostLastUsed host' :=
          (register_other inv.distinct same).2
        rw [kept] at unused
        exact ⟨ts, unused.trans used, later⟩
  case verifying =>
    intro other host' h
    have before := verifies other host' h
    obtain ⟨lock, found, held⟩ := inv.verifying other host' before
    refine ⟨lock, stays host' lock (inv.kept past (.inr ⟨other, before⟩)) found, ?_⟩
    exact (register_held host now (inv.distinct.fresh host' lock found)).trans held
  case unlocking =>
    intro other host' lock h
    rw [at'] at h
    split_ifs at h
    have before : (w.phase other).verifying = some host' := by rw [h]; rfl
    obtain ⟨lock', found, _⟩ := inv.verifying other host' before
    rw [inv.unlocking other host' lock h, found]
    exact (stays host' lock' (inv.kept past (.inr ⟨other, before⟩)) found).symm
  case single =>
    intro a b host' ha hb
    exact inv.single a b host' (verifies a host' ha) (verifies b host' hb)

/-- The lock that a caller acquires is the one of its host, so that no other verifies on it. -/
theorem Exclusive.hold (inv : Exclusive w) {sessionId host : String} {now : ℚ} {hostLock : ℕ}
    (at_ : w.phase caller = .locking sessionId host now hostLock)
    (open_ : w.hosts.held hostLock = false) (successes : List (Reservation n)) :
    Exclusive { w.goto caller (.inFlight host) with
      hosts := w.hosts.hold hostLock
      successes := successes } := by
  have ⟨own, _⟩ := inv.pinned caller host now hostLock (by rw [at_]; rfl)
  have at' (other : Fin n) : (w.goto caller (.inFlight host)).phase other =
      if other = caller then .inFlight host else w.phase other := goto_phase w caller other _
  have alone (other : Fin n) (h : (w.phase other).verifying = some host) : False := by
    have ⟨lock, found, held⟩ := inv.verifying other host h
    rw [own] at found
    rw [← Option.some.inj found, open_] at held
    cases held
  constructor
  case started =>
    intro other t h
    change t ∈ ((w.goto caller (.inFlight host)).phase other).started at h
    rw [at'] at h
    split_ifs at h
    · cases h
    · exact inv.started other t h
  case distinct => exact ⟨inv.distinct.fresh, inv.distinct.injective⟩
  case pinned =>
    intro other host' t lock h
    change ((w.goto caller (.inFlight host)).phase other).pinned = _ at h
    rw [at'] at h
    split_ifs at h
    · cases h
    · exact inv.pinned other host' t lock h
  case verifying =>
    intro other host' h
    change ((w.goto caller (.inFlight host)).phase other).verifying = _ at h
    change ∃ lock, w.hosts.hostLocks host' = some lock ∧
      Function.update w.hosts.held hostLock true lock = true
    rw [at'] at h
    split_ifs at h
    · cases h
      exact ⟨hostLock, own, Function.update_self ..⟩
    · have ⟨lock, found, held⟩ := inv.verifying other host' h
      refine ⟨lock, found, ?_⟩
      rw [Function.update_apply, held, ite_self]
  case unlocking =>
    intro other host' lock h
    change (w.goto caller (.inFlight host)).phase other = _ at h
    rw [at'] at h
    split_ifs at h
    exact inv.unlocking other host' lock h
  case single =>
    intro a b host' ha hb
    change ((w.goto caller (.inFlight host)).phase a).verifying = _ at ha
    change ((w.goto caller (.inFlight host)).phase b).verifying = _ at hb
    rw [at'] at ha hb
    split_ifs at ha hb with a_own b_own b_own
    · rw [a_own, b_own]
    · cases ha
      exact (alone b hb).elim
    · cases hb
      exact (alone a ha).elim
    · exact inv.single a b host' ha hb

theorem Exclusive.release (inv : Exclusive w) {host : String}
    (at_ : w.phase caller = .inFlight host) : Exclusive (w.release caller host) := by
  have at' (other : Fin n) : (w.release caller host).phase other =
      if other = caller then .unlocking host (w.hosts.hostLocks host) else w.phase other :=
    goto_phase w caller other _
  have verifies (other : Fin n) (host' : String)
      (h : ((w.release caller host).phase other).verifying = some host') :
      (w.phase other).verifying = some host' := by
    rw [at'] at h
    split_ifs at h with own
    · cases h
      rw [own, at_]
      rfl
    · exact h
  constructor
  case started =>
    intro other t h
    rw [at'] at h
    split_ifs at h
    · cases h
    · exact inv.started other t h
  case distinct => exact ⟨inv.distinct.fresh, inv.distinct.injective⟩
  case pinned =>
    intro other host' t lock h
    rw [at'] at h
    split_ifs at h
    · cases h
    · have ⟨found, ts, used, later⟩ := inv.pinned other host' t lock h
      refine ⟨found, ?_⟩
      change ∃ ts, Function.update w.hosts.hostLastUsed host (some w.clock) host' = some ts ∧ t ≤ ts
      rw [Function.update_apply]
      split_ifs
      · have begun : (w.phase other).started = some t := by
          cases phase : w.phase other <;> simp_all [Phase.pinned, Phase.started]
        exact ⟨w.clock, rfl, (inv.started other t begun).1⟩
      · exact ⟨ts, used, later⟩
  case verifying =>
    intro other host' h
    exact inv.verifying other host' (verifies other host' h)
  case unlocking =>
    intro other host' lock h
    rw [at'] at h
    split_ifs at h
    · cases h
      rfl
    · exact inv.unlocking other host' lock h
  case single =>
    intro a b host' ha hb
    exact inv.single a b host' (verifies a host' ha) (verifies b host' hb)

theorem Exclusive.releaseLock (inv : Exclusive w) {host : String} {hostLock : Option ℕ}
    (at_ : w.phase caller = .unlocking host hostLock) :
    Exclusive (w.releaseLock caller hostLock) := by
  have own : (w.phase caller).verifying = some host := by rw [at_]; rfl
  have ⟨lock, found, _⟩ := inv.verifying caller host own
  have same : hostLock = some lock := (inv.unlocking caller host hostLock at_).trans found
  rw [same]
  have at' (other : Fin n) : (w.releaseLock caller (some lock)).phase other =
      if other = caller then .unlocked else w.phase other := goto_phase w caller other _
  have verifies (other : Fin n) (host' : String)
      (h : ((w.releaseLock caller (some lock)).phase other).verifying = some host') :
      other ≠ caller ∧ (w.phase other).verifying = some host' := by
    rw [at'] at h
    split_ifs at h with is_own
    · cases h
    · exact ⟨is_own, h⟩
  constructor
  case started =>
    intro other t h
    rw [at'] at h
    split_ifs at h
    · cases h
    · exact inv.started other t h
  case distinct => exact ⟨inv.distinct.fresh, inv.distinct.injective⟩
  case pinned =>
    intro other host' t lock' h
    rw [at'] at h
    split_ifs at h
    · cases h
    · exact inv.pinned other host' t lock' h
  case verifying =>
    intro other host' h
    have ⟨different, before⟩ := verifies other host' h
    have ⟨lock', found', held⟩ := inv.verifying other host' before
    have distinct : lock' ≠ lock := by
      rintro rfl
      have hosts := inv.distinct.injective host' host lock' found' found
      rw [hosts] at before
      exact different (inv.single other caller host before own)
    exact ⟨lock', found', (Function.update_of_ne distinct _ _).trans held⟩
  case unlocking =>
    intro other host' lock' h
    rw [at'] at h
    split_ifs at h
    exact inv.unlocking other host' lock' h
  case single =>
    intro a b host' ha hb
    exact inv.single a b host' (verifies a host' ha).2 (verifies b host' hb).2

theorem Exclusive.tick (inv : Exclusive w) {time : ℚ} (later : w.clock ≤ time)
    (within : ∀ caller, ∀ now ∈ (w.phase caller).started, time ≤ now + 60) :
    Exclusive { w with clock := time } where
  started caller now h := ⟨(inv.started caller now h).1.trans later, within caller now h⟩
  distinct := inv.distinct
  pinned := inv.pinned
  verifying := inv.verifying
  unlocking := inv.unlocking
  single := inv.single

end Steps

theorem Exclusive.step {w w' : Throttle n} {a : Action n} (inv : Exclusive w)
    (ok : undisturbed w a = true) (h : step w a = some w') : Exclusive w' := by
  have started {caller : Fin n} {now : ℚ} (at_ : (w.phase caller).started = some now)
      (t : ℚ) (h : t ∈ some now) : t ≤ w.clock ∧ w.clock ≤ t + 60 := by
    rw [← Option.some.inj h]
    exact inv.started caller now at_
  have none_ (t : ℚ) (h : t ∈ (none : Option ℚ)) : t ≤ w.clock ∧ w.clock ≤ t + 60 := by cases h
  cases effect_of_step h with
  | tick time later within eq =>
    rw [eq]
    exact inv.tick later within
  | enter caller sessionId host free eq =>
    rw [eq]
    refine inv.moves rfl rfl rfl ?_ rfl rfl
    intro now h
    rw [← Option.some.inj h]
    exact ⟨le_refl _, by linarith⟩
  | reserve caller sessionId host now phase order eq =>
    rw [eq]
    unfold Throttle.reserve
    dsimp only
    split_ifs
    · exact inv.moves rfl rfl rfl none_ rfl rfl
    · exact inv.moves rfl rfl rfl (started (by rw [phase]; rfl)) rfl rfl
  | acquirePermit caller sessionId host now phase eq =>
    rw [eq]
    unfold Throttle.acquirePermit
    split_ifs <;> exact inv.moves rfl rfl rfl (started (by rw [phase]; rfl)) rfl rfl
  | register caller sessionId host now label phase eq =>
    rw [eq]
    rw [label] at ok
    simp only [undisturbed, phase, decide_eq_true_iff] at ok
    exact inv.register phase ok
  | acquireLock caller sessionId host now hostLock phase eq =>
    rw [eq]
    unfold Throttle.acquireLock
    split_ifs with held
    · exact inv.moves rfl rfl rfl (started (by rw [phase]; rfl)) rfl rfl
    · exact inv.hold phase (Bool.eq_false_iff.2 held) _
  | giveBack caller sessionId now phase eq =>
    rw [eq]
    exact inv.moves rfl rfl rfl (started (by rw [phase]; rfl)) rfl rfl
  | rollBack caller sessionId now reason phase eq =>
    rw [eq]
    exact inv.moves rfl rfl rfl none_ rfl rfl
  | release caller host phase eq =>
    rw [eq]
    exact inv.release phase
  | releaseLock caller host hostLock phase eq =>
    rw [eq]
    exact inv.releaseLock phase
  | finish caller phase eq =>
    rw [eq]
    exact inv.moves rfl rfl rfl none_ rfl rfl

/-! ## The throttle -/

/-- At most 3 verifications at a time and one for each host, at most 6 successes of a session in 10
seconds, and windows that hold what the calls in progress and the successes have reserved. -/
structure Throttled (w : Throttle n) : Prop where
  inFlight : (Finset.univ.filter fun caller => (w.phase caller).verifying.isSome).card ≤
    concurrencyCap
  perHost : ∀ a b host, (w.phase a).verifying = some host → (w.phase b).verifying = some host →
    a = b
  rate : ∀ sessionId since, w.successes.countP (inSpan sessionId since) ≤ maxPerWindow
  reservations : ∀ r, w.reservations.count r = w.successes.count r + w.pending r
  windows : ∀ sessionId, ∃ cutoff, cutoff ≤ w.lastNow - windowSeconds ∧
    w.sessionWindows sessionId = timesAfter w.reservations sessionId cutoff

theorem Accounted.verifying_le {w : Throttle n} (inv : Accounted w) :
    (Finset.univ.filter fun caller => (w.phase caller).verifying.isSome).card ≤ concurrencyCap := by
  have each : ∀ caller ∈ Finset.univ, (if (w.phase caller).verifying.isSome then 1 else 0) ≤
      (w.phase caller).permits := by
    intro caller _
    cases w.phase caller <;> simp [Phase.verifying, Phase.permits]
  have sum := Finset.sum_le_sum each
  rw [← Finset.card_filter] at sum
  unfold Accounted Throttle.permitsHeld at inv
  omega

/-- The throttle holds in every run in which no second critical section sets `_host_last_used` back
behind a caller who is about to acquire the lock of the host. -/
theorem throttle_holds {clock : ℚ} {w : Throttle n}
    (h : Reaches step (fun w a => undisturbed w a = true) (Throttle.start n clock) w) :
    Throttled w := by
  have accounted : Accounted w := Reaches.invariant h (accounted_start n clock)
    fun _ _ _ inv _ step => inv.step step
  have reserved : Reserved w := Reaches.invariant h (reserved_start n clock)
    fun _ _ _ inv _ step => inv.step step
  have exclusive : Exclusive w := Reaches.invariant h (exclusive_start n clock)
    fun _ _ _ inv ok step => inv.step ok step
  exact ⟨accounted.verifying_le, exclusive.single, reserved.successes_le, reserved.counted,
    reserved.window⟩

/-- A success, and a call for the same host that fails meanwhile. -/
def busyHost : List (Action 2) :=
  [.tryAcquire 0 "s" "h", .advance 0, .advance 0, .advance 0, .advance 0,
    .tick 1, .tryAcquire 1 "s" "h", .advance 1, .advance 1, .advance 1, .advance 1, .advance 1,
    .advance 1]

theorem throttle_holds_busy :
    Throttled (final step undisturbed (Throttle.start 2 0) busyHost) :=
  throttle_holds (reaches_final undisturbed _ busyHost (by decide +kernel))

/-- Caller 1 has read the clock at 10 and sets `_host_last_used` back from 65 to 10, though caller 2
has the lock; caller 0 prunes it, caller 1 makes another, and both acquire theirs. -/
def droppedLock : List (Action 3) :=
  [.tryAcquire 0 "s" "h", .advance 0, .advance 0, .advance 0, .advance 0,
    .tick 10, .tryAcquire 1 "s" "h", .advance 1, .advance 1,
    .tick 60, .tryAcquire 2 "s" "h", .advance 2, .advance 2, .advance 2,
    .tick 65, .advance 0, .advance 1, .advance 1, .advance 1, .advance 1, .advance 0, .advance 0,
    .tick 71, .tryAcquire 0 "s" "other", .advance 0, .advance 0, .advance 0, .advance 0,
    .tryAcquire 1 "s" "h", .advance 1, .advance 1, .advance 1, .advance 1, .advance 2]

theorem two_on_one_host :
    ¬ ∀ (n : ℕ) (clock : ℚ) (w : Throttle n),
      Reaches step (fun _ _ => True) (Throttle.start n clock) w → Throttled w := by
  intro h
  have run : Reaches step (fun _ _ => True) (Throttle.start 3 0)
      (final step (fun _ _ => true) (Throttle.start 3 0) droppedLock) :=
    Reaches.mono (reaches_final (fun _ _ => true) _ droppedLock (by decide +kernel))
      fun _ _ _ => trivial
  have same : (1 : Fin 3) = 2 :=
    (h 3 0 _ run).perHost 1 2 "h" (by decide +kernel) (by decide +kernel)
  cases same

end BacklinkPublisher.VerifyThrottle
