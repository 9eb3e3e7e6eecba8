import BacklinkPublisher.VerifyThrottle
import Mathlib.Data.List.Sort
import Mathlib.Tactic.Linarith

set_option autoImplicit false

/-!
# The windows of the throttle

A session's window is what its calls that have not failed have reserved, from a time on that is 10
seconds back or more.
-/
namespace BacklinkPublisher.VerifyThrottle
open TransitionSystems
open scoped List

theorem dropWhile_sorted {window : List ℚ} (sorted : window.Pairwise (· ≤ ·)) (cutoff : ℚ) :
    window.dropWhile (fun t => t ≤ cutoff) = window.filter fun t => cutoff < t := by
  induction window with
  | nil => rfl
  | cons t window ih =>
    rw [List.pairwise_cons] at sorted
    rw [List.dropWhile_cons, List.filter_cons]
    by_cases old : t ≤ cutoff
    · rw [if_pos (decide_eq_true old), if_neg (by simpa using old), ih sorted.2]
    · have fresh : ∀ t' ∈ window, decide (cutoff < t') = true := by
        intro t' ht'
        exact decide_eq_true (lt_of_lt_of_le (not_le.1 old) (sorted.1 t' ht'))
      rw [if_neg (by simpa using old), if_pos (by simpa using old), List.filter_eq_self.2 fresh]

variable {n : ℕ}

/-- Of equal times it does not matter which one is taken out. -/
theorem erase_times {reservations : List (Reservation n)} {r : Reservation n}
    (ordered : reservations.Pairwise fun a b => a.time ≤ b.time) (h : r ∈ reservations) :
    (reservations.map Reservation.time).erase r.time =
      (reservations.erase r).map Reservation.time := by
  have sorted : (reservations.map Reservation.time).Pairwise (· ≤ ·) := List.pairwise_map.2 ordered
  have sorted' : ((reservations.erase r).map Reservation.time).Pairwise (· ≤ ·) :=
    List.pairwise_map.2 (ordered.sublist (List.erase_sublist))
  have perm : (reservations.map Reservation.time).erase r.time ~
      (reservations.erase r).map Reservation.time := by
    have taken := (List.perm_cons_erase h).map Reservation.time
    rw [List.map_cons] at taken
    exact (List.cons_perm_iff_perm_erase.1 taken.symm).2.symm
  exact perm.eq_of_pairwise (fun a b _ _ hab hba => le_antisymm hab hba)
    (sorted.sublist List.erase_sublist) sorted'

/-- The session and the time of a reservation that may still be rolled back. -/
def Phase.reservation : Phase → Option (String × ℚ)
  | .reserved sessionId _ now | .permitted sessionId _ now | .locking sessionId _ now _
  | .busy sessionId now | .rollingBack sessionId now _ => some (sessionId, now)
  | _ => none

def Throttle.pending (w : Throttle n) (r : Reservation n) : ℕ :=
  if (w.phase r.caller).reservation = some (r.sessionId, r.time) then 1 else 0

/-- The times that the session has reserved after `cutoff`. -/
def timesAfter (reservations : List (Reservation n)) (sessionId : String) (cutoff : ℚ) : List ℚ :=
  (reservations.filter fun r => r.sessionId = sessionId ∧ cutoff < r.time).map Reservation.time

/-- The reservations of the session in the 10 seconds from `since` on. -/
def inSpan (sessionId : String) (since : ℚ) (r : Reservation n) : Bool :=
  r.sessionId = sessionId ∧ since ≤ r.time ∧ r.time < since + windowSeconds

structure Reserved (w : Throttle n) : Prop where
  ordered : w.reservations.Pairwise fun a b => a.time ≤ b.time
  past : ∀ r ∈ w.reservations, r.time ≤ w.lastNow
  window : ∀ sessionId, ∃ cutoff, cutoff ≤ w.lastNow - windowSeconds ∧
    w.sessionWindows sessionId = timesAfter w.reservations sessionId cutoff
  counted : ∀ r, w.reservations.count r = w.successes.count r + w.pending r
  rate : ∀ sessionId since, w.reservations.countP (inSpan sessionId since) ≤ maxPerWindow

theorem reserved_start (n : ℕ) (clock : ℚ) : Reserved (Throttle.start n clock) where
  ordered := .nil
  past _ h := absurd h List.not_mem_nil
  window _ := ⟨_, le_refl _, rfl⟩
  counted _ := rfl
  rate _ _ := Nat.zero_le _

section Steps
variable {w w' : Throttle n} {caller : Fin n} {phase : Phase}

theorem pending_moves (moved : w'.phase = (w.goto caller phase).phase)
    (same : phase.reservation = (w.phase caller).reservation) (r : Reservation n) :
    w'.pending r = w.pending r := by
  unfold Throttle.pending
  rw [moved, goto_phase]
  split_ifs with own <;> simp_all

/-- A caller that moves on with the reservation it has. -/
theorem Reserved.moves (inv : Reserved w) (moved : w'.phase = (w.goto caller phase).phase)
    (same : phase.reservation = (w.phase caller).reservation) (lastNow : w'.lastNow = w.lastNow)
    (windows : w'.sessionWindows = w.sessionWindows)
    (reservations : w'.reservations = w.reservations) (successes : w'.successes = w.successes) :
    Reserved w' where
  ordered := by
    rw [reservations]
    exact inv.ordered
  past := by
    rw [reservations, lastNow]
    exact inv.past
  window := by
    rw [reservations, lastNow, windows]
    exact inv.window
  counted r := by
    rw [reservations, successes, pending_moves moved same]
    exact inv.counted r
  rate := by
    rw [reservations]
    exact inv.rate

/-- After the eviction a window holds what was reserved in the last 10 seconds. -/
theorem Reserved.evict (inv : Reserved w) {now : ℚ} (order : w.lastNow ≤ now) (sessionId : String) :
    evictOld (w.sessionWindows sessionId) now windowSeconds =
      timesAfter w.reservations sessionId (now - windowSeconds) := by
  have ⟨cutoff, back, window⟩ := inv.window sessionId
  have sorted : (timesAfter w.reservations sessionId cutoff).Pairwise (· ≤ ·) :=
    List.pairwise_map.2 (inv.ordered.sublist List.filter_sublist)
  unfold evictOld
  rw [window, dropWhile_sorted sorted]
  unfold timesAfter
  rw [List.filter_map, List.filter_filter]
  congr 1
  apply List.filter_congr
  intro r _
  have later : now - windowSeconds < r.time → cutoff < r.time := by
    intro h
    linarith
  simp only [Function.comp_apply, Bool.decide_and]
  by_cases fresh : now - windowSeconds < r.time
  · simp [fresh, later fresh]
  · simp [fresh]

/-- Reservations at later times do not come into a window that is evicted up to a time. -/
theorem Reserved.window_later (inv : Reserved w) {now : ℚ} (order : w.lastNow ≤ now)
    (sessionId : String) : ∃ cutoff, cutoff ≤ now - windowSeconds ∧
      w.sessionWindows sessionId = timesAfter w.reservations sessionId cutoff := by
  have ⟨cutoff, back, window⟩ := inv.window sessionId
  exact ⟨cutoff, by linarith, window⟩

theorem window_update {windows : String → List ℚ} {sessionId : String} {window : List ℚ}
    {now : ℚ} {reservations : List (Reservation n)}
    (own : ∃ cutoff, cutoff ≤ now - windowSeconds ∧
      window = timesAfter reservations sessionId cutoff)
    (others : ∀ other, other ≠ sessionId → ∃ cutoff, cutoff ≤ now - windowSeconds ∧
      windows other = timesAfter reservations other cutoff) (other : String) :
    ∃ cutoff, cutoff ≤ now - windowSeconds ∧
      Function.update windows sessionId window other = timesAfter reservations other cutoff := by
  rw [Function.update_apply]
  split_ifs with same
  · rw [same]
    exact own
  · exact others other same

theorem timesAfter_concat (reservations : List (Reservation n)) (r : Reservation n)
    (sessionId : String) (cutoff : ℚ) :
    timesAfter (reservations ++ [r]) sessionId cutoff = timesAfter reservations sessionId cutoff ++
      if r.sessionId = sessionId ∧ cutoff < r.time then [r.time] else [] := by
  unfold timesAfter
  rw [List.filter_append, List.map_append, List.filter_cons, List.filter_nil]
  congr 1
  split_ifs with joins out out <;> simp_all

theorem Reserved.limited (inv : Reserved w) {sessionId host : String} {now : ℚ}
    (at_ : w.phase caller = .entered sessionId host now) (order : w.lastNow ≤ now) :
    Reserved { w.goto caller (.refused sessionId .rateLimited) with
      lastNow := now
      sessionWindows := Function.update w.sessionWindows sessionId
        (evictOld (w.sessionWindows sessionId) now windowSeconds) } where
  ordered := inv.ordered
  past r h := (inv.past r h).trans order
  window := window_update ⟨_, le_refl _, inv.evict order sessionId⟩ fun other _ =>
    inv.window_later order other
  counted r := by
    have same : (w.goto caller (.refused sessionId .rateLimited)).pending r = w.pending r :=
      pending_moves rfl (by rw [at_]; rfl) r
    exact (inv.counted r).trans (by rw [← same]; rfl)
  rate := inv.rate

/-- A reservation joins less than 6 others of the last 10 seconds. -/
theorem Reserved.reserve (inv : Reserved w) {sessionId host : String} {now : ℚ}
    (at_ : w.phase caller = .entered sessionId host now) (order : w.lastNow ≤ now)
    (room : ¬ maxPerWindow ≤ (evictOld (w.sessionWindows sessionId) now windowSeconds).length) :
    Reserved { w.goto caller (.reserved sessionId host now) with
      lastNow := now
      sessionWindows := Function.update w.sessionWindows sessionId
        (evictOld (w.sessionWindows sessionId) now windowSeconds ++ [now])
      reservations := w.reservations ++ [⟨caller, sessionId, now⟩] } where
  ordered := by
    rw [List.pairwise_append]
    refine ⟨inv.ordered, List.pairwise_singleton _ _, ?_⟩
    intro a ha b hb
    rw [List.mem_singleton.1 hb]
    exact (inv.past a ha).trans order
  past := by
    intro r h
    rcases List.mem_append.1 h with h | h
    · exact (inv.past r h).trans order
    · rw [List.mem_singleton.1 h]
  window := by
    apply window_update
    · refine ⟨_, le_refl _, ?_⟩
      have fresh : now - windowSeconds < now := by
        unfold windowSeconds
        linarith
      rw [timesAfter_concat, if_pos ⟨rfl, fresh⟩, inv.evict order]
    · intro other different
      have ⟨cutoff, back, window⟩ := inv.window_later order other
      refine ⟨cutoff, back, ?_⟩
      rw [timesAfter_concat, if_neg fun h => different h.1.symm, List.append_nil]
      exact window
  counted := by
    intro r
    have before := inv.counted r
    change (w.reservations ++ [_]).count r = w.successes.count r +
      (w.goto caller (.reserved sessionId host now)).pending r
    rw [List.count_append, before, Nat.add_assoc]
    congr 1
    unfold Throttle.pending
    rw [goto_phase, List.count_singleton]
    by_cases own : r.caller = caller
    · rw [own, at_, if_pos rfl]
      cases r
      simp only [Phase.reservation] at own ⊢
      subst own
      simp
    · have different : ((⟨caller, sessionId, now⟩ : Reservation n) == r) = false := by
        rw [beq_eq_false_iff_ne]
        rintro rfl
        exact own rfl
      rw [if_neg own, different]
      rfl
  rate := by
    intro other since
    have before := inv.rate other since
    change (w.reservations ++ [_]).countP (inSpan other since) ≤ _
    rw [List.countP_append, List.countP_singleton]
    split_ifs with joins
    · unfold inSpan at joins
      rw [decide_eq_true_iff] at joins
      have counted : w.reservations.countP (inSpan other since) ≤
          (timesAfter w.reservations sessionId (now - windowSeconds)).length := by
        unfold timesAfter
        rw [List.length_map, ← List.countP_eq_length_filter]
        apply List.countP_mono_left
        intro r _ span
        unfold inSpan at span
        rw [decide_eq_true_iff] at span ⊢
        exact ⟨span.1.trans joins.1.symm, by linarith [span.2.1, joins.2.2]⟩
      rw [inv.evict order] at room
      omega
    · exact before

theorem Reserved.pending_mem (inv : Reserved w) {sessionId : String} {now : ℚ}
    (at_ : (w.phase caller).reservation = some (sessionId, now)) :
    (⟨caller, sessionId, now⟩ : Reservation n) ∈ w.reservations := by
  have counted := inv.counted ⟨caller, sessionId, now⟩
  unfold Throttle.pending at counted
  rw [if_pos at_] at counted
  apply List.count_pos_iff.1
  omega

/-- A reservation that is taken back, or one that has succeeded, is pending no more. -/
theorem pending_leaves {sessionId : String} {now : ℚ}
    (at_ : (w.phase caller).reservation = some (sessionId, now)) (left : phase.reservation = none)
    (r : Reservation n) :
    (w.goto caller phase).pending r +
        (if (⟨caller, sessionId, now⟩ : Reservation n) == r then 1 else 0) =
      w.pending r := by
  unfold Throttle.pending
  rw [goto_phase]
  by_cases own : r.caller = caller
  · rw [if_pos own, left, own, at_]
    cases r
    dsimp only at own
    subst own
    simp
  · have different : ¬ ((⟨caller, sessionId, now⟩ : Reservation n) == r) = true := by
      intro same
      exact own (congrArg Reservation.caller (eq_of_beq same)).symm
    rw [if_neg own, if_neg different]
    rfl

theorem timesAfter_erase (reservations : List (Reservation n)) (r : Reservation n)
    (sessionId : String) (cutoff : ℚ) :
    timesAfter (reservations.erase r) sessionId cutoff =
      ((reservations.filter fun r => r.sessionId = sessionId ∧ cutoff < r.time).erase r).map
        Reservation.time := by
  unfold timesAfter
  rw [List.erase_filter]

theorem Reserved.rollBack (inv : Reserved w) {sessionId : String} {now : ℚ} {reason : Reason}
    (at_ : w.phase caller = .rollingBack sessionId now reason) :
    Reserved (w.rollBack caller sessionId now reason) where
  ordered := inv.ordered.sublist List.erase_sublist
  past r h := inv.past r (List.mem_of_mem_erase h)
  window := by
    have own : (w.phase caller).reservation = some (sessionId, now) := by rw [at_]; rfl
    have mem := inv.pending_mem own
    have ⟨cutoff, back, window⟩ := inv.window sessionId
    apply window_update
    · refine ⟨cutoff, back, ?_⟩
      rw [window]
      change _ = timesAfter (w.reservations.erase _) sessionId cutoff
      rw [timesAfter_erase]
      by_cases kept : cutoff < now
      · have there : (⟨caller, sessionId, now⟩ : Reservation n) ∈ w.reservations.filter fun r =>
            r.sessionId = sessionId ∧ cutoff < r.time :=
          List.mem_filter.2 ⟨mem, decide_eq_true (And.intro rfl kept)⟩
        exact erase_times (inv.ordered.sublist List.filter_sublist) there
      · have gone : now ∉ timesAfter w.reservations sessionId cutoff := by
          intro h
          have ⟨r, hr, time⟩ := List.mem_map.1 h
          have late := (of_decide_eq_true (List.mem_filter.1 hr).2).2
          rw [time] at late
          exact kept late
        rw [List.erase_of_not_mem gone, List.erase_of_not_mem]
        · rfl
        · intro h
          exact kept (of_decide_eq_true (List.mem_filter.1 h).2).2
    · intro other different
      have ⟨cutoff, back, window⟩ := inv.window other
      refine ⟨cutoff, back, ?_⟩
      rw [window]
      change _ = timesAfter (w.reservations.erase _) other cutoff
      rw [timesAfter_erase, List.erase_of_not_mem]
      · rfl
      · intro h
        exact different (of_decide_eq_true (List.mem_filter.1 h).2).1.symm
  counted r := by
    have own : (w.phase caller).reservation = some (sessionId, now) := by rw [at_]; rfl
    have before := inv.counted r
    have leaves : (w.goto caller (.refused sessionId reason)).pending r +
        (if (⟨caller, sessionId, now⟩ : Reservation n) == r then 1 else 0) = w.pending r :=
      pending_leaves own rfl r
    change (w.reservations.erase _).count r = w.successes.count r +
      (w.goto caller (.refused sessionId reason)).pending r
    rw [List.count_erase]
    omega
  rate sessionId since :=
    List.erase_sublist.countP_le.trans (inv.rate sessionId since)

theorem Reserved.succeed (inv : Reserved w) {sessionId host : String} {now : ℚ} {hostLock : ℕ}
    (at_ : w.phase caller = .locking sessionId host now hostLock) (hosts : HostTable) :
    Reserved { w.goto caller (.inFlight host) with
      hosts := hosts
      successes := w.successes ++ [⟨caller, sessionId, now⟩] } where
  ordered := inv.ordered
  past := inv.past
  window := inv.window
  counted r := by
    have own : (w.phase caller).reservation = some (sessionId, now) := by rw [at_]; rfl
    have before := inv.counted r
    have leaves : (w.goto caller (.inFlight host)).pending r +
        (if (⟨caller, sessionId, now⟩ : Reservation n) == r then 1 else 0) = w.pending r :=
      pending_leaves own rfl r
    change w.reservations.count r = (w.successes ++ [_]).count r +
      (w.goto caller (.inFlight host)).pending r
    rw [List.count_append, List.count_singleton]
    omega
  rate := inv.rate

end Steps

theorem Reserved.step {w w' : Throttle n} {a : Action n} (inv : Reserved w)
    (h : step w a = some w') : Reserved w' := by
  cases effect_of_step h with
  | tick time later within eq =>
    rw [eq]
    exact ⟨inv.ordered, inv.past, inv.window, inv.counted, inv.rate⟩
  | enter caller sessionId host free eq =>
    rw [eq]
    refine inv.moves rfl ?_ rfl rfl rfl rfl
    cases phase : w.phase caller <;> simp_all [Phase.free, Phase.reservation]
  | reserve caller sessionId host now phase order eq =>
    rw [eq]
    unfold Throttle.reserve
    dsimp only
    split_ifs with full
    · exact inv.limited phase order
    · exact inv.reserve phase order full
  | acquirePermit caller sessionId host now phase eq =>
    rw [eq]
    unfold Throttle.acquirePermit
    split_ifs <;> exact inv.moves rfl (by rw [phase]; rfl) rfl rfl rfl rfl
  | register caller sessionId host now label phase eq =>
    rw [eq]
    exact inv.moves rfl (by rw [phase]; rfl) rfl rfl rfl rfl
  | acquireLock caller sessionId host now hostLock phase eq =>
    rw [eq]
    unfold Throttle.acquireLock
    split_ifs
    · exact inv.moves rfl (by rw [phase]; rfl) rfl rfl rfl rfl
    · exact inv.succeed phase _
  | giveBack caller sessionId now phase eq =>
    rw [eq]
    exact inv.moves rfl (by rw [phase]; rfl) rfl rfl rfl rfl
  | rollBack caller sessionId now reason phase eq =>
    rw [eq]
    exact inv.rollBack phase
  | release caller host phase eq =>
    rw [eq]
    exact inv.moves rfl (by rw [phase]; rfl) rfl rfl rfl rfl
  | releaseLock caller host hostLock phase eq =>
    rw [eq]
    exact inv.moves rfl (by rw [phase]; rfl) rfl rfl rfl rfl
  | finish caller phase eq =>
    rw [eq]
    exact inv.moves rfl (by rw [phase]; rfl) rfl rfl rfl rfl

/-- A session succeeds at most 6 times in 10 seconds. -/
theorem Reserved.successes_le {w : Throttle n} (inv : Reserved w) (sessionId : String) (since : ℚ) :
    w.successes.countP (inSpan sessionId since) ≤ maxPerWindow := by
  have among : w.successes <+~ w.reservations := by
    apply List.subperm_ext_iff.2
    intro r _
    rw [inv.counted r]
    exact Nat.le_add_right _ _
  exact (among.countP_le _).trans (inv.rate sessionId since)

end BacklinkPublisher.VerifyThrottle
