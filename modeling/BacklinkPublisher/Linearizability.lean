import Mathlib.Data.List.Sort
import Mathlib.Logic.Function.Basic
import Mathlib.Tactic.Common

set_option autoImplicit false

/-!
# Linearization points

Calls over a state, of which `history t` is the value before step `t`. Where every call that has
returned takes its effect at one step between its first and its last, and no other step changes the
state, the calls are those of a sequential run in the order of these steps.
-/
namespace BacklinkPublisher.Linearizability

universe u v w

structure Event (κ : Type u) (ρ : Type v) where
  call : κ
  result : ρ
  invoked : ℕ
  point : ℕ
  returned : ℕ

variable {κ : Type u} {ρ : Type v} {σ : Type w} (spec : κ → σ → σ × ρ)

/-- The calls one after the other, each with its result, lead from `s` to `t`. -/
def Legal (s : σ) : List (Event κ ρ) → σ → Prop
  | [], t => s = t
  | e :: es, t => (spec e.call s).2 = e.result ∧ Legal (spec e.call s).1 es t

instance decidableLegal [DecidableEq σ] [DecidableEq ρ] :
    (s : σ) → (events : List (Event κ ρ)) → (t : σ) → Decidable (Legal spec s events t)
  | s, [], t => inferInstanceAs (Decidable (s = t))
  | s, e :: es, t =>
    have := decidableLegal (spec e.call s).1 es t
    inferInstanceAs (Decidable ((spec e.call s).2 = e.result ∧ Legal spec (spec e.call s).1 es t))

/-- The state after the calls, whatever their results. -/
def replay (s : σ) (events : List (Event κ ρ)) : σ :=
  events.foldl (fun s e => (spec e.call s).1) s

structure Linearized (initial : σ) (history : ℕ → σ) (now : ℕ) (events : List (Event κ ρ)) :
    Prop where
  start : history 0 = initial
  within : ∀ e ∈ events, e.invoked ≤ e.point ∧ e.point ≤ e.returned ∧ e.returned < now
  effect : ∀ e ∈ events, spec e.call (history e.point) = (history (e.point + 1), e.result)
  quiet : ∀ t < now, (∀ e ∈ events, e.point ≠ t) → history (t + 1) = history t
  distinct : events.Pairwise fun a b => a.point ≠ b.point

variable {spec}

/-- What every call keeps holds at the end. -/
theorem Legal.keeps {P : σ → Prop} {s t : σ} {events : List (Event κ ρ)} (h : Legal spec s events t)
    (keeps : ∀ e ∈ events, ∀ s, P s → P (spec e.call s).1) (start : P s) : P t := by
  induction events generalizing s with
  | nil =>
    change s = t at h
    rwa [← h]
  | cons e events ih =>
    rw [List.forall_mem_cons] at keeps
    exact ih h.2 keeps.2 (keeps.1 s start)

theorem Legal.replay {s t : σ} {events : List (Event κ ρ)} (h : Legal spec s events t) :
    replay spec s events = t := by
  induction events generalizing s with
  | nil => exact h
  | cons e events ih => exact ih h.2

theorem legal_append {s t : σ} {before after : List (Event κ ρ)} :
    Legal spec s (before ++ after) t ↔ ∃ m, Legal spec s before m ∧ Legal spec m after t := by
  induction before generalizing s with
  | nil => exact ⟨fun h => ⟨s, rfl, h⟩, fun ⟨m, hm, h⟩ => hm ▸ h⟩
  | cons e before ih =>
    change _ ∧ Legal spec _ (before ++ after) t ↔ _
    rw [ih]
    constructor
    · intro ⟨result, m, hbefore, hafter⟩
      exact ⟨m, ⟨result, hbefore⟩, hafter⟩
    · intro ⟨m, ⟨result, hbefore⟩, hafter⟩
      exact ⟨result, m, hbefore, hafter⟩

theorem eq_of_quiet {history : ℕ → σ} {t v : ℕ} (le : t ≤ v)
    (quiet : ∀ u, t ≤ u → u < v → history (u + 1) = history u) : history v = history t := by
  induction v, le using Nat.le_induction with
  | base => rfl
  | succ v le ih =>
    rw [quiet v le (Nat.lt_succ_self v)]
    exact ih fun u hu hv => quiet u hu (hv.trans (Nat.lt_succ_self v))

/-- Calls in the order of their points, from a step before all of these to one after them. -/
theorem legal_of_points {history : ℕ → σ} {now t : ℕ} {events : List (Event κ ρ)} (le : t ≤ now)
    (sorted : events.Pairwise fun a b => a.point < b.point)
    (within : ∀ e ∈ events, t ≤ e.point ∧ e.point < now)
    (effect : ∀ e ∈ events, spec e.call (history e.point) = (history (e.point + 1), e.result))
    (quiet : ∀ u, t ≤ u → u < now → (∀ e ∈ events, e.point ≠ u) →
      history (u + 1) = history u) : Legal spec (history t) events (history now) := by
  induction events generalizing t with
  | nil => exact (eq_of_quiet le fun u hu hv => quiet u hu hv fun e h => absurd h List.not_mem_nil).symm
  | cons e events ih =>
    rw [List.pairwise_cons] at sorted
    rw [List.forall_mem_cons] at within effect
    have ⟨⟨after, before⟩, within'⟩ := within
    have same : history e.point = history t := by
      refine eq_of_quiet after fun u hu hv => quiet u hu (hv.trans before) ?_
      intro other hother at_
      rcases List.mem_cons.1 hother with own | later
      · rw [own] at at_
        omega
      · have order := sorted.1 other later
        omega
    rw [← same]
    change (spec e.call _).2 = _ ∧ Legal spec (spec e.call _).1 events _
    rw [effect.1]
    refine ⟨rfl, ih before sorted.2 ?_ effect.2 ?_⟩
    · intro other hother
      exact ⟨sorted.1 other hother, (within' other hother).2⟩
    · intro u hu hv others
      refine quiet u (by omega) hv ?_
      rw [List.forall_mem_cons]
      exact ⟨by omega, others⟩

section Order
variable {initial : σ} {history : ℕ → σ} {now : ℕ} {events : List (Event κ ρ)}

/-- The calls are legal in an order in which none comes after another that was made after its
return. -/
theorem Linearized.order (lin : Linearized spec initial history now events) :
    ∃ order, order.Perm events ∧ Legal spec initial order (history now) ∧
      order.Pairwise fun a b => ¬ b.returned < a.invoked := by
  have perm := List.perm_insertionSort (fun a b : Event κ ρ => a.point ≤ b.point) events
  have distinct := (perm.pairwise_iff fun {_ _} => Ne.symm).2 lin.distinct
  have sorted : (events.insertionSort fun a b => a.point ≤ b.point).Pairwise
      fun a b => a.point < b.point := by
    have le := List.pairwise_insertionSort (fun a b : Event κ ρ => a.point ≤ b.point) events
    exact le.imp₂ (fun _ _ le ne => lt_of_le_of_ne le ne) distinct
  refine ⟨_, perm, ?_, ?_⟩
  · rw [← lin.start]
    apply legal_of_points (Nat.zero_le _) sorted
    · intro e he
      have within := lin.within e (perm.mem_iff.1 he)
      omega
    · exact fun e he => lin.effect e (perm.mem_iff.1 he)
    · exact fun u _ hu others => lin.quiet u hu fun e he => others e (perm.mem_iff.2 he)
  · have within : ∀ e ∈ events.insertionSort fun a b => a.point ≤ b.point,
        e.invoked ≤ e.point ∧ e.point ≤ e.returned := by
      intro e he
      have bounds := lin.within e (perm.mem_iff.1 he)
      omega
    refine sorted.imp_of_mem ?_
    intro a b ha hb order
    have first := within a ha
    have second := within b hb
    omega

theorem linearized_start (initial : σ) : Linearized spec initial (fun _ => initial) 0 [] where
  start := rfl
  within _ h := absurd h List.not_mem_nil
  effect _ h := absurd h List.not_mem_nil
  quiet _ _ _ := rfl
  distinct := .nil

theorem update_le {history : ℕ → σ} {now t : ℕ} (s : σ) (le : t ≤ now) :
    Function.update history (now + 1) s t = history t :=
  Function.update_of_ne (by omega) _ _

/-- A step at which no call returns. -/
theorem Linearized.pass (lin : Linearized spec initial history now events) :
    Linearized spec initial (Function.update history (now + 1) (history now)) (now + 1) events where
  start := by rw [update_le _ (Nat.zero_le _), lin.start]
  within e he := by
    have bounds := lin.within e he
    omega
  effect e he := by
    have bounds := lin.within e he
    rw [update_le _ (by omega), update_le _ (by omega)]
    exact lin.effect e he
  quiet t ht others := by
    by_cases last : t = now
    · rw [last, Function.update_self, update_le _ (le_refl _)]
    · rw [update_le _ (by omega), update_le _ (by omega)]
      exact lin.quiet t (by omega) others
  distinct := lin.distinct

/-- A call that takes its effect as it returns. -/
theorem Linearized.take (lin : Linearized spec initial history now events) {call : κ} {s : σ}
    {result : ρ} {invoked : ℕ} (le : invoked ≤ now)
    (effect : spec call (history now) = (s, result)) :
    Linearized spec initial (Function.update history (now + 1) s) (now + 1)
      (events ++ [⟨call, result, invoked, now, now⟩]) where
  start := by rw [update_le _ (Nat.zero_le _), lin.start]
  within e he := by
    rcases List.mem_append.1 he with old | new
    · have bounds := lin.within e old
      omega
    · rw [List.mem_singleton.1 new]
      exact ⟨le, le_refl _, Nat.lt_succ_self _⟩
  effect e he := by
    rcases List.mem_append.1 he with old | new
    · have bounds := lin.within e old
      rw [update_le _ (by omega), update_le _ (by omega)]
      exact lin.effect e old
    · rw [List.mem_singleton.1 new, update_le _ (le_refl _), Function.update_self]
      exact effect
  quiet t ht others := by
    rw [List.forall_mem_append] at others
    have other : now ≠ t := others.2 _ (List.mem_singleton_self _)
    rw [update_le _ (by omega), update_le _ (by omega)]
    exact lin.quiet t (by omega) others.1
  distinct := by
    rw [List.pairwise_append]
    refine ⟨lin.distinct, List.pairwise_singleton _ _, ?_⟩
    intro e he last hlast
    have bounds := lin.within e he
    rw [List.mem_singleton.1 hlast]
    dsimp only
    omega

/-- A call without effect that returns after its point. -/
theorem Linearized.late (lin : Linearized spec initial history now events) {call : κ} {result : ρ}
    {invoked point : ℕ} (le : invoked ≤ point) (past : point < now)
    (fresh : ∀ e ∈ events, e.point ≠ point)
    (effect : spec call (history point) = (history point, result)) :
    Linearized spec initial (Function.update history (now + 1) (history now)) (now + 1)
      (events ++ [⟨call, result, invoked, point, now⟩]) where
  start := lin.pass.start
  within e he := by
    rcases List.mem_append.1 he with old | new
    · exact lin.pass.within e old
    · rw [List.mem_singleton.1 new]
      exact ⟨le, past.le, Nat.lt_succ_self _⟩
  effect e he := by
    rcases List.mem_append.1 he with old | new
    · exact lin.pass.effect e old
    · rw [List.mem_singleton.1 new, update_le _ past.le, update_le _ past]
      dsimp only
      rw [lin.quiet point past fresh]
      exact effect
  quiet t ht others := by
    rw [List.forall_mem_append] at others
    exact lin.pass.quiet t ht others.1
  distinct := by
    rw [List.pairwise_append]
    refine ⟨lin.distinct, List.pairwise_singleton _ _, ?_⟩
    intro e he last hlast
    rw [List.mem_singleton.1 hlast]
    exact fresh e he

end Order

end BacklinkPublisher.Linearizability
