import Mathlib.Algebra.GroupWithZero.Nat
import Mathlib.Logic.Relation
import Mathlib.Tactic.SplitIfs

set_option autoImplicit false

/-!
# Labelled step functions and what holds along their runs

`step s a` is the state after the label `a`, or `none` where `a` is not enabled
in `s`. `ok s a` says which labels a run may take in which state, so one step
function serves several protocols that allow different labels.
-/
namespace BacklinkPublisher.TransitionSystems

/-- The numerals of the threads in a run of two. -/
scoped instance twoThreads : NeZero 2 := inferInstance

universe u v
variable {σ : Type u} {α : Type v} (step : σ → α → Option σ) (ok : σ → α → Prop)

/-- One step whose label is allowed in the state it is taken from. -/
def Moves (s t : σ) : Prop := ∃ a, ok s a ∧ step s a = some t

/-- The states of the runs from `s` all of whose labels are allowed. -/
abbrev Reaches : σ → σ → Prop := Relation.ReflTransGen (Moves step ok)

variable {step ok}

theorem Reaches.invariant {I : σ → Prop} {s t : σ} (h : Reaches step ok s t) (hs : I s)
    (hstep : ∀ s a t, I s → ok s a → step s a = some t → I t) : I t := by
  induction h with
  | refl => exact hs
  | tail _ hm ih =>
    obtain ⟨a, ha, hs⟩ := hm
    exact hstep _ a _ ih ha hs

/-- A preorder respected by every allowed step from an invariant state relates
the two ends of a run. -/
theorem Reaches.relates {I : σ → Prop} {R : σ → σ → Prop} {s t : σ}
    (h : Reaches step ok s t) (hs : I s)
    (hstep : ∀ s a t, I s → ok s a → step s a = some t → I t)
    (refl : ∀ s, R s s) (trans : ∀ s t u, R s t → R t u → R s u)
    (hR : ∀ s a t, I s → ok s a → step s a = some t → R s t) : R s t := by
  induction h with
  | refl => exact refl s
  | @tail t u hst hm ih =>
    have ht := Reaches.invariant hst hs hstep
    obtain ⟨a, ha, hu⟩ := hm
    exact trans _ _ _ ih (hR _ a _ ht ha hu)

theorem Reaches.mono {ok' : σ → α → Prop} {s t : σ} (h : Reaches step ok s t)
    (hok : ∀ s a, ok s a → ok' s a) : Reaches step ok' s t :=
  Relation.ReflTransGen.mono (fun _ _ ⟨a, ha, hs⟩ => ⟨a, hok _ a ha, hs⟩) _ _ h

section Executions

variable (step) (allowed : σ → α → Bool)

/-- Take the labels of a list in order, each where it is allowed. -/
def execute (s : σ) : List α → Option σ
  | [] => some s
  | a :: as => if allowed s a then (step s a).bind fun t => execute t as else none

/-- The state after an executed list of labels, and `s` where it does not execute. -/
def final (s : σ) (as : List α) : σ := (execute step allowed s as).getD s

end Executions

theorem execute_reaches {allowed : σ → α → Bool} {s t : σ} {as : List α}
    (h : execute step allowed s as = some t) :
    Reaches step (fun s a => allowed s a = true) s t := by
  induction as generalizing s with
  | nil =>
    cases h
    exact .refl
  | cons a as ih =>
    rw [execute] at h
    split_ifs at h with ha
    obtain ⟨u, hu, htail⟩ := Option.bind_eq_some_iff.1 h
    exact Relation.ReflTransGen.head ⟨a, ha, hu⟩ (ih htail)

theorem reaches_final (allowed : σ → α → Bool) (s : σ) (as : List α)
    (h : (execute step allowed s as).isSome = true) :
    Reaches step (fun s a => allowed s a = true) s (final step allowed s as) := by
  obtain ⟨t, ht⟩ := Option.isSome_iff_exists.1 h
  have hfinal : final step allowed s as = t := by simp [final, ht]
  exact execute_reaches (hfinal ▸ ht)

end BacklinkPublisher.TransitionSystems
