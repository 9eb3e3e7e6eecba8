import Mathlib.Data.List.Basic
import Mathlib.Tactic.Common

set_option autoImplicit false

/-!
# Folds of steps that may fail

`as.foldlM f s` takes `f` over a list in order and is `none` as soon as one step
is. The rules below carry facts about single steps to the whole fold.
-/
namespace BacklinkPublisher.OptionFolds

universe u v w
variable {σ : Type u} {α : Type v} {f : σ → α → Option σ}

theorem foldlM_cons_some {s t : σ} {a : α} {as : List α} :
    (a :: as).foldlM f s = some t ↔ ∃ u, f s a = some u ∧ as.foldlM f u = some t := by
  simp only [List.foldlM_cons, Option.bind_eq_bind, Option.bind_eq_some_iff]

theorem foldlM_append_some {s t : σ} {as bs : List α} :
    (as ++ bs).foldlM f s = some t ↔ ∃ u, as.foldlM f s = some u ∧ bs.foldlM f u = some t := by
  simp only [List.foldlM_append, Option.bind_eq_bind, Option.bind_eq_some_iff]

theorem foldlM_invariant {I : σ → Prop} {s t : σ} {as : List α} (h : as.foldlM f s = some t)
    (hs : I s) (step : ∀ s a t, a ∈ as → I s → f s a = some t → I t) : I t := by
  induction as generalizing s with
  | nil =>
    obtain rfl : s = t := by simpa using h
    exact hs
  | cons a as ih =>
    obtain ⟨u, hu, ht⟩ := foldlM_cons_some.1 h
    exact ih ht (step s a u (by simp) hs hu) fun s b t hb => step s b t (by simp [hb])

/-- `I` relates the elements gone through to the state reached. -/
theorem foldlM_seen {I : List α → σ → Prop} {s t : σ} {seen as : List α}
    (h : as.foldlM f s = some t) (hs : I seen s)
    (step : ∀ seen s a t, I seen s → f s a = some t → I (seen ++ [a]) t) : I (seen ++ as) t := by
  induction as generalizing s seen with
  | nil =>
    rw [List.append_nil, ← Option.some.inj h]
    exact hs
  | cons a as ih =>
    obtain ⟨u, hu, ht⟩ := foldlM_cons_some.1 h
    rw [List.append_cons]
    exact ih ht (step seen s a u hs hu)

/-- A fold whose steps fail at certain elements, whatever the state, fails at those. -/
theorem foldlM_isSome {ok : α → Prop} (step : ∀ s a, (f s a).isSome ↔ ok a) (as : List α) (s : σ) :
    (as.foldlM f s).isSome ↔ ∀ a ∈ as, ok a := by
  induction as generalizing s with
  | nil => exact iff_of_true rfl fun _ mem => absurd mem List.not_mem_nil
  | cons a as ih =>
    rw [List.forall_mem_cons, ← step s a, List.foldlM_cons]
    cases f s a with
    | none => simp
    | some t => simp [ih]

/-- A preorder respected by every step relates the two ends of a fold. -/
theorem foldlM_relates {R : σ → σ → Prop} {s t : σ} {as : List α} (h : as.foldlM f s = some t)
    (refl : ∀ s, R s s) (trans : ∀ s t u, R s t → R t u → R s u)
    (step : ∀ s a t, f s a = some t → R s t) : R s t :=
  foldlM_invariant (I := R s) h (refl s) fun _ a _ _ hs hstep => trans _ _ _ hs (step _ a _ hstep)

/-- What every step computes by `g` alone, the fold computes by `g` alone. -/
theorem foldlM_projects {τ : Type w} {π : σ → τ} {g : τ → α → τ} {s t : σ} {as : List α}
    (h : as.foldlM f s = some t) (step : ∀ s a t, f s a = some t → π t = g (π s) a) :
    π t = as.foldl g (π s) := by
  induction as generalizing s with
  | nil =>
    obtain rfl : s = t := by simpa using h
    rfl
  | cons a as ih =>
    obtain ⟨u, hu, ht⟩ := foldlM_cons_some.1 h
    rw [ih ht, step s a u hu, List.foldl_cons]

theorem foldlM_map {τ : Type w} {π : σ → τ} {g : τ → α → Option τ} (as : List α) (s : σ)
    (step : ∀ s a, (f s a).map π = g (π s) a) : (as.foldlM f s).map π = as.foldlM g (π s) := by
  induction as generalizing s with
  | nil => rfl
  | cons a as ih =>
    simp only [List.foldlM_cons, Option.bind_eq_bind]
    rw [← step]
    cases f s a with
    | none => rfl
    | some t => exact ih t

/-- A property that a step has exactly where it had it or its element brings it in. -/
theorem foldlM_exists {P : σ → Prop} {Q : α → Prop} {s t : σ} {as : List α}
    (h : as.foldlM f s = some t) (step : ∀ s a t, f s a = some t → (P t ↔ P s ∨ Q a)) :
    P t ↔ P s ∨ ∃ a ∈ as, Q a := by
  induction as generalizing s with
  | nil =>
    obtain rfl : s = t := by simpa using h
    simp
  | cons a as ih =>
    obtain ⟨u, hu, ht⟩ := foldlM_cons_some.1 h
    rw [ih ht, step s a u hu, or_assoc]
    simp

/-- The step that an element of the list takes within the fold. -/
theorem foldlM_step_of_mem {s t : σ} {as : List α} (h : as.foldlM f s = some t) {a : α}
    (ha : a ∈ as) : ∃ before bs u v, as = before ++ a :: bs ∧ before.foldlM f s = some u ∧
      f u a = some v ∧ bs.foldlM f v = some t := by
  obtain ⟨before, bs, rfl⟩ := List.append_of_mem ha
  obtain ⟨u, hu, hrest⟩ := foldlM_append_some.1 h
  obtain ⟨v, hv, ht⟩ := foldlM_cons_some.1 hrest
  exact ⟨before, bs, u, v, rfl, hu, hv, ht⟩

/-- A fold whose steps only ever extend `π` leaves it unchanged exactly when every
element is quiet. `I` is what is known as long as nothing has changed. -/
theorem foldlM_unchanged_iff {τ : Type w} {π : σ → τ} {I : σ → Prop} {quiet : α → Prop}
    {R : τ → τ → Prop} {s t : σ} {as : List α} (h : as.foldlM f s = some t) (hs : I s)
    (trans : ∀ x y z, R x y → R y z → R x z) (refl : ∀ x, R x x)
    (antisymm : ∀ x y, R x y → R y x → x = y)
    (grows : ∀ s a t, f s a = some t → R (π s) (π t))
    (keeps : ∀ s a t, I s → f s a = some t → quiet a → I t ∧ π t = π s)
    (changes : ∀ s a t, I s → f s a = some t → ¬ quiet a → π t ≠ π s) :
    π t = π s ↔ ∀ a ∈ as, quiet a := by
  induction as generalizing s with
  | nil =>
    obtain rfl : s = t := by simpa using h
    simp
  | cons a as ih =>
    obtain ⟨u, hu, ht⟩ := foldlM_cons_some.1 h
    by_cases ha : quiet a
    · obtain ⟨hI, hsame⟩ := keeps s a u hs hu ha
      rw [← hsame, ih ht hI]
      simp [ha]
    · have rest : R (π u) (π t) := foldlM_relates (R := fun s t => R (π s) (π t)) ht
        (fun s => refl (π s)) (fun s t u => trans (π s) (π t) (π u)) grows
      refine iff_of_false (fun same => ?_) (by simp [ha])
      exact changes s a u hs hu ha (antisymm _ _ (same ▸ rest) (grows s a u hu))

/-! ## Elements and what is before them -/

theorem exists_split_concat {R : List α → α → Prop} {as : List α} {b : α} :
    (∃ before a after, as ++ [b] = before ++ a :: after ∧ R before a) ↔
      (∃ before a after, as = before ++ a :: after ∧ R before a) ∨ R as b := by
  constructor
  · rintro ⟨before, a, after, hsplit, hR⟩
    rcases List.eq_nil_or_concat after with rfl | ⟨after, final, rfl⟩
    · obtain ⟨rfl, hlast⟩ := List.append_inj' hsplit rfl
      exact .inr ((List.cons.inj hlast).1 ▸ hR)
    · rw [List.concat_eq_append, ← List.cons_append, ← List.append_assoc] at hsplit
      obtain ⟨has, -⟩ := List.append_inj' hsplit rfl
      exact .inl ⟨before, a, after, has, hR⟩
  · rintro (⟨before, a, after, rfl, hR⟩ | hR)
    · exact ⟨before, a, after ++ [b], by simp, hR⟩
    · exact ⟨as, b, [], rfl, hR⟩

/-! ## Maps -/

theorem filterMap_sublist {β : Type w} {g g' : α → Option β} (sub : ∀ a, g a = none ∨ g a = g' a)
    (as : List α) : (as.filterMap g).Sublist (as.filterMap g') := by
  induction as with
  | nil => exact List.Sublist.slnil
  | cons a as ih =>
    rw [List.filterMap_cons, List.filterMap_cons]
    rcases sub a with skipped | same
    · rw [skipped]
      cases g' a with
      | none => exact ih
      | some b => exact ih.cons b
    · rw [same]
      cases g' a with
      | none => exact ih
      | some b => exact ih.cons_cons b

theorem mem_of_mapM_some {β : Type v} {g : α → Option β} {as : List α} {bs : List β}
    (h : as.mapM g = some bs) {b : β} (hb : b ∈ bs) : ∃ a ∈ as, g a = some b := by
  induction as generalizing bs with
  | nil =>
    have empty : [] = bs := Option.some.inj h
    rw [← empty] at hb
    cases hb
  | cons a as ih =>
    rw [List.mapM_cons] at h
    have ⟨first, hfirst, h⟩ := Option.bind_eq_some_iff.1 h
    have ⟨rest, hrest, h⟩ := Option.bind_eq_some_iff.1 h
    have listed : first :: rest = bs := Option.some.inj h
    rw [← listed] at hb
    rcases List.mem_cons.1 hb with here | later
    · exact ⟨a, List.mem_cons_self, here ▸ hfirst⟩
    · have ⟨a', hmem, ha'⟩ := ih hrest later
      exact ⟨a', List.mem_cons_of_mem _ hmem, ha'⟩

theorem mapM_of_forall {β : Type w} {g : α → Option β} {f : α → β} {as : List α}
    (h : ∀ a ∈ as, g a = some (f a)) : as.mapM g = some (as.map f) := by
  induction as with
  | nil => rfl
  | cons a as ih =>
    rw [List.forall_mem_cons] at h
    rw [List.mapM_cons, h.1, ih h.2]
    rfl

theorem isSome_of_mapM {β : Type w} {g : α → Option β} {as : List α} {bs : List β}
    (h : as.mapM g = some bs) : ∀ a ∈ as, (g a).isSome := by
  induction as generalizing bs with
  | nil => exact fun _ mem => absurd mem List.not_mem_nil
  | cons a as ih =>
    rw [List.mapM_cons] at h
    have ⟨first, hfirst, h⟩ := Option.bind_eq_some_iff.1 h
    have ⟨rest, hrest, _⟩ := Option.bind_eq_some_iff.1 h
    rw [List.forall_mem_cons, hfirst]
    exact ⟨rfl, ih hrest⟩

end BacklinkPublisher.OptionFolds
