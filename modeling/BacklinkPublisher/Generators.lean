import Mathlib.Data.List.Forall2
import Mathlib.Tactic.Common

set_option autoImplicit false

/-!
# Generators

What a generator does when it is run to its end: it yields items, one after another, and then
returns or raises. A loop over a generator with a body that can raise ends at the first exception
of either.
-/
namespace BacklinkPublisher.Generators

universe u v w
variable {ε : Type u} {α : Type v} {β : Type w}

inductive Generator (ε : Type u) (α : Type v) where
  | returns
  | raises (exception : ε)
  | yields (item : α) (rest : Generator ε α)

namespace Generator

def items : Generator ε α → List α
  | .returns => []
  | .raises _ => []
  | .yields item rest => item :: rest.items

def raised : Generator ε α → Option ε
  | .returns => none
  | .raises exception => some exception
  | .yields _ rest => rest.raised

/-- The loop over the items, numbered from `i`: what its body makes of each of them. -/
def through (body : ℕ → α → Except ε β) : ℕ → Generator ε α → Generator ε β
  | _, .returns => .returns
  | _, .raises exception => .raises exception
  | i, .yields item rest =>
    match body i item with
    | .error exception => .raises exception
    | .ok made => .yields made (through body (i + 1) rest)

/-- A generator of one item. -/
def once : Except ε α → Generator ε α
  | .error exception => .raises exception
  | .ok item => .yields item .returns

/-- The loop comes to its end. -/
def Completes (body : ℕ → α → Except ε β) (i : ℕ) (g : Generator ε α) : Prop :=
  g.raised = none ∧ ∀ numbered ∈ g.items.zipIdx i, ∃ made, body numbered.2 numbered.1 = .ok made

/-- The loop makes nothing of the first item, or there is none. -/
def MakesNothing (body : ℕ → α → Except ε β) (i : ℕ) (g : Generator ε α) : Prop :=
  ∀ item rest, g = .yields item rest → ∃ exception, body i item = .error exception

/-- The items made of all the items, in their order. -/
def Made (body : ℕ → α → Except ε β) (i : ℕ) (items : List α) (made : List β) : Prop :=
  List.Forall₂ (fun numbered made => body numbered.2 numbered.1 = .ok made) (items.zipIdx i) made

variable {body : ℕ → α → Except ε β} {g : Generator ε α}

theorem raised_through (body : ℕ → α → Except ε β) (i : ℕ) (g : Generator ε α) :
    (through body i g).raised = none ↔ Completes body i g := by
  induction g generalizing i with
  | returns => exact iff_of_true rfl ⟨rfl, fun _ hmem => (List.not_mem_nil hmem).elim⟩
  | raises exception =>
    exact iff_of_false (Option.some_ne_none _) fun h => Option.some_ne_none _ h.1
  | yields item rest ih =>
    unfold Completes
    rw [through, items, List.zipIdx_cons, List.forall_mem_cons]
    cases first : body i item with
    | error exception =>
      refine iff_of_false (Option.some_ne_none _) fun completes => ?_
      have ⟨made, makes⟩ := completes.2.1
      cases makes
    | ok made =>
      change (through body (i + 1) rest).raised = none ↔ _
      rw [ih (i + 1)]
      constructor
      · intro completes
        exact ⟨completes.1, ⟨made, rfl⟩, completes.2⟩
      · intro completes
        exact ⟨completes.1, completes.2.2⟩

theorem made_through {i : ℕ} (completes : Completes body i g) :
    Made body i g.items (through body i g).items := by
  induction g generalizing i with
  | returns => exact .nil
  | raises exception => exact .nil
  | yields item rest ih =>
    have ⟨whole, all⟩ := completes
    rw [items, List.zipIdx_cons, List.forall_mem_cons] at all
    have ⟨made, first⟩ := all.1
    rw [through, first]
    exact .cons first (ih ⟨whole, all.2⟩)

/-- What is made of all the items is what the loop makes. -/
theorem Made.items_through {i : ℕ} {made : List β} (all : Made body i g.items made) :
    (through body i g).items = made := by
  induction g generalizing i made with
  | returns =>
    cases all
    rfl
  | raises exception =>
    cases all
    rfl
  | yields item rest ih =>
    unfold Made at all
    rw [items, List.zipIdx_cons] at all
    cases all with
    | cons first rest_ =>
      rw [through, first]
      exact congrArg _ (ih rest_)

theorem Made.makes {i : ℕ} {made : List β} {items : List α} (all : Made body i items made) :
    ∀ numbered ∈ items.zipIdx i, ∃ made, body numbered.2 numbered.1 = .ok made := by
  unfold Made at all
  generalize items.zipIdx i = numbered at all ⊢
  induction all with
  | nil => exact fun _ hmem => absurd hmem List.not_mem_nil
  | cons first _ ih =>
    rw [List.forall_mem_cons]
    exact ⟨⟨_, first⟩, ih⟩

theorem items_through_eq_nil (body : ℕ → α → Except ε β) (i : ℕ) (g : Generator ε α) :
    (through body i g).items = [] ↔ MakesNothing body i g := by
  cases g with
  | returns => exact iff_of_true rfl fun _ _ yields => nomatch yields
  | raises exception => exact iff_of_true rfl fun _ _ yields => nomatch yields
  | yields item rest =>
    rw [through]
    cases first : body i item with
    | error exception =>
      refine iff_of_true rfl fun _ _ yields => ⟨exception, ?_⟩
      cases yields
      exact first
    | ok made =>
      refine iff_of_false (List.cons_ne_nil _ _) fun nothing => ?_
      have ⟨exception, fails⟩ := nothing item rest rfl
      rw [first] at fails
      cases fails

end Generator

/-- Two lists that are each related to a third. -/
theorem forall₂_of_common {γ : Type*} {R : γ → α → Prop} {S : γ → β → Prop} {T : α → β → Prop}
    {common : List γ} {left : List α} {right : List β}
    (first : List.Forall₂ R common left) (second : List.Forall₂ S common right)
    (related : ∀ c a b, R c a → S c b → T a b) : List.Forall₂ T left right := by
  induction first generalizing right with
  | nil =>
    cases second
    exact .nil
  | cons head _ ih =>
    cases second with
    | cons head' tail => exact .cons (related _ _ _ head head') (ih tail)

/-- Lists of which some may be left out, but of which nothing is missing when they are joined. -/
theorem eq_of_flatten_eq {kept all : List (List α)}
    (part : List.Forall₂ (fun k a => k = a ∨ k = []) kept all)
    (same : kept.flatten = all.flatten) : kept = all := by
  have shorter {kept all : List (List α)}
      (part : List.Forall₂ (fun k a => k = a ∨ k = []) kept all) :
      kept.flatten.length ≤ all.flatten.length := by
    induction part with
    | nil => exact Nat.le_refl 0
    | cons head _ ih =>
      rw [List.flatten_cons, List.flatten_cons, List.length_append, List.length_append]
      rcases head with head | head
      · rw [head]
        omega
      · rw [head, List.length_nil]
        omega
  induction part with
  | nil => rfl
  | @cons k a kept all head part ih =>
    rw [List.flatten_cons, List.flatten_cons] at same
    have whole : k = a := by
      rcases head with head | head
      · exact head
      · have bound := shorter part
        have total := congrArg List.length same
        rw [List.length_append, List.length_append, head, List.length_nil] at total
        rw [head, List.eq_nil_of_length_eq_zero (show a.length = 0 by omega)]
    rw [whole] at same ⊢
    rw [ih (List.append_cancel_left same)]

end BacklinkPublisher.Generators
