import Mathlib.Data.List.Basic
import Mathlib.Tactic.Common

set_option autoImplicit false

/-!
# Patterns over a text

`findall` and `sub` with the empty text, for a pattern that is given by what it matches at the start
of a text: what it found, and how many characters the match takes.
-/
namespace BacklinkPublisher.PatternScans

universe u v
variable {α : Type u} {β : Type v}

/-- The first characters that are counted belong to the match before. -/
def findFrom (pattern : List α → Option (β × ℕ)) : ℕ → List α → List β
  | _, [] => []
  | skip + 1, _ :: rest => findFrom pattern skip rest
  | 0, c :: rest =>
    match pattern (c :: rest) with
    | some (found, length) => found :: findFrom pattern (length - 1) rest
    | none => findFrom pattern 0 rest

def findAll (pattern : List α → Option (β × ℕ)) (text : List α) : List β := findFrom pattern 0 text

def removeFrom (pattern : List α → Option ℕ) : ℕ → List α → List α
  | _, [] => []
  | skip + 1, _ :: rest => removeFrom pattern skip rest
  | 0, c :: rest =>
    match pattern (c :: rest) with
    | some length => removeFrom pattern (length - 1) rest
    | none => c :: removeFrom pattern 0 rest

def removeAll (pattern : List α → Option ℕ) (text : List α) : List α := removeFrom pattern 0 text

/-- Only a certain character begins a match. -/
def BeginsWith (pattern : List α → Option β) (mark : α) : Prop :=
  ∀ c rest, c ≠ mark → pattern (c :: rest) = none

section Find
variable {pattern : List α → Option (β × ℕ)}

theorem findFrom_append (matched rest : List α) :
    findFrom pattern matched.length (matched ++ rest) = findAll pattern rest := by
  induction matched with
  | nil => rfl
  | cons c matched ih => exact ih

theorem findAll_match {matched rest : List α} {found : β} (some_ : matched ≠ [])
    (here : pattern (matched ++ rest) = some (found, matched.length)) :
    findAll pattern (matched ++ rest) = found :: findAll pattern rest := by
  cases matched with
  | nil => exact (some_ rfl).elim
  | cons c matched =>
    unfold findAll
    rw [List.cons_append] at here ⊢
    rw [findFrom, here]
    exact congrArg (found :: ·) (findFrom_append matched rest)

theorem findAll_plain {mark : α} (begins : BeginsWith pattern mark) {plain : List α}
    (clean : mark ∉ plain) (rest : List α) :
    findAll pattern (plain ++ rest) = findAll pattern rest := by
  induction plain with
  | nil => rfl
  | cons c plain ih =>
    rw [List.mem_cons, not_or] at clean
    unfold findAll
    rw [List.cons_append, findFrom, begins c _ (Ne.symm clean.1)]
    exact ih clean.2

end Find

section Remove
variable {pattern : List α → Option ℕ}

theorem removeFrom_append (matched rest : List α) :
    removeFrom pattern matched.length (matched ++ rest) = removeAll pattern rest := by
  induction matched with
  | nil => rfl
  | cons c matched ih => exact ih

theorem removeAll_match {matched rest : List α} (some_ : matched ≠ [])
    (here : pattern (matched ++ rest) = some matched.length) :
    removeAll pattern (matched ++ rest) = removeAll pattern rest := by
  cases matched with
  | nil => exact (some_ rfl).elim
  | cons c matched =>
    unfold removeAll
    rw [List.cons_append] at here ⊢
    rw [removeFrom, here]
    exact removeFrom_append matched rest

theorem removeAll_plain {mark : α} (begins : BeginsWith pattern mark) {plain : List α}
    (clean : mark ∉ plain) (rest : List α) :
    removeAll pattern (plain ++ rest) = plain ++ removeAll pattern rest := by
  induction plain with
  | nil => rfl
  | cons c plain ih =>
    rw [List.mem_cons, not_or] at clean
    unfold removeAll
    rw [List.cons_append, removeFrom, begins c _ (Ne.symm clean.1)]
    exact congrArg (c :: ·) (ih clean.2)

end Remove

end BacklinkPublisher.PatternScans
