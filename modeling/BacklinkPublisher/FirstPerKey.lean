import Mathlib.Data.List.Basic
import Mathlib.Tactic.Common

set_option autoImplicit false

/-!
# The first value of every key

A value of a list has a key or none. Values without a key stay, and of those with one key the first;
a later list in which one of them comes again, further to the front, differs in one place.
-/
namespace BacklinkPublisher.FirstPerKey

universe u v
variable {α : Type u} {κ : Type v} [DecidableEq κ] (key : α → Option κ)

/-- The values that stay after values with the keys `seen`. -/
def distinctFrom : List κ → List α → List α
  | _, [] => []
  | seen, value :: values =>
    match key value with
    | none => value :: distinctFrom seen values
    | some k =>
      if k ∈ seen then distinctFrom seen values else value :: distinctFrom (k :: seen) values

def distinct (values : List α) : List α := distinctFrom key [] values

variable {key} {seen : List κ} {value : α} {values : List α} {k : κ}

variable {newer older : List α}

/-- A window without the value of the key, or without its last one. -/
def makeRoom (key : α → Option κ) (k : κ) (window : List α) : List α :=
  if k ∈ window.filterMap key then window.filter fun value => key value ≠ some k
  else window.dropLast

end BacklinkPublisher.FirstPerKey
