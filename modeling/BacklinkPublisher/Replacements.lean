import Mathlib.Data.List.Basic
import Mathlib.Data.List.Infix
import Mathlib.Tactic.Common

set_option autoImplicit false

/-!
# Replacing words in a text

`replace old new` goes over a text from left to right. A word that shares no letter with what is put
in is found afterwards only where it stood before, and the word that was replaced nowhere.
-/
namespace BacklinkPublisher.Replacements

universe u
variable {α : Type u}

/-- The first letters that are counted belong to a word that was replaced. -/
def replaceFrom [DecidableEq α] (old new : List α) : ℕ → List α → List α
  | _, [] => []
  | n + 1, _ :: rest => replaceFrom old new n rest
  | 0, c :: rest =>
    if old <+: c :: rest then new ++ replaceFrom old new (old.length - 1) rest
    else c :: replaceFrom old new 0 rest

def replace [DecidableEq α] (old new text : List α) : List α := replaceFrom old new 0 text

/-- Takes one word after the other out of a text. -/
def replaceAll [DecidableEq α] (words : List (List α)) (new text : List α) : List α :=
  words.foldl (fun text old => replace old new text) text

variable {old new word text : List α}

/-- The word shares no letter with the text that is put in. -/
def Foreign (word new : List α) : Prop := ∀ c ∈ word, c ∉ new

theorem Foreign.of_infix {part : List α} (foreign : Foreign word new) (sub : part <:+: word) :
    Foreign part new := fun c member => foreign c (sub.subset member)

theorem infix_of_infix_append (some_ : word ≠ []) (foreign : Foreign word new) {rest : List α}
    (found : word <:+: new ++ rest) : word <:+: rest := by
  have first : ∀ part : List α, part ≠ [] → part <:+: word → ¬ part <:+: new := by
    intro part nonempty sub inside
    have ⟨c, member⟩ := List.exists_mem_of_ne_nil part nonempty
    exact foreign c (sub.subset member) (inside.subset member)
  rcases List.infix_append_iff_ne_nil.1 found with inside | later | ⟨front, back, h⟩
  · exact (first word some_ (List.infix_refl word) inside).elim
  · exact later
  · have ⟨nonempty, _, split, suffix, _⟩ := h
    have sub : front <:+: word := by
      rw [split]
      exact (List.prefix_append front back).isInfix
    exact (first front nonempty sub suffix.isInfix).elim

variable [DecidableEq α]

/-- What the new text begins with stood there before. -/
theorem prefix_of_prefix_replaceFrom (put_in : new ≠ []) (foreign : Foreign word new)
    (found : word <+: replaceFrom old new 0 text) : word <+: text := by
  induction text generalizing word with
  | nil => exact found
  | cons c rest ih =>
    rw [replaceFrom] at found
    split_ifs at found with here
    · cases word with
      | nil => exact List.nil_prefix
      | cons first word =>
        cases new with
        | nil => exact (put_in rfl).elim
        | cons letter new =>
          have same := (List.cons_prefix_cons.1 found).1
          exact (foreign first List.mem_cons_self (same ▸ List.mem_cons_self)).elim
    · rcases List.prefix_cons_iff.1 found with empty | ⟨tail, split, later⟩
      · rw [empty]
        exact List.nil_prefix
      · rw [split] at foreign ⊢
        have plain : Foreign tail new := foreign.of_infix (List.suffix_cons c tail).isInfix
        exact List.cons_prefix_cons.2 ⟨rfl, ih plain later⟩

theorem infix_of_infix_replaceFrom (put_in : new ≠ []) (some_ : word ≠ [])
    (foreign : Foreign word new) {n : ℕ} (found : word <:+: replaceFrom old new n text) :
    word <:+: text := by
  induction text generalizing n with
  | nil =>
    cases n with
    | zero => exact found
    | succ n => exact found
  | cons c rest ih =>
    cases n with
    | succ n => exact (ih found).trans (List.suffix_cons c rest).isInfix
    | zero =>
      rw [replaceFrom] at found
      split_ifs at found with here
      · exact (ih (infix_of_infix_append some_ foreign found)).trans
          (List.suffix_cons c rest).isInfix
      · rcases List.infix_cons_iff.1 found with first | later
        · have kept : replaceFrom old new 0 (c :: rest) = c :: replaceFrom old new 0 rest := by
            rw [replaceFrom, if_neg here]
          rw [← kept] at first
          exact (prefix_of_prefix_replaceFrom put_in foreign first).isInfix
        · exact (ih later).trans (List.suffix_cons c rest).isInfix

theorem not_infix_replaceFrom (put_in : new ≠ []) (some_ : old ≠ []) (foreign : Foreign old new)
    (n : ℕ) : ¬ old <:+: replaceFrom old new n text := by
  induction text generalizing n with
  | nil =>
    intro found
    apply some_
    cases n with
    | zero => exact List.infix_nil.1 found
    | succ n => exact List.infix_nil.1 found
  | cons c rest ih =>
    cases n with
    | succ n => exact ih n
    | zero =>
      intro found
      rw [replaceFrom] at found
      split_ifs at found with here
      · exact ih _ (infix_of_infix_append some_ foreign found)
      · rcases List.infix_cons_iff.1 found with first | later
        · have kept : replaceFrom old new 0 (c :: rest) = c :: replaceFrom old new 0 rest := by
            rw [replaceFrom, if_neg here]
          rw [← kept] at first
          exact here (prefix_of_prefix_replaceFrom put_in foreign first)
        · exact ih 0 later

theorem infix_of_infix_replaceAll {words : List (List α)} (put_in : new ≠ []) (some_ : word ≠ [])
    (foreign : Foreign word new) (found : word <:+: replaceAll words new text) :
    word <:+: text := by
  induction words generalizing text with
  | nil => exact found
  | cons first words ih => exact infix_of_infix_replaceFrom put_in some_ foreign (ih found)

/-- No word that was taken out is left, whatever the order was. -/
theorem not_infix_replaceAll {words : List (List α)} (put_in : new ≠ [])
    (plain : ∀ word ∈ words, word ≠ [] ∧ Foreign word new) :
    ∀ word ∈ words, ¬ word <:+: replaceAll words new text := by
  induction words generalizing text with
  | nil => exact fun _ member => by cases member
  | cons first words ih =>
    intro word member
    rcases List.mem_cons.1 member with same | later
    · have ⟨some_, foreign⟩ := plain first List.mem_cons_self
      rw [same]
      intro found
      exact not_infix_replaceFrom put_in some_ foreign 0
        (infix_of_infix_replaceAll put_in some_ foreign found)
    · exact ih (fun word member => plain word (List.mem_cons_of_mem first member)) word later

theorem replaceFrom_of_not_infix (absent : ¬ old <:+: text) :
    replaceFrom old new 0 text = text := by
  induction text with
  | nil => rfl
  | cons c rest ih =>
    rw [replaceFrom, if_neg fun here => absent here.isInfix,
      ih fun found => absent (found.trans (List.suffix_cons c rest).isInfix)]

theorem replaceAll_of_not_infix {words : List (List α)}
    (absent : ∀ word ∈ words, ¬ word <:+: text) : replaceAll words new text = text := by
  induction words with
  | nil => rfl
  | cons first words ih =>
    have kept : replace first new text = text :=
      replaceFrom_of_not_infix (absent first List.mem_cons_self)
    unfold replaceAll
    rw [List.foldl_cons, kept]
    exact ih fun word member => absent word (List.mem_cons_of_mem first member)

end BacklinkPublisher.Replacements
