import Mathlib.Data.List.DropRight
import Mathlib.Tactic.Common

set_option autoImplicit false

/-!
# Words

The maximal runs of a text that hold no separator, and what becomes of them when a text is put
together from pieces and those that hold nothing but separators are left out.
-/
namespace BacklinkPublisher.Words

variable {α : Type} (space : α → Bool)

/-- The text without the separators at its ends. -/
def trim (s : List α) : List α := (s.dropWhile space).rdropWhile space

/-- `current` is the part of a word that has been read. -/
def wordsFrom : List α → List α → List (List α)
  | current, [] => if current.isEmpty then [] else [current]
  | current, c :: rest =>
    if space c then
      if current.isEmpty then wordsFrom [] rest else current :: wordsFrom [] rest
    else wordsFrom (current ++ [c]) rest

def words (s : List α) : List (List α) := wordsFrom space [] s

/-- The number of words that begin in a text; `inside` tells whether a word is open before it. -/
def wordStarts : Bool → List α → ℕ
  | _, [] => 0
  | inside, c :: rest =>
    if space c then wordStarts false rest else (if inside then 0 else 1) + wordStarts true rest

/-- Whether a word is open behind the text. -/
def openAfter (inside : Bool) : List α → Bool
  | [] => inside
  | c :: rest => openAfter (! space c) rest

/-- No piece of separators alone parts two words: where one is left out between other pieces, one of
these has a separator next to it. A word may be `inside` its letters before the pieces, and a
separator may have been left out (`pending`) since. -/
def separated : Bool → Bool → List (List α) → Bool
  | _, _, [] => true
  | inside, pending, piece :: pieces =>
    if piece.all space then separated inside (pending || ! piece.isEmpty) pieces
    else
      (! (inside && pending) || piece.head?.any space) &&
        separated (openAfter space false piece) false pieces

section Reading
variable {space}

theorem wordsFrom_append (space : α → Bool) (s current : List α) :
    ∃ done rest, (∀ t, wordsFrom space current (s ++ t) = done ++ wordsFrom space rest t) ∧
      (! rest.isEmpty) = openAfter space (! current.isEmpty) s := by
  induction s generalizing current with
  | nil => exact ⟨[], current, fun _ => rfl, rfl⟩
  | cons c s ih =>
    by_cases parts : space c = true
    · have ⟨done, rest, splits, opens⟩ := ih []
      by_cases none : current.isEmpty = true
      · refine ⟨done, rest, fun t => ?_, ?_⟩
        · rw [List.cons_append, wordsFrom, if_pos parts, if_pos none, splits]
        · rw [opens, openAfter, parts]
          rfl
      · refine ⟨current :: done, rest, fun t => ?_, ?_⟩
        · rw [List.cons_append, wordsFrom, if_pos parts, if_neg none, splits, List.cons_append]
        · rw [opens, openAfter, parts]
          rfl
    · have ⟨done, rest, splits, opens⟩ := ih (current ++ [c])
      refine ⟨done, rest, fun t => ?_, ?_⟩
      · rw [List.cons_append, wordsFrom, if_neg parts, splits]
      · rw [opens, openAfter, Bool.eq_false_iff.mpr parts]
        cases current <;> rfl

theorem wordsFrom_length (s current : List α) :
    (wordsFrom space current s).length =
      (if current.isEmpty then 0 else 1) + wordStarts space (! current.isEmpty) s := by
  induction s generalizing current with
  | nil =>
    rw [wordsFrom, wordStarts]
    cases current <;> rfl
  | cons c s ih =>
    rw [wordsFrom, wordStarts]
    by_cases parts : space c = true
    · rw [if_pos parts, if_pos parts]
      have later := ih []
      rw [List.isEmpty_nil, if_pos rfl, Bool.not_true, Nat.zero_add] at later
      cases current with
      | nil =>
        rw [List.isEmpty_nil, if_pos rfl, if_pos rfl, later, Nat.zero_add]
      | cons d current =>
        rw [List.isEmpty_cons, if_neg Bool.false_ne_true, if_neg Bool.false_ne_true,
          List.length_cons, later, Nat.add_comm]
    · rw [if_neg parts, if_neg parts, ih]
      cases current with
      | nil =>
        change 1 + wordStarts space true s = 0 + (1 + wordStarts space true s)
        omega
      | cons d current =>
        change 1 + wordStarts space true s = 1 + (0 + wordStarts space true s)
        omega

theorem wordStarts_append (inside : Bool) (s t : List α) :
    wordStarts space inside (s ++ t) =
      wordStarts space inside s + wordStarts space (openAfter space inside s) t := by
  induction s generalizing inside with
  | nil => rw [List.nil_append, wordStarts, Nat.zero_add, openAfter]
  | cons c s ih =>
    rw [List.cons_append, wordStarts, wordStarts, openAfter]
    by_cases parts : space c = true
    · rw [if_pos parts, if_pos parts, ih, parts, Bool.not_true]
    · rw [if_neg parts, if_neg parts, ih, Bool.eq_false_iff.mpr parts, Bool.not_false]
      omega

theorem wordStarts_blank {s : List α} (blank : s.all space = true) (inside : Bool) :
    wordStarts space inside s = 0 := by
  induction s generalizing inside with
  | nil => rfl
  | cons c s ih =>
    rw [List.all_cons, Bool.and_eq_true] at blank
    rw [wordStarts, if_pos blank.1, ih blank.2]

theorem openAfter_blank {s : List α} (blank : s.all space = true) (inside : Bool) :
    openAfter space inside s = (inside && s.isEmpty) := by
  induction s generalizing inside with
  | nil => rw [openAfter, List.isEmpty_nil, Bool.and_true]
  | cons c s ih =>
    rw [List.all_cons, Bool.and_eq_true] at blank
    rw [openAfter, ih blank.2, blank.1, List.isEmpty_cons, Bool.and_false]
    rfl

/-- A word that is open before a text is one that does not begin in it. -/
theorem wordStarts_mono (s : List α) : wordStarts space true s ≤ wordStarts space false s := by
  cases s with
  | nil => exact Nat.le_refl 0
  | cons c s =>
    rw [wordStarts, wordStarts]
    by_cases parts : space c = true
    · rw [if_pos parts, if_pos parts]
    · rw [if_neg parts, if_neg parts]
      exact Nat.add_le_add_right (Nat.zero_le 1) _

/-! ## Leaving out blank pieces -/

/-- The pieces that hold more than separators. -/
def shown (space : α → Bool) (pieces : List (List α)) : List (List α) :=
  pieces.filter (! ·.all space)

theorem shown_blank {piece : List α} (blank : piece.all space = true) (pieces : List (List α)) :
    shown space (piece :: pieces) = shown space pieces := by
  rw [shown, List.filter_cons_of_neg]
  · rfl
  · rw [blank]
    exact Bool.false_ne_true

theorem shown_cons {piece : List α} (text : ¬ piece.all space = true) (pieces : List (List α)) :
    shown space (piece :: pieces) = piece :: shown space pieces := by
  rw [shown, List.filter_cons_of_pos]
  · rfl
  · rw [Bool.eq_false_iff.mpr text]
    rfl

theorem ne_nil_of_text {piece : List α} (text : ¬ piece.all space = true) : piece ≠ [] := by
  rintro rfl
  exact text rfl

/-- Leaving out blank pieces makes no word begin. -/
theorem wordStarts_shown (pieces : List (List α)) {before after : Bool}
    (less : before = true → after = true) :
    wordStarts space after (shown space pieces).flatten ≤
      wordStarts space before pieces.flatten := by
  induction pieces generalizing before after with
  | nil => exact Nat.le_refl 0
  | cons piece pieces ih =>
    rw [List.flatten_cons, wordStarts_append]
    by_cases blank : piece.all space = true
    · rw [shown_blank blank, wordStarts_blank blank, Nat.zero_add, openAfter_blank blank]
      apply ih
      intro open_
      rw [Bool.and_eq_true] at open_
      exact less open_.1
    · rw [shown_cons blank, List.flatten_cons, wordStarts_append]
      have first : wordStarts space after piece ≤ wordStarts space before piece := by
        cases before with
        | true => rw [less rfl]
        | false =>
          cases after with
          | true => exact wordStarts_mono piece
          | false => exact Nat.le_refl _
      have same : openAfter space after piece = openAfter space before piece := by
        cases piece with
        | nil => exact absurd rfl (ne_nil_of_text blank)
        | cons c piece => rfl
      rw [same]
      exact Nat.add_le_add first (ih id)

theorem separated_closed (pending : Bool) (pieces : List (List α)) :
    separated space false pending pieces = separated space false false pieces := by
  induction pieces generalizing pending with
  | nil => rfl
  | cons piece pieces ih =>
    rw [separated, separated]
    split_ifs
    · rw [ih, ih (false || ! piece.isEmpty)]
    · rfl

theorem wordsFrom_blank {piece : List α} (blank : piece.all space = true) (t : List α) :
    wordsFrom space [] (piece ++ t) = wordsFrom space [] t := by
  induction piece with
  | nil => rfl
  | cons c piece ih =>
    rw [List.all_cons, Bool.and_eq_true] at blank
    rw [List.cons_append, wordsFrom, if_pos blank.1, if_pos List.isEmpty_nil, ih blank.2]

theorem wordsFrom_space {c : α} (parts : space c = true) {current : List α} (some : current ≠ [])
    (t : List α) : wordsFrom space current (c :: t) = current :: wordsFrom space [] t := by
  rw [wordsFrom, if_pos parts, if_neg]
  rw [List.isEmpty_iff]
  exact some

theorem separated_text {piece : List α} (text : ¬ piece.all space = true) (inside pending : Bool)
    (pieces : List (List α)) :
    separated space inside pending (piece :: pieces) =
      ((! (inside && pending) || piece.head?.any space) &&
        separated space (openAfter space false piece) false pieces) := by
  rw [separated, if_neg text]

theorem separated_blank {piece : List α} (blank : piece.all space = true) (inside pending : Bool)
    (pieces : List (List α)) :
    separated space inside pending (piece :: pieces) =
      separated space inside (pending || ! piece.isEmpty) pieces := by
  rw [separated, if_pos blank]

/-- The step over a piece that is not left out. -/
theorem wordsFrom_text_iff {piece : List α} (text : ¬ piece.all space = true)
    {pieces : List (List α)}
    (ih : ∀ current, wordsFrom space current (shown space pieces).flatten =
        wordsFrom space current pieces.flatten ↔
      separated space (! current.isEmpty) false pieces = true) (current : List α) :
    wordsFrom space current (piece ++ (shown space pieces).flatten) =
        wordsFrom space current (piece ++ pieces.flatten) ↔
      separated space (openAfter space false piece) false pieces = true := by
  have ⟨done, rest, splits, opens⟩ := wordsFrom_append space piece current
  have same : openAfter space (! current.isEmpty) piece = openAfter space false piece := by
    cases piece with
    | nil => exact absurd rfl (ne_nil_of_text text)
    | cons c piece => rfl
  rw [splits, splits, List.append_right_inj, ih, opens, same]

/-- In a word that both texts have open, or that has ended in the whole text alone, they go on to
have the same words if and only if the pieces are separated. -/
theorem wordsFrom_shown_iff (pieces : List (List α)) :
    (∀ current, wordsFrom space current (shown space pieces).flatten =
        wordsFrom space current pieces.flatten ↔
      separated space (! current.isEmpty) false pieces = true) ∧
    (∀ current, current ≠ [] →
      (wordsFrom space current (shown space pieces).flatten =
          current :: wordsFrom space [] pieces.flatten ↔
        separated space true true pieces = true)) := by
  induction pieces with
  | nil =>
    refine ⟨fun current => iff_of_true rfl rfl, fun current some => iff_of_true ?_ rfl⟩
    cases current with
    | nil => exact absurd rfl some
    | cons c current => rfl
  | cons piece pieces ih =>
    rw [List.flatten_cons]
    by_cases blank : piece.all space = true
    · rw [shown_blank blank]
      constructor
      · intro current
        rw [separated_blank blank]
        cases piece with
        | nil => exact ih.1 current
        | cons c piece =>
          cases current with
          | nil =>
            rw [wordsFrom_blank blank, List.isEmpty_nil, Bool.not_true, separated_closed]
            exact ih.1 []
          | cons d current =>
            rw [List.all_cons, Bool.and_eq_true] at blank
            rw [List.cons_append, wordsFrom_space blank.1 (List.cons_ne_nil d current),
              wordsFrom_blank blank.2]
            exact ih.2 (d :: current) (List.cons_ne_nil d current)
      · intro current some
        rw [separated_blank blank, wordsFrom_blank blank, Bool.true_or]
        exact ih.2 current some
    · rw [shown_cons blank, List.flatten_cons]
      constructor
      · intro current
        rw [wordsFrom_text_iff blank ih.1, separated_text blank, Bool.and_false, Bool.not_false,
          Bool.true_or, Bool.true_and]
      · intro current some
        rw [separated_text blank]
        cases piece with
        | nil => exact absurd rfl (ne_nil_of_text blank)
        | cons c piece =>
          by_cases parts : space c = true
          · have skip : ∀ t, wordsFrom space [] (c :: piece ++ t) =
                wordsFrom space [] (piece ++ t) := by
              intro t
              rw [List.cons_append, wordsFrom, if_pos parts, if_pos List.isEmpty_nil]
            have goes := wordsFrom_text_iff blank ih.1 []
            rw [skip, skip] at goes
            rw [skip, List.cons_append, wordsFrom_space parts some, List.cons_inj_right, goes,
              List.head?_cons, Option.any_some, parts, Bool.or_true, Bool.true_and]
          · refine iff_of_false (fun same => ?_) ?_
            · have sizes := congrArg List.length same
              have fewer : wordStarts space (openAfter space true piece)
                    (shown space pieces).flatten ≤
                  wordStarts space (openAfter space true piece) pieces.flatten :=
                wordStarts_shown pieces id
              rw [List.length_cons, wordsFrom_length, wordsFrom_length, List.cons_append,
                List.cons_append, wordStarts, wordStarts, if_neg parts, if_neg parts,
                wordStarts_append, wordStarts_append] at sizes
              cases current with
              | nil => exact some rfl
              | cons d current =>
                simp only [List.isEmpty_cons, List.isEmpty_nil, Bool.not_false, Bool.not_true,
                  if_true, Bool.false_eq_true, if_false] at sizes
                omega
            · rw [List.head?_cons, Option.any_some, Bool.eq_false_iff.mpr parts]
              exact Bool.false_ne_true

/-- **Blank pieces.** Without its blank pieces a text has the same words if and only if its pieces
are separated. -/
theorem words_shown_iff (pieces : List (List α)) :
    words space (shown space pieces).flatten = words space pieces.flatten ↔
      separated space false false pieces = true :=
  (wordsFrom_shown_iff pieces).1 []

/-! ## Parts of separated pieces -/

theorem separated_weaken {inside pending : Bool} {pieces : List (List α)}
    (h : separated space inside pending pieces = true) :
    separated space false false pieces = true := by
  induction pieces generalizing inside pending with
  | nil => rfl
  | cons piece pieces ih =>
    by_cases blank : piece.all space = true
    · rw [separated_blank blank] at h ⊢
      rw [separated_closed]
      exact ih h
    · rw [separated_text blank, Bool.and_eq_true] at h
      rw [separated_text blank, h.2]
      rfl

theorem separated_left {inside pending : Bool} {pieces others : List (List α)}
    (h : separated space inside pending (pieces ++ others) = true) :
    separated space inside pending pieces = true := by
  induction pieces generalizing inside pending with
  | nil => rfl
  | cons piece pieces ih =>
    rw [List.cons_append] at h
    by_cases blank : piece.all space = true
    · rw [separated_blank blank] at h ⊢
      exact ih h
    · rw [separated_text blank, Bool.and_eq_true] at h ⊢
      exact ⟨h.1, ih h.2⟩

theorem separated_right {inside pending : Bool} {pieces others : List (List α)}
    (h : separated space inside pending (pieces ++ others) = true) :
    separated space false false others = true := by
  induction pieces generalizing inside pending with
  | nil => exact separated_weaken h
  | cons piece pieces ih =>
    rw [List.cons_append] at h
    by_cases blank : piece.all space = true
    · rw [separated_blank blank] at h
      exact ih h
    · rw [separated_text blank, Bool.and_eq_true] at h
      exact ih h.2

end Reading

/-! ## The ends of a text -/

end BacklinkPublisher.Words
