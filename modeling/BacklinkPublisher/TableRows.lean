import Mathlib.Algebra.Group.Nat.Even
import Mathlib.Algebra.Ring.Parity
import Mathlib.Data.List.DropRight
import Mathlib.Tactic.Common

set_option autoImplicit false

/-!
# Rows of a table in Markdown

A row is cut at the pipes that no backslash escapes. A backslash escapes the ASCII punctuation
character after it, so a pipe is escaped if the backslashes directly before it are odd in number.
-/
namespace BacklinkPublisher.TableRows

abbrev Text := List Char

def isPunctuation (c : Char) : Bool :=
  c ∈ "!\"#$%&'()*+,-./:;<=>?@[\\]^_\x60\x7b|\x7d~".toList

/-- What is between the pipes. The flag says that a backslash before the text escapes. -/
def pieces (escapes : Bool) : Text → List Text
  | [] => [[]]
  | c :: rest =>
    let escaped := escapes && isPunctuation c
    if c = '|' ∧ escaped = false then [] :: pieces false rest
    else (pieces (c = '\\' && !escaped) rest).modifyHead (c :: ·)

def isBlank (cell : Text) : Bool := cell.all fun c => c = ' ' || c = '\t'

/-- Without a first piece that is blank. -/
def dropBlank : List Text → List Text
  | [] => []
  | cell :: cells => if isBlank cell then cells else cell :: cells

/-- The cells of a row. The pipes at its ends may be there or not. -/
def rowCells (row : Text) : List Text :=
  (dropBlank (dropBlank (pieces false row)).reverse).reverse

/-- A row with the cells, with a pipe at each end. -/
def tableRow (cells : List Text) : Text :=
  "| ".toList ++ " | ".toList.intercalate cells ++ " |".toList

/-! ## Pipes -/

/-- The flag after a character. -/
def arm (escapes : Bool) (c : Char) : Bool := c = '\\' && !escapes

/-- The pipes that are not escaped. -/
def rawPipes (escapes : Bool) : Text → ℕ
  | [] => 0
  | c :: rest => (if c = '|' ∧ escapes = false then 1 else 0) + rawPipes (arm escapes c) rest

variable {escapes : Bool}

theorem pieces_cons (c : Char) (rest : Text) : pieces escapes (c :: rest) =
    if c = '|' ∧ escapes = false then [] :: pieces false rest
    else (pieces (arm escapes c) rest).modifyHead (c :: ·) := by
  rw [pieces]
  by_cases pipe : c = '|'
  · rw [pipe, (show isPunctuation '|' = true by decide), Bool.and_true]
    rfl
  · by_cases back : c = '\\'
    · rw [back, (show isPunctuation '\\' = true by decide), Bool.and_true]
      rfl
    · simp only [pipe, back, false_and, if_false, arm, decide_false, Bool.false_and]

theorem length_pieces (text : Text) : (pieces escapes text).length = rawPipes escapes text + 1 := by
  induction text generalizing escapes with
  | nil => rfl
  | cons c rest ih =>
    rw [pieces_cons, rawPipes]
    by_cases cut : c = '|' ∧ escapes = false
    · have fresh : arm escapes c = false := by
        rw [cut.1]
        rfl
      rw [if_pos cut, if_pos cut, List.length_cons, ih, fresh]
      omega
    · rw [if_neg cut, if_neg cut, List.length_modifyHead, ih]
      omega

theorem rawPipes_append (front back : Text) : rawPipes escapes (front ++ back) =
    rawPipes escapes front + rawPipes (front.foldl arm escapes) back := by
  induction front generalizing escapes with
  | nil => exact (Nat.zero_add _).symm
  | cons c front ih => rw [List.cons_append, rawPipes, ih, rawPipes, List.foldl_cons, Nat.add_assoc]

/-- A space ends what a backslash does. -/
theorem rawPipes_space (front back : Text) :
    rawPipes escapes (front ++ ' ' :: back) = rawPipes escapes front + rawPipes false back := by
  rw [rawPipes_append, rawPipes, if_neg (fun pipe => absurd pipe.1 (by decide)), Nat.zero_add]
  rfl

theorem rawPipes_eq_zero_iff (text : Text) : rawPipes escapes text = 0 ↔
    ∀ front back, text = front ++ '|' :: back → front.foldl arm escapes = true := by
  induction text generalizing escapes with
  | nil =>
    refine ⟨fun _ front back split_ => ?_, fun _ => rfl⟩
    exact absurd split_.symm (List.append_ne_nil_of_right_ne_nil _ (List.cons_ne_nil _ _))
  | cons c rest ih =>
    rw [rawPipes, Nat.add_eq_zero_iff, ih]
    constructor
    · intro ⟨first, later⟩ front back split_
      cases front with
      | nil =>
        have pipe := (List.cons.inj split_).1
        by_contra open_
        rw [if_pos ⟨pipe, eq_false_of_ne_true open_⟩] at first
        exact absurd first Nat.one_ne_zero
      | cons d front =>
        have ⟨same, tail⟩ := List.cons.inj split_
        rw [same] at later
        exact later front back tail
    · intro all
      refine ⟨if_neg fun cut => ?_, fun front back split_ => ?_⟩
      · have escaped := all [] rest (congrArg (· :: rest) cut.1)
        exact absurd (escaped.symm.trans cut.2) Bool.noConfusion
      · exact all (c :: front) back (congrArg (c :: ·) split_)

theorem rawPipes_of_not_mem {text : Text} (plain : '|' ∉ text) : rawPipes escapes text = 0 := by
  refine (rawPipes_eq_zero_iff text).2 fun front back split_ => ?_
  rw [split_] at plain
  exact absurd (List.mem_append_right front List.mem_cons_self) plain

/-- The flag is set after an odd number of backslashes. -/
theorem foldl_arm (text : Text) : text.foldl arm false = true ↔
    Odd (text.rtakeWhile (· = '\\')).length := by
  induction text using List.reverseRecOn with
  | nil => decide
  | append_singleton text c ih =>
    rw [List.foldl_append, List.foldl_cons, List.foldl_nil, arm]
    by_cases back : c = '\\'
    · rw [List.rtakeWhile_concat, if_pos (decide_eq_true back), List.length_append,
        List.length_singleton, Nat.odd_add_one, ← ih]
      simp only [back, decide_true, Bool.true_and, Bool.not_eq_true', Bool.not_eq_true]
    · rw [List.rtakeWhile_concat, if_neg fun same => back (of_decide_eq_true same)]
      simp only [back, decide_false, Bool.false_and]
      decide

/-! ## Rows -/

theorem mem_of_mem_pieces {text cell : Text} {c : Char} (piece : cell ∈ pieces escapes text)
    (member : c ∈ cell) : c ∈ text := by
  induction text generalizing escapes cell with
  | nil =>
    rw [List.mem_singleton.1 piece] at member
    exact member
  | cons d rest ih =>
    rw [pieces_cons] at piece
    split_ifs at piece
    · rcases List.mem_cons.1 piece with empty | later
      · rw [empty] at member
        cases member
      · exact List.mem_cons_of_mem _ (ih later member)
    · cases all : pieces (arm escapes d) rest with
      | nil =>
        rw [all] at piece
        cases piece
      | cons first others =>
        rw [all, List.modifyHead_cons] at piece
        rcases List.mem_cons.1 piece with head | later
        · rw [head] at member
          rcases List.mem_cons.1 member with same | inner
          · exact List.mem_cons.2 (.inl same)
          · exact List.mem_cons_of_mem _ (ih (all ▸ List.mem_cons_self) inner)
        · exact List.mem_cons_of_mem _ (ih (all ▸ List.mem_cons_of_mem _ later) member)

theorem subset_dropBlank (cells : List Text) : dropBlank cells ⊆ cells := by
  cases cells with
  | nil => exact List.Subset.refl _
  | cons cell cells =>
    rw [dropBlank]
    split_ifs
    · exact List.subset_cons_self _ _
    · exact List.Subset.refl _

theorem mem_of_mem_rowCells {row cell : Text} {c : Char} (member : cell ∈ rowCells row)
    (inside : c ∈ cell) : c ∈ row := by
  have piece := List.mem_reverse.1 (subset_dropBlank _ (List.mem_reverse.1 member))
  exact mem_of_mem_pieces (subset_dropBlank _ piece) inside

theorem mem_of_mem_tableRow {cells : List Text} {c : Char} (member : c ∈ tableRow cells) :
    c ∈ [' ', '|'] ∨ ∃ cell ∈ cells, c ∈ cell := by
  have inner : c ∈ " | ".toList.intercalate cells →
      c ∈ [' ', '|'] ∨ ∃ cell ∈ cells, c ∈ cell := by
    clear member
    induction cells with
    | nil => exact fun member => absurd member List.not_mem_nil
    | cons cell cells ih =>
      cases cells with
      | nil =>
        rw [List.intercalate_singleton]
        exact fun member => .inr ⟨cell, List.mem_cons_self, member⟩
      | cons next cells =>
        rw [List.intercalate_cons_cons]
        intro member
        rcases List.mem_append.1 member with front | later
        · rcases List.mem_append.1 front with own | between
          · exact .inr ⟨cell, List.mem_cons_self, own⟩
          · have all : (" | ".toList.all (· ∈ [' ', '|'])) = true := by decide
            exact .inl (of_decide_eq_true (List.all_eq_true.1 all c between))
        · obtain mark | ⟨cell', inside, own⟩ := ih later
          · exact .inl mark
          · exact .inr ⟨cell', List.mem_cons_of_mem _ inside, own⟩
  unfold tableRow at member
  rcases List.mem_append.1 member with front | last
  · rcases List.mem_append.1 front with first | cells
    · exact .inl (List.mem_reverse.1 first)
    · exact inner cells
  · exact .inl last

/-- The last piece is empty after a pipe at the end. -/
theorem exists_pieces_end (text : Text) : ∃ front, front ≠ [] ∧
    pieces escapes (text ++ [' ', '|']) = front ++ [[]] := by
  induction text generalizing escapes with
  | nil => cases escapes <;> exact ⟨[[' ']], List.cons_ne_nil _ _, rfl⟩
  | cons c rest ih =>
    rw [List.cons_append, pieces_cons]
    split_ifs
    · obtain ⟨front, _, later⟩ := @ih false
      exact ⟨[] :: front, List.cons_ne_nil _ _, by rw [later, List.cons_append]⟩
    · obtain ⟨front, some_, later⟩ := @ih (arm escapes c)
      cases front with
      | nil => exact absurd rfl some_
      | cons first front =>
        refine ⟨(c :: first) :: front, List.cons_ne_nil _ _, ?_⟩
        rw [later]
        rfl

theorem length_rowCells (text : Text) :
    (rowCells ('|' :: text ++ [' ', '|'])).length = rawPipes false (text ++ [' ', '|']) := by
  obtain ⟨front, -, last⟩ := @exists_pieces_end false text
  have count := @length_pieces false (text ++ [' ', '|'])
  have cells : rowCells ('|' :: text ++ [' ', '|']) = front := by
    have all : pieces false ('|' :: text ++ [' ', '|']) = [] :: (front ++ [[]]) := by
      rw [List.cons_append, pieces_cons, if_pos ⟨rfl, rfl⟩, last]
    have empty : isBlank [] = true := rfl
    rw [rowCells, all, dropBlank, if_pos empty, List.reverse_append, List.reverse_singleton,
      List.singleton_append, dropBlank, if_pos empty, List.reverse_reverse]
  rw [last, List.length_append, List.length_singleton] at count
  rw [cells]
  exact Nat.succ.inj count

theorem rawPipes_intercalate {cells : List Text} (some_ : cells ≠ []) :
    rawPipes false (" | ".toList.intercalate cells ++ [' ', '|']) =
      cells.length + (cells.map (rawPipes false)).sum := by
  induction cells with
  | nil => exact absurd rfl some_
  | cons cell cells ih =>
    cases cells with
    | nil =>
      rw [List.intercalate_singleton, rawPipes_space]
      exact Nat.add_comm _ _
    | cons next cells =>
      have step : " | ".toList.intercalate (cell :: next :: cells) ++ [' ', '|'] =
          cell ++ ' ' :: ([('|')] ++ ' ' :: (" | ".toList.intercalate (next :: cells) ++
            [' ', '|'])) := by
        rw [List.intercalate_cons_cons, List.append_assoc, List.append_assoc]
        rfl
      have pipe : rawPipes false ['|'] = 1 := rfl
      rw [step, rawPipes_space, rawPipes_space, ih (List.cons_ne_nil _ _), pipe,
        @List.map_cons _ _ _ cell (next :: cells), List.sum_cons,
        @List.length_cons _ cell (next :: cells)]
      omega

/-- A row has one more cell for every pipe in its cells that is not escaped. -/
theorem length_rowCells_tableRow {cells : List Text} (some_ : cells ≠ []) :
    (rowCells (tableRow cells)).length = cells.length + (cells.map (rawPipes false)).sum := by
  have row : tableRow cells =
      '|' :: (' ' :: " | ".toList.intercalate cells) ++ [' ', '|'] := rfl
  have spaced : ' ' :: " | ".toList.intercalate cells ++ [' ', '|'] =
      [] ++ ' ' :: (" | ".toList.intercalate cells ++ [' ', '|']) := rfl
  rw [row, length_rowCells, spaced, rawPipes_space, rawPipes_intercalate some_]
  exact Nat.zero_add _

end BacklinkPublisher.TableRows
