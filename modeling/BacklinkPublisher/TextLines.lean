import Mathlib.Data.List.Basic
import Mathlib.Tactic.Common

set_option autoImplicit false

/-!
# Lines of a text

`splitlines` breaks a text at more characters than the newline. A physical line ends at a
newline only, and consists of the fragments that `splitlines` makes of it.
-/
namespace BacklinkPublisher.TextLines

/-- The characters at which Python's `str.splitlines` breaks. -/
def isBreak (c : Char) : Bool :=
  c.toNat ∈ [0x0a, 0x0b, 0x0c, 0x0d, 0x1c, 0x1d, 0x1e, 0x85, 0x2028, 0x2029]

def splitlines : List Char → List (List Char)
  | [] => []
  | '\r' :: '\n' :: rest => [] :: splitlines rest
  | c :: rest =>
    if isBreak c then [] :: splitlines rest
    else match splitlines rest with
      | [] => [[c]]
      | line :: lines => (c :: line) :: lines

structure Line where
  text : List Char := []
  fragments : List (List Char) := []
  deriving DecidableEq, Repr

/-- A character before the rest of its line. -/
def Line.extend (c : Char) (line : Line) : Line :=
  if isBreak c then ⟨c :: line.text, [] :: line.fragments⟩
  else match line.fragments with
    | [] => ⟨c :: line.text, [[c]]⟩
    | fragment :: fragments => ⟨c :: line.text, (c :: fragment) :: fragments⟩

def physicalLines : List Char → List Line
  | [] => []
  | '\r' :: '\n' :: rest => ⟨[], [[]]⟩ :: physicalLines rest
  | c :: rest =>
    if c = '\n' then ⟨[], [[]]⟩ :: physicalLines rest
    else match physicalLines rest with
      | [] => [Line.extend c {}]
      | line :: lines => line.extend c :: lines

/-! ## Fragments -/

theorem extend_fragments_ne_nil (c : Char) (line : Line) : (line.extend c).fragments ≠ [] := by
  unfold Line.extend
  split_ifs
  · exact List.cons_ne_nil _ _
  · split
    · exact List.cons_ne_nil _ _
    · exact List.cons_ne_nil _ _

theorem fragments_ne_nil (text : List Char) :
    ∀ line ∈ physicalLines text, line.fragments ≠ [] := by
  fun_induction physicalLines text with
  | case1 => exact fun _ hmem => absurd hmem List.not_mem_nil
  | case2 rest ih => exact List.forall_mem_cons.2 ⟨List.cons_ne_nil _ _, ih⟩
  | case3 rest crlf ih => exact List.forall_mem_cons.2 ⟨List.cons_ne_nil _ _, ih⟩
  | case4 c rest crlf newline last ih =>
    exact List.forall_mem_singleton.2 (extend_fragments_ne_nil c {})
  | case5 c rest crlf newline line lines more ih =>
    rw [more] at ih
    exact List.forall_mem_cons.2
      ⟨extend_fragments_ne_nil c line, (List.forall_mem_cons.1 ih).2⟩

/-- No character of the text breaks it. -/
def Unbroken (text : List Char) : Prop :=
  ∀ c ∈ text, isBreak c = false

theorem extend_unbroken {c : Char} {line : Line}
    (h : ∀ fragment ∈ line.fragments, Unbroken fragment) :
    ∀ fragment ∈ (line.extend c).fragments, Unbroken fragment := by
  have empty : Unbroken [] := fun _ hmem => absurd hmem List.not_mem_nil
  unfold Line.extend
  split_ifs with brk
  · exact List.forall_mem_cons.2 ⟨empty, h⟩
  · have ordinary : isBreak c = false := Bool.not_eq_true _ ▸ brk
    split
    · exact List.forall_mem_singleton.2 (List.forall_mem_cons.2 ⟨ordinary, empty⟩)
    · rename_i fragment fragments listed
      rw [listed] at h
      have ⟨first, later⟩ := List.forall_mem_cons.1 h
      exact List.forall_mem_cons.2 ⟨List.forall_mem_cons.2 ⟨ordinary, first⟩, later⟩

theorem fragments_unbroken (text : List Char) :
    ∀ line ∈ physicalLines text, ∀ fragment ∈ line.fragments, Unbroken fragment := by
  have empty : Unbroken [] := fun _ hmem => absurd hmem List.not_mem_nil
  fun_induction physicalLines text with
  | case1 => exact fun _ hmem => absurd hmem List.not_mem_nil
  | case2 rest ih => exact List.forall_mem_cons.2 ⟨List.forall_mem_singleton.2 empty, ih⟩
  | case3 rest crlf ih => exact List.forall_mem_cons.2 ⟨List.forall_mem_singleton.2 empty, ih⟩
  | case4 c rest crlf newline last ih =>
    exact List.forall_mem_singleton.2
      (extend_unbroken fun _ hmem => absurd hmem List.not_mem_nil)
  | case5 c rest crlf newline line lines more ih =>
    rw [more] at ih
    have ⟨own, later⟩ := List.forall_mem_cons.1 ih
    exact List.forall_mem_cons.2 ⟨extend_unbroken own, later⟩

/-- The fragments of a line begin as the line does, and an unbroken line is its only one. -/
structure Line.Broken (line : Line) : Prop where
  start : ∀ fragment ∈ line.fragments.head?, fragment <+: line.text
  whole : Unbroken line.text → line.fragments = [line.text] ∨ line = {}

theorem extend_broken {c : Char} {line : Line} (h : line.Broken) : (line.extend c).Broken := by
  unfold Line.extend
  split_ifs with brk
  · refine ⟨fun fragment first => ?_, fun unbroken => ?_⟩
    · rw [← Option.some.inj first]
      exact List.nil_prefix
    · have ordinary := unbroken c List.mem_cons_self
      rw [brk] at ordinary
      exact absurd ordinary Bool.noConfusion
  · split
    · rename_i none
      refine ⟨fun fragment first => ?_, fun unbroken => .inl ?_⟩
      · rw [← Option.some.inj first]
        exact List.prefix_cons_inj c |>.2 List.nil_prefix
      · rcases h.whole fun d hmem => unbroken d (List.mem_cons_of_mem _ hmem) with whole | none
        · rw [none] at whole
          exact absurd whole.symm (List.cons_ne_nil _ _)
        · rw [none]
    · rename_i first later listed
      have start := h.start first (by rw [listed]; rfl)
      refine ⟨fun fragment held => ?_, fun unbroken => .inl ?_⟩
      · rw [← Option.some.inj held]
        exact List.prefix_cons_inj c |>.2 start
      · rcases h.whole fun d hmem => unbroken d (List.mem_cons_of_mem _ hmem) with whole | none
        · rw [listed] at whole
          have ⟨own, alone⟩ := List.cons.inj whole
          rw [own, alone]
        · rw [none] at listed
          exact absurd listed.symm (List.cons_ne_nil _ _)

theorem broken (text : List Char) : ∀ line ∈ physicalLines text, line.Broken := by
  have empty : ({} : Line).Broken := ⟨fun _ first => absurd first (Option.not_mem_none _), fun _ => .inr rfl⟩
  have newline : (⟨[], [[]]⟩ : Line).Broken :=
    ⟨fun _ first => Option.some.inj first ▸ List.nil_prefix, fun _ => .inl rfl⟩
  fun_induction physicalLines text with
  | case1 => exact fun _ hmem => absurd hmem List.not_mem_nil
  | case2 rest ih => exact List.forall_mem_cons.2 ⟨newline, ih⟩
  | case3 rest crlf ih => exact List.forall_mem_cons.2 ⟨newline, ih⟩
  | case4 c rest crlf _ last ih => exact List.forall_mem_singleton.2 (extend_broken empty)
  | case5 c rest crlf _ line lines more ih =>
    rw [more] at ih
    have ⟨own, later⟩ := List.forall_mem_cons.1 ih
    exact List.forall_mem_cons.2 ⟨extend_broken own, later⟩

/-- What the fragments of a line have to do with its text. -/
structure Line.Split (line : Line) : Prop where
  some : line.fragments ≠ []
  unbroken : ∀ fragment ∈ line.fragments, Unbroken fragment
  start : ∀ fragment ∈ line.fragments.head?, fragment <+: line.text
  whole : Unbroken line.text → line.fragments = [line.text]

theorem physicalLines_split (text : List Char) : ∀ line ∈ physicalLines text, line.Split := by
  intro line hmem
  have listed := fragments_ne_nil text line hmem
  refine ⟨listed, fragments_unbroken text line hmem, (broken text line hmem).start, ?_⟩
  intro unbroken
  rcases (broken text line hmem).whole unbroken with whole | none
  · exact whole
  · rw [none] at listed
    exact absurd rfl listed

theorem extend_text (c : Char) (line : Line) : (line.extend c).text = c :: line.text := by
  unfold Line.extend
  split_ifs
  · rfl
  · split <;> rfl

theorem newline_not_mem (text : List Char) : ∀ line ∈ physicalLines text, '\n' ∉ line.text := by
  fun_induction physicalLines text with
  | case1 => exact fun _ hmem => absurd hmem List.not_mem_nil
  | case2 rest ih => exact List.forall_mem_cons.2 ⟨List.not_mem_nil, ih⟩
  | case3 rest crlf ih => exact List.forall_mem_cons.2 ⟨List.not_mem_nil, ih⟩
  | case4 c rest crlf newline last ih =>
    refine List.forall_mem_singleton.2 ?_
    rw [extend_text]
    exact List.not_mem_cons_of_ne_of_not_mem (Ne.symm newline) List.not_mem_nil
  | case5 c rest crlf newline line lines more ih =>
    rw [more] at ih
    have ⟨own, later⟩ := List.forall_mem_cons.1 ih
    refine List.forall_mem_cons.2 ?_
    rw [extend_text]
    exact ⟨List.not_mem_cons_of_ne_of_not_mem (Ne.symm newline) own, later⟩

/-- A character before a line is before the first of its fragments. -/
theorem extend_fragments {c : Char} {line : Line} (ordinary : isBreak c = false)
    {fragment : List Char} {fragments : List (List Char)}
    (listed : line.fragments = fragment :: fragments) :
    (line.extend c).fragments = (c :: fragment) :: fragments := by
  unfold Line.extend
  rw [if_neg (by simp [ordinary]), listed]

theorem splitlines_eq (text : List Char) :
    splitlines text = (physicalLines text).flatMap Line.fragments := by
  fun_induction physicalLines text with
  | case1 => rfl
  | case2 rest ih =>
    rw [splitlines, ih]
    rfl
  | case3 rest crlf ih =>
    rw [splitlines, ih]
    · rfl
    · exact crlf
  | case4 c rest crlf newline last ih =>
    rw [last] at ih
    rw [splitlines, ih]
    · unfold Line.extend
      split_ifs <;> rfl
    · exact crlf
  | case5 c rest crlf newline line lines more ih =>
    have listed := fragments_ne_nil rest line (more ▸ List.mem_cons_self)
    have ⟨fragment, fragments, hfragments⟩ := List.exists_cons_of_ne_nil listed
    rw [more, List.flatMap_cons, hfragments] at ih
    rw [splitlines, ih, List.flatMap_cons]
    · by_cases brk : isBreak c = true
      · rw [if_pos brk, Line.extend, if_pos brk, hfragments]
        rfl
      · rw [if_neg brk, extend_fragments (Bool.not_eq_true _ ▸ brk) hfragments]
        rfl
    · exact crlf

/-! ## Joined lines -/

/-- Every line with a newline after it. -/
def joined (lines : List (List Char)) : List Char :=
  lines.flatMap (· ++ ['\n'])

theorem joined_eq (lines : List (List Char)) (some : lines ≠ []) :
    joined lines = ['\n'].intercalate lines ++ ['\n'] := by
  induction lines with
  | nil => exact absurd rfl some
  | cons line lines ih =>
    cases lines with
    | nil => simp [joined]
    | cons next lines =>
      have tail := ih (List.cons_ne_nil _ _)
      rw [joined, List.flatMap_cons, ← joined, tail, List.intercalate_cons_cons]
      simp

theorem cut_inj {c : Char} {line other rest others : List Char} (clean : c ∉ line)
    (cleanOther : c ∉ other) (same : line ++ c :: rest = other ++ c :: others) :
    line = other ∧ rest = others := by
  induction line generalizing other with
  | nil =>
    cases other with
    | nil => exact ⟨rfl, (List.cons.inj same).2⟩
    | cons d other => exact absurd ((List.cons.inj same).1 ▸ List.mem_cons_self) cleanOther
  | cons d line ih =>
    cases other with
    | nil => exact absurd ((List.cons.inj same).1 ▸ List.mem_cons_self) clean
    | cons e other =>
      have ⟨first, later⟩ := List.cons.inj same
      have ⟨line_eq, rest_eq⟩ := ih (List.not_mem_of_not_mem_cons clean)
        (List.not_mem_of_not_mem_cons cleanOther) later
      exact ⟨by rw [first, line_eq], rest_eq⟩

theorem joined_inj {lines others : List (List Char)} (clean : ∀ line ∈ lines, '\n' ∉ line)
    (cleanOthers : ∀ line ∈ others, '\n' ∉ line) (same : joined lines = joined others) :
    lines = others := by
  induction lines generalizing others with
  | nil =>
    cases others with
    | nil => rfl
    | cons other others => simp [joined] at same
  | cons line lines ih =>
    cases others with
    | nil => simp [joined] at same
    | cons other others =>
      have ⟨own, later⟩ := List.forall_mem_cons.1 clean
      have ⟨ownOther, laterOthers⟩ := List.forall_mem_cons.1 cleanOthers
      have lists : line ++ '\n' :: joined lines = other ++ '\n' :: joined others := by
        simpa [joined] using same
      have ⟨first, rest⟩ := cut_inj own ownOther lists
      rw [first, ih later laterOthers rest]

theorem splitlines_append {line : List Char} (unbroken : Unbroken line) (rest : List Char) :
    splitlines (line ++ '\n' :: rest) = line :: splitlines rest := by
  induction line with
  | nil => rfl
  | cons c line ih =>
    have ⟨ordinary, later⟩ := List.forall_mem_cons.1 unbroken
    have crlf : ∀ after, c = '\r' → line ++ '\n' :: rest = '\n' :: after → False := by
      intro after hc
      rw [hc] at ordinary
      exact absurd ordinary (by decide)
    rw [List.cons_append, splitlines, if_neg (by rw [ordinary]; exact Bool.noConfusion), ih later]
    exact crlf

theorem splitlines_joined {lines : List (List Char)} (unbroken : ∀ line ∈ lines, Unbroken line) :
    splitlines (joined lines) = lines := by
  induction lines with
  | nil => rfl
  | cons line lines ih =>
    have ⟨own, later⟩ := List.forall_mem_cons.1 unbroken
    rw [joined, List.flatMap_cons, List.append_assoc, List.singleton_append,
      splitlines_append own, ← joined, ih later]

end BacklinkPublisher.TextLines
