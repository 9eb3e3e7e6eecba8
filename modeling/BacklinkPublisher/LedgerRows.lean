import BacklinkPublisher.ConfigHeadings
import BacklinkPublisher.TableRows

set_option autoImplicit false

/-!
# Rows of the gate ledger

`cap_untrusted`, `build_verdict` and `to_ledger_row` of `gates/verdict.py`. A pipe gets a backslash
in front of it, the backslashes that stand there already stay as they are.
-/
namespace BacklinkPublisher.LedgerRows
open ConfigSections ConfigHeadings TableRows
open scoped Texts

/-! ## Cells -/

def evidenceMaxLen : ℕ := 256

/-- Control characters become spaces. -/
def clean (text : Text) : Text := text.map fun c => if c < ' ' ∨ c = '\x7f' then ' ' else c

def replacements : List (Char × Text) :=
  [('|', "\\|".toList), ('\x60', "'".toList), ('<', "&lt;".toList), ('>', "&gt;".toList)]

def neutralise (text : Text) : Text :=
  replacements.foldl (fun cleaned pair => replaceChar pair.1 pair.2 cleaned) text

def strip (text : Text) : Text := (text.dropWhile isSpace).rdropWhile isSpace

def capUntrusted (text : Text) : Text :=
  let cleaned := strip (neutralise (clean text))
  if evidenceMaxLen < cleaned.length then cleaned.take (evidenceMaxLen - 1) ++ ['…'] else cleaned

/-! ## Verdicts -/

inductive State where
  | go
  | kill
  | inconclusive
  | blocked
  deriving DecidableEq, Repr

def State.name : State → Text
  | .go => "GO".toList
  | .kill => "KILL".toList
  | .inconclusive => "INCONCLUSIVE".toList
  | .blocked => "BLOCKED".toList

/-- Sorted, as an error shows them. -/
def verdicts : List State := [.blocked, .go, .inconclusive, .kill]

def thresholdGated : List State := [.go, .kill]

def tier2Gates : List Text := ["g3".toList, "g4".toList]

structure GateVerdict (Rate : Type) where
  gate : Text
  tier : ℕ
  state : State
  sampleN : ℤ
  rate : Option Rate
  note : Text
  evidence : List Text
  terminal : Bool
  deriving DecidableEq

/-- The arguments of `build_verdict`. -/
structure Request (Rate : Type) where
  gate : Text
  requestedState : Text
  sampleN : ℤ
  confirmed : Bool
  thresholdSet : Bool
  rate : Option Rate := none
  note : Text := []
  evidence : List Text := []
  terminal : Bool := false

section Verdicts
variable {Rate : Type} (lower repr : Text → Text) (percent : Rate → Text)

def gateTier (gate : Text) : ℕ := if lower gate ∈ tier2Gates then 2 else 1

def unknownVerdict (requested : Text) : Text :=
  let shown := verdicts.map fun state => '\'' :: state.name ++ ['\'']
  "unknown gate verdict ".toList ++ repr requested ++ "; expected one of [".toList ++
    ", ".toList.intercalate shown ++ "]".toList

def blockedOffline (gate : Text) (tier : ℕ) : Text :=
  "BLOCKED is Tier-2 only; gate ".toList ++ repr gate ++ " is Tier-".toList ++
    (toString tier).toList ++ " (offline) and must measure rather than block".toList

def buildVerdict (request : Request Rate) : Except Text (GateVerdict Rate) :=
  match verdicts.find? (·.name = request.requestedState) with
  | none => .error (unknownVerdict repr request.requestedState)
  | some requested =>
    let tier := gateTier lower request.gate
    if requested = .blocked ∧ tier ≠ 2 then .error (blockedOffline repr request.gate tier)
    else
      let measured := 0 < request.sampleN ∧ request.confirmed = true ∧ request.thresholdSet = true
      .ok
        { gate := request.gate
          tier := tier
          state := if requested ∈ thresholdGated ∧ ¬ measured then .inconclusive else requested
          sampleN := request.sampleN
          rate := request.rate
          note := request.note
          evidence := request.evidence.map capUntrusted
          terminal := request.terminal }

/-- The rate with the evidence, or else with the note. -/
def measuredCell (rate : Option Rate) (note : Text) (evidence : List Text) : Text :=
  let rateCell := rate.elim "—".toList percent
  let evidenceCell := if evidence = [] then note else "; ".toList.intercalate evidence
  strip (rateCell ++ ' ' :: evidenceCell)

def ledgerCells (verdict : GateVerdict Rate) (premise date downstream : Text) : List Text :=
  [capUntrusted verdict.gate,
    'T' :: (toString verdict.tier).toList,
    capUntrusted premise,
    verdict.state.name ++ (if verdict.terminal then " (terminal)".toList else []),
    capUntrusted (measuredCell percent verdict.rate verdict.note verdict.evidence),
    (toString verdict.sampleN).toList,
    capUntrusted date,
    capUntrusted downstream]

def toLedgerRow (verdict : GateVerdict Rate) (premise date downstream : Text) : Text :=
  tableRow (ledgerCells percent verdict premise date downstream)

end Verdicts

/-- The characters that may not be in a row as they are. -/
def unsafeChars : List Char := ['\n', '\r', '\x60', '<', '>']

/-- A single line of eight cells, with no raw backtick or angle bracket in any. -/
structure RowOfEight (row : Text) : Prop where
  single : '\n' ∉ row ∧ '\r' ∉ row
  eight : (rowCells row).length = 8
  plain : ∀ cell ∈ rowCells row, '\x60' ∉ cell ∧ '<' ∉ cell ∧ '>' ∉ cell

/-! ## When there are eight -/

/-- What is shown of a text if it is short enough. -/
def shown (text : Text) : Text := strip (clean text)

/-- How much is kept of the text with its replacements. -/
def room (text : Text) : ℕ :=
  if evidenceMaxLen < (neutralise (shown text)).length then evidenceMaxLen - 1 else evidenceMaxLen

/-- No pipe that is kept has an odd number of backslashes directly before it. -/
def PipesEven (text : Text) : Prop :=
  ∀ front back, shown text = front ++ '|' :: back → (neutralise front).length + 2 ≤ room text →
    Even (front.rtakeWhile (· = '\\')).length

/-! ## Replacements -/

def escape (c : Char) : Text := neutralise [c]

theorem neutralise_eq (text : Text) : neutralise text = text.flatMap escape := by
  induction text with
  | nil => rfl
  | cons c text ih =>
    have append : ∀ front back,
        neutralise (front ++ back) = neutralise front ++ neutralise back := by
      intro front back
      unfold neutralise replacements replaceChar
      simp only [List.foldl_cons, List.foldl_nil, List.flatMap_append]
    rw [List.flatMap_cons, ← ih]
    exact append [c] text

theorem escape_pipe : escape '|' = ['\\', '|'] := by decide

/-- Only a pipe is replaced by something with a pipe or a backslash in it. -/
theorem escape_cases (c : Char) :
    (c = '|') ∨ escape c = [c] ∧ c ∉ unsafeChars.drop 2 ∧ c ≠ '|' ∨
      escape c ∈ ["'".toList, "&lt;".toList, "&gt;".toList] ∧ c ∈ unsafeChars.drop 2 := by
  by_cases pipe : c = '|'
  · exact .inl pipe
  by_cases tick : c = '\x60'
  · rw [tick]
    exact .inr (.inr (by decide))
  by_cases left : c = '<'
  · rw [left]
    exact .inr (.inr (by decide))
  by_cases right : c = '>'
  · rw [right]
    exact .inr (.inr (by decide))
  refine .inr (.inl ⟨?_, ?_, pipe⟩)
  · unfold escape neutralise replacements replaceChar
    simp only [List.foldl_cons, List.foldl_nil, List.flatMap_singleton, pipe, tick, left, right,
      if_false]
  · change c ∉ ['\x60', '<', '>']
    simp only [List.mem_cons, tick, left, right, List.not_mem_nil, or_self, not_false_eq_true]

theorem escape_space {c : Char} (space : isSpace c = true) : escape c = [c] := by
  have none_ : (('|' :: unsafeChars.drop 2).any isSpace) = false := by decide
  have other : c ∉ '|' :: unsafeChars.drop 2 := by
    intro member
    exact absurd space (List.any_eq_false.1 none_ c member)
  have ⟨notPipe, notUnsafe⟩ := not_or.1 (fun h => other (List.mem_cons.2 h))
  obtain pipe | same | replaced := escape_cases c
  · exact absurd pipe notPipe
  · exact same.1
  · exact absurd replaced.2 notUnsafe

/-- What stands for a character that is no space begins and ends with none. -/
theorem escape_ends {c : Char} (visible : isSpace c = false) :
    (∃ first rest, escape c = first :: rest ∧ isSpace first = false) ∧
      ∃ first rest, (escape c).reverse = first :: rest ∧ isSpace first = false := by
  obtain pipe | same | replaced := escape_cases c
  · rw [pipe, escape_pipe]
    exact ⟨⟨_, _, rfl, by decide⟩, _, _, rfl, by decide⟩
  · rw [same.1]
    exact ⟨⟨c, [], rfl, visible⟩, c, [], rfl, visible⟩
  · have all : ∀ text ∈ ["'".toList, "&lt;".toList, "&gt;".toList],
        text.head?.map isSpace = some false ∧ text.reverse.head?.map isSpace = some false := by
      decide
    have ⟨front, back⟩ := all _ replaced.1
    obtain ⟨first, head, plain⟩ := Option.map_eq_some_iff.1 front
    obtain ⟨last, end_, plain'⟩ := Option.map_eq_some_iff.1 back
    exact ⟨⟨first, _, List.eq_cons_of_mem_head? head, plain⟩,
      last, _, List.eq_cons_of_mem_head? end_, plain'⟩

theorem dropWhile_flatMap {f : Char → Text} (space : ∀ c, isSpace c = true → f c = [c])
    (visible : ∀ c, isSpace c = false → ∃ first rest, f c = first :: rest ∧ isSpace first = false)
    (text : Text) : (text.flatMap f).dropWhile isSpace = (text.dropWhile isSpace).flatMap f := by
  induction text with
  | nil => rfl
  | cons c text ih =>
    rw [List.flatMap_cons]
    cases blank : isSpace c with
    | true =>
      rw [space c blank, List.singleton_append, List.dropWhile_cons_of_pos blank,
        List.dropWhile_cons_of_pos blank, ih]
    | false =>
      obtain ⟨first, rest, value, plain⟩ := visible c blank
      rw [value, List.cons_append, List.dropWhile_cons_of_neg (ne_true_of_eq_false plain),
        List.dropWhile_cons_of_neg (ne_true_of_eq_false blank), List.flatMap_cons, value]
      rfl

theorem strip_neutralise (text : Text) : strip (neutralise text) = neutralise (strip text) := by
  unfold strip List.rdropWhile
  rw [neutralise_eq, neutralise_eq,
    dropWhile_flatMap (fun c => escape_space) (fun c visible => (escape_ends visible).1),
    List.reverse_flatMap, dropWhile_flatMap, List.flatMap_reverse]
  · intro c space
    change (escape c).reverse = [c]
    rw [escape_space space]
    rfl
  · intro c visible
    exact (escape_ends visible).2

/-! ## Pipes that are kept -/

theorem foldl_arm_escape (escapes : Bool) (c : Char) :
    (escape c).foldl arm escapes = arm escapes c := by
  obtain pipe | same | replaced := escape_cases c
  · rw [pipe, escape_pipe]
    rfl
  · rw [same.1]
    rfl
  · have plain : '\\' ∉ unsafeChars.drop 2 := by decide
    have other : arm escapes c = false := by
      have back : c ≠ '\\' := fun same => plain (same ▸ replaced.2)
      simp only [arm, back, decide_false, Bool.false_and]
    have all : ∀ text ∈ ["'".toList, "&lt;".toList, "&gt;".toList],
        ∀ escapes, text.foldl arm escapes = false := by decide
    rw [other]
    exact all _ replaced.1 escapes

theorem not_mem_escape {c : Char} (other : c ≠ '|') : '|' ∉ escape c := by
  obtain pipe | same | replaced := escape_cases c
  · exact absurd pipe other
  · rw [same.1]
    exact fun member => other (List.mem_singleton.1 member).symm
  · have all : ∀ text ∈ ["'".toList, "&lt;".toList, "&gt;".toList], '|' ∉ text := by decide
    exact all _ replaced.1

/-- The backslash in front of a pipe escapes it unless the one before it is escaped by it. -/
theorem rawPipes_escape_pipe (escapes : Bool) :
    rawPipes escapes (escape '|') = 0 ↔ escapes = false := by
  rw [escape_pipe]
  revert escapes
  decide

theorem rawPipes_take (text : Text) (n : ℕ) (escapes : Bool) :
    rawPipes escapes ((text.flatMap escape).take n) = 0 ↔
      ∀ front back, text = front ++ '|' :: back → (front.flatMap escape).length + 2 ≤ n →
        front.foldl arm escapes = false := by
  induction text generalizing n escapes with
  | nil =>
    refine ⟨fun _ front back split_ => ?_, fun _ => by rw [List.flatMap_nil, List.take_nil]; rfl⟩
    exact absurd split_.symm (List.append_ne_nil_of_right_ne_nil _ (List.cons_ne_nil _ _))
  | cons c text ih =>
    rw [List.flatMap_cons, List.take_append, rawPipes_append, Nat.add_eq_zero_iff]
    by_cases fits : (escape c).length ≤ n
    · rw [List.take_of_length_le fits, foldl_arm_escape, ih]
      constructor
      · intro ⟨own, later⟩ front back split_ kept
        cases front with
        | nil =>
          rw [(List.cons.inj split_).1] at own
          exact (rawPipes_escape_pipe escapes).1 own
        | cons d front =>
          have ⟨same, tail⟩ := List.cons.inj split_
          rw [← same, List.flatMap_cons, List.length_append] at kept
          rw [← same]
          exact later front back tail (by omega)
      · intro all
        refine ⟨?_, fun front back split_ kept => ?_⟩
        · by_cases pipe : c = '|'
          · rw [pipe] at fits ⊢
            rw [escape_pipe] at fits
            exact (rawPipes_escape_pipe escapes).2
              (all [] text (congrArg (· :: text) pipe) fits)
          · exact rawPipes_of_not_mem (not_mem_escape pipe)
        · refine all (c :: front) back (congrArg (c :: ·) split_) ?_
          rw [List.flatMap_cons, List.length_append]
          omega
    · -- the cut is in what stands for the character
      have past : n - (escape c).length = 0 := by omega
      have cut : rawPipes escapes ((escape c).take n) = 0 := by
        by_cases pipe : c = '|'
        · rw [pipe, escape_pipe] at fits ⊢
          have few : n = 0 ∨ n = 1 := by
            change ¬ 2 ≤ n at fits
            omega
          obtain zero | one := few
          · rw [zero]
            rfl
          · rw [one]
            rfl
        · exact rawPipes_of_not_mem fun member => not_mem_escape pipe (List.mem_of_mem_take member)
      rw [past, cut, List.take_zero]
      refine iff_of_true ⟨rfl, rfl⟩ fun front back split_ kept => ?_
      cases front with
      | nil =>
        rw [(List.cons.inj split_).1, escape_pipe] at fits
        exact absurd kept fits
      | cons d front =>
        have ⟨same, _⟩ := List.cons.inj split_
        rw [← same, List.flatMap_cons, List.length_append] at kept
        omega

theorem capUntrusted_eq (text : Text) : ∃ tail, (tail = [] ∨ tail = ['…']) ∧
    capUntrusted text = (neutralise (shown text)).take (room text) ++ tail := by
  unfold capUntrusted room shown
  dsimp only
  rw [strip_neutralise]
  split_ifs with long
  · exact ⟨['…'], .inr rfl, rfl⟩
  · refine ⟨[], .inl rfl, ?_⟩
    rw [List.take_of_length_le (not_lt.1 long), List.append_nil]

theorem rawPipes_capUntrusted (text : Text) :
    rawPipes false (capUntrusted text) = 0 ↔ PipesEven text := by
  obtain ⟨tail, end_, value⟩ := capUntrusted_eq text
  have plain : '|' ∉ tail := by
    obtain empty | dots := end_
    · rw [empty]
      exact List.not_mem_nil
    · rw [dots]
      decide
  rw [value, rawPipes_append, rawPipes_of_not_mem plain, Nat.add_zero, neutralise_eq,
    rawPipes_take]
  unfold PipesEven
  simp only [neutralise_eq, ← Nat.not_odd_iff_even, ← foldl_arm, Bool.not_eq_true]

/-! ## Characters of a row -/

theorem not_mem_escape_of_unsafe {c d : Char} (bad : d ∈ unsafeChars)
    (other : c ≠ '\n' ∧ c ≠ '\r') : d ∉ escape c := by
  obtain pipe | same | replaced := escape_cases c
  · have plain : (unsafeChars.any (· ∈ ['\\', '|'])) = false := by decide
    rw [pipe, escape_pipe]
    exact fun member => List.any_eq_false.1 plain d bad (decide_eq_true member)
  · rw [same.1]
    intro member
    rw [List.mem_singleton.1 member] at bad
    obtain line | line | rest := (List.mem_cons.1 bad).imp_right List.mem_cons.1
    · exact other.1 line
    · exact other.2 line
    · exact same.2.1 rest
  · have all : ∀ text ∈ ["'".toList, "&lt;".toList, "&gt;".toList],
        (unsafeChars.any (· ∈ text)) = false := by decide
    exact fun member => List.any_eq_false.1 (all _ replaced.1) d bad (decide_eq_true member)

theorem clean_single {text : Text} {c : Char} (member : c ∈ clean text) : c ≠ '\n' ∧ c ≠ '\r' := by
  obtain ⟨d, -, value⟩ := List.mem_map.1 member
  rw [← value]
  split_ifs with control
  · decide
  · have visible := (not_or.1 control).1
    constructor
    · intro line
      exact visible (line ▸ by decide)
    · intro line
      exact visible (line ▸ by decide)

theorem mem_of_mem_strip {text : Text} {c : Char} (member : c ∈ strip text) : c ∈ text :=
  (List.dropWhile_sublist _).subset ((List.rdropWhile_prefix _ _).subset member)

theorem capUntrusted_safe {text : Text} {c : Char} (bad : c ∈ unsafeChars) :
    c ∉ capUntrusted text := by
  intro member
  obtain ⟨tail, end_, value⟩ := capUntrusted_eq text
  rw [value, neutralise_eq] at member
  rcases List.mem_append.1 member with front | last
  · obtain ⟨d, inside, escaped⟩ := List.mem_flatMap.1 (List.mem_of_mem_take front)
    exact not_mem_escape_of_unsafe bad (clean_single (mem_of_mem_strip inside)) escaped
  · obtain empty | dots := end_
    · rw [empty] at last
      cases last
    · rw [dots] at last
      rw [List.mem_singleton.1 last] at bad
      exact absurd bad (by decide)

theorem toList_nat {n : ℕ} {c : Char} (member : c ∈ (toString n).toList) : c.isDigit = true := by
  change c ∈ n.repr.toList at member
  rw [Nat.toList_repr] at member
  exact Nat.isDigit_of_mem_toDigits (by decide) (by decide) member

theorem toList_int {n : ℤ} {c : Char} (member : c ∈ (toString n).toList) :
    c = '-' ∨ c.isDigit = true := by
  cases n with
  | ofNat n => exact .inr (toList_nat member)
  | negSucc n =>
    change c ∈ ("-" ++ (n + 1).repr).toList at member
    rw [String.toList_append] at member
    rcases List.mem_append.1 member with sign | digits
    · exact .inl (List.mem_singleton.1 sign)
    · exact .inr (toList_nat digits)

/-! ## Rows -/

section Rows
variable {Rate : Type} (percent : Rate → Text) (verdict : GateVerdict Rate)
  (premise date downstream : Text)

/-- The texts that go through `cap_untrusted`. -/
def untrusted : List Text :=
  [verdict.gate, premise, measuredCell percent verdict.rate verdict.note verdict.evidence, date,
    downstream]

theorem capUntrusted_mem {text : Text}
    (member : text ∈ untrusted percent verdict premise date downstream) :
    capUntrusted text ∈ ledgerCells percent verdict premise date downstream := by
  unfold untrusted at member
  unfold ledgerCells
  simp only [List.mem_cons, List.not_mem_nil, or_false] at member ⊢
  obtain gate | premise | rate | date | downstream := member
  · exact .inl (congrArg _ gate)
  · exact .inr (.inr (.inl (congrArg _ premise)))
  · exact .inr (.inr (.inr (.inr (.inl (congrArg _ rate)))))
  · exact .inr (.inr (.inr (.inr (.inr (.inr (.inl (congrArg _ date)))))))
  · exact .inr (.inr (.inr (.inr (.inr (.inr (.inr (congrArg _ downstream)))))))

/-- A cell of the row is a text that is capped, or has nothing to escape. -/
theorem cell_cases {cell : Text}
    (member : cell ∈ ledgerCells percent verdict premise date downstream) :
    (∃ text ∈ untrusted percent verdict premise date downstream, cell = capUntrusted text) ∨
      ∀ c ∈ '|' :: unsafeChars, c ∉ cell := by
  have digit : ∀ c ∈ '|' :: unsafeChars, ¬ (c = '-' ∨ c.isDigit = true) := by
    have none_ : (('|' :: unsafeChars).any fun c => c = '-' || c.isDigit) = false := by decide
    intro c bad number
    exact List.any_eq_false.1 none_ c bad (by simpa using number)
  unfold untrusted
  simp only [ledgerCells, List.mem_cons, List.not_mem_nil, or_false] at member
  obtain gate | tier | premise | state | rate | sample | date | downstream := member
  · exact .inl ⟨_, by simp, gate⟩
  · refine .inr fun c bad inside => ?_
    rw [tier] at inside
    rcases List.mem_cons.1 inside with letter | number
    · rw [letter] at bad
      exact absurd bad (by decide)
    · exact digit c bad (.inr (toList_nat number))
  · exact .inl ⟨_, by simp, premise⟩
  · have all : ∀ state ∈ verdicts, ∀ terminal : Bool,
        (('|' :: unsafeChars).any
          (· ∈ state.name ++ (if terminal then " (terminal)".toList else []))) = false := by
      decide
    have known : verdict.state ∈ verdicts := by cases verdict.state <;> decide
    rw [state]
    exact .inr fun c bad inside =>
      List.any_eq_false.1 (all _ known _) c bad (decide_eq_true inside)
  · exact .inl ⟨_, by simp, rate⟩
  · refine .inr fun c bad inside => ?_
    rw [sample] at inside
    exact digit c bad (toList_int inside)
  · exact .inl ⟨_, by simp, date⟩
  · exact .inl ⟨_, by simp, downstream⟩

theorem toLedgerRow_safe {c : Char} (bad : c ∈ unsafeChars) :
    c ∉ toLedgerRow percent verdict premise date downstream := by
  intro member
  have plain : (unsafeChars.any (· ∈ [' ', '|'])) = false := by decide
  obtain mark | ⟨cell, inside, own⟩ := mem_of_mem_tableRow member
  · exact List.any_eq_false.1 plain c bad (decide_eq_true mark)
  · obtain ⟨text, -, capped⟩ | clear_ := cell_cases percent verdict premise date downstream inside
    · rw [capped] at own
      exact capUntrusted_safe bad own
    · exact clear_ c (List.mem_cons_of_mem _ bad) own

theorem rowOfEight_iff : RowOfEight (toLedgerRow percent verdict premise date downstream) ↔
    ∀ text ∈ untrusted percent verdict premise date downstream, PipesEven text := by
  have count : (rowCells (toLedgerRow percent verdict premise date downstream)).length =
      8 + ((ledgerCells percent verdict premise date downstream).map (rawPipes false)).sum :=
    length_rowCells_tableRow (List.cons_ne_nil _ _)
  constructor
  · intro row text member
    have none_ := count.symm.trans row.eight
    have zero := List.sum_eq_zero_iff_forall_eq_nat.1 (Nat.add_eq_left.1 none_)
    exact (rawPipes_capUntrusted text).1 (zero _ (List.mem_map_of_mem
      (capUntrusted_mem percent verdict premise date downstream member)))
  · intro even
    have zero : ((ledgerCells percent verdict premise date downstream).map
        (rawPipes false)).sum = 0 := by
      refine List.sum_eq_zero_iff_forall_eq_nat.2 fun n counted => ?_
      obtain ⟨cell, inside, value⟩ := List.mem_map.1 counted
      rw [← value]
      obtain ⟨text, member, capped⟩ | clear_ :=
        cell_cases percent verdict premise date downstream inside
      · rw [capped]
        exact (rawPipes_capUntrusted text).2 (even text member)
      · exact rawPipes_of_not_mem (clear_ _ List.mem_cons_self)
    have safe := @toLedgerRow_safe _ percent verdict premise date downstream
    refine ⟨⟨safe (by decide), safe (by decide)⟩, by rw [count, zero], fun cell inside => ?_⟩
    exact ⟨fun member => safe (by decide) (mem_of_mem_rowCells inside member),
      fun member => safe (by decide) (mem_of_mem_rowCells inside member),
      fun member => safe (by decide) (mem_of_mem_rowCells inside member)⟩

end Rows

/-! ## Verdicts that are built -/

section Built
variable {Rate : Type} {lower repr : Text → Text}

/-- The texts of the arguments are those of the verdict, the evidence is capped. -/
theorem buildVerdict_texts {request : Request Rate} {verdict : GateVerdict Rate}
    (made : buildVerdict lower repr request = .ok verdict) :
    verdict.gate = request.gate ∧ verdict.rate = request.rate ∧ verdict.note = request.note ∧
      verdict.evidence = request.evidence.map capUntrusted := by
  unfold buildVerdict at made
  split at made
  · cases made
  · next requested found =>
    dsimp only at made
    by_cases offline : requested = .blocked ∧ gateTier lower request.gate ≠ 2
    · rw [if_pos offline] at made
      cases made
    · rw [if_neg offline, Except.ok.injEq] at made
      rw [← made]
      exact ⟨rfl, rfl, rfl, rfl⟩

/-- The row is one of eight cells exactly if every pipe that is kept in one of the five texts has
an even number of backslashes in front of it. In an item of the evidence, the one that was put in
front of the pipe counts. -/
theorem ledger_row_iff (percent : Rate → Text) {request : Request Rate}
    {verdict : GateVerdict Rate} (made : buildVerdict lower repr request = .ok verdict)
    (premise date downstream : Text) :
    RowOfEight (toLedgerRow percent verdict premise date downstream) ↔
      PipesEven request.gate ∧ PipesEven premise ∧
        PipesEven (measuredCell percent request.rate request.note
          (request.evidence.map capUntrusted)) ∧
        PipesEven date ∧ PipesEven downstream := by
  have ⟨gate, rate, note, evidence⟩ := buildVerdict_texts made
  rw [rowOfEight_iff]
  unfold untrusted
  rw [gate, rate, note, evidence]
  simp only [List.forall_mem_cons, List.not_mem_nil, IsEmpty.forall_iff, implies_true, and_true]

end Built

/-! ## A pipe in the evidence -/

def quoted (text : Text) : Text := '\'' :: text ++ ['\'']

/-- An offline gate with `a|b` as its evidence. -/
def pipedRequest : Request Empty where
  gate := "g5".toList
  requestedState := "INCONCLUSIVE".toList
  sampleN := 1
  confirmed := false
  thresholdSet := false
  evidence := ["a|b".toList]

def pipedVerdict : GateVerdict Empty where
  gate := "g5".toList
  tier := 1
  state := .inconclusive
  sampleN := 1
  rate := none
  note := []
  evidence := ["a\\|b".toList]
  terminal := false

def pipedRow : Text := toLedgerRow Empty.elim pipedVerdict "p".toList "d".toList "x".toList

theorem piped_row_iff : RowOfEight pipedRow ↔
    PipesEven "g5".toList ∧ PipesEven "p".toList ∧
      PipesEven (measuredCell Empty.elim none [] (["a|b".toList].map capUntrusted)) ∧
      PipesEven "d".toList ∧ PipesEven "x".toList :=
  @ledger_row_iff Empty id quoted Empty.elim pipedRequest pipedVerdict rfl "p".toList "d".toList
    "x".toList

/-- The pipe is escaped twice, so it is not: the row has nine cells. -/
theorem piped_row_nine : buildVerdict id quoted pipedRequest = .ok pipedVerdict ∧
    (rowCells pipedRow).length = 9 ∧ ¬ RowOfEight pipedRow := by
  have nine : (rowCells pipedRow).length = 9 := by decide +kernel
  exact ⟨rfl, nine, fun row => absurd (nine.symm.trans row.eight) (by decide)⟩

end BacklinkPublisher.LedgerRows
