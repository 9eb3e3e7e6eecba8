import BacklinkPublisher.Texts
import BacklinkPublisher.TomlLayout

set_option autoImplicit false

/-!
# The sections that a save keeps

`_preserve_unknown_sections` of `config/_toml_utils.py` with its heading lexer, against the
tables of the text.
-/
namespace BacklinkPublisher.ConfigSections
open TextLines TomlLayout
open scoped Texts

/-! ## The heading lexer -/

/-- The characters that `\s` matches. -/
def isSpace (c : Char) : Bool :=
  c.toNat ∈ [0x09, 0x0a, 0x0b, 0x0c, 0x0d, 0x1c, 0x1d, 0x1e, 0x1f, 0x20, 0x85, 0xa0, 0x1680,
    0x2000, 0x2001, 0x2002, 0x2003, 0x2004, 0x2005, 0x2006, 0x2007, 0x2008, 0x2009, 0x200a,
    0x2028, 0x2029, 0x202f, 0x205f, 0x3000]

/-- `[^.\]\s"]` -/
def isBare (c : Char) : Bool :=
  !(c = '.' || c = ']' || isSpace c || c = '"')

/-- `"([^"]+)"` -/
def quotedSegment : List Char → Option (List Char × List Char)
  | '"' :: rest =>
    match rest.takeWhile (· ≠ '"'), rest.dropWhile (· ≠ '"') with
    | c :: segment, _ :: rest => some (c :: segment, rest)
    | _, _ => none
  | _ => none

/-- `([^.\]\s"]+)` -/
def bareSegment (chars : List Char) : Option (List Char × List Char) :=
  match chars.takeWhile isBare with
  | [] => none
  | c :: segment => some (c :: segment, chars.dropWhile isBare)

/-- The optional second segment. A quoted one is taken with its quotes. -/
def subSegment : List Char → Option (List Char)
  | '.' :: rest =>
    match quotedSegment rest with
    | some (segment, _) => some ('"' :: segment ++ ['"'])
    | none => (bareSegment rest).map Prod.fst
  | _ => none

def headingRest (chars : List Char) : Option (List Char × Option (List Char)) :=
  let chars := chars.dropWhile isSpace
  ((quotedSegment chars).or (bareSegment chars)).map fun (root, rest) => (root, subSegment rest)

/-- The second bracket is optional, so that it may also start a bare root. -/
def tomlHeadingPath (line : List Char) : Option (List Char × Option (List Char)) :=
  match line.dropWhile isSpace with
  | '[' :: '[' :: rest => (headingRest rest).or (headingRest ('[' :: rest))
  | '[' :: rest => headingRest rest
  | _ => none

/-! ## The preserve pass -/

/-- `known_roots` and `known_subsections` -/
structure Known where
  roots : List (List Char)
  subsections : List (List Char × List Char)

def Known.keepsPath (known : Known) : List Char × Option (List Char) → Bool
  | (root, none) => root ∉ known.roots
  | (root, some sub) => root ∉ known.roots || (root, sub) ∉ known.subsections

/-- Whether the section that a line opens is kept, `none` where the line is no heading. -/
def Known.reads (known : Known) (line : List Char) : Option Bool :=
  (tomlHeadingPath line).map known.keepsPath

/-- `keep_current` after a line. -/
def Known.keeps (known : Known) (keepCurrent : Bool) (line : List Char) : Bool :=
  (known.reads line).getD keepCurrent

/-- The lines that the loop appends. -/
def Known.out (known : Known) : Bool → List (List Char) → List (List Char)
  | _, [] => []
  | keepCurrent, line :: lines =>
    if known.keeps keepCurrent line then line :: known.out true lines else known.out false lines

def preserveUnknownSections (known : Known) (rawText : List Char) : List Char :=
  let out := known.out false (splitlines rawText)
  if out = [] then [] else ['\n'].intercalate out ++ ['\n']

/-! ## Managed tables -/

/-- The key that a second segment spells. -/
def segmentKey (segment : List Char) : List Char :=
  match simpleKey segment with
  | some (key, []) => key
  | _ => segment

/-- A managed table has a known root, and a known second key if it has one. -/
def Known.manages (known : Known) (keys : Keys) : Bool :=
  keys.root ∈ known.roots &&
    match keys.second with
    | none => true
    | some key => known.subsections.any fun (root, sub) => root = keys.root && segmentKey sub = key

/-- The lines before the first heading are in no table. -/
def Known.unmanaged (known : Known) (table : Option Keys) : Bool :=
  table.any fun keys => !known.manages keys

def Known.unmanagedLines (known : Known) (lines : List Filed) : List (List Char) :=
  (lines.filter fun filed => known.unmanaged filed.table).map fun filed => filed.line.text

/-- The lexer takes a line, piece by piece, as the kind of table that it is in, and a line
of a kept table is one piece. -/
structure Known.Aligned (known : Known) (filed : Filed) : Prop where
  whole : known.unmanaged filed.table = true → filed.line.fragments = [filed.line.text]
  first : ∀ fragment ∈ filed.line.fragments.head?,
    known.keeps (known.unmanaged filed.before) fragment = known.unmanaged filed.table
  later : ∀ fragment ∈ filed.line.fragments.tail,
    known.keeps (known.unmanaged filed.table) fragment = known.unmanaged filed.table

section
variable {known : Known}

/-! ## The loop -/

theorem out_append (keepCurrent : Bool) (lines others : List (List Char)) :
    known.out keepCurrent (lines ++ others) =
      known.out keepCurrent lines ++ known.out (lines.foldl known.keeps keepCurrent) others := by
  induction lines generalizing keepCurrent with
  | nil => rfl
  | cons line lines ih =>
    rw [List.cons_append, Known.out, Known.out, List.foldl_cons]
    cases known.keeps keepCurrent line with
    | true => exact congrArg (line :: ·) (ih true)
    | false => exact ih false

theorem mem_of_mem_out {keepCurrent : Bool} {line : List Char} {lines : List (List Char)}
    (hmem : line ∈ known.out keepCurrent lines) : line ∈ lines := by
  induction lines generalizing keepCurrent with
  | nil => exact hmem
  | cons other lines ih =>
    rw [Known.out] at hmem
    split_ifs at hmem with keeps
    · rcases List.mem_cons.1 hmem with own | later
      · exact own ▸ List.mem_cons_self
      · exact List.mem_cons_of_mem _ (ih later)
    · exact List.mem_cons_of_mem _ (ih hmem)

/-- The first line kept opens a kept section, or it is the first line at all. -/
theorem reads_of_out {keepCurrent : Bool} {line : List Char} {lines more : List (List Char)}
    (kept : known.out keepCurrent lines = line :: more) :
    known.reads line = some true ∨ keepCurrent = true ∧ lines.head? = some line := by
  induction lines generalizing keepCurrent with
  | nil => exact absurd kept.symm (List.cons_ne_nil _ _)
  | cons other lines ih =>
    rw [Known.out] at kept
    split_ifs at kept with keeps
    · have same := (List.cons.inj kept).1
      rw [same] at keeps
      rw [same]
      cases reads : known.reads line with
      | some keep =>
        rw [Known.keeps, reads] at keeps
        exact .inl (congrArg some keeps)
      | none =>
        rw [Known.keeps, reads] at keeps
        exact .inr ⟨keeps, rfl⟩
    · rcases ih kept with opens | ⟨kept, _⟩
      · exact .inl opens
      · exact absurd kept Bool.noConfusion

/-- What a loop has kept it keeps whole. -/
theorem out_out (keepCurrent : Bool) (lines : List (List Char)) :
    known.out keepCurrent (known.out keepCurrent lines) = known.out keepCurrent lines := by
  induction lines generalizing keepCurrent with
  | nil => rfl
  | cons line lines ih =>
    rw [Known.out]
    split_ifs with keeps
    · rw [Known.out, if_pos keeps, ih true]
    · cases kept : known.out false lines with
      | nil => rfl
      | cons first more =>
        have again := ih false
        rw [kept, Known.out] at again
        rcases reads_of_out kept with opens | ⟨was, _⟩
        · rw [Known.out]
          rw [Known.keeps, opens] at again ⊢
          exact again
        · exact absurd was Bool.noConfusion

theorem out_eq_nil {lines : List (List Char)} :
    known.out false lines = [] ↔ ∀ line ∈ lines, known.keeps false line = false := by
  induction lines with
  | nil => exact ⟨fun _ _ hmem => absurd hmem List.not_mem_nil, fun _ => rfl⟩
  | cons line lines ih =>
    rw [Known.out, List.forall_mem_cons]
    cases known.keeps false line with
    | true =>
      exact ⟨fun kept => absurd kept (List.cons_ne_nil _ _),
        fun h => absurd h.1.symm Bool.noConfusion⟩
    | false => exact ih.trans ⟨fun h => ⟨rfl, h⟩, And.right⟩

theorem foldl_keeps {lines : List (List Char)}
    (left : ∀ line ∈ lines, known.keeps false line = false) :
    lines.foldl known.keeps false = false := by
  induction lines with
  | nil => rfl
  | cons line lines ih =>
    have ⟨own, later⟩ := List.forall_mem_cons.1 left
    rw [List.foldl_cons, own, ih later]

/-- A line that opens a kept section is kept wherever it stands. -/
theorem count_le_out {line : List Char} (opens : known.reads line = some true)
    (keepCurrent : Bool) (lines : List (List Char)) :
    lines.count line ≤ (known.out keepCurrent lines).count line := by
  induction lines generalizing keepCurrent with
  | nil => exact Nat.le_refl _
  | cons other lines ih =>
    rw [Known.out]
    split_ifs with keeps
    · rw [List.count_cons, List.count_cons]
      exact Nat.add_le_add_right (ih true) _
    · have differ : other ≠ line := by
        intro same
        rw [Known.keeps, same, opens] at keeps
        exact keeps rfl
      rw [List.count_cons_of_ne differ]
      exact ih false

/-! ## One line -/

/-- The lines that the tables of a line have kept. -/
def Known.own (known : Known) (filed : Filed) : List (List Char) :=
  if known.unmanaged filed.table then [filed.line.text] else []

theorem aligned_of_out {filed : Filed} (split : filed.line.Split)
    (same : known.out (known.unmanaged filed.before) filed.line.fragments = known.own filed) :
    known.Aligned filed := by
  unfold Known.own at same
  split_ifs at same with unmanaged
  · have held := mem_of_mem_out (same ▸ List.mem_singleton_self filed.line.text)
    have whole := split.whole (split.unbroken _ held)
    rw [whole, Known.out] at same
    refine ⟨fun _ => whole, fun fragment first => ?_, fun fragment later => ?_⟩
    · rw [whole] at first
      rw [← Option.some.inj first, unmanaged]
      by_contra dropped
      rw [if_neg dropped] at same
      exact absurd same.symm (List.cons_ne_nil _ _)
    · rw [whole] at later
      exact absurd later List.not_mem_nil
  · have managed : known.unmanaged filed.table = false := Bool.not_eq_true _ ▸ unmanaged
    have ⟨first, later, listed⟩ := List.exists_cons_of_ne_nil split.some
    rw [listed, Known.out] at same
    split_ifs at same with keeps
    refine ⟨fun kept => absurd kept unmanaged, fun fragment head => ?_, fun fragment tail => ?_⟩
    · rw [listed] at head
      rw [← Option.some.inj head, managed]
      exact Bool.not_eq_true _ ▸ keeps
    · rw [listed] at tail
      rw [managed]
      exact out_eq_nil.1 same fragment tail

/-- After an aligned line the loop is in the kind of table that the line is in. -/
theorem out_of_aligned {filed : Filed} (split : filed.line.Split) (h : known.Aligned filed) :
    known.out (known.unmanaged filed.before) filed.line.fragments = known.own filed ∧
      filed.line.fragments.foldl known.keeps (known.unmanaged filed.before) =
        known.unmanaged filed.table := by
  have ⟨first, later, listed⟩ := List.exists_cons_of_ne_nil split.some
  have opened := h.first first (by rw [listed]; rfl)
  have rest := h.later
  rw [listed, List.tail_cons] at rest
  unfold Known.own
  rw [listed, Known.out, List.foldl_cons, opened]
  cases unmanaged : known.unmanaged filed.table with
  | true =>
    have whole := h.whole unmanaged
    rw [listed] at whole
    have ⟨own, alone⟩ := List.cons.inj whole
    rw [own, alone]
    exact ⟨rfl, rfl⟩
  | false =>
    rw [unmanaged] at rest
    exact ⟨out_eq_nil.2 rest, foldl_keeps rest⟩

/-! ## All lines -/

theorem unmanagedLines_cons (filed : Filed) (later : List Filed) :
    known.unmanagedLines (filed :: later) = known.own filed ++ known.unmanagedLines later := by
  unfold Known.unmanagedLines Known.own
  rw [List.filter_cons]
  split_ifs <;> rfl

/-- An unmanaged table after a managed one starts with its heading. -/
theorem headingKeys_of_unmanagedLines {place : Place} {before : Option Keys} {lines : List Line}
    {line : List Char} {more : List (List Char)} (managed : known.unmanaged before = false)
    (first : known.unmanagedLines (filed place before lines) = line :: more) :
    ∃ keys, headingKeys line = some keys ∧ known.manages keys = false := by
  induction lines generalizing place before with
  | nil => exact absurd first.symm (List.cons_ne_nil _ _)
  | cons own lines ih =>
    rw [filed, unmanagedLines_cons] at first
    unfold Known.own at first
    split_ifs at first with unmanaged
    · have same : own.text = line := (List.cons.inj first).1
      cases heading : place.heading own.text with
      | none =>
        rw [heading] at unmanaged
        rw [Option.none_or, managed] at unmanaged
        exact absurd unmanaged Bool.noConfusion
      | some keys =>
        rw [heading] at unmanaged
        unfold Place.heading at heading
        split_ifs at heading
        exact ⟨keys, same ▸ heading, by simpa [Known.unmanaged] using unmanaged⟩
    · exact ih (Bool.not_eq_true _ ▸ unmanaged) first

theorem count_unmanagedLines_le (known : Known) {line : List Char} (unbroken : Unbroken line) (place : Place)
    (before : Option Keys) {lines : List Line} (split : ∀ own ∈ lines, own.Split) :
    (known.unmanagedLines (filed place before lines)).count line ≤
      (lines.flatMap Line.fragments).count line := by
  induction lines generalizing place before with
  | nil => exact Nat.le_refl _
  | cons own lines ih =>
    have ⟨first, later⟩ := List.forall_mem_cons.1 split
    rw [filed, unmanagedLines_cons, List.flatMap_cons, List.count_append, List.count_append]
    apply Nat.add_le_add _ (ih _ _ later)
    unfold Known.own
    split_ifs
    · by_cases same : own.text = line
      · have whole := first.whole (same ▸ unbroken)
        exact Nat.le_of_eq (congrArg (List.count line) whole.symm)
      · rw [List.count_singleton, if_neg (by simpa using same)]
        exact Nat.zero_le _
    · exact Nat.zero_le _

section
variable {place : Place} {before : Option Keys} {line : Line} {lines : List Line}

/-- A line of an unmanaged table that is kept at all is kept where it stands, for without a
heading that opens a kept section nothing equal to it follows. -/
theorem out_unmanaged (split : ∀ own ∈ line :: lines, own.Split)
    (unmanaged : known.unmanaged ((place.heading line.text).or before) = true)
    (same : known.out (known.unmanaged before) ((line :: lines).flatMap Line.fragments) =
      known.unmanagedLines (filed place before (line :: lines))) :
    known.out (known.unmanaged before) line.fragments = [line.text] := by
  rw [filed, unmanagedLines_cons, Known.own, if_pos unmanaged] at same
  have held : line.text ∈ (line :: lines).flatMap Line.fragments := by
    apply mem_of_mem_out
    rw [same]
    exact List.mem_cons_self
  have ⟨other, hother, fragment⟩ := List.mem_flatMap.1 held
  have unbroken := (split other hother).unbroken _ fragment
  have whole := (split line List.mem_cons_self).whole unbroken
  rw [List.flatMap_cons, whole, List.singleton_append, Known.out] at same
  rw [whole, Known.out]
  split_ifs at same ⊢ with keeps
  · rfl
  · rcases reads_of_out same with opens | ⟨kept, _⟩
    · rw [Known.keeps, opens] at keeps
      exact absurd rfl keeps
    · exact absurd kept Bool.noConfusion

/-- Of a line of a managed table nothing is kept: the next unmanaged line is a heading of
another table, and a line that opens a kept section would be kept once too often. -/
theorem out_managed (split : ∀ own ∈ line :: lines, own.Split)
    (managed : known.unmanaged ((place.heading line.text).or before) = false)
    (same : known.out (known.unmanaged before) ((line :: lines).flatMap Line.fragments) =
      known.unmanagedLines (filed place before (line :: lines))) :
    known.out (known.unmanaged before) line.fragments = [] := by
  have ⟨own, later⟩ := List.forall_mem_cons.1 split
  rw [filed, unmanagedLines_cons, Known.own, if_neg (by rw [managed]; exact Bool.noConfusion),
    List.flatMap_cons, out_append, List.nil_append] at same
  cases kept : known.out (known.unmanaged before) line.fragments with
  | nil => rfl
  | cons first more =>
    exfalso
    rw [kept] at same
    have unbroken := own.unbroken first (mem_of_mem_out (kept ▸ List.mem_cons_self))
    have ⟨keys, heading, kind⟩ := headingKeys_of_unmanagedLines managed same.symm
    rcases reads_of_out kept with opens | ⟨wasKept, head⟩
    · have unmanagedTimes := count_unmanagedLines_le known unbroken (place.after line.text)
        ((place.heading line.text).or before) later
      have keptTimes := count_le_out opens
        (line.fragments.foldl known.keeps (known.unmanaged before))
        (lines.flatMap Line.fragments)
      rw [← same, List.cons_append, List.count_cons_self, List.count_append] at unmanagedTimes
      omega
    · have ⟨rest, text⟩ := own.start first head
      have added := headingKeys_append rest heading
      rw [text] at added
      unfold Place.heading at managed
      split_ifs at managed
      · rw [added] at managed
        simp [Known.unmanaged, kind] at managed
      · rw [Option.none_or, wasKept] at managed
        exact absurd managed Bool.noConfusion

/-- Lines equal in all are equal in the first. -/
theorem out_own (split : ∀ own ∈ line :: lines, own.Split)
    (same : known.out (known.unmanaged before) ((line :: lines).flatMap Line.fragments) =
      known.unmanagedLines (filed place before (line :: lines))) :
    known.out (known.unmanaged before) line.fragments =
      known.own ⟨line, before, (place.heading line.text).or before⟩ := by
  unfold Known.own
  dsimp only
  split_ifs with unmanaged
  · exact out_unmanaged split unmanaged same
  · exact out_managed split (Bool.not_eq_true _ ▸ unmanaged) same

end

theorem out_eq_unmanagedLines (known : Known) (place : Place) (before : Option Keys) {lines : List Line}
    (split : ∀ own ∈ lines, own.Split) :
    known.out (known.unmanaged before) (lines.flatMap Line.fragments) =
        known.unmanagedLines (filed place before lines) ↔
      ∀ own ∈ filed place before lines, known.Aligned own := by
  induction lines generalizing place before with
  | nil => exact ⟨fun _ _ hmem => absurd hmem List.not_mem_nil, fun _ => rfl⟩
  | cons line lines ih =>
    have ⟨own, later⟩ := List.forall_mem_cons.1 split
    have next := ih (place.after line.text) ((place.heading line.text).or before) later
    constructor
    · intro same
      have aligned : known.Aligned ⟨line, before, (place.heading line.text).or before⟩ :=
        aligned_of_out own (out_own split same)
      have ⟨kept, state⟩ := out_of_aligned own aligned
      rw [filed, unmanagedLines_cons, List.flatMap_cons, out_append, kept, state] at same
      exact List.forall_mem_cons.2 ⟨aligned, next.1 (List.append_cancel_left same)⟩
    · intro aligned
      rw [filed] at aligned
      have ⟨first, rest⟩ := List.forall_mem_cons.1 aligned
      have ⟨kept, state⟩ := out_of_aligned own first
      rw [filed, unmanagedLines_cons, List.flatMap_cons, out_append, kept, state, next.2 rest]

/-! ## The text -/

theorem unbroken_of_mem_out {keepCurrent : Bool} {rawText line : List Char}
    (hmem : line ∈ known.out keepCurrent (splitlines rawText)) : Unbroken line := by
  have held := mem_of_mem_out hmem
  rw [splitlines_eq] at held
  have ⟨own, hown, fragment⟩ := List.mem_flatMap.1 held
  exact fragments_unbroken rawText own hown line fragment

theorem newline_not_mem_out {keepCurrent : Bool} {rawText line : List Char}
    (hmem : line ∈ known.out keepCurrent (splitlines rawText)) : '\n' ∉ line := by
  intro newline
  have ordinary := unbroken_of_mem_out hmem '\n' newline
  exact absurd ordinary (by decide)

theorem line_mem_of_mem_filed {place : Place} {before : Option Keys} {lines : List Line}
    {own : Filed} (hmem : own ∈ filed place before lines) : own.line ∈ lines := by
  induction lines generalizing place before with
  | nil => exact absurd hmem List.not_mem_nil
  | cons line lines ih =>
    rcases List.mem_cons.1 hmem with first | later
    · rw [first]
      exact List.mem_cons_self
    · exact List.mem_cons_of_mem _ (ih later)

theorem newline_not_mem_unmanagedLines {rawText line : List Char}
    (hmem : line ∈ known.unmanagedLines (tables rawText)) : '\n' ∉ line := by
  have ⟨own, hown, same⟩ := List.mem_map.1 hmem
  rw [← same]
  exact newline_not_mem rawText _ (line_mem_of_mem_filed (List.mem_of_mem_filter hown))

theorem preserveUnknownSections_eq (known : Known) (rawText : List Char) :
    preserveUnknownSections known rawText = joined (known.out false (splitlines rawText)) := by
  unfold preserveUnknownSections
  dsimp only
  split_ifs with none
  · rw [none]
    rfl
  · exact (joined_eq _ none).symm

end

/-- The sections that one save keeps the next one keeps unchanged. -/
theorem preserveUnknownSections_idem (known : Known) (rawText : List Char) :
    preserveUnknownSections known (preserveUnknownSections known rawText) =
      preserveUnknownSections known rawText := by
  rw [preserveUnknownSections_eq known rawText, preserveUnknownSections_eq,
    splitlines_joined fun _ hmem => unbroken_of_mem_out hmem, out_out]

/-- What is kept of a text is its unmanaged tables exactly where every line is aligned. -/
theorem preserves_unmanaged_iff (known : Known) (rawText : List Char) :
    preserveUnknownSections known rawText = joined (known.unmanagedLines (tables rawText)) ↔
      ∀ filed ∈ tables rawText, known.Aligned filed := by
  have lines := out_eq_unmanagedLines known {} none (physicalLines_split rawText)
  rw [← splitlines_eq] at lines
  rw [preserveUnknownSections_eq]
  refine Iff.trans ⟨fun same => ?_, fun same => congrArg joined same⟩ lines
  exact joined_inj (fun _ hmem => newline_not_mem_out hmem)
    (fun _ hmem => newline_not_mem_unmanagedLines hmem) same

/-- A string of an unmanaged table with a line that looks like a managed heading. -/
theorem string_ends_section :
    preserveUnknownSections ⟨["blogger".toList], []⟩
        "[notes]\ntext = \"\"\"\n[blogger]\nkept\n\"\"\"\n".toList =
      "[notes]\ntext = \"\"\"\n".toList ∧
    preserveUnknownSections ⟨["blogger".toList], []⟩
        "[notes]\ntext = \"\"\"\n[blogger]\nkept\n\"\"\"\n".toList ≠
      joined (Known.unmanagedLines ⟨["blogger".toList], []⟩
        (tables "[notes]\ntext = \"\"\"\n[blogger]\nkept\n\"\"\"\n".toList)) := by
  decide +kernel

end BacklinkPublisher.ConfigSections
