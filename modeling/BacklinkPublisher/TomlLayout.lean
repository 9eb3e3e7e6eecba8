import BacklinkPublisher.TextLines

set_option autoImplicit false

/-!
# The tables of a TOML text

A table heading is a line that starts with a bracket outside every string and array. The
lines after it, down to the next heading, are in its table.
-/
namespace BacklinkPublisher.TomlLayout
open TextLines

/-! ## Places -/

inductive Mode where
  | plain
  | basic
  | literal
  | multiBasic
  | multiLiteral
  deriving DecidableEq, Repr

/-- What is open between two lines: a string, and the number of brackets. -/
structure Place where
  mode : Mode := .plain
  depth : ℕ := 0
  deriving DecidableEq, Repr

/-- A multi-line string may end with one or two quotes before its delimiter. -/
def dropQuotes (quote : Char) : List Char → ℕ
  | c :: d :: _ => if c = quote then (if d = quote then 2 else 1) else 0
  | [c] => if c = quote then 1 else 0
  | [] => 0

/-- What the rest of a line opens and closes, `skip` of its characters being read already. -/
def scan : ℕ → Mode → ℕ → List Char → Place
  | _, .basic, depth, [] | _, .literal, depth, [] => ⟨.plain, depth⟩
  | _, mode, depth, [] => ⟨mode, depth⟩
  | skip + 1, mode, depth, _ :: rest => scan skip mode depth rest
  | 0, .plain, depth, c :: rest =>
    if c = '#' then ⟨.plain, depth⟩
    else if c = '[' then scan 0 .plain (depth + 1) rest
    else if c = ']' then scan 0 .plain (depth - 1) rest
    else if c = '"' then
      if ['"', '"'] <+: rest then scan 2 .multiBasic depth rest else scan 0 .basic depth rest
    else if c = '\'' then
      if ['\'', '\''] <+: rest then scan 2 .multiLiteral depth rest else scan 0 .literal depth rest
    else scan 0 .plain depth rest
  | 0, .basic, depth, c :: rest =>
    if c = '\\' then scan 1 .basic depth rest
    else if c = '"' then scan 0 .plain depth rest
    else scan 0 .basic depth rest
  | 0, .literal, depth, c :: rest =>
    if c = '\'' then scan 0 .plain depth rest else scan 0 .literal depth rest
  | 0, .multiBasic, depth, c :: rest =>
    if c = '\\' then scan 1 .multiBasic depth rest
    else if c = '"' ∧ ['"', '"'] <+: rest then
      scan (2 + dropQuotes '"' (rest.drop 2)) .plain depth rest
    else scan 0 .multiBasic depth rest
  | 0, .multiLiteral, depth, c :: rest =>
    if c = '\'' ∧ ['\'', '\''] <+: rest then
      scan (2 + dropQuotes '\'' (rest.drop 2)) .plain depth rest
    else scan 0 .multiLiteral depth rest

def Place.after (place : Place) (line : List Char) : Place :=
  scan 0 place.mode place.depth line

/-! ## Keys -/

def isBlank (c : Char) : Bool :=
  c = ' ' || c = '\t'

def isBareKey (c : Char) : Bool :=
  ('a' ≤ c && c ≤ 'z') || ('A' ≤ c && c ≤ 'Z') || ('0' ≤ c && c ≤ '9') || c = '_' || c = '-'

/-- The characters of a basic string up to its closing quote, and what is after it. -/
def basicSpan : List Char → Option (List Char × List Char)
  | [] => none
  | '"' :: rest => some ([], rest)
  | '\\' :: c :: rest => (basicSpan rest).map fun (span, rest) => ('\\' :: c :: span, rest)
  | c :: rest => (basicSpan rest).map fun (span, rest) => (c :: span, rest)

def hexDigit (c : Char) : ℕ :=
  if '0' ≤ c ∧ c ≤ '9' then c.toNat - '0'.toNat
  else if 'a' ≤ c ∧ c ≤ 'f' then c.toNat - 'a'.toNat + 10
  else c.toNat - 'A'.toNat + 10

inductive Escape where
  | outside
  | started
  | code (digits value : ℕ)

/-- The text that the characters of a basic string stand for. -/
def unescape : Escape → List Char → List Char
  | _, [] => []
  | .outside, '\\' :: rest => unescape .started rest
  | .outside, c :: rest => c :: unescape .outside rest
  | .started, 'u' :: rest => unescape (.code 3 0) rest
  | .started, 'U' :: rest => unescape (.code 7 0) rest
  | .started, c :: rest =>
    (match c with
      | 'b' => '\x08'
      | 't' => '\t'
      | 'n' => '\n'
      | 'f' => '\x0c'
      | 'r' => '\r'
      | _ => c) :: unescape .outside rest
  | .code 0 value, c :: rest => Char.ofNat (value * 16 + hexDigit c) :: unescape .outside rest
  | .code (digits + 1) value, c :: rest =>
    unescape (.code digits (value * 16 + hexDigit c)) rest

def literalSpan : List Char → Option (List Char × List Char)
  | [] => none
  | c :: rest =>
    if c = '\'' then some ([], rest)
    else (literalSpan rest).map fun (span, rest) => (c :: span, rest)

/-- A key at the start of a text. A bare one ends before a character that is there. -/
def bareSpan : List Char → Option (List Char × List Char)
  | [] => none
  | c :: rest =>
    if isBareKey c then (bareSpan rest).map fun (span, rest) => (c :: span, rest)
    else some ([], c :: rest)

def simpleKey : List Char → Option (List Char × List Char)
  | '"' :: rest => (basicSpan rest).map fun (span, rest) => (unescape .outside span, rest)
  | '\'' :: rest => literalSpan rest
  | chars => (bareSpan chars).filter fun (span, _) => span ≠ []

/-- A key, and the dot or bracket that ends it. -/
def headingKey (chars : List Char) : Option (List Char × Char × List Char) :=
  match simpleKey (chars.dropWhile isBlank) with
  | none => none
  | some (key, rest) =>
    match rest.dropWhile isBlank with
    | [] => none
    | c :: rest => if c = '.' ∨ c = ']' then some (key, c, rest) else none

/-- The first two keys of a table. -/
structure Keys where
  root : List Char
  second : Option (List Char)
  deriving DecidableEq, Repr

def keysOf (chars : List Char) : Option Keys :=
  match headingKey chars with
  | none => none
  | some (root, stop, rest) =>
    if stop = ']' then some ⟨root, none⟩
    else (headingKey rest).map fun (second, _, _) => ⟨root, some second⟩

/-- The keys of a heading `[..]` or `[[..]]`. -/
def headingKeys (line : List Char) : Option Keys :=
  match line.dropWhile isBlank with
  | '[' :: '[' :: rest => keysOf rest
  | '[' :: rest => keysOf rest
  | _ => none

/-! ## Tables -/

/-- The keys of a line that is a heading where it stands. -/
def Place.heading (place : Place) (line : List Char) : Option Keys :=
  if place = {} then headingKeys line else none

/-- A line with the table it is in and the table of the line before it. -/
structure Filed where
  line : Line
  before : Option Keys
  table : Option Keys
  deriving DecidableEq, Repr

def filed : Place → Option Keys → List Line → List Filed
  | _, _, [] => []
  | place, before, line :: lines =>
    let table := (place.heading line.text).or before
    ⟨line, before, table⟩ :: filed (place.after line.text) table lines

/-- The lines of a text. None is in a table before the first heading. -/
def tables (text : List Char) : List Filed :=
  filed {} none (physicalLines text)

/-- Brackets in arrays and strings open no table. -/
example :
    (tables ("k = 1\n[a . 'b']\nv = [\n[\"]\"],\n]\ns = \"\"\"\n[c]\n\"\"\"\n" ++
        "[[\"\\u0064\"]]").toList).map Filed.table =
      none :: List.replicate 7 (some ⟨['a'], some ['b']⟩) ++ [some ⟨['d'], none⟩] := by
  decide +kernel

/-! ## More text after a key -/

theorem basicSpan_append {chars span rest : List Char} (more : List Char)
    (read : basicSpan chars = some (span, rest)) :
    basicSpan (chars ++ more) = some (span, rest ++ more) := by
  fun_induction basicSpan chars generalizing span with
  | case1 => exact absurd read.symm (Option.some_ne_none _)
  | case2 left =>
    have ⟨closed, after⟩ := Prod.mk.inj (Option.some.inj read)
    rw [← closed, ← after]
    rfl
  | case3 c left ih =>
    have ⟨⟨inner, after⟩, found, out⟩ := Option.map_eq_some_iff.1 read
    have ⟨opened, same⟩ := Prod.mk.inj out
    change (basicSpan (left ++ more)).map _ = _
    rw [ih (same ▸ found), ← opened]
    rfl
  | case4 c left quote escape ih =>
    have ⟨⟨inner, after⟩, found, out⟩ := Option.map_eq_some_iff.1 read
    have ⟨opened, same⟩ := Prod.mk.inj out
    have next := ih (same ▸ found)
    rw [List.cons_append, basicSpan, next, ← opened]
    · rfl
    · exact quote
    · intro d later hc happ
      cases left with
      | nil => exact absurd found.symm (Option.some_ne_none _)
      | cons e left =>
        exact escape e left hc rfl

theorem literalSpan_append {chars span rest : List Char} (more : List Char)
    (read : literalSpan chars = some (span, rest)) :
    literalSpan (chars ++ more) = some (span, rest ++ more) := by
  fun_induction literalSpan chars generalizing span with
  | case1 => exact absurd read.symm (Option.some_ne_none _)
  | case2 left =>
    have ⟨closed, after⟩ := Prod.mk.inj (Option.some.inj read)
    rw [← closed, ← after]
    rfl
  | case3 c left quote ih =>
    have ⟨⟨inner, after⟩, found, out⟩ := Option.map_eq_some_iff.1 read
    have ⟨opened, same⟩ := Prod.mk.inj out
    rw [List.cons_append, literalSpan, if_neg quote, ih (same ▸ found), ← opened]
    rfl

theorem bareSpan_append {chars span rest : List Char} (more : List Char)
    (read : bareSpan chars = some (span, rest)) :
    bareSpan (chars ++ more) = some (span, rest ++ more) := by
  fun_induction bareSpan chars generalizing span with
  | case1 => exact absurd read.symm (Option.some_ne_none _)
  | case2 c left bare ih =>
    have ⟨⟨inner, after⟩, found, out⟩ := Option.map_eq_some_iff.1 read
    have ⟨opened, same⟩ := Prod.mk.inj out
    rw [List.cons_append, bareSpan, if_pos bare, ih (same ▸ found), ← opened]
    rfl
  | case3 c left bare =>
    have ⟨closed, after⟩ := Prod.mk.inj (Option.some.inj read)
    rw [List.cons_append, bareSpan, if_neg bare, ← closed, ← after]
    rfl

theorem dropBlanks_append {chars rest : List Char} {c : Char} (more : List Char)
    (left : chars.dropWhile isBlank = c :: rest) :
    (chars ++ more).dropWhile isBlank = c :: rest ++ more := by
  rw [List.dropWhile_append, left]
  rfl

theorem simpleKey_append {chars key rest : List Char} (more : List Char)
    (read : simpleKey chars = some (key, rest)) :
    simpleKey (chars ++ more) = some (key, rest ++ more) := by
  unfold simpleKey at read
  split at read
  · rename_i left
    have ⟨⟨span, after⟩, found, out⟩ := Option.map_eq_some_iff.1 read
    have ⟨decoded, same⟩ := Prod.mk.inj out
    change (basicSpan (left ++ more)).map _ = _
    rw [basicSpan_append more (same ▸ found), ← decoded]
    rfl
  · rename_i left
    exact literalSpan_append more read
  · rename_i basic literal
    have ⟨found, written⟩ := Option.filter_eq_some_iff.1 read
    cases chars with
    | nil => exact absurd found.symm (Option.some_ne_none _)
    | cons c left =>
      have added := bareSpan_append more found
      rw [List.cons_append] at added
      rw [List.cons_append, simpleKey, added]
      · exact Option.filter_eq_some_iff.2 ⟨rfl, written⟩
      · intro tail quote
        exact basic left (by rw [(List.cons.inj quote).1])
      · intro tail quote
        exact literal left (by rw [(List.cons.inj quote).1])

theorem headingKey_append {chars key rest : List Char} {stop : Char} (more : List Char)
    (read : headingKey chars = some (key, stop, rest)) :
    headingKey (chars ++ more) = some (key, stop, rest ++ more) := by
  unfold headingKey at read
  split at read
  · exact absurd read.symm (Option.some_ne_none _)
  · rename_i name after found
    split at read
    · exact absurd read.symm (Option.some_ne_none _)
    · rename_i c left ended
      have first : (chars ++ more).dropWhile isBlank = chars.dropWhile isBlank ++ more := by
        cases start : chars.dropWhile isBlank with
        | nil =>
          rw [start] at found
          exact absurd found.symm (Option.some_ne_none _)
        | cons d later => exact dropBlanks_append more start
      split_ifs at read with stops
      have ⟨name_eq, stop_eq, left_eq⟩ : name = key ∧ c = stop ∧ left = rest := by
        simpa using read
      rw [headingKey, first, simpleKey_append more found]
      change (match (after ++ more).dropWhile isBlank with
        | [] => none
        | c :: rest => if c = '.' ∨ c = ']' then some (name, c, rest) else none) = _
      rw [dropBlanks_append more ended, ← name_eq, ← stop_eq, ← left_eq]
      exact if_pos stops

theorem keysOf_append {chars : List Char} {keys : Keys} (more : List Char)
    (read : keysOf chars = some keys) : keysOf (chars ++ more) = some keys := by
  unfold keysOf at read
  split at read
  · exact absurd read.symm (Option.some_ne_none _)
  · rename_i root stop rest first
    rw [keysOf, headingKey_append more first]
    dsimp only
    split_ifs at read ⊢ with closed
    · exact read
    · have ⟨⟨second, ending, after⟩, found, out⟩ := Option.map_eq_some_iff.1 read
      rw [headingKey_append more found]
      exact congrArg some out

/-- What follows a heading does not change its keys. -/
theorem headingKeys_append {line : List Char} {keys : Keys} (more : List Char)
    (read : headingKeys line = some keys) : headingKeys (line ++ more) = some keys := by
  unfold headingKeys at read
  split at read
  · rename_i rest start
    rw [headingKeys, dropBlanks_append more start]
    exact keysOf_append more read
  · rename_i rest single start
    rw [headingKeys, dropBlanks_append more start]
    cases rest with
    | nil => exact absurd read.symm (Option.some_ne_none _)
    | cons c rest =>
      change (match '[' :: c :: (rest ++ more) with
        | '[' :: '[' :: rest => keysOf rest
        | '[' :: rest => keysOf rest
        | _ => none) = _
      split
      · rename_i hc
        exact absurd (by rw [(List.cons.inj (List.cons.inj hc).2).1]) (single rest)
      · rename_i hc
        rw [← (List.cons.inj hc).2]
        exact keysOf_append more read
      · rename_i none
        exact absurd rfl (none (c :: (rest ++ more)))
  · exact absurd read.symm (Option.some_ne_none _)

end BacklinkPublisher.TomlLayout
