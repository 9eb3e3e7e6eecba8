import Mathlib.Tactic.Common
import Mathlib.Tactic.IntervalCases

set_option autoImplicit false

/-!
# Objects of texts as JSON

`dumps` writes an object whose values are texts or `null`, with characters beyond ASCII as they are.
`loads` reads such an object, and reads back what `dumps` writes.
-/
namespace BacklinkPublisher.JsonObjects

abbrev Text := List Char

/-- `none` is `null`. -/
abbrev Fields := List (String × Option String)

/-! ## Writing -/

def hexDigits : List Char := "0123456789abcdef".toList

def hexDigit (n : ℕ) : Char := hexDigits.getD n '0'

/-- The letters that stand after a backslash for a character. -/
def shortEscapes : List (Char × Char) :=
  [('"', '"'), ('\\', '\\'), ('\n', 'n'), ('\r', 'r'), ('\t', 't'), ('\x0c', 'f'), ('\x08', 'b')]

def escapeChar (c : Char) : Text :=
  match shortEscapes.lookup c with
  | some letter => ['\\', letter]
  | none =>
    if c.toNat < 32 then ['\\', 'u', '0', '0', hexDigit (c.toNat / 16), hexDigit (c.toNat % 16)]
    else [c]

def quote (s : String) : Text := '"' :: (s.toList.flatMap escapeChar ++ ['"'])

def writeValue : Option String → Text
  | none => ['n', 'u', 'l', 'l']
  | some s => quote s

def writeMember (field : String × Option String) : Text :=
  quote field.1 ++ ':' :: ' ' :: writeValue field.2

/-- The members and the brace after them. -/
def writeMembers : Fields → Text
  | [] => ['}']
  | [field] => writeMember field ++ ['}']
  | field :: fields => writeMember field ++ ',' :: ' ' :: writeMembers fields

def dumps (fields : Fields) : Text := '{' :: writeMembers fields

/-! ## Reading -/

def skipSpace (text : Text) : Text := text.dropWhile (· ∈ [' ', '\t', '\n', '\r'])

def hexValue (c : Char) : Option ℕ := hexDigits.idxOf? c.toLower

/-- A surrogate is not read. -/
def unicodeChar (a b c d : Char) : Option Char := do
  let n := (((← hexValue a) * 16 + (← hexValue b)) * 16 + (← hexValue c)) * 16 + (← hexValue d)
  if n.isValidChar then some (Char.ofNat n) else none

def unescape (letter : Char) : Option Char :=
  if letter = '/' then some '/' else (shortEscapes.map Prod.swap).lookup letter

/-- The text up to the closing quote, and what is after it. -/
def readChars : Text → Option (Text × Text)
  | [] => none
  | '"' :: rest => some ([], rest)
  | '\\' :: 'u' :: a :: b :: c :: d :: rest => do
    let char ← unicodeChar a b c d
    let (text, rest) ← readChars rest
    some (char :: text, rest)
  | '\\' :: letter :: rest => do
    let char ← unescape letter
    let (text, rest) ← readChars rest
    some (char :: text, rest)
  | c :: rest =>
    if c.toNat < 32 ∨ c = '\\' then none
    else (readChars rest).map fun (text, rest) => (c :: text, rest)

def readValue : Text → Option (Option String × Text)
  | 'n' :: 'u' :: 'l' :: 'l' :: rest => some (none, rest)
  | '"' :: rest => (readChars rest).map fun (text, rest) => (some (String.ofList text), rest)
  | _ => none

def readMember (text : Text) : Option ((String × Option String) × Text) := do
  let '"' :: rest := text | none
  let (key, rest) ← readChars rest
  let ':' :: rest := skipSpace rest | none
  let (value, rest) ← readValue (skipSpace rest)
  some ((String.ofList key, value), rest)

/-- The members up to the closing brace, and what is after it. -/
def readMembers : ℕ → Text → Option (Fields × Text)
  | 0, _ => none
  | fuel + 1, text => do
    let (field, rest) ← readMember (skipSpace text)
    match skipSpace rest with
    | '}' :: rest => some ([field], rest)
    | ',' :: rest =>
      let (fields, rest) ← readMembers fuel rest
      some (field :: fields, rest)
    | _ => none

def readFields : Text → Option (Fields × Text)
  | '}' :: rest => some ([], rest)
  | text => readMembers text.length text

def loads (text : Text) : Option Fields := do
  let '{' :: rest := skipSpace text | none
  let (fields, rest) ← readFields (skipSpace rest)
  if skipSpace rest = [] then some fields else none

/-! ## Reading what is written -/

theorem unicodeChar_control {n : ℕ} (control : n < 32) :
    unicodeChar '0' '0' (hexDigit (n / 16)) (hexDigit (n % 16)) = some (Char.ofNat n) := by
  interval_cases n <;> rfl

theorem readChars_escape (c : Char) (rest : Text) :
    readChars (escapeChar c ++ rest) =
      (readChars rest).map fun (text, rest) => (c :: text, rest) := by
  have bind_map : ∀ (found : Option (Text × Text)) (c : Char),
      (found.bind fun x => some (c :: x.1, x.2)) =
        found.map fun (text, rest) => (c :: text, rest) := by
    intro found c
    cases found <;> rfl
  have short : ∀ c ∈ shortEscapes.map Prod.fst, readChars (escapeChar c ++ rest) =
      (readChars rest).map fun (text, rest) => (c :: text, rest) := by
    have first : ∀ letter, letter ≠ 'u' → readChars ('\\' :: letter :: rest) =
        (unescape letter).bind fun char =>
          (readChars rest).map fun (text, rest) => (char :: text, rest) := by
      intro letter other
      rw [readChars.eq_4 _ _ (fun a b c d rest' same _ => other same)]
      simp only [Option.bind_eq_bind, bind_map]
    intro c member
    change c ∈ ['"', '\\', '\n', '\r', '\t', '\x0c', '\x08'] at member
    simp only [List.mem_cons, List.not_mem_nil, or_false] at member
    rcases member with h | h | h | h | h | h | h
    all_goals
      rw [h]
      exact first _ (by decide)
  by_cases known : c ∈ shortEscapes.map Prod.fst
  · exact short c known
  · have missing : shortEscapes.lookup c = none := by
      refine List.lookup_eq_none_iff.2 fun pair member => ?_
      rw [bne_iff_ne]
      intro same
      exact known (List.mem_map.2 ⟨pair, member, same.symm⟩)
    unfold escapeChar
    rw [missing]
    dsimp only
    by_cases control : c.toNat < 32
    · rw [if_pos control]
      change readChars ('\\' :: 'u' :: '0' :: '0' :: hexDigit (c.toNat / 16) ::
        hexDigit (c.toNat % 16) :: rest) = _
      rw [readChars, unicodeChar_control control, Char.ofNat_toNat]
      simp only [Option.bind_eq_bind, Option.bind_some, bind_map]
    · have quote_ : c ≠ '"' := fun same => known (by rw [same]; decide)
      have back : c ≠ '\\' := fun same => known (by rw [same]; decide)
      rw [if_neg control, List.singleton_append, readChars.eq_5 _ _ quote_]
      · rw [if_neg (not_or.2 ⟨control, back⟩)]
      · intro a b c d rest' same
        exact absurd same back
      · intro letter rest' same
        exact absurd same back

theorem readChars_quote (text rest : Text) :
    readChars (text.flatMap escapeChar ++ '"' :: rest) = some (text, rest) := by
  induction text with
  | nil => rfl
  | cons c text ih =>
    rw [List.flatMap_cons, List.append_assoc, readChars_escape, ih]
    rfl

theorem readValue_write (value : Option String) (rest : Text) :
    readValue (writeValue value ++ rest) = some (value, rest) := by
  cases value with
  | none => rfl
  | some s =>
    change (readChars (s.toList.flatMap escapeChar ++ ['"'] ++ rest)).map _ = _
    rw [List.append_assoc, List.singleton_append, readChars_quote, Option.map_some]
    dsimp only
    rw [String.ofList_toList]

theorem readMember_write (field : String × Option String) (rest : Text) :
    readMember (writeMember field ++ rest) = some (field, rest) := by
  have apart : writeMember field ++ rest = '"' :: (field.1.toList.flatMap escapeChar ++
      '"' :: ':' :: ' ' :: (writeValue field.2 ++ rest)) := by
    unfold writeMember quote
    simp only [List.cons_append, List.append_assoc, List.nil_append]
  have spaced : skipSpace (':' :: ' ' :: (writeValue field.2 ++ rest)) =
      ':' :: ' ' :: (writeValue field.2 ++ rest) := rfl
  have value : skipSpace (' ' :: (writeValue field.2 ++ rest)) = writeValue field.2 ++ rest := by
    cases field.2 <;> rfl
  rw [apart]
  change (readChars _).bind _ = _
  rw [readChars_quote, Option.bind_some]
  dsimp only
  rw [spaced]
  change (readValue (skipSpace _)).bind _ = _
  rw [value, readValue_write, Option.bind_some, String.ofList_toList]

theorem skipSpace_writeMember (field : String × Option String) (rest : Text) :
    skipSpace (writeMember field ++ rest) = writeMember field ++ rest := rfl

theorem readMembers_space (fuel : ℕ) (text : Text) :
    readMembers fuel (' ' :: text) = readMembers fuel text := by
  cases fuel <;> rfl

theorem writeMembers_cons (field next : String × Option String) (fields : Fields) :
    writeMembers (field :: next :: fields) =
      writeMember field ++ ',' :: ' ' :: writeMembers (next :: fields) := rfl

theorem readMembers_write {fields : Fields} (some_ : fields ≠ []) {fuel : ℕ}
    (enough : fields.length ≤ fuel) :
    readMembers fuel (writeMembers fields) = some (fields, []) := by
  induction fields generalizing fuel with
  | nil => exact absurd rfl some_
  | cons field fields ih =>
    cases fuel with
    | zero => exact absurd enough (Nat.not_succ_le_zero _)
    | succ fuel =>
      cases fields with
      | nil =>
        rw [writeMembers, readMembers, skipSpace_writeMember, readMember_write]
        rfl
      | cons next fields =>
        have later := ih (List.cons_ne_nil _ _) (Nat.le_of_succ_le_succ enough)
        rw [writeMembers_cons, readMembers, skipSpace_writeMember, readMember_write]
        change (readMembers fuel (' ' :: writeMembers (next :: fields))).bind _ = _
        rw [readMembers_space, later]
        rfl

theorem length_le_writeMembers (fields : Fields) :
    fields.length ≤ (writeMembers fields).length := by
  induction fields with
  | nil => exact Nat.zero_le _
  | cons field fields ih =>
    cases fields with
    | nil => exact Nat.le_add_left _ _
    | cons next fields =>
      have longer : (writeMembers (next :: fields)).length + 1 ≤
          (writeMembers (field :: next :: fields)).length := by
        rw [writeMembers_cons, List.length_append, List.length_cons, List.length_cons]
        omega
      exact (Nat.succ_le_succ ih).trans longer

theorem loads_dumps (fields : Fields) : loads (dumps fields) = some fields := by
  cases fields with
  | nil => rfl
  | cons field fields =>
    have begins : ∃ rest, writeMembers (field :: fields) = '"' :: rest := by
      cases fields <;> exact ⟨_, rfl⟩
    obtain ⟨rest, begins⟩ := begins
    have members := readMembers_write (List.cons_ne_nil field fields)
      (length_le_writeMembers (field :: fields))
    have first : skipSpace (writeMembers (field :: fields)) = writeMembers (field :: fields) := by
      rw [begins]
      rfl
    have read : readFields (writeMembers (field :: fields)) = some (field :: fields, []) := by
      rw [begins] at members ⊢
      exact members
    change (readFields (skipSpace (writeMembers (field :: fields)))).bind _ = _
    rw [first, read]
    rfl

end BacklinkPublisher.JsonObjects
