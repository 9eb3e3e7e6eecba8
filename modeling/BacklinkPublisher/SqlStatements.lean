import Mathlib.Data.List.Basic
import Mathlib.Data.Char
import Mathlib.Tactic.Common

set_option autoImplicit false

/-!
# Kinds of SQL statements

What kind of statement a text is to SQLite: its tokens, and the keyword that decides. After a
`WITH` clause that is the keyword behind the last common table expression. Texts that are no
statements for another reason may have a kind as well.
-/
namespace BacklinkPublisher.SqlStatements

/-! ## Tokens -/

inductive Token where
  | space
  | word (text : List Char)
  | quoted
  | opening
  | closing
  | comma
  | other
  | illegal
  deriving DecidableEq, Repr

def isBlank (c : Char) : Bool := c ∈ [' ', '\t', '\n', '\x0c', '\r']

def isIdChar (c : Char) : Bool := c.isAlphanum || c = '_' || c = '$' || 128 ≤ c.toNat

def byteOrderMark : Char := Char.ofNat 0xfeff

/-- What stands behind the first `*/`. -/
def afterClose : List Char → Option (List Char)
  | '*' :: '/' :: rest => some rest
  | _ :: rest => afterClose rest
  | [] => none

/-- What stands behind the closing quote; a doubled quote does not close. -/
def afterQuote (quote : Char) : List Char → Option (List Char)
  | [] => none
  | c :: rest =>
    if c = quote then
      match rest with
      | [] => some []
      | d :: rest' => if d = quote then afterQuote quote rest' else some (d :: rest')
    else afterQuote quote rest

def afterBracket : List Char → Option (List Char)
  | [] => none
  | c :: rest => if c = ']' then some rest else afterBracket rest

/-- The name of a variable, with a suffix in parentheses; `named` tells whether it has begun. -/
def afterVariable (named : Bool) : List Char → Option (List Char)
  | [] => if named then some [] else none
  | c :: rest =>
    if isIdChar c then afterVariable true rest
    else if c = '(' ∧ named = true then
      match rest.dropWhile fun d => !isBlank d && d ≠ ')' with
      | ')' :: rest' => some rest'
      | _ => none
    else
      match c, rest with
      | ':', ':' :: rest' => afterVariable named rest'
      | _, _ => if named then some (c :: rest) else none

def isHexDigit (c : Char) : Bool := c.isDigit || c.toLower ∈ ['a', 'b', 'c', 'd', 'e', 'f']

/-- What stands behind the digits of a blob literal. -/
def afterBlob (digits : List Char) : Option (List Char) :=
  match digits.dropWhile isHexDigit with
  | '\'' :: rest => if (digits.takeWhile isHexDigit).length % 2 = 0 then some rest else none
  | _ => none

def legal (token : Token) : Option (List Char) → Token × List Char
  | some rest => (token, rest)
  | none => (.illegal, [])

def word (c : Char) (rest : List Char) : Token × List Char :=
  (.word (c :: rest.takeWhile isIdChar), rest.dropWhile isIdChar)

/-- A word, or a blob literal. -/
def wordOrBlob (c : Char) : List Char → Token × List Char
  | '\'' :: digits =>
    if c = 'x' ∨ c = 'X' then legal .other (afterBlob digits) else word c ('\'' :: digits)
  | rest => word c rest

def operators : List Char :=
  ['+', '*', '%', '=', '<', '>', '|', '&', '~', '!', '.', '-', '/', ';']

/-- A comment, or an operator. -/
def commentOrOperator (c : Char) : List Char → Token × List Char
  | '-' :: line =>
    if c = '-' then (.space, line.dropWhile (· ≠ '\n')) else plain ('-' :: line)
  | '*' :: d :: comment =>
    if c = '/' then (.space, (afterClose (d :: comment)).getD []) else plain ('*' :: d :: comment)
  | rest => plain rest
where
  plain (rest : List Char) : Token × List Char :=
    (if c ∈ operators then .other else .illegal, rest)

/-- The first token of a text, and what stands behind it. -/
def token (c : Char) (rest : List Char) : Token × List Char :=
  if isBlank c then (.space, rest.dropWhile isBlank)
  else if c = byteOrderMark then (.space, rest)
  else if c = '(' then (.opening, rest)
  else if c = ')' then (.closing, rest)
  else if c = ',' then (.comma, rest)
  else if c ∈ ['\'', '"', Char.ofNat 0x60] then legal .quoted (afterQuote c rest)
  else if c = '[' then legal .quoted (afterBracket rest)
  else if c = '?' then (.other, rest.dropWhile Char.isDigit)
  else if c ∈ ['$', '@', '#', ':'] then legal .other (afterVariable false rest)
  else if c.isDigit then (.other, rest.dropWhile fun d => isIdChar d || d = '.')
  else if isIdChar c then wordOrBlob c rest
  else commentOrOperator c rest

def tokensWithin : ℕ → List Char → List Token
  | 0, _ => []
  | _, [] => []
  | size + 1, c :: rest => (token c rest).1 :: tokensWithin size (token c rest).2

/-- The tokens of a text but for blanks and comments. -/
def tokens (text : List Char) : List Token :=
  (tokensWithin text.length text).filter (· ≠ .space)

/-! ## Statements -/

inductive Kind where
  | select
  | insert
  | update
  | delete
  | drop
  | attach
  | other
  deriving DecidableEq, Repr

def upperWord (text : List Char) : List Char := text.map Char.toUpper

/-- The keywords that may follow a `WITH` clause. -/
def verbs : List (List Char × Kind) :=
  [("SELECT".toList, .select), ("VALUES".toList, .select), ("INSERT".toList, .insert),
    ("REPLACE".toList, .insert), ("UPDATE".toList, .update), ("DELETE".toList, .delete)]

def commands : List (List Char × Kind) :=
  verbs ++ [("DROP".toList, .drop), ("ATTACH".toList, .attach), ("DETACH".toList, .other),
    ("CREATE".toList, .other), ("ALTER".toList, .other), ("PRAGMA".toList, .other),
    ("EXPLAIN".toList, .other), ("BEGIN".toList, .other), ("COMMIT".toList, .other),
    ("END".toList, .other), ("ROLLBACK".toList, .other), ("SAVEPOINT".toList, .other),
    ("RELEASE".toList, .other), ("ANALYZE".toList, .other), ("REINDEX".toList, .other),
    ("VACUUM".toList, .other)]

/-- Where the tokens are in a list of common table expressions. -/
inductive Phase where
  | recursive
  | name
  | named
  | columns (depth : ℕ)
  | known
  | body
  | materialized
  | query (depth : ℕ)
  | next
  deriving DecidableEq, Repr

def keyword (text : List Char) : Token → Bool
  | .word text' => upperWord text' = text
  | _ => false

def isName : Token → Bool
  | .word _ => true
  | .quoted => true
  | _ => false

/-- The parentheses after a token; `none` where the outermost one closes. -/
def deeper (depth : ℕ) : Token → Option ℕ
  | .opening => some (depth + 1)
  | .closing => match depth with
    | 0 => none
    | depth + 1 => some depth
  | _ => some depth

/-- The phase after a token that is not the verb. -/
def Phase.step (phase : Phase) (token : Token) : Option Phase :=
  match phase with
  | .recursive =>
    if keyword "RECURSIVE".toList token then some .name
    else if isName token then some .named else none
  | .name => if isName token then some .named else none
  | .named =>
    if token = .opening then some (.columns 0)
    else if keyword "AS".toList token then some .body else none
  | .columns depth => some ((deeper depth token).elim .known .columns)
  | .known => if keyword "AS".toList token then some .body else none
  | .body =>
    if token = .opening then some (.query 0)
    else if keyword "NOT".toList token then some .materialized
    else if keyword "MATERIALIZED".toList token then some .body else none
  | .materialized => if keyword "MATERIALIZED".toList token then some .body else none
  | .query depth => some ((deeper depth token).elim .next .query)
  | .next => if token = .comma then some .name else none

def lookupWord (table : List (List Char × Kind)) : Token → Option Kind
  | .word text => table.lookup (upperWord text)
  | _ => none

/-- The verb behind the common table expressions. -/
def mainVerb : Phase → List Token → Option Kind
  | _, [] => none
  | phase, token :: rest =>
    match phase.step token with
    | some phase' => mainVerb phase' rest
    | none => if phase = .next then lookupWord verbs token else none

def kindOf : List Token → Option Kind
  | [] => none
  | first :: rest =>
    if keyword "WITH".toList first then mainVerb .recursive rest else lookupWord commands first

/-- The kind of the statement, `none` where the text is no statement. -/
def statementKind (text : List Char) : Option Kind :=
  if .illegal ∈ tokens text then none else kindOf (tokens text)

/-! ## What a token leaves -/

theorem afterClose_length {text rest : List Char} (h : afterClose text = some rest) :
    rest.length + 2 ≤ text.length := by
  fun_induction afterClose text with
  | case1 rest' =>
    cases h
    simp
  | case2 c rest' other ih =>
    have shorter := ih h
    rw [List.length_cons]
    omega
  | case3 => cases h

/-- The star that opens a comment belongs to its end only where a slash follows. -/
theorem afterClose_star {comment : List Char} (h : ¬ ∃ rest, comment = '/' :: rest) :
    afterClose ('*' :: comment) = afterClose comment :=
  afterClose.eq_2 '*' comment fun rest _ same => h ⟨rest, same⟩

theorem afterClose_open (comment : List Char) :
    afterClose ('/' :: '*' :: comment) = afterClose ('*' :: comment) :=
  afterClose.eq_2 '/' ('*' :: comment) fun _ same _ => absurd same (by decide)

theorem afterQuote_length {quote : Char} {text rest : List Char}
    (h : afterQuote quote text = some rest) : rest.length ≤ text.length := by
  fun_induction afterQuote quote text with
  | case1 => cases h
  | case2 =>
    cases h
    exact Nat.zero_le _
  | case3 rest' ih =>
    have shorter := ih h
    rw [List.length_cons, List.length_cons]
    omega
  | case4 d rest' other =>
    cases h
    rw [List.length_cons, List.length_cons, List.length_cons]
    omega
  | case5 c rest' other ih =>
    have shorter := ih h
    rw [List.length_cons]
    omega

theorem afterBracket_length {text rest : List Char} (h : afterBracket text = some rest) :
    rest.length ≤ text.length := by
  induction text with
  | nil => cases h
  | cons c text ih =>
    rw [afterBracket] at h
    rw [List.length_cons]
    split_ifs at h
    · cases h
      omega
    · have shorter := ih h
      omega

theorem dropWhile_length (p : Char → Bool) (text : List Char) :
    (text.dropWhile p).length ≤ text.length :=
  (List.dropWhile_suffix p).length_le

theorem afterVariable_length {named : Bool} {text rest : List Char}
    (h : afterVariable named text = some rest) : rest.length ≤ text.length := by
  fun_induction afterVariable named text with
  | case1 =>
    cases h
    exact le_refl _
  | case2 => cases h
  | case3 named c rest' id ih =>
    have shorter := ih h
    rw [List.length_cons]
    omega
  | case4 named c rest' id call suffix closed =>
    cases h
    have shorter := dropWhile_length (fun d => !isBlank d && d ≠ ')') rest'
    rw [closed, List.length_cons] at shorter
    rw [List.length_cons]
    omega
  | case5 => cases h
  | case6 named rest' id call ih =>
    have shorter := ih h
    rw [List.length_cons, List.length_cons]
    omega
  | case7 c rest' id call other =>
    cases h
    exact le_refl _
  | case8 => cases h

theorem afterBlob_length {digits rest : List Char} (h : afterBlob digits = some rest) :
    rest.length ≤ digits.length := by
  have shorter := dropWhile_length isHexDigit digits
  unfold afterBlob at h
  split at h
  · next rest' closed =>
    rw [closed, List.length_cons] at shorter
    split_ifs at h
    cases h
    omega
  · cases h

theorem legal_length {kind : Token} {outcome : Option (List Char)} {size : ℕ}
    (h : ∀ rest, outcome = some rest → rest.length ≤ size) :
    (legal kind outcome).2.length ≤ size := by
  cases outcome with
  | none => exact Nat.zero_le _
  | some rest => exact h rest rfl

theorem wordOrBlob_length (c : Char) (rest : List Char) :
    (wordOrBlob c rest).2.length ≤ rest.length := by
  unfold wordOrBlob
  split
  · next digits =>
    split_ifs
    · rw [List.length_cons]
      exact legal_length fun _ h => le_trans (afterBlob_length h) (Nat.le_succ _)
    · exact dropWhile_length _ _
  · exact dropWhile_length _ _

theorem commentOrOperator_length (c : Char) (rest : List Char) :
    (commentOrOperator c rest).2.length ≤ rest.length := by
  unfold commentOrOperator
  split
  · next line =>
    split_ifs
    · have shorter := dropWhile_length (· ≠ '\n') line
      rw [List.length_cons]
      exact le_trans shorter (Nat.le_succ _)
    · exact le_refl _
  · next d comment =>
    split_ifs
    · rw [List.length_cons]
      cases closed : afterClose (d :: comment) with
      | none => exact Nat.zero_le _
      | some rest' =>
        have shorter := afterClose_length closed
        change rest'.length ≤ _
        omega
    · exact le_refl _
  · exact le_refl _

theorem length_ite {p : Prop} [Decidable p] {a b : Token × List Char} {size : ℕ}
    (ha : a.2.length ≤ size) (hb : b.2.length ≤ size) :
    (if p then a else b).2.length ≤ size := by
  split_ifs
  · exact ha
  · exact hb

theorem token_length (c : Char) (rest : List Char) : (token c rest).2.length ≤ rest.length := by
  unfold token
  apply length_ite (dropWhile_length _ _)
  apply length_ite (le_refl _)
  apply length_ite (le_refl _)
  apply length_ite (le_refl _)
  apply length_ite (le_refl _)
  apply length_ite (legal_length fun _ h => afterQuote_length h)
  apply length_ite (legal_length fun _ h => afterBracket_length h)
  apply length_ite (dropWhile_length _ _)
  apply length_ite (legal_length fun _ h => afterVariable_length h)
  apply length_ite (dropWhile_length _ _)
  apply length_ite (wordOrBlob_length c rest)
  exact commentOrOperator_length c rest

theorem tokensWithin_of_le {size : ℕ} {text : List Char} (h : text.length ≤ size) :
    tokensWithin size text = tokensWithin text.length text := by
  induction size using Nat.strong_induction_on generalizing text with
  | _ size ih =>
    cases text with
    | nil => cases size <;> rfl
    | cons c rest =>
      cases size with
      | zero => cases h
      | succ size =>
        rw [List.length_cons] at h ⊢
        have shorter := token_length c rest
        rw [tokensWithin, tokensWithin, ih size (Nat.lt_succ_self _) (by omega)]
        by_cases same : rest.length = size
        · rw [same]
          rw [ih size (Nat.lt_succ_self _) (by omega)]
        · rw [ih rest.length (by omega) shorter]

theorem tokens_cons (c : Char) (rest : List Char) :
    tokens (c :: rest) =
      if (token c rest).1 = .space then tokens (token c rest).2
      else (token c rest).1 :: tokens (token c rest).2 := by
  unfold tokens
  rw [List.length_cons, tokensWithin, tokensWithin_of_le (token_length c rest),
    List.filter_cons]
  by_cases blank : (token c rest).1 = .space
  · rw [if_pos blank, if_neg (by simp [blank])]
  · rw [if_neg blank, if_pos (by simp [blank])]

theorem tokens_dropWhile_isBlank (text : List Char) :
    tokens (text.dropWhile isBlank) = tokens text := by
  cases text with
  | nil => rfl
  | cons c rest =>
    by_cases blank : isBlank c = true
    · have skipped : token c rest = (.space, rest.dropWhile isBlank) := by
        unfold token
        rw [if_pos blank]
      rw [List.dropWhile_cons_of_pos blank, tokens_cons, skipped, if_pos rfl]
    · rw [List.dropWhile_cons_of_neg blank]

theorem tokens_blank {c : Char} (blank : isBlank c = true) (rest : List Char) :
    tokens (c :: rest) = tokens rest := by
  rw [← tokens_dropWhile_isBlank (c :: rest), List.dropWhile_cons_of_pos blank,
    tokens_dropWhile_isBlank]

theorem tokens_comment {comment rest : List Char} (closed : afterClose comment = some rest) :
    tokens ('/' :: '*' :: comment) = tokens rest := by
  cases comment with
  | nil => cases closed
  | cons d comment =>
    have skipped : token '/' ('*' :: d :: comment) =
        (.space, (afterClose (d :: comment)).getD []) := by
      unfold token
      simp only [show isBlank '/' = false by decide, show ('/' = byteOrderMark) = False by decide]
      rfl
    rw [tokens_cons, skipped, closed, if_pos rfl]
    rfl

/-! ## The first word -/

theorem mem_of_lookup {table : List (List Char × Kind)} {name : List Char} {kind : Kind}
    (h : table.lookup name = some kind) : (name, kind) ∈ table := by
  induction table with
  | nil => cases h
  | cons entry table ih =>
    rw [List.lookup_cons] at h
    rw [List.mem_cons]
    by_cases same : name = entry.1
    · rw [same, beq_self_eq_true] at h
      injection h with value
      rw [same, ← value]
      exact .inl rfl
    · rw [beq_false_of_ne same] at h
      exact .inr (ih h)

/-- A statement begins with a keyword. -/
theorem statementKind_first {text : List Char} {kind : Kind}
    (h : statementKind text = some kind) :
    ∃ first rest, tokens text = .word first :: rest ∧
      upperWord first ∈ "WITH".toList :: commands.map Prod.fst := by
  unfold statementKind at h
  split_ifs at h
  unfold kindOf at h
  cases listed : tokens text with
  | nil =>
    rw [listed] at h
    cases h
  | cons first rest =>
    rw [listed] at h
    dsimp only at h
    cases first with
    | word first =>
      refine ⟨first, rest, rfl, ?_⟩
      by_cases begins : upperWord first = "WITH".toList
      · rw [begins]
        exact List.mem_cons_self
      · rw [if_neg (by simpa [keyword] using begins)] at h
        exact List.mem_cons_of_mem _ (List.mem_map_of_mem (mem_of_lookup h))
    | space => cases h
    | quoted => cases h
    | opening => cases h
    | closing => cases h
    | comma => cases h
    | other => cases h
    | illegal => cases h

/-- Only four kinds of statements can stand behind a `WITH` clause. -/
theorem mainVerb_mem {phase : Phase} {listed : List Token} {verb : Kind}
    (h : mainVerb phase listed = some verb) : verb ∈ [.select, .insert, .update, .delete] := by
  have kinds : ∀ entry ∈ verbs, entry.2 ∈ [.select, .insert, .update, .delete] := by decide
  induction listed generalizing phase with
  | nil => cases h
  | cons first rest ih =>
    rw [mainVerb] at h
    split at h
    · exact ih h
    · split_ifs at h
      cases first with
      | word text => exact kinds _ (mem_of_lookup h)
      | space => cases h
      | quoted => cases h
      | opening => cases h
      | closing => cases h
      | comma => cases h
      | other => cases h
      | illegal => cases h

end BacklinkPublisher.SqlStatements
