import BacklinkPublisher.ConfigSections
import BacklinkPublisher.FormEncoding
import BacklinkPublisher.SqlStatements
import Mathlib.Data.List.DropRight

set_option autoImplicit false

/-!
# Read-only queries

`_is_select_statement` of `events/_store_sqlite.py` and `EventStore.query`, which executes what it
accepts, against the kinds that the accepted texts have to SQLite.
-/
namespace BacklinkPublisher.SelectOnly
open ConfigSections (isSpace)
open FormEncoding (isAscii)
open SqlStatements

/-- `str.upper`, which looks at one character at a time. -/
structure UpperCase where
  upperChar : Char → List Char
  upperChar_ascii : ∀ c, isAscii c → upperChar c = [c.toUpper]
  upperChar_mark : upperChar byteOrderMark = [byteOrderMark]

def UpperCase.upper (U : UpperCase) (text : List Char) : List Char := text.flatMap U.upperChar

def commentStart : List Char := "/*".toList

theorem afterClose_shrinks {text rest : List Char} (closed : afterClose text = some rest) :
    (rest.dropWhile isSpace).length < text.length := by
  have shorter := afterClose_length closed
  have dropped := dropWhile_length isSpace rest
  omega

/-- The loop that drops leading comments; `none` where one is not closed. -/
def stripLoop (text : List Char) : Option (List Char) :=
  if commentStart.isPrefixOf text then
    match _closed : afterClose text with
    | none => none
    | some rest => stripLoop (rest.dropWhile isSpace)
  else some text
termination_by text.length
decreasing_by exact afterClose_shrinks _closed

def stripComments (sql : List Char) : Option (List Char) := stripLoop (sql.dropWhile isSpace)

def heads : List (List Char) :=
  ["SELECT ".toList, "SELECT\n".toList, "WITH ".toList, "WITH\n".toList]

def headed (U : UpperCase) (stripped : List Char) : Bool :=
  heads.any fun head => head.isPrefixOf (U.upper (stripped.take 10))

/-- No semicolon but for a last one. -/
def single (stripped : List Char) : Bool := ';' ∉ (stripped.rdropWhile isSpace).dropLast

def isSelectStatement (U : UpperCase) (sql : List Char) : Bool :=
  match stripComments sql with
  | none => false
  | some stripped => headed U stripped && single stripped

/-- `execute` is SQLite; `none` stands for the `ValueError`. -/
def query {σ : Type} (U : UpperCase) (execute : List Char → σ → σ) (sql : List Char)
    (tables : σ) : Option σ :=
  if isSelectStatement U sql then some (execute sql tables) else none

/-! ## Leading comments -/

/-- Some leading comment begins with `/*/`, which the check takes for a whole comment. -/
def misreadLoop (text : List Char) : Bool :=
  if "/*/".toList.isPrefixOf text then true
  else if commentStart.isPrefixOf text then
    match _closed : afterClose text with
    | none => false
    | some rest => misreadLoop (rest.dropWhile isSpace)
  else false
termination_by text.length
decreasing_by exact afterClose_shrinks _closed

def misread (sql : List Char) : Bool := misreadLoop (sql.dropWhile isSpace)

/-! ## Leading blanks -/

theorem commentOrOperator_of_ne {c : Char} (minus : c ≠ '-') (slash : c ≠ '/')
    (rest : List Char) : commentOrOperator c rest = commentOrOperator.plain c rest := by
  unfold commentOrOperator
  split
  · rw [if_neg minus]
  · rw [if_neg slash]
  · rfl

/-- A control character that is no blank of SQL begins no token. -/
theorem token_control {c : Char} (control : c ∈ [0x0b, 0x1c, 0x1d, 0x1e, 0x1f].map Char.ofNat)
    (rest : List Char) : token c rest = (.illegal, rest) := by
  have plain : (isBlank c = false ∧ c ≠ byteOrderMark ∧ c ∉ ['(', ')', ',', '[', '?'] ∧
      c ∉ ['\'', '"', Char.ofNat 0x60] ∧ c ∉ ['$', '@', '#', ':'] ∧ c.isDigit = false ∧
      isIdChar c = false) ∧ c ≠ '-' ∧ c ≠ '/' ∧ c ∉ operators := by
    revert c
    rw [← List.forall_iff_forall_mem]
    decide
  have ⟨⟨blank, mark, marks, quote, variable_, digit, id⟩, minus, slash, operator⟩ := plain
  simp only [List.mem_cons, List.not_mem_nil, or_false, not_or] at marks
  have ⟨opening, closing, comma, bracket, question⟩ := marks
  unfold token
  rw [if_neg (by rw [blank]; exact Bool.false_ne_true), if_neg mark, if_neg opening,
    if_neg closing, if_neg comma, if_neg quote, if_neg bracket, if_neg question,
    if_neg variable_, if_neg (by rw [digit]; exact Bool.false_ne_true),
    if_neg (by rw [id]; exact Bool.false_ne_true), commentOrOperator_of_ne minus slash]
  unfold commentOrOperator.plain
  rw [if_neg operator]

theorem ne_of_large {c : Char} (large : 128 ≤ c.toNat) {d : Char} (small : d.toNat < 128) :
    c ≠ d := by
  rintro rfl
  omega

theorem not_isDigit_of_large {c : Char} (large : 128 ≤ c.toNat) : c.isDigit = false := by
  rw [Bool.eq_false_iff]
  intro digit
  have ascii := FormEncoding.isAscii_of_isDigit digit
  unfold isAscii at ascii
  rw [decide_eq_true_eq] at ascii
  omega

/-- A character behind the ASCII ones begins a word. -/
theorem token_large {c : Char} (large : 128 ≤ c.toNat) (mark : c ≠ byteOrderMark)
    (rest : List Char) : token c rest = word c rest := by
  have other : ∀ d ∈ [' ', '\t', '\n', '\x0c', '\r', '(', ')', ',', '\'', '"', Char.ofNat 0x60,
      '[', '?', '$', '@', '#', ':', 'x', 'X'], c ≠ d := by
    intro d hd
    apply ne_of_large large
    revert d
    rw [← List.forall_iff_forall_mem]
    decide
  simp only [List.forall_mem_cons] at other
  have id : isIdChar c = true := by
    unfold isIdChar
    rw [decide_eq_true large, Bool.or_true]
  have blob : wordOrBlob c rest = word c rest := by
    unfold wordOrBlob
    split
    · rw [if_neg (by simp [other])]
    · rfl
  unfold token
  rw [if_neg (by simp [isBlank, other]), if_neg mark, if_neg (by simp [other]),
    if_neg (by simp [other]), if_neg (by simp [other]), if_neg (by simp [other]),
    if_neg (by simp [other]), if_neg (by simp [other]), if_neg (by simp [other]),
    if_neg (by rw [not_isDigit_of_large large]; exact Bool.false_ne_true), if_pos id, blob]

theorem cases_of_isSpace {c : Char} (space : isSpace c = true) :
    isBlank c = true ∨ c ∈ [0x0b, 0x1c, 0x1d, 0x1e, 0x1f].map Char.ofNat ∨
      (128 ≤ c.toNat ∧ c ≠ byteOrderMark) := by
  have code : c = Char.ofNat c.toNat := (Char.ofNat_toNat c).symm
  unfold isSpace at space
  rw [decide_eq_true_eq] at space
  have known : ∀ n ∈ [0x09, 0x0a, 0x0b, 0x0c, 0x0d, 0x1c, 0x1d, 0x1e, 0x1f, 0x20, 0x85, 0xa0,
      0x1680, 0x2000, 0x2001, 0x2002, 0x2003, 0x2004, 0x2005, 0x2006, 0x2007, 0x2008, 0x2009,
      0x200a, 0x2028, 0x2029, 0x202f, 0x205f, 0x3000],
      isBlank (Char.ofNat n) = true ∨
        Char.ofNat n ∈ [0x0b, 0x1c, 0x1d, 0x1e, 0x1f].map Char.ofNat ∨
        (128 ≤ (Char.ofNat n).toNat ∧ Char.ofNat n ≠ byteOrderMark) := by
    decide
  rw [code]
  exact known c.toNat space

theorem isUpper_of_keyword {name : List Char}
    (h : name ∈ "WITH".toList :: commands.map Prod.fst) : name.all Char.isUpper = true := by
  revert name
  rw [← List.forall_iff_forall_mem]
  decide

theorem isAscii_of_isUpper_toUpper {c : Char} (h : c.toUpper.isUpper = true) :
    isAscii c = true := by
  unfold isAscii
  rw [decide_eq_true_eq]
  by_contra large
  unfold Char.toUpper at h
  split_ifs at h with low
  · have high := UInt32.le_iff_toNat_le.mp low.2
    change c.toNat ≤ 122 at high
    omega
  · delta Char.isUpper at h
    rw [decide_eq_true_eq] at h
    have high := UInt32.le_iff_toNat_le.mp h.2
    change c.toNat ≤ 90 at high
    omega

theorem isAscii_of_keyword {text : List Char}
    (h : upperWord text ∈ "WITH".toList :: commands.map Prod.fst) :
    ∀ c ∈ text, isAscii c = true := by
  intro c hc
  have letters := isUpper_of_keyword h
  rw [List.all_eq_true] at letters
  exact isAscii_of_isUpper_toUpper (letters _ (List.mem_map_of_mem hc))

/-- What `lstrip` drops is blank to SQLite, in a text that is a statement. -/
theorem tokens_dropWhile_isSpace {text : List Char} {kind : Kind}
    (h : statementKind text = some kind) : tokens (text.dropWhile isSpace) = tokens text := by
  induction text with
  | nil => rfl
  | cons c rest ih =>
    by_cases space : isSpace c = true
    · rw [List.dropWhile_cons_of_pos space]
      rcases cases_of_isSpace space with blank | control | ⟨large, mark⟩
      · have same := tokens_blank blank rest
        unfold statementKind at h ih
        rw [same] at h ⊢
        exact ih h
      · have ⟨first, later, listed, _⟩ := statementKind_first h
        rw [tokens_cons, token_control control, if_neg (by simp)] at listed
        cases listed
      · have ⟨first, later, listed, known⟩ := statementKind_first h
        rw [tokens_cons, token_large large mark, if_neg (by unfold word; simp)] at listed
        injection listed with same
        unfold word at same
        injection same with same
        have ascii := isAscii_of_keyword known c (by rw [← same]; exact List.mem_cons_self)
        unfold isAscii at ascii
        rw [decide_eq_true_eq] at ascii
        omega
    · rw [List.dropWhile_cons_of_neg space]

/-- A comment that the check does not misread is one to SQLite. -/
theorem tokens_stripLoop {text stripped : List Char} {kind : Kind}
    (strip : stripLoop text = some stripped) (read : misreadLoop text = false)
    (h : statementKind text = some kind) : tokens stripped = tokens text := by
  fun_induction stripLoop text with
  | case1 => cases strip
  | case2 text start rest closed ih =>
    rw [misreadLoop] at read
    split_ifs at read with early
    split at read
    · next open_ =>
      rw [open_] at closed
      cases closed
    · next rest' closed' =>
      rw [closed'] at closed
      cases closed
      have ⟨comment, written⟩ := List.isPrefixOf_iff_prefix.1 start
      change '/' :: '*' :: comment = text at written
      subst written
      have inner : afterClose comment = some rest := by
        rw [← closed', afterClose_open, afterClose_star]
        rintro ⟨late, rfl⟩
        exact early rfl
      have same := tokens_comment inner
      have kinds : statementKind rest = some kind := by
        unfold statementKind at h ⊢
        rw [← same]
        exact h
      have spaces := tokens_dropWhile_isSpace kinds
      rw [ih strip read, spaces, same]
      unfold statementKind at kinds ⊢
      rw [spaces]
      exact kinds
  | case3 text start =>
    cases strip
    rfl

/-! ## The first word -/

section Heads
variable {U : UpperCase}

theorem upper_ascii {text : List Char} (ascii : ∀ c ∈ text, isAscii c = true) :
    U.upper text = upperWord text := by
  induction text with
  | nil => rfl
  | cons c rest ih =>
    have later := ih fun d hd => ascii d (List.mem_cons_of_mem c hd)
    change U.upperChar c ++ U.upper rest = c.toUpper :: upperWord rest
    rw [U.upperChar_ascii c (ascii c List.mem_cons_self), later]
    rfl

/-- The character behind a word is in no case. -/
theorem upper_behind_word (text : List Char) (n : ℕ) :
    (U.upper ((text.dropWhile isIdChar).take n)).takeWhile Char.isUpper = [] := by
  cases n with
  | zero => rfl
  | succ n =>
    cases behind : text.dropWhile isIdChar with
    | nil => rfl
    | cons d rest =>
      have stop : isIdChar d = false := by
        have head := List.head?_dropWhile_not isIdChar text
        rw [behind] at head
        simpa using head
      unfold isIdChar at stop
      simp only [Bool.or_eq_false_iff, decide_eq_false_iff_not] at stop
      have ascii : isAscii d = true := by
        unfold isAscii
        rw [decide_eq_true_eq]
        omega
      have letter : d.isAlpha = false := by
        have alnum := stop.1.1.1
        unfold Char.isAlphanum at alnum
        rw [Bool.or_eq_false_iff] at alnum
        exact alnum.1
      delta Char.isAlpha at letter
      rw [Bool.or_eq_false_iff] at letter
      have same : d.toUpper = d := by
        unfold Char.toUpper
        rw [dif_neg]
        intro low
        have lower : d.isLower = false := letter.2
        delta Char.isLower at lower
        rw [decide_eq_true low.1, decide_eq_true low.2] at lower
        cases lower
      change (U.upperChar d ++ U.upper (rest.take n)).takeWhile Char.isUpper = []
      rw [U.upperChar_ascii d ascii, same]
      exact List.takeWhile_cons_of_neg (by rw [letter.1]; exact Bool.false_ne_true)

/-- The two words that the check looks for, as the start of an upper-case head. -/
theorem headed_cases {stripped : List Char} (h : headed U stripped = true) :
    ∃ verb ∈ ["SELECT".toList, "WITH".toList],
      (U.upper (stripped.take 10)).takeWhile Char.isUpper = verb := by
  have cut : ∀ head ∈ heads, ∃ verb ∈ ["SELECT".toList, "WITH".toList],
      ∀ rest, (head ++ rest).takeWhile Char.isUpper = verb := by
    intro head hhead
    simp only [heads, List.mem_cons, List.not_mem_nil, or_false] at hhead
    rcases hhead with rfl | rfl | rfl | rfl
    · exact ⟨_, List.mem_cons_self, fun _ => rfl⟩
    · exact ⟨_, List.mem_cons_self, fun _ => rfl⟩
    · exact ⟨_, List.mem_cons_of_mem _ List.mem_cons_self, fun _ => rfl⟩
    · exact ⟨_, List.mem_cons_of_mem _ List.mem_cons_self, fun _ => rfl⟩
  unfold headed at h
  have ⟨head, hhead, before⟩ := List.any_eq_true.1 h
  have ⟨rest, written⟩ := List.isPrefixOf_iff_prefix.1 before
  have ⟨verb, hverb, cuts⟩ := cut head hhead
  exact ⟨verb, hverb, by rw [← written]; exact cuts rest⟩

theorem token_letter {c : Char} (letter : c ∈ ['S', 's', 'W', 'w']) (rest : List Char) :
    token c rest = word c rest := by
  simp only [List.mem_cons, List.not_mem_nil, or_false] at letter
  have blob : wordOrBlob c rest = word c rest := by
    unfold wordOrBlob
    split
    · rw [if_neg]
      rcases letter with rfl | rfl | rfl | rfl <;> decide
    · rfl
  rw [← blob]
  rcases letter with rfl | rfl | rfl | rfl <;> rfl

theorem toUpper_cases {c : Char} (h : c.toUpper = 'S' ∨ c.toUpper = 'W') :
    c ∈ ['S', 's', 'W', 'w'] := by
  have ascii : isAscii c = true := by
    apply isAscii_of_isUpper_toUpper
    rcases h with h | h <;> rw [h] <;> decide
  unfold isAscii at ascii
  rw [decide_eq_true_eq] at ascii
  have codes : ∀ n < 128, (Char.ofNat n).toUpper = 'S' ∨ (Char.ofNat n).toUpper = 'W' →
      Char.ofNat n ∈ ['S', 's', 'W', 'w'] := by decide
  have read := codes c.toNat ascii
  rw [Char.ofNat_toNat] at read
  exact read h

/-- An accepted text begins with a word to SQLite as well. -/
theorem token_of_headed {c : Char} {rest : List Char} (seen : headed U (c :: rest) = true) :
    token c rest = word c rest := by
  have ⟨verb, hverb, cut⟩ := headed_cases seen
  change (U.upperChar c ++ U.upper (rest.take 9)).takeWhile Char.isUpper = verb at cut
  have first : ∀ d : Char, U.upperChar c = [d] → d = 'S' ∨ d = 'W' := by
    intro d single
    rw [single, List.singleton_append] at cut
    by_cases upper : d.isUpper = true
    · rw [List.takeWhile_cons_of_pos upper] at cut
      simp only [List.mem_cons, List.not_mem_nil, or_false] at hverb
      rcases hverb with rfl | rfl
      · injection cut with same
        exact .inl same
      · injection cut with same
        exact .inr same
    · rw [List.takeWhile_cons_of_neg upper] at cut
      rw [← cut] at hverb
      exact absurd hverb (by decide)
  by_cases large : 128 ≤ c.toNat
  · apply token_large large
    rintro rfl
    exact absurd (first _ U.upperChar_mark) (by decide)
  · have ascii : isAscii c = true := by
      unfold isAscii
      rw [decide_eq_true_eq]
      omega
    exact token_letter (toUpper_cases (first _ (U.upperChar_ascii c ascii))) rest

/-- The first word of an accepted statement is the one that the check has seen. -/
theorem first_of_headed {stripped : List Char} {kind : Kind} (seen : headed U stripped = true)
    (h : statementKind stripped = some kind) :
    ∃ first rest, tokens stripped = .word first :: rest ∧
      upperWord first ∈ ["SELECT".toList, "WITH".toList] := by
  have ⟨verb, hverb, cut⟩ := headed_cases seen
  have ⟨first, later, listed, known⟩ := statementKind_first h
  refine ⟨first, later, listed, ?_⟩
  cases stripped with
  | nil => cases listed
  | cons c rest =>
    rw [tokens_cons, token_of_headed seen, if_neg (by unfold word; simp)] at listed
    injection listed with same
    unfold word at same
    injection same with same
    have ascii := isAscii_of_keyword known
    have split : c :: rest = first ++ rest.dropWhile isIdChar := by
      rw [← same, List.cons_append, List.takeWhile_append_dropWhile]
    have letters : ∀ d ∈ (upperWord first).take 10, d.isUpper = true := fun d hd =>
      List.all_eq_true.1 (isUpper_of_keyword known) d (List.mem_of_mem_take hd)
    have head : U.upper (first.take 10) = (upperWord first).take 10 := by
      rw [upper_ascii fun d hd => ascii d (List.mem_of_mem_take hd)]
      exact List.map_take
    have upper_append : ∀ s t, U.upper (s ++ t) = U.upper s ++ U.upper t := fun s t =>
      List.flatMap_append
    rw [split, List.take_append, upper_append, head, List.takeWhile_append_of_pos letters,
      upper_behind_word, List.append_nil] at cut
    have short : verb.length < 10 := by
      simp only [List.mem_cons, List.not_mem_nil, or_false] at hverb
      rcases hverb with rfl | rfl
      · decide
      · decide
    have whole : (upperWord first).take 10 = upperWord first := by
      apply List.take_of_length_le
      rw [← cut, List.length_take] at short
      omega
    rw [← whole, cut]
    exact hverb

end Heads

/-! ## What the check accepts -/

/-- The verb behind the `WITH` clause of a text that begins with one. -/
def verbBehindWith (text : List Char) : Option Kind :=
  if .illegal ∈ tokens text then none
  else
    match tokens text with
    | [] => none
    | first :: rest => if keyword "WITH".toList first then mainVerb .recursive rest else none

/-- The verb behind a leading `WITH` clause is that of a `SELECT`. Where a leading comment begins
with `/*/` the check has looked into the comment, and the statement behind it is a `SELECT`. -/
def Harmless (U : UpperCase) (sql : List Char) : Prop :=
  ∀ stripped, stripComments sql = some stripped → headed U stripped = true →
    single stripped = true →
      (misread sql = false → ∀ verb, verbBehindWith sql = some verb → verb = .select) ∧
      (misread sql = true → ∀ kind, statementKind sql = some kind → kind = .select)

theorem keyword_word {name text : List Char} :
    keyword name (.word text) = true ↔ upperWord text = name :=
  decide_eq_true_iff

/-- To SQLite, a text that the check accepts without misreading a comment is a `SELECT` or begins
with a `WITH` clause. -/
theorem kind_of_accepted {U : UpperCase} {sql stripped : List Char} {kind : Kind}
    (strip : stripComments sql = some stripped) (seen : headed U stripped = true)
    (read : misread sql = false) (h : statementKind sql = some kind) :
    kind = .select ∨ verbBehindWith sql = some kind := by
  have spaces := tokens_dropWhile_isSpace h
  have inner : statementKind (sql.dropWhile isSpace) = some kind := by
    unfold statementKind at h ⊢
    rw [spaces]
    exact h
  have same := tokens_stripLoop strip read inner
  rw [spaces] at same
  have stripped_kind : statementKind stripped = some kind := by
    unfold statementKind at h ⊢
    rw [same]
    exact h
  have ⟨first, rest, listed, verb⟩ := first_of_headed seen stripped_kind
  rw [same] at listed
  unfold statementKind at h
  unfold verbBehindWith
  rw [listed] at h ⊢
  split_ifs at h ⊢ with illegal
  unfold kindOf at h
  dsimp only at h ⊢
  simp only [List.mem_cons, List.not_mem_nil, or_false] at verb
  rcases verb with select | with_
  · left
    rw [if_neg (by rw [keyword_word, select]; decide)] at h
    unfold lookupWord at h
    dsimp only at h
    rw [select] at h
    injection h with h
    exact h.symm
  · right
    have begins := keyword_word.2 with_
    rw [if_pos begins] at h ⊢
    exact h

theorem isSelectStatement_iff {U : UpperCase} {sql : List Char} :
    isSelectStatement U sql = true ↔
      ∃ stripped, stripComments sql = some stripped ∧ headed U stripped = true ∧
        single stripped = true := by
  unfold isSelectStatement
  cases strip : stripComments sql with
  | none => exact iff_of_false Bool.false_ne_true fun ⟨_, h, _⟩ => by cases h
  | some stripped =>
    dsimp only
    rw [Bool.and_eq_true]
    constructor
    · exact fun both => ⟨stripped, rfl, both⟩
    · rintro ⟨other, same, both⟩
      cases same
      exact both

theorem select_of_harmless {U : UpperCase} {sql : List Char} (harmless : Harmless U sql)
    (accepted : isSelectStatement U sql = true) :
    ∀ kind, statementKind sql = some kind → kind = .select := by
  intro kind h
  have ⟨stripped, strip, seen, alone⟩ := isSelectStatement_iff.1 accepted
  have ⟨verbs, hidden⟩ := harmless stripped strip seen alone
  cases read : misread sql with
  | true => exact hidden read kind h
  | false =>
    rcases kind_of_accepted strip seen read h with select | behind
    · exact select
    · exact verbs read kind behind

/-- Without a misread comment no `DROP`, no `ATTACH` and no other command is accepted. -/
theorem accepted_kinds {U : UpperCase} {sql : List Char} {kind : Kind}
    (accepted : isSelectStatement U sql = true) (read : misread sql = false)
    (h : statementKind sql = some kind) : kind ∈ [.select, .insert, .update, .delete] := by
  have ⟨stripped, strip, seen, _⟩ := isSelectStatement_iff.1 accepted
  rcases kind_of_accepted strip seen read h with select | behind
  · rw [select]
    decide
  · unfold verbBehindWith at behind
    split_ifs at behind
    cases listed : tokens sql with
    | nil =>
      rw [listed] at behind
      cases behind
    | cons first rest =>
      rw [listed] at behind
      dsimp only at behind
      split_ifs at behind
      exact mainVerb_mem behind

/-- Where SQLite changes no table for a `SELECT` or for a text that is no statement, a harmless
query changes none. -/
theorem query_keeps {σ : Type} {U : UpperCase} {execute : List Char → σ → σ}
    (reads : ∀ sql tables, (∀ kind, statementKind sql = some kind → kind = .select) →
      execute sql tables = tables) {sql : List Char} (harmless : Harmless U sql)
    {tables tables' : σ} (h : query U execute sql tables = some tables') : tables' = tables := by
  unfold query at h
  split_ifs at h with accepted
  injection h with same
  rw [← same]
  exact reads sql tables (select_of_harmless harmless accepted)

end BacklinkPublisher.SelectOnly
