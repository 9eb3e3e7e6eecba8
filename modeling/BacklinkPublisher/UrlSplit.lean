import BacklinkPublisher.FormEncoding
import BacklinkPublisher.Texts
import Mathlib.Data.List.Basic
import Mathlib.Data.List.TakeWhile
import Mathlib.Tactic.Common

set_option autoImplicit false

/-!
# Parts of a URL

`urlsplit`, the accessors of its result and `urlunsplit`, as `urllib.parse` has them.
-/
namespace BacklinkPublisher.UrlSplit
open FormEncoding
open scoped Texts

/-! ## Character data -/

def delimiters : List Char := ['/', '?', '#', '@', ':']

/-- `str.lower` and the normal form NFKC. -/
structure UnicodeData where
  lower : List Char → List Char
  nfkc : List Char → List Char
  lower_ascii : ∀ s, (∀ c ∈ s, isAscii c) → lower s = s.map Char.toLower
  /-- Nothing that `lower` makes is in upper case. -/
  lower_lowered : ∀ s t, (∀ c ∈ t, c ∈ lower s) → lower t = t
  lower_mark : ∀ s, ∀ c ∈ lower s, isAscii c → ¬ c.isAlpha → c ∈ s
  lower_nfkc : ∀ s, ∀ c ∈ lower s, ∀ d ∈ delimiters, d ∈ nfkc [c] → c ∈ s
  nfkc_ascii : ∀ c, isAscii c → nfkc [c] = [c]
  /-- A delimiter neither combines with other characters nor comes from several of them. -/
  nfkc_delimiter : ∀ s, ∀ d ∈ delimiters, d ∈ nfkc s ↔ ∃ c ∈ s, d ∈ nfkc [c]

theorem UnicodeData.lower_nil (U : UnicodeData) : U.lower [] = [] :=
  U.lower_ascii [] (fun _ mem => absurd mem List.not_mem_nil)

theorem toLower_eq_or_isLower (c : Char) : c.toLower = c ∨ c.toLower.isLower := by
  unfold Char.toLower
  split_ifs with upper
  · right
    have low := UInt32.le_iff_toNat_le.mp upper.1
    have high := UInt32.le_iff_toNat_le.mp upper.2
    change 65 ≤ c.val.toNat at low
    change c.val.toNat ≤ 90 at high
    have shifted : (c.val + 32).toNat = c.val.toNat + 32 := by
      rw [UInt32.toNat_add]
      change (c.val.toNat + 32) % 2 ^ 32 = c.val.toNat + 32
      omega
    delta Char.isLower
    rw [Bool.and_eq_true, decide_eq_true_eq, decide_eq_true_eq]
    constructor
    · apply UInt32.le_iff_toNat_le.mpr
      change 97 ≤ (c.val + 32).toNat
      omega
    · apply UInt32.le_iff_toNat_le.mpr
      change (c.val + 32).toNat ≤ 122
      omega
  · exact Or.inl rfl

theorem toLower_of_isLower {c : Char} (lower : c.isLower) : c.toLower = c := by
  delta Char.isLower at lower
  rw [Bool.and_eq_true, decide_eq_true_eq, decide_eq_true_eq] at lower
  have low := UInt32.le_iff_toNat_le.mp lower.1
  change 97 ≤ c.val.toNat at low
  unfold Char.toLower
  rw [dif_neg]
  intro upper
  have high := UInt32.le_iff_toNat_le.mp upper.2
  change c.val.toNat ≤ 90 at high
  omega

theorem toLower_toLower (c : Char) : c.toLower.toLower = c.toLower := by
  rcases toLower_eq_or_isLower c with kept | lower
  · rw [kept, kept]
  · exact toLower_of_isLower lower

theorem mem_of_mem_toLower {s : List Char} {c : Char} (mem : c ∈ s.map Char.toLower)
    (mark : ¬ c.isAlpha) : c ∈ s := by
  have source := List.mem_map.mp mem
  refine source.elim fun d h => ?_
  rcases toLower_eq_or_isLower d with same | lower
  · rw [← h.2, same]
    exact h.1
  · rw [h.2] at lower
    exact absurd (Bool.or_eq_true_iff.mpr (Or.inr lower)) mark

/-- Character data for texts in ASCII, where `lower` goes by letters and NFKC changes nothing. -/
def asciiData : UnicodeData where
  lower s := s.map Char.toLower
  nfkc s := s
  lower_ascii _ _ := rfl
  lower_lowered s t h := by
    have fixed : ∀ c ∈ t, c.toLower = c := by
      intro c mem
      have source := List.mem_map.mp (h c mem)
      refine source.elim fun d made => ?_
      rw [← made.2, toLower_toLower]
    exact (List.map_congr_left fixed).trans (List.map_id t)
  lower_mark _ _ mem _ mark := mem_of_mem_toLower mem mark
  lower_nfkc _ c mem d delimiter becomes := by
    have mark : ∀ d ∈ delimiters, ¬ d.isAlpha := by
      rw [← List.forall_iff_forall_mem]
      decide
    rw [List.mem_singleton] at becomes
    exact mem_of_mem_toLower mem (mark c (becomes ▸ delimiter))
  nfkc_ascii _ _ := rfl
  nfkc_delimiter s d _ := by
    constructor
    · exact fun mem => ⟨d, mem, List.mem_singleton_self d⟩
    · rintro ⟨c, mem, becomes⟩
      exact List.mem_singleton.mp becomes ▸ mem

/-! ## Addresses in brackets -/

def isHex (c : Char) : Bool := (hexValue c).isSome

def isHextet (s : List Char) : Bool := s ≠ [] ∧ s.length ≤ 4 ∧ s.all isHex

def isOctet (s : List Char) : Bool :=
  s ≠ [] ∧ s.all Char.isDigit ∧ s.length ≤ 3 ∧ (s = ['0'] ∨ s.head? ≠ some '0') ∧
    Nat.ofDigitChars 10 s 0 ≤ 255

def isIPv4 (s : List Char) : Bool :=
  '/' ∉ s ∧ (s.splitOn '.').length = 4 ∧ (s.splitOn '.').all isOctet

/-- The parts with the two groups that a last part in dotted decimal stands for; only whether these
are valid matters. -/
def expandIPv4 (parts : List (List Char)) : Option (List (List Char)) :=
  let last := parts.getLastD []
  if '.' ∉ last then some parts
  else if isIPv4 last then some (parts.dropLast ++ [['0'], ['0']])
  else none

/-- The inner positions with nothing in them. -/
def skipIndices (parts : List (List Char)) : List ℕ :=
  (List.range parts.length).filter fun i =>
    0 < i ∧ i + 1 < parts.length ∧ parts[i]? = some []

def areGroups (parts : List (List Char)) : Bool :=
  match skipIndices parts with
  | [] => parts.length = 8 ∧ parts.all isHextet
  | [skip] =>
    let leading := parts.head? = some []
    let trailing := parts.getLast? = some []
    let high := if leading then skip - 1 else skip
    let low := if trailing then parts.length - skip - 2 else parts.length - skip - 1
    (leading → high = 0) ∧ (trailing → low = 0) ∧ high + low < 8 ∧
      (parts.take high).all isHextet ∧ (parts.drop (parts.length - low)).all isHextet
  | _ => false

def isIPv6 (s : List Char) : Bool :=
  let (addr, percent, scope) := partition '%' s
  let parts := addr.splitOn ':'
  '/' ∉ s ∧ (percent ≠ [] → scope ≠ [] ∧ '%' ∉ scope) ∧ addr ≠ [] ∧ 3 ≤ parts.length ∧
    (expandIPv4 parts).any fun parts => parts.length ≤ 9 ∧ areGroups parts

/-- `v`, hexadecimal digits, a dot and something after it. -/
def isIPvFuture (s : List Char) : Bool :=
  let rest := (s.drop 1).dropWhile isHex
  s.head? = some 'v' ∧ (s.drop 1).takeWhile isHex ≠ [] ∧ rest.head? = some '.' ∧
    rest.drop 1 ≠ [] ∧ '\n' ∉ rest

def checkBracketedHost (hostname : List Char) : Bool :=
  if hostname.head? = some 'v' then isIPvFuture hostname else isIPv6 hostname

/-- Brackets come in pairs, around an address. -/
def checkBrackets (netloc : List Char) : Bool :=
  if '[' ∈ netloc ∧ ']' ∈ netloc then
    let (_, _, bracketed) := partition '[' netloc
    checkBracketedHost (partition ']' bracketed).1
  else '[' ∉ netloc ∧ ']' ∉ netloc

/-! ## Splitting -/

/-- The characters of a list are gone through, not all characters. -/
local instance (priority := 2000) decidableListed {P : Char → Prop} [DecidablePred P]
    (chars : List Char) : Decidable (∀ c ∈ chars, P c) :=
  List.decidableBAll P chars

/-- No character becomes a delimiter under NFKC. -/
def checkNetloc (U : UnicodeData) (netloc : List Char) : Bool :=
  let n := netloc.filter (· ∉ ['@', ':', '#', '?'])
  netloc.all isAscii ∨ n = U.nfkc n ∨ ∀ d ∈ delimiters, d ∉ U.nfkc n

structure SplitResult where
  scheme : List Char := []
  netloc : List Char := []
  path : List Char := []
  query : List Char := []
  fragment : List Char := []
  deriving DecidableEq

def unsafeChars : List Char := ['\t', '\r', '\n']

/-- The URL without leading control characters and spaces, tabs and line ends. -/
def strip (url : List Char) : List Char :=
  (url.dropWhile fun c => c.toNat ≤ 32).filter (· ∉ unsafeChars)

def schemeChar (c : Char) : Bool := c.isAlphanum || c ∈ ['+', '-', '.']

def splitScheme (U : UnicodeData) (url : List Char) : List Char × List Char :=
  let (before, colon, after) := partition ':' url
  if colon ≠ [] ∧ before.head?.any Char.isAlpha ∧ before.all schemeChar then
    (U.lower before, after)
  else ([], url)

def splitNetloc (url : List Char) : List Char × List Char :=
  (url.takeWhile (· ∉ ['/', '?', '#']), url.dropWhile (· ∉ ['/', '?', '#']))

/-- `none` stands for the `ValueError`. -/
def urlsplit (U : UnicodeData) (url : List Char) : Option SplitResult :=
  let (scheme, url) := splitScheme U (strip url)
  let (netloc, url) := if url.take 2 = ['/', '/'] then splitNetloc (url.drop 2) else ([], url)
  let (url, _, fragment) := partition '#' url
  let (path, _, query) := partition '?' url
  if checkBrackets netloc ∧ checkNetloc U netloc then
    some ⟨scheme, netloc, path, query, fragment⟩
  else none

/-! ## The host and the port -/

/-- What follows the last `@`. -/
def afterUserinfo (netloc : List Char) : List Char :=
  (netloc.reverse.takeWhile (· ≠ '@')).reverse

/-- The host and the text of the port. -/
def hostinfo (netloc : List Char) : List Char × List Char :=
  let info := afterUserinfo netloc
  let (_, opened, bracketed) := partition '[' info
  if opened ≠ [] then
    let (hostname, _, rest) := partition ']' bracketed
    let (_, _, port) := partition ':' rest
    (hostname, port)
  else
    let (hostname, _, port) := partition ':' info
    (hostname, port)

def hostname (U : UnicodeData) (netloc : List Char) : Option (List Char) :=
  let hostname := (hostinfo netloc).1
  if hostname = [] then none
  else
    let (name, percent, zone) := partition '%' hostname
    some (U.lower name ++ percent ++ zone)

/-- The outer `none` stands for the `ValueError`, also that of `int` for more digits than it
converts. -/
def port (netloc : List Char) : Option (Option ℕ) :=
  let port := (hostinfo netloc).2
  if port = [] then some none
  else if port.all Char.isDigit ∧ port.length ≤ 4300 ∧ Nat.ofDigitChars 10 port 0 ≤ 65535 then
    some (some (Nat.ofDigitChars 10 port 0))
  else none

/-! ## Composing -/

def usesNetloc : List (List Char) :=
  ["ftp", "http", "gopher", "nntp", "telnet", "imap", "wais", "file", "mms", "https", "shttp",
    "snews", "prospero", "rtsp", "rtsps", "rtspu", "rsync", "svn", "svn+ssh", "sftp", "nfs", "git",
    "git+ssh", "ws", "wss"].map String.toList

/-- The path with a `/` before it, where there is a path. -/
def rooted (path : List Char) : List Char :=
  if path ≠ [] ∧ path.take 1 ≠ ['/'] then '/' :: path else path

def urlunsplit (parts : SplitResult) : List Char :=
  let url :=
    if parts.netloc ≠ [] ∨ parts.scheme ∈ usesNetloc ∨ parts.path.take 2 = ['/', '/'] then
      '/' :: '/' :: parts.netloc ++ rooted parts.path
    else parts.path
  let url := if parts.scheme ≠ [] then parts.scheme ++ ':' :: url else url
  let url := if parts.query ≠ [] then url ++ '?' :: parts.query else url
  if parts.fragment ≠ [] then url ++ '#' :: parts.fragment else url

/-! ## What a part holds -/

/-- Every part is free of what would end it. -/
structure SplitResult.Clean (parts : SplitResult) : Prop where
  netloc : ∀ c ∈ parts.netloc, c ∉ ['/', '?', '#'] ∧ c ∉ unsafeChars
  path : ∀ c ∈ parts.path, c ≠ '?' ∧ c ≠ '#' ∧ c ∉ unsafeChars
  query : ∀ c ∈ parts.query, c ≠ '#' ∧ c ∉ unsafeChars
  fragment : ∀ c ∈ parts.fragment, c ∉ unsafeChars

theorem strip_safe (url : List Char) : ∀ c ∈ strip url, c ∉ unsafeChars := by
  intro c mem
  simpa using (List.mem_filter.mp mem).2

theorem splitScheme_subset (U : UnicodeData) (url : List Char) :
    ∀ c ∈ (splitScheme U url).2, c ∈ url := by
  intro c mem
  unfold splitScheme at mem
  dsimp only at mem
  split_ifs at mem
  · exact (List.dropWhile_suffix _).subset (List.mem_of_mem_drop mem)
  · exact mem

theorem mem_takeWhile {P : Char → Prop} [DecidablePred P] {s : List Char} {c : Char}
    (mem : c ∈ s.takeWhile fun c => decide (P c)) : c ∈ s ∧ P c := by
  have holds := List.mem_takeWhile_imp mem
  exact ⟨(List.takeWhile_prefix _).subset mem, of_decide_eq_true holds⟩

theorem partition_subset (d : Char) (s : List Char) :
    (∀ c ∈ (partition d s).1, c ∈ s ∧ c ≠ d) ∧ ∀ c ∈ (partition d s).2.2, c ∈ s := by
  constructor
  · exact fun c mem => mem_takeWhile mem
  · intro c mem
    exact (List.dropWhile_suffix _).subset (List.mem_of_mem_drop mem)

theorem partition_absent {d : Char} {s : List Char} (absent : (partition d s).2.1 = []) :
    d ∉ s := by
  have none : s.dropWhile (fun c => decide (c ≠ d)) = [] :=
    (List.take_eq_nil_iff.mp absent).resolve_left (by decide)
  intro mem
  have differ := List.dropWhile_eq_nil_iff.mp none d mem
  exact (of_decide_eq_true differ) rfl

theorem splitNetloc_subset (url : List Char) :
    (∀ c ∈ (splitNetloc url).1, c ∈ url ∧ c ∉ ['/', '?', '#']) ∧
      ∀ c ∈ (splitNetloc url).2, c ∈ url := by
  constructor
  · exact fun c mem => mem_takeWhile mem
  · intro c mem
    exact (List.dropWhile_suffix _).subset mem

theorem urlsplit_spec {U : UnicodeData} {url : List Char} {parts : SplitResult}
    (h : urlsplit U url = some parts) :
    parts.Clean ∧ checkBrackets parts.netloc ∧ checkNetloc U parts.netloc := by
  unfold urlsplit at h
  dsimp only at h
  generalize body : (splitScheme U (strip url)).2 = rest at h
  have safe : ∀ c ∈ rest, c ∉ unsafeChars := by
    intro c mem
    rw [← body] at mem
    exact strip_safe url c (splitScheme_subset U _ c mem)
  generalize cut : (if rest.take 2 = ['/', '/'] then splitNetloc (rest.drop 2) else ([], rest)) =
    pieces at h
  have netloc : ∀ c ∈ pieces.1, c ∈ rest ∧ c ∉ ['/', '?', '#'] := by
    intro c mem
    rw [← cut] at mem
    split_ifs at mem
    · have inside := (splitNetloc_subset _).1 c mem
      exact ⟨List.mem_of_mem_drop inside.1, inside.2⟩
    · exact absurd mem List.not_mem_nil
  have later : ∀ c ∈ pieces.2, c ∈ rest := by
    intro c mem
    rw [← cut] at mem
    split_ifs at mem
    · exact List.mem_of_mem_drop ((splitNetloc_subset _).2 c mem)
    · exact mem
  split_ifs at h with checked
  rw [← Option.some.inj h]
  refine ⟨⟨?_, ?_, ?_, ?_⟩, checked⟩
  · intro c mem
    have inside := netloc c mem
    exact ⟨inside.2, safe c inside.1⟩
  · intro c mem
    have query := (partition_subset '?' _).1 c mem
    have fragment := (partition_subset '#' _).1 c query.1
    exact ⟨query.2, fragment.2, safe c (later c fragment.1)⟩
  · intro c mem
    have query := (partition_subset '?' _).2 c mem
    have fragment := (partition_subset '#' _).1 c query
    exact ⟨fragment.2, safe c (later c fragment.1)⟩
  · intro c mem
    have fragment := (partition_subset '#' _).2 c mem
    exact safe c (later c fragment)

theorem urlsplit_nil_scheme {U : UnicodeData} {parts : SplitResult}
    (h : urlsplit U [] = some parts) : parts.scheme = [] := by
  have empty : splitScheme U (strip []) = ([], []) := rfl
  rw [urlsplit, empty] at h
  dsimp only at h
  generalize (if [].take 2 = ['/', '/'] then splitNetloc ([].drop 2) else ([], [])) = pieces at h
  split_ifs at h
  rw [← Option.some.inj h]

/-! ## Splitting a composed URL -/

/-- A part that is there with the character before it. -/
def marked (mark : Char) (part : List Char) : List Char :=
  if part ≠ [] then mark :: part else []

theorem partition_marked {mark : Char} {s : List Char} (clean : mark ∉ s) (part : List Char) :
    (partition mark (s ++ marked mark part)).1 = s ∧
      (partition mark (s ++ marked mark part)).2.2 = part := by
  unfold marked
  split_ifs with there
  · rw [partition_append clean]
    exact ⟨rfl, rfl⟩
  · rw [List.append_nil, partition_of_not_mem clean]
    exact ⟨rfl, (not_not.mp there).symm⟩

theorem urlunsplit_eq (parts : SplitResult) (uses : parts.scheme ∈ usesNetloc) :
    urlunsplit parts = parts.scheme ++ ':' :: '/' :: '/' ::
      (parts.netloc ++ (rooted parts.path ++ marked '?' parts.query ++
        marked '#' parts.fragment)) := by
  have there : ∀ s ∈ usesNetloc, s ≠ [] := by decide
  unfold urlunsplit marked
  rw [if_pos (Or.inr (Or.inl uses))]
  dsimp only
  rw [if_pos (there _ uses)]
  split_ifs <;> simp only [List.cons_append, List.append_assoc, List.append_nil]

/-- The schemes are lower-case words. -/
theorem usesNetloc_word : ∀ s ∈ usesNetloc,
    s.head?.any Char.isAlpha ∧ s.all schemeChar ∧ s.map Char.toLower = s ∧
      (∀ c ∈ s, isAscii c ∧ c ∉ unsafeChars ∧ ':' ≠ c ∧ ¬ c.toNat ≤ 32) := by
  simp only [← List.forall_iff_forall_mem]
  decide

theorem rooted_clean {path : List Char} {P : Char → Prop} (slash : P '/')
    (clean : ∀ c ∈ path, P c) : ∀ c ∈ rooted path, P c := by
  intro c mem
  unfold rooted at mem
  split_ifs at mem
  · rcases List.mem_cons.mp mem with rfl | mem
    · exact slash
    · exact clean c mem
  · exact clean c mem

theorem splitNetloc_append {netloc : List Char} (clean : ∀ c ∈ netloc, c ∉ ['/', '?', '#'])
    {rest : List Char} (ends : ∀ c ∈ rest.head?, c ∈ ['/', '?', '#']) :
    splitNetloc (netloc ++ rest) = (netloc, rest) := by
  have inside : ∀ c ∈ netloc, (decide (c ∉ ['/', '?', '#'])) = true := by
    intro c mem
    rw [decide_eq_true_eq]
    exact clean c mem
  unfold splitNetloc
  rw [List.takeWhile_append_of_pos inside, List.dropWhile_append_of_pos inside]
  cases rest with
  | nil => rw [List.takeWhile_nil, List.dropWhile_nil, List.append_nil]
  | cons c rest =>
    have stop : ¬ (decide (c ∉ ['/', '?', '#'])) = true := by
      rw [decide_eq_true_eq, not_not]
      exact ends c rfl
    rw [List.takeWhile_cons, List.dropWhile_cons, if_neg stop, if_neg stop, List.append_nil]

theorem mem_marked {mark c : Char} {part : List Char} (mem : c ∈ marked mark part) :
    c = mark ∨ c ∈ part := by
  unfold marked at mem
  split_ifs at mem
  · exact List.mem_cons.mp mem
  · exact absurd mem List.not_mem_nil

theorem marked_head {mark c : Char} {part : List Char} (head : c ∈ (marked mark part).head?) :
    c = mark := by
  unfold marked at head
  split_ifs at head
  · exact (Option.some.inj head).symm
  · exact absurd head (Option.not_mem_none c)

theorem rooted_head {path : List Char} {c : Char} (head : c ∈ (rooted path).head?) : c = '/' := by
  unfold rooted at head
  split_ifs at head with root
  · exact (Option.some.inj head).symm
  · cases path with
    | nil => exact absurd head (Option.not_mem_none c)
    | cons d path =>
      have same : d = c := Option.some.inj head
      simp only [ne_eq, reduceCtorEq, not_false_eq_true, true_and, not_not] at root
      rw [← same]
      exact (List.cons.inj root).1

theorem head_append {P : Char → Prop} {s t : List Char} (first : ∀ c ∈ s.head?, P c)
    (second : ∀ c ∈ t.head?, P c) : ∀ c ∈ (s ++ t).head?, P c := by
  cases s with
  | nil => exact second
  | cons d s => exact first

theorem strip_eq {url : List Char} (visible : ∀ c ∈ url.head?, ¬ c.toNat ≤ 32)
    (safe : ∀ c ∈ url, c ∉ unsafeChars) : strip url = url := by
  have whole : url.dropWhile (fun c => decide (c.toNat ≤ 32)) = url := by
    cases url with
    | nil => rfl
    | cons c url =>
      have first : ¬ decide (c.toNat ≤ 32) = true := by
        rw [decide_eq_true_eq]
        exact visible c rfl
      rw [List.dropWhile_cons, if_neg first]
  unfold strip
  rw [whole, List.filter_eq_self]
  intro c mem
  rw [decide_eq_true_eq]
  exact safe c mem

theorem UnicodeData.lower_uses (U : UnicodeData) {scheme : List Char}
    (uses : scheme ∈ usesNetloc) : U.lower scheme = scheme := by
  have word := usesNetloc_word scheme uses
  rw [U.lower_ascii scheme fun c mem => (word.2.2.2 c mem).1]
  exact word.2.2.1

theorem splitScheme_append (U : UnicodeData) {scheme : List Char} (uses : scheme ∈ usesNetloc)
    (rest : List Char) : splitScheme U (scheme ++ ':' :: rest) = (scheme, rest) := by
  have word := usesNetloc_word scheme uses
  have clean : ':' ∉ scheme := fun mem => (word.2.2.2 ':' mem).2.2.1 rfl
  unfold splitScheme
  rw [partition_append clean]
  dsimp only
  rw [if_pos ⟨List.cons_ne_nil _ _, word.1, word.2.1⟩, U.lower_uses uses]

/-- **Splitting a composed URL.** The parts come back, unless the checks of the host refuse it. -/
theorem urlsplit_urlunsplit (U : UnicodeData) {parts : SplitResult}
    (uses : parts.scheme ∈ usesNetloc) (clean : parts.Clean) :
    urlsplit U (urlunsplit parts) =
      if checkBrackets parts.netloc ∧ checkNetloc U parts.netloc then
        some { parts with path := rooted parts.path }
      else none := by
  have word := usesNetloc_word parts.scheme uses
  have path : ∀ c ∈ rooted parts.path, c ≠ '?' ∧ c ≠ '#' ∧ c ∉ unsafeChars :=
    rooted_clean (by decide) clean.path
  have query : ∀ c ∈ marked '?' parts.query, c ≠ '#' ∧ c ∉ unsafeChars := by
    intro c mem
    rcases mem_marked mem with rfl | mem
    · decide
    · exact clean.query c mem
  have fragment : ∀ c ∈ marked '#' parts.fragment, c ∉ unsafeChars := by
    intro c mem
    rcases mem_marked mem with rfl | mem
    · decide
    · exact clean.fragment c mem
  have visible : ∀ c ∈ (urlunsplit parts).head?, ¬ c.toNat ≤ 32 := by
    rw [urlunsplit_eq parts uses]
    apply head_append
    · intro c head
      exact (word.2.2.2 c (List.mem_of_mem_head? head)).2.2.2
    · intro c head
      rw [← Option.some.inj head]
      decide
  have safe : ∀ c ∈ urlunsplit parts, c ∉ unsafeChars := by
    intro c mem
    rw [urlunsplit_eq parts uses] at mem
    simp only [List.mem_append, List.mem_cons] at mem
    rcases mem with mem | rfl | rfl | rfl | mem | (mem | mem) | mem
    · exact (word.2.2.2 c mem).2.1
    · decide
    · decide
    · decide
    · exact (clean.netloc c mem).2
    · exact (path c mem).2.2
    · exact (query c mem).2
    · exact fragment c mem
  have ends : ∀ c ∈ (rooted parts.path ++ marked '?' parts.query ++
      marked '#' parts.fragment).head?, c ∈ ['/', '?', '#'] := by
    apply head_append
    · apply head_append
      · intro c head
        rw [rooted_head head]
        decide
      · intro c head
        rw [marked_head head]
        decide
    · intro c head
      rw [marked_head head]
      decide
  have beforeFragment : '#' ∉ rooted parts.path ++ marked '?' parts.query := by
    rw [List.mem_append, not_or]
    exact ⟨fun mem => (path '#' mem).2.1 rfl, fun mem => (query '#' mem).1 rfl⟩
  have beforeQuery : '?' ∉ rooted parts.path := fun mem => (path '?' mem).1 rfl
  have atFragment := partition_marked beforeFragment parts.fragment
  have atQuery := partition_marked beforeQuery parts.query
  have slashes (rest : List Char) : (if ('/' :: '/' :: rest).take 2 = ['/', '/'] then
      splitNetloc (('/' :: '/' :: rest).drop 2) else ([], '/' :: '/' :: rest)) =
      splitNetloc rest := if_pos rfl
  unfold urlsplit
  rw [strip_eq visible safe, urlunsplit_eq parts uses, splitScheme_append U uses]
  dsimp only
  rw [slashes, splitNetloc_append (fun c mem => (clean.netloc c mem).1) ends]
  dsimp only
  rw [atFragment.1, atFragment.2, atQuery.1, atQuery.2]

theorem urlunsplit_netloc_inj {parts : SplitResult} (uses : parts.scheme ∈ usesNetloc)
    {netloc : List Char} (same : urlunsplit { parts with netloc } = urlunsplit parts) :
    netloc = parts.netloc := by
  rw [urlunsplit_eq parts uses, urlunsplit_eq { parts with netloc } uses] at same
  have authority := List.append_cancel_left same
  simp only [List.cons.injEq, true_and] at authority
  exact List.append_cancel_right authority

theorem rooted_rooted (path : List Char) : rooted (rooted path) = rooted path := by
  have root : ¬ (rooted path ≠ [] ∧ (rooted path).take 1 ≠ ['/']) := by
    intro h
    cases same : rooted path with
    | nil => exact h.1 same
    | cons c rest =>
      have first : c ∈ (rooted path).head? := by
        rw [same]
        rfl
      have slash := rooted_head first
      rw [same, slash] at h
      exact h.2 rfl
  rw [rooted, if_neg root]

theorem urlunsplit_rooted {parts : SplitResult} (uses : parts.scheme ∈ usesNetloc) :
    urlunsplit { parts with path := rooted parts.path } = urlunsplit parts := by
  rw [urlunsplit_eq parts uses, urlunsplit_eq { parts with path := rooted parts.path } uses,
    rooted_rooted]

/-! ## Checking and reading a host -/

theorem checkNetloc_iff (U : UnicodeData) {netloc : List Char} (clean : '/' ∉ netloc) :
    checkNetloc U netloc ↔
      ∀ c ∈ netloc, c ∉ ['@', ':', '#', '?'] → ∀ d ∈ delimiters, d ∉ U.nfkc [c] := by
  have kept (c : Char) : c ∈ netloc.filter (· ∉ ['@', ':', '#', '?']) ↔
      c ∈ netloc ∧ c ∉ ['@', ':', '#', '?'] := by
    rw [List.mem_filter, decide_eq_true_eq]
  have stray : ∀ d ∈ delimiters, d ∈ netloc → d ∈ ['@', ':', '#', '?'] := by
    intro d delimiter mem
    have slash : d ≠ '/' := fun h => clean (h ▸ mem)
    simp only [delimiters, List.mem_cons, List.not_mem_nil, or_false] at delimiter ⊢
    tauto
  unfold checkNetloc
  dsimp only
  rw [decide_eq_true_eq]
  constructor
  · intro checked c mem other d delimiter becomes
    rcases checked with ascii | same | none
    · rw [U.nfkc_ascii c (List.all_eq_true.mp ascii c mem), List.mem_singleton] at becomes
      exact other (becomes ▸ stray d delimiter (becomes ▸ mem))
    · have inside : d ∈ netloc.filter (· ∉ ['@', ':', '#', '?']) := by
        rw [same]
        exact (U.nfkc_delimiter _ d delimiter).mpr ⟨c, (kept c).mpr ⟨mem, other⟩, becomes⟩
      have apart := (kept d).mp inside
      exact apart.2 (stray d delimiter apart.1)
    · exact none d delimiter
        ((U.nfkc_delimiter _ d delimiter).mpr ⟨c, (kept c).mpr ⟨mem, other⟩, becomes⟩)
  · intro each
    right
    right
    intro d delimiter inside
    have source := (U.nfkc_delimiter _ d delimiter).mp inside
    refine source.elim fun c h => ?_
    have apart := (kept c).mp h.1
    exact each c apart.1 apart.2 d delimiter h.2

theorem afterUserinfo_subset (netloc : List Char) :
    ∀ c ∈ afterUserinfo netloc, c ∈ netloc ∧ c ≠ '@' := by
  intro c mem
  have behind := mem_takeWhile (List.mem_reverse.mp mem)
  exact ⟨List.mem_reverse.mp behind.1, behind.2⟩

theorem hostinfo_subset (netloc : List Char) :
    ∀ c ∈ (hostinfo netloc).1, c ∈ netloc ∧ c ≠ '@' := by
  intro c mem
  apply afterUserinfo_subset netloc c
  unfold hostinfo at mem
  dsimp only at mem
  split_ifs at mem
  · exact (partition_subset '[' _).2 c ((partition_subset ']' _).1 c mem).1
  · exact ((partition_subset ':' _).1 c mem).1

/-- A host holds no closing bracket, or no opening one. -/
theorem hostinfo_brackets (netloc : List Char) :
    ']' ∉ (hostinfo netloc).1 ∨ '[' ∉ (hostinfo netloc).1 := by
  unfold hostinfo
  dsimp only
  split_ifs with opened
  · left
    exact fun mem => ((partition_subset ']' _).1 ']' mem).2 rfl
  · right
    intro mem
    exact partition_absent (not_not.mp opened) ((partition_subset ':' _).1 '[' mem).1

theorem afterUserinfo_of_not_mem {netloc : List Char} (user : '@' ∉ netloc) :
    afterUserinfo netloc = netloc := by
  rw [afterUserinfo, List.takeWhile_eq_self_iff.mpr, List.reverse_reverse]
  exact decide_ne_of_not_mem fun mem => user (List.mem_reverse.mp mem)

/-- Without brackets the first `:` ends the host. -/
theorem hostinfo_plain {netloc : List Char} (bracket : '[' ∉ netloc) :
    hostinfo netloc = ((partition ':' (afterUserinfo netloc)).1,
      (partition ':' (afterUserinfo netloc)).2.2) := by
  have clean : '[' ∉ afterUserinfo netloc :=
    fun mem => bracket (afterUserinfo_subset netloc '[' mem).1
  unfold hostinfo
  dsimp only
  rw [partition_of_not_mem clean, if_neg (not_not.mpr rfl)]

theorem colon_not_mem_hostinfo {netloc : List Char} (bracket : '[' ∉ netloc) :
    ':' ∉ (hostinfo netloc).1 := by
  rw [hostinfo_plain bracket]
  exact fun mem => ((partition_subset ':' _).1 ':' mem).2 rfl

theorem hostinfo_eq {netloc : List Char} (user : '@' ∉ netloc) (bracket : '[' ∉ netloc) :
    hostinfo netloc = ((partition ':' netloc).1, (partition ':' netloc).2.2) := by
  rw [hostinfo_plain bracket, afterUserinfo_of_not_mem user]

theorem port_le {netloc : List Char} {number : ℕ} (h : port netloc = some (some number)) :
    number ≤ 65535 := by
  unfold port at h
  dsimp only at h
  split_ifs at h with empty valid
  · exact absurd (Option.some.inj h) (Option.some_ne_none number).symm
  · rw [← Option.some.inj (Option.some.inj h)]
    exact valid.2.2

theorem port_toDigits {netloc : List Char} {number : ℕ} (small : number ≤ 65535)
    (h : (hostinfo netloc).2 = Nat.toDigits 10 number) : port netloc = some (some number) := by
  have digits : (Nat.toDigits 10 number).all Char.isDigit = true := by
    rw [List.all_eq_true]
    exact fun c mem => Nat.isDigit_of_mem_toDigits (by decide) (by decide) mem
  have short : (Nat.toDigits 10 number).length ≤ 5 := by
    rw [Nat.length_toDigits_le_iff (by decide) (by decide)]
    omega
  unfold port
  dsimp only
  rw [h, if_neg Nat.toDigits_ne_nil, Nat.ofDigitChars_ten_toDigits,
    if_pos ⟨digits, by omega, small⟩]

/-- A text with something other than digits is no port. -/
theorem port_of_not_digit {netloc : List Char} {c : Char} (mem : c ∈ (hostinfo netloc).2)
    (other : c.isDigit = false) : port netloc = none := by
  have some : (hostinfo netloc).2 ≠ [] := List.ne_nil_of_mem mem
  unfold port
  dsimp only
  rw [if_neg some, if_neg]
  intro valid
  have digit := List.all_eq_true.mp valid.1 c mem
  rw [other] at digit
  exact absurd digit Bool.false_ne_true

end BacklinkPublisher.UrlSplit
