import BacklinkPublisher.DedupStore
import BacklinkPublisher.UrlSplit
import Mathlib.Data.Char
import Mathlib.Data.List.DropRight
import Mathlib.Data.List.Lex
import Mathlib.Data.List.Sort

set_option autoImplicit false

/-!
# Canonical URLs

`canonicalize_url`, the key under which two spellings of a URL are one article. Its docstring
promises that a canonical URL is its own canonical form.
-/
namespace BacklinkPublisher.CanonicalUrl
open DedupStore FormEncoding UrlSplit

def defaultPorts : List (List Char × ℕ) := [("http".toList, 80), ("https".toList, 443)]

def canonicalNetloc (standard : ℕ) (host : List Char) : Option ℕ → List Char
  | none => host
  | some port => if port = standard then host else host ++ ':' :: Nat.toDigits 10 port

def canonicalPath (path : List Char) : List Char :=
  if path ≠ ['/'] ∧ path.getLast? = some '/' then path.rdropWhile (· = '/') else path

def isTracking (U : UnicodeData) (field : List Char × List Char) : Bool :=
  "utm_".toList.isPrefixOf (U.lower field.1)

/-- The fields that stay, in the order of their keys; those of one key keep theirs. -/
def keptFields (U : UnicodeData) (query : List Char) : List (List Char × List Char) :=
  ((parseQsl query).filter (! isTracking U ·)).insertionSort fun a b => a.1 ≤ b.1

def canonicalQuery (U : UnicodeData) (query : List Char) : List Char :=
  if query ≠ [] then
    let kept := keptFields U query
    if kept ≠ [] then urlencode kept else []
  else []

def hostLower (U : UnicodeData) (netloc : List Char) : List Char :=
  U.lower ((hostname U netloc).getD [])

/-- `none` stands for a `ValueError`. -/
def canonicalizeUrl (U : UnicodeData) (url : List Char) : Option (List Char) :=
  if url = [] then some url
  else
    (urlsplit U url).bind fun parts =>
      let scheme := U.lower parts.scheme
      match defaultPorts.lookup scheme with
      | none => some url
      | some standard =>
        (port parts.netloc).map fun port =>
          urlunsplit
            { scheme
              netloc := canonicalNetloc standard (hostLower U parts.netloc) port
              path := canonicalPath parts.path
              query := canonicalQuery U parts.query }

/-! ## The path and the query -/

theorem canonicalPath_subset (path : List Char) : ∀ c ∈ canonicalPath path, c ∈ path := by
  intro c mem
  unfold canonicalPath at mem
  split_ifs at mem
  · have front := List.rdropWhile_prefix (fun c => decide (c = '/')) path
    exact front.subset mem
  · exact mem

/-- A stripped path is the root or does not end in `/`. -/
theorem canonicalPath_stripped (path : List Char) :
    canonicalPath path = ['/'] ∨ (canonicalPath path).getLast? ≠ some '/' := by
  unfold canonicalPath
  split_ifs with trailing
  · right
    intro last
    have some : path.rdropWhile (· = '/') ≠ [] := by
      intro none
      rw [none] at last
      exact absurd last (by decide)
    have stays := List.rdropWhile_last_not (fun c => decide (c = '/')) path some
    rw [List.getLast?_eq_some_getLast some] at last
    exact stays (decide_eq_true (Option.some.inj last))
  · rw [not_and_or, not_not] at trailing
    exact trailing

theorem canonicalPath_of_stripped {path : List Char}
    (stripped : path = ['/'] ∨ path.getLast? ≠ some '/') : canonicalPath path = path := by
  unfold canonicalPath
  rw [if_neg]
  rintro ⟨other, trailing⟩
  exact stripped.elim other fun h => h trailing

theorem canonicalPath_rooted (path : List Char) :
    canonicalPath (rooted (canonicalPath path)) = rooted (canonicalPath path) := by
  apply canonicalPath_of_stripped
  have stripped := canonicalPath_stripped path
  unfold rooted
  split_ifs with bare
  · right
    rw [List.getLast?_cons_of_ne_nil bare.1]
    apply stripped.resolve_left
    intro root
    rw [root] at bare
    exact bare.2 rfl
  · exact stripped

theorem keptFields_kept (U : UnicodeData) (query : List Char) :
    ∀ field ∈ keptFields U query, (! isTracking U field) = true := by
  intro field mem
  unfold keptFields at mem
  rw [List.mem_insertionSort] at mem
  exact (List.mem_filter.mp mem).2

theorem keptFields_sorted (U : UnicodeData) (query : List Char) :
    (keptFields U query).Pairwise fun a b => a.1 ≤ b.1 := by
  have total : Std.Total fun a b : List Char × List Char => a.1 ≤ b.1 :=
    ⟨fun a b => le_total a.1 b.1⟩
  have trans : IsTrans (List Char × List Char) fun a b => a.1 ≤ b.1 :=
    ⟨fun _ _ _ => le_trans⟩
  exact List.pairwise_insertionSort _ _

theorem keptFields_urlencode (U : UnicodeData) (query : List Char) :
    keptFields U (urlencode (keptFields U query)) = keptFields U query := by
  change ((parseQsl (urlencode (keptFields U query))).filter (! isTracking U ·)).insertionSort
    (fun a b => a.1 ≤ b.1) = _
  rw [parseQsl_urlencode, List.filter_eq_self.mpr (keptFields_kept U query)]
  exact (keptFields_sorted U query).insertionSort_eq

theorem canonicalQuery_canonicalQuery (U : UnicodeData) (query : List Char) :
    canonicalQuery U (canonicalQuery U query) = canonicalQuery U query := by
  by_cases some : query ≠ [] ∧ keptFields U query ≠ []
  · have written : canonicalQuery U query = urlencode (keptFields U query) := by
      rw [canonicalQuery, if_pos some.1]
      exact if_pos some.2
    rw [written, canonicalQuery, if_pos (urlencode_ne_nil some.2)]
    dsimp only
    rw [keptFields_urlencode, if_pos some.2]
  · have nothing : canonicalQuery U query = [] := by
      unfold canonicalQuery
      dsimp only
      split_ifs with there kept
      · exact absurd ⟨there, kept⟩ some
      · rfl
      · rfl
    rw [nothing]
    rfl

theorem not_mem_canonicalQuery (U : UnicodeData) {c : Char} (mark : isQuoted c = false)
    (separator : c ∉ ['&', '=']) (query : List Char) : c ∉ canonicalQuery U query := by
  unfold canonicalQuery
  dsimp only
  split_ifs
  · exact not_mem_urlencode mark separator _
  · exact List.not_mem_nil
  · exact List.not_mem_nil

/-! ## The host -/

/-- What `lower` cannot make was in the host as it was written. -/
theorem hostLower_source {U : UnicodeData} {P : Char → Prop}
    (source : ∀ s, ∀ c ∈ U.lower s, P c → c ∈ s) (netloc : List Char) :
    ∀ c ∈ hostLower U netloc, P c → c ∈ (hostinfo netloc).1 := by
  intro c mem holds
  have inside := source _ c mem holds
  unfold hostname at inside
  dsimp only at inside
  split_ifs at inside with empty
  · exact absurd inside List.not_mem_nil
  · rw [Option.getD_some, List.mem_append, List.mem_append] at inside
    rw [← partition_append_self '%' (hostinfo netloc).1, List.mem_append, List.mem_append]
    exact inside.imp_left fun h => h.imp_left fun name => source _ c name holds

theorem hostLower_mark {U : UnicodeData} {netloc : List Char} {c : Char}
    (mem : c ∈ hostLower U netloc) (ascii : isAscii c) (mark : ¬ c.isAlpha) :
    c ∈ (hostinfo netloc).1 :=
  hostLower_source (P := fun c => isAscii c ∧ ¬ c.isAlpha)
    (fun s c mem h => U.lower_mark s c mem h.1 h.2) netloc c mem ⟨ascii, mark⟩

theorem hostLower_of_lowered {U : UnicodeData} {netloc other : List Char}
    (inside : ∀ c ∈ (hostinfo other).1, c ∈ hostLower U netloc) :
    hostLower U other = (hostinfo other).1 := by
  have lowered (t : List Char) (h : ∀ c ∈ t, c ∈ (hostinfo other).1) : U.lower t = t :=
    U.lower_lowered _ t fun c mem => inside c (h c mem)
  unfold hostLower hostname
  dsimp only
  split_ifs with empty
  · rw [empty]
    exact U.lower_nil
  · rw [lowered _ fun c mem => ((partition_subset '%' _).1 c mem).1, Option.getD_some,
      partition_append_self]
    exact lowered _ fun c mem => mem

theorem mem_canonicalNetloc {c : Char} {standard : ℕ} {host : List Char} {number : Option ℕ}
    (mem : c ∈ canonicalNetloc standard host number) : c ∈ host ∨ c = ':' ∨ c.isDigit := by
  unfold canonicalNetloc at mem
  split at mem
  · exact Or.inl mem
  · split_ifs at mem
    · exact Or.inl mem
    · rw [List.mem_append, List.mem_cons] at mem
      apply mem.imp_right
      intro rest
      exact rest.imp_right fun digit =>
        Nat.isDigit_of_mem_toDigits (by decide) (by decide) digit

theorem host_subset_canonicalNetloc (standard : ℕ) (host : List Char) (number : Option ℕ) :
    ∀ c ∈ host, c ∈ canonicalNetloc standard host number := by
  intro c mem
  unfold canonicalNetloc
  split
  · exact mem
  · split_ifs
    · exact mem
    · exact List.mem_append_left _ mem

/-- The text of the host is a host, or a name with a port of its own that is not the default. -/
def ReadsBack (standard : ℕ) (host : List Char) (number : Option ℕ) : Prop :=
  '[' ∉ host ∧ ']' ∉ host ∧
    (':' ∉ host ∨
      (number = none ∨ number = some standard) ∧
        ∃ name own, host = name ++ ':' :: Nat.toDigits 10 own ∧ ':' ∉ name ∧ own ≤ 65535 ∧
          own ≠ standard)

/-- The second reading finds the parts of the host that the first one wrote. -/
def Rereads (U : UnicodeData) (standard : ℕ) (netloc : List Char) : Prop :=
  checkBrackets netloc ∧
    ∃ number, port netloc = some number ∧
      canonicalNetloc standard (hostLower U netloc) number = netloc

section Reread
variable {U : UnicodeData} {netloc : List Char} (standard : ℕ) (number : Option ℕ)

theorem not_mem_user : '@' ∉ canonicalNetloc standard (hostLower U netloc) number := by
  intro mem
  rcases mem_canonicalNetloc mem with host | colon | digit
  · exact (hostinfo_subset netloc '@' (hostLower_mark host (by decide) (by decide))).2 rfl
  · exact absurd colon (by decide)
  · exact absurd digit (by decide)

theorem bracket_iff {c : Char} (bracket : c = '[' ∨ c = ']') (host : List Char) :
    c ∈ canonicalNetloc standard host number ↔ c ∈ host := by
  constructor
  · intro mem
    have other : c ≠ ':' ∧ ¬ c.isDigit := by
      rcases bracket with rfl | rfl
      · decide
      · decide
    rcases mem_canonicalNetloc mem with inside | colon | digit
    · exact inside
    · exact absurd colon other.1
    · exact absurd digit other.2
  · exact host_subset_canonicalNetloc standard host number c

theorem checkBrackets_iff :
    checkBrackets (canonicalNetloc standard (hostLower U netloc) number) ↔
      '[' ∉ hostLower U netloc ∧ ']' ∉ hostLower U netloc := by
  have apart : ¬ ('[' ∈ hostLower U netloc ∧ ']' ∈ hostLower U netloc) := by
    intro both
    have opening := hostLower_mark both.1 (by decide) (by decide)
    have closing := hostLower_mark both.2 (by decide) (by decide)
    exact (hostinfo_brackets netloc).elim (fun h => h closing) fun h => h opening
  rw [← bracket_iff standard number (Or.inl rfl), ← bracket_iff standard number (Or.inr rfl)]
    at apart ⊢
  unfold checkBrackets
  rw [if_neg apart, decide_eq_true_eq]

theorem hostinfo_canonicalNetloc (opening : '[' ∉ hostLower U netloc) :
    hostinfo (canonicalNetloc standard (hostLower U netloc) number) =
      ((partition ':' (canonicalNetloc standard (hostLower U netloc) number)).1,
        (partition ':' (canonicalNetloc standard (hostLower U netloc) number)).2.2) := by
  apply hostinfo_eq (not_mem_user standard number)
  rw [bracket_iff standard number (Or.inl rfl)]
  exact opening

variable {standard number}

/-- A host without a colon is read again as it was written, with the port. -/
theorem rereads_of_no_colon (opening : '[' ∉ hostLower U netloc)
    (closing : ']' ∉ hostLower U netloc) (colon : ':' ∉ hostLower U netloc)
    (small : ∀ p, number = some p → p ≤ 65535) :
    Rereads U standard (canonicalNetloc standard (hostLower U netloc) number) := by
  refine ⟨(checkBrackets_iff standard number).mpr ⟨opening, closing⟩, ?_⟩
  have info := hostinfo_canonicalNetloc standard number opening
  have bare (alone : canonicalNetloc standard (hostLower U netloc) number = hostLower U netloc) :
      ∃ again, port (canonicalNetloc standard (hostLower U netloc) number) = some again ∧
        canonicalNetloc standard
          (hostLower U (canonicalNetloc standard (hostLower U netloc) number)) again =
            canonicalNetloc standard (hostLower U netloc) number := by
    rw [alone] at info ⊢
    rw [partition_of_not_mem colon] at info
    refine ⟨none, ?_, ?_⟩
    · rw [port, info]
      rfl
    · rw [hostLower_of_lowered (by rw [info]; exact fun c mem => mem), info]
      rfl
  cases number with
  | none => exact bare rfl
  | some p =>
    by_cases same : p = standard
    · exact bare (by rw [canonicalNetloc, if_pos same])
    · have written : canonicalNetloc standard (hostLower U netloc) (some p) =
          hostLower U netloc ++ ':' :: Nat.toDigits 10 p := by
        rw [canonicalNetloc, if_neg same]
      rw [written] at info ⊢
      rw [partition_append colon] at info
      refine ⟨some p, port_toDigits (small p rfl) (by rw [info]), ?_⟩
      rw [hostLower_of_lowered (by rw [info]; exact fun c mem => mem), info, canonicalNetloc,
        if_neg same]

/-- A host with a colon is read again as a name and a port. -/
theorem rereads_iff_of_colon (opening : '[' ∉ hostLower U netloc)
    (closing : ']' ∉ hostLower U netloc) {name rest : List Char}
    (split : hostLower U netloc = name ++ ':' :: rest) (first : ':' ∉ name) :
    Rereads U standard (canonicalNetloc standard (hostLower U netloc) number) ↔
      (number = none ∨ number = some standard) ∧
        ∃ own, rest = Nat.toDigits 10 own ∧ own ≤ 65535 ∧ own ≠ standard := by
  have brackets := (checkBrackets_iff standard number).mpr ⟨opening, closing⟩
  have info := hostinfo_canonicalNetloc standard number opening
  by_cases dropped : number = none ∨ number = some standard
  · have alone : canonicalNetloc standard (hostLower U netloc) number = hostLower U netloc := by
      rcases dropped with rfl | rfl
      · rfl
      · rw [canonicalNetloc, if_pos rfl]
    rw [alone] at brackets info ⊢
    have pieces : partition ':' (hostLower U netloc) = (name, [':'], rest) := by
      rw [split, partition_append first]
    rw [pieces] at info
    have inside : ∀ c ∈ (hostinfo (hostLower U netloc)).1, c ∈ hostLower U netloc := by
      intro c mem
      rw [info] at mem
      rw [split]
      exact List.mem_append_left _ mem
    have again : hostLower U (hostLower U netloc) = name := by
      rw [hostLower_of_lowered inside, info]
    have shorter : name ≠ hostLower U netloc := by
      intro h
      rw [split] at h
      have length := congrArg List.length h
      rw [List.length_append, List.length_cons] at length
      omega
    rw [Rereads, again]
    constructor
    · rintro ⟨-, found, read, whole⟩
      refine ⟨dropped, ?_⟩
      cases found with
      | none => exact absurd whole shorter
      | some own =>
        by_cases same : own = standard
        · rw [canonicalNetloc, if_pos same] at whole
          exact absurd whole shorter
        · rw [canonicalNetloc, if_neg same, split] at whole
          have digits := (List.cons.inj (List.append_cancel_left whole)).2
          exact ⟨own, digits.symm, port_le read, same⟩
    · rintro ⟨-, own, digits, small, other⟩
      refine ⟨brackets, some own, port_toDigits small (by rw [info, digits]), ?_⟩
      rw [canonicalNetloc, if_neg other, split, digits]
  · constructor
    · rintro ⟨-, found, read, -⟩
      cases number with
      | none => exact absurd (Or.inl rfl) dropped
      | some p =>
        have same : p ≠ standard := fun h => dropped (Or.inr (congrArg some h))
        have written : canonicalNetloc standard (hostLower U netloc) (some p) =
            name ++ ':' :: (rest ++ ':' :: Nat.toDigits 10 p) := by
          rw [canonicalNetloc, if_neg same, split, List.append_assoc, List.cons_append]
        rw [written] at info read
        rw [partition_append first] at info
        have colon : ':' ∈ (hostinfo (name ++ ':' :: (rest ++ ':' :: Nat.toDigits 10 p))).2 := by
          rw [info]
          exact List.mem_append_right _ List.mem_cons_self
        rw [port_of_not_digit colon (by decide)] at read
        exact absurd read (Option.some_ne_none found).symm
    · exact fun h => absurd h.1 dropped

/-- **The second reading of a host.** -/
theorem rereads_iff (small : ∀ p, number = some p → p ≤ 65535) :
    Rereads U standard (canonicalNetloc standard (hostLower U netloc) number) ↔
      ReadsBack standard (hostLower U netloc) number := by
  by_cases brackets : '[' ∉ hostLower U netloc ∧ ']' ∉ hostLower U netloc
  · by_cases colon : ':' ∈ hostLower U netloc
    · have pieces := List.eq_append_cons_of_mem colon
      refine pieces.elim fun name h => h.elim fun rest parts => ?_
      rw [rereads_iff_of_colon brackets.1 brackets.2 parts.1 parts.2]
      constructor
      · rintro ⟨dropped, own, digits, bound, other⟩
        refine ⟨brackets.1, brackets.2, Or.inr ⟨dropped, name, own, ?_, parts.2, bound, other⟩⟩
        rw [parts.1, digits]
      · rintro ⟨-, -, absent | ⟨dropped, front, own, same, clean, bound, other⟩⟩
        · exact absurd colon absent
        · refine ⟨dropped, own, ?_, bound, other⟩
          have cut := congrArg (partition ':') (parts.1.symm.trans same)
          rw [partition_append parts.2, partition_append clean] at cut
          exact congrArg (fun pieces => pieces.2.2) cut
    · exact iff_of_true (rereads_of_no_colon brackets.1 brackets.2 colon small)
        ⟨brackets.1, brackets.2, Or.inl colon⟩
  · constructor
    · intro h
      exact absurd ((checkBrackets_iff standard number).mp h.1) brackets
    · intro h
      exact absurd ⟨h.1, h.2.1⟩ brackets

end Reread

/-! ## The whole URL -/

theorem checkNetloc_canonicalNetloc {U : UnicodeData} {netloc : List Char} (clean : '/' ∉ netloc)
    (checked : checkNetloc U netloc) {standard : ℕ} {number : Option ℕ}
    (again : '/' ∉ canonicalNetloc standard (hostLower U netloc) number) :
    checkNetloc U (canonicalNetloc standard (hostLower U netloc) number) := by
  rw [checkNetloc_iff U clean] at checked
  rw [checkNetloc_iff U again]
  intro c mem other d delimiter becomes
  rcases mem_canonicalNetloc mem with host | rfl | digit
  · have source := hostLower_source (P := fun c => ∃ d ∈ delimiters, d ∈ U.nfkc [c])
      (fun s c mem h => h.elim fun d h => U.lower_nfkc s c mem d h.1 h.2) netloc c host
      ⟨d, delimiter, becomes⟩
    exact checked c (hostinfo_subset netloc c source).1 other d delimiter becomes
  · exact other (by decide)
  · rw [U.nfkc_ascii c (isAscii_of_isDigit digit), List.mem_singleton] at becomes
    have mark : ∀ d ∈ delimiters, ¬ d.isDigit := by
      rw [← List.forall_iff_forall_mem]
      decide
    exact mark d delimiter (becomes ▸ digit)

theorem uses_of_lookup {scheme : List Char} {standard : ℕ}
    (known : defaultPorts.lookup scheme = some standard) : scheme ∈ usesNetloc := by
  by_cases http : scheme = "http".toList
  · rw [http]
    decide
  · by_cases https : scheme = "https".toList
    · rw [https]
      decide
    · rw [defaultPorts, List.lookup_cons, List.lookup_cons, beq_false_of_ne http,
        beq_false_of_ne https] at known
      exact absurd known (Option.some_ne_none standard).symm

theorem canonical_clean (U : UnicodeData) {parts : SplitResult} (clean : parts.Clean)
    (scheme : List Char) (standard : ℕ) (number : Option ℕ) :
    SplitResult.Clean
      { scheme
        netloc := canonicalNetloc standard (hostLower U parts.netloc) number
        path := canonicalPath parts.path
        query := canonicalQuery U parts.query } := by
  have ending : ∀ c ∈ ['/', '?', '#'] ++ unsafeChars,
      isAscii c ∧ ¬ c.isAlpha ∧ c ≠ ':' ∧ ¬ c.isDigit := by
    rw [← List.forall_iff_forall_mem]
    decide
  have absent : ∀ c ∈ ['/', '?', '#'] ++ unsafeChars,
      c ∉ canonicalNetloc standard (hostLower U parts.netloc) number := by
    intro c stops mem
    have mark := ending c stops
    rcases mem_canonicalNetloc mem with host | colon | digit
    · have source := (hostinfo_subset _ c (hostLower_mark host mark.1 mark.2.1)).1
      have kept := clean.netloc c source
      exact (List.mem_append.mp stops).elim kept.1 kept.2
    · exact mark.2.2.1 colon
    · exact mark.2.2.2 digit
  refine ⟨?_, ?_, ?_, ?_⟩
  · intro c mem
    exact ⟨fun h => absent c (List.mem_append_left _ h) mem,
      fun h => absent c (List.mem_append_right _ h) mem⟩
  · exact fun c mem => clean.path c (canonicalPath_subset parts.path c mem)
  · intro c mem
    have out : ∀ d ∈ '#' :: unsafeChars, isQuoted d = false ∧ d ∉ ['&', '='] := by
      rw [← List.forall_iff_forall_mem]
      decide
    constructor
    · rintro rfl
      exact not_mem_canonicalQuery U (by decide) (by decide) parts.query mem
    · intro h
      have plain := out c (List.mem_cons_of_mem _ h)
      exact not_mem_canonicalQuery U plain.1 plain.2 parts.query mem
  · exact fun c mem => absurd mem List.not_mem_nil

/-- The canonical URL is its own canonical form where its host is read again. -/
theorem canonicalizeUrl_urlunsplit {U : UnicodeData} {parts : SplitResult} (clean : parts.Clean)
    (checked : checkNetloc U parts.netloc) {scheme : List Char} {standard : ℕ}
    (known : defaultPorts.lookup scheme = some standard) (number : Option ℕ)
    {canonical : List Char} (written : canonical = urlunsplit
      { scheme
        netloc := canonicalNetloc standard (hostLower U parts.netloc) number
        path := canonicalPath parts.path
        query := canonicalQuery U parts.query }) :
    canonicalizeUrl U canonical = some canonical ↔
      Rereads U standard (canonicalNetloc standard (hostLower U parts.netloc) number) := by
  have uses := uses_of_lookup known
  have again := canonical_clean U clean scheme standard number
  have slash : '/' ∉ canonicalNetloc standard (hostLower U parts.netloc) number :=
    fun mem => (again.netloc '/' mem).1 (by decide)
  have first : '/' ∉ parts.netloc := fun mem => (clean.netloc '/' mem).1 (by decide)
  have netloc := checkNetloc_canonicalNetloc first checked slash
  have some : canonical ≠ [] := by
    rw [written, urlunsplit_eq _ uses]
    exact List.append_ne_nil_of_right_ne_nil _ (List.cons_ne_nil _ _)
  -- the second reading roots the path, which writes the same URL
  have rebuilt (other : List Char) : urlunsplit
      { scheme
        netloc := other
        path := rooted (canonicalPath parts.path)
        query := canonicalQuery U parts.query } = urlunsplit
      { scheme
        netloc := canonicalNetloc standard (hostLower U parts.netloc) number
        path := canonicalPath parts.path
        query := canonicalQuery U parts.query } ↔
      other = canonicalNetloc standard (hostLower U parts.netloc) number := by
    have root := @urlunsplit_rooted
      ⟨scheme, other, canonicalPath parts.path, canonicalQuery U parts.query, []⟩ uses
    rw [root]
    constructor
    · exact @urlunsplit_netloc_inj ⟨scheme, _, canonicalPath parts.path,
        canonicalQuery U parts.query, []⟩ uses other
    · rintro rfl
      rfl
  rw [canonicalizeUrl, if_neg some, written, urlsplit_urlunsplit U uses again]
  dsimp only
  by_cases brackets :
      checkBrackets (canonicalNetloc standard (hostLower U parts.netloc) number)
  · rw [if_pos ⟨brackets, netloc⟩, Option.bind_some]
    dsimp only
    rw [U.lower_uses uses, known]
    dsimp only
    rw [canonicalPath_rooted, canonicalQuery_canonicalQuery, Option.map_eq_some_iff]
    constructor
    · rintro ⟨found, read, same⟩
      exact ⟨brackets, found, read, (rebuilt _).mp same⟩
    · rintro ⟨-, found, read, same⟩
      exact ⟨found, read, (rebuilt _).mpr same⟩
  · rw [if_neg fun h => brackets h.1, Option.bind_none]
    constructor
    · intro h
      exact absurd h (Option.some_ne_none _).symm
    · intro h
      exact absurd h.1 brackets

/-- A URL that stays as it is, or one whose canonical form is stable if its host reads back. -/
theorem canonicalizeUrl_cases {U : UnicodeData} {url canonical : List Char}
    (h : canonicalizeUrl U url = some canonical) :
    (canonical = url ∧ ∀ parts, urlsplit U url = some parts →
      defaultPorts.lookup (U.lower parts.scheme) = none) ∨
    ∃ parts standard number, urlsplit U url = some parts ∧
      defaultPorts.lookup (U.lower parts.scheme) = some standard ∧
      port parts.netloc = some number ∧
      (canonicalizeUrl U canonical = some canonical ↔
        ReadsBack standard (hostLower U parts.netloc) number) := by
  rw [canonicalizeUrl] at h
  split_ifs at h with empty
  · left
    refine ⟨(Option.some.inj h).symm, ?_⟩
    intro parts split
    rw [empty] at split
    rw [urlsplit_nil_scheme split, U.lower_nil]
    rfl
  · rw [Option.bind_eq_some_iff] at h
    refine h.elim fun parts found => ?_
    have spec := urlsplit_spec found.1
    have result := found.2
    dsimp only at result
    cases known : defaultPorts.lookup (U.lower parts.scheme) with
    | none =>
      rw [known] at result
      left
      refine ⟨(Option.some.inj result).symm, ?_⟩
      intro others split
      rw [found.1] at split
      rw [← Option.some.inj split, known]
    | some standard =>
      rw [known] at result
      dsimp only at result
      rw [Option.map_eq_some_iff] at result
      right
      refine result.elim fun number read => ⟨parts, standard, number, found.1, known, read.1, ?_⟩
      rw [canonicalizeUrl_urlunsplit spec.1 spec.2.2 known number read.2.symm]
      apply rereads_iff
      rintro p rfl
      exact port_le read.1

/-- The host of an `http` or `https` URL, in lower case, is one that a second reading finds. -/
def HostReadsBack (U : UnicodeData) (url : List Char) : Prop :=
  ∀ parts standard number, urlsplit U url = some parts →
    defaultPorts.lookup (U.lower parts.scheme) = some standard →
      port parts.netloc = some number → ReadsBack standard (hostLower U parts.netloc) number

theorem hostReadsBack_iff {U : UnicodeData} {url : List Char} {parts : SplitResult}
    {standard : ℕ} {number : Option ℕ} (split : urlsplit U url = some parts)
    (known : defaultPorts.lookup (U.lower parts.scheme) = some standard)
    (read : port parts.netloc = some number) :
    HostReadsBack U url ↔ ReadsBack standard (hostLower U parts.netloc) number := by
  constructor
  · exact fun back => back parts standard number split known read
  · intro back others other again found lookup reread
    rw [split] at found
    rw [← Option.some.inj found] at lookup reread ⊢
    rw [known] at lookup
    rw [read] at reread
    rw [← Option.some.inj lookup, ← Option.some.inj reread]
    exact back

theorem hostReadsBack_of_other_scheme {U : UnicodeData} {url : List Char}
    (other : ∀ parts, urlsplit U url = some parts →
      defaultPorts.lookup (U.lower parts.scheme) = none) : HostReadsBack U url := by
  intro parts standard number split known
  rw [other parts split] at known
  exact absurd known (Option.some_ne_none standard).symm

/-- **Canonical forms of canonical URLs.** A canonical URL is its own canonical form if and only if
its host reads back. -/
theorem canonicalizeUrl_stable_iff (U : UnicodeData) (url canonical : List Char)
    (h : canonicalizeUrl U url = some canonical) :
    canonicalizeUrl U canonical = some canonical ↔ HostReadsBack U url := by
  rcases canonicalizeUrl_cases h with ⟨same, other⟩ |
    ⟨parts, standard, number, split, known, read, stable⟩
  · rw [same] at h ⊢
    exact iff_of_true h (hostReadsBack_of_other_scheme other)
  · rw [stable, hostReadsBack_iff split known read]

theorem canonicalizeUrl_stable_iff_future :
    canonicalizeUrl asciiData "http://u@[v1.a:8080]:80/p/?b=2&a=1".toList =
        some "http://v1.a:8080/p?a=1&b=2".toList ∧
      (canonicalizeUrl asciiData "http://v1.a:8080/p?a=1&b=2".toList =
          some "http://v1.a:8080/p?a=1&b=2".toList ↔
        HostReadsBack asciiData "http://u@[v1.a:8080]:80/p/?b=2&a=1".toList) :=
  ⟨by decide, canonicalizeUrl_stable_iff asciiData _ _ (by decide)⟩

/-- An address of version 6 in brackets is written without them, and is no host any more. -/
theorem address_loses_brackets :
    canonicalizeUrl asciiData "http://[::1]/x".toList = some "http://::1/x".toList ∧
      canonicalizeUrl asciiData "http://::1/x".toList = none := by
  decide

/-- Where the host has no brackets the canonical form is stable: ports, user names, empty paths and
repeated keys make no exception. -/
theorem canonicalizeUrl_stable_of_no_bracket {U : UnicodeData} {url canonical : List Char}
    (h : canonicalizeUrl U url = some canonical)
    (bare : ∀ parts, urlsplit U url = some parts → '[' ∉ parts.netloc) :
    canonicalizeUrl U canonical = some canonical := by
  rcases canonicalizeUrl_cases h with ⟨same, -⟩ | ⟨parts, standard, number, split, -, -, stable⟩
  · rw [same] at h ⊢
    exact h
  · have opening := bare parts split
    have closing : ']' ∉ parts.netloc := by
      have checked := (urlsplit_spec split).2.1
      rw [checkBrackets, if_neg fun both => opening both.1, decide_eq_true_eq] at checked
      exact checked.2
    rw [stable]
    refine ⟨?_, ?_, Or.inl ?_⟩
    · exact fun mem =>
        opening (hostinfo_subset _ _ (hostLower_mark mem (by decide) (by decide))).1
    · exact fun mem =>
        closing (hostinfo_subset _ _ (hostLower_mark mem (by decide) (by decide))).1
    · exact fun mem =>
        colon_not_mem_hostinfo opening (hostLower_mark mem (by decide) (by decide))

/-! ## Keys of rows -/

def canonicalText (U : UnicodeData) (url : String) : Option String :=
  (canonicalizeUrl U url.toList).map String.ofList

/-- The key that `DedupRecord.key` makes of the columns of a row is the key of the row if and only
if the host of the target URL reads back. -/
theorem key_of_columns_iff {U : UnicodeData} {platform targetUrl account : String} {key : DedupKey}
    (made : DedupKey.make (canonicalText U) platform targetUrl account = some key) :
    DedupKey.make (canonicalText U) key.platform key.targetUrl key.account = some key ↔
      HostReadsBack U targetUrl.toList := by
  unfold DedupKey.make canonicalText at made
  rw [Option.map_map, Option.map_eq_some_iff] at made
  refine made.elim fun canonical found => ?_
  have again : DedupKey.make (canonicalText U) key.platform key.targetUrl key.account = some key ↔
      canonicalizeUrl U canonical = some canonical := by
    rw [← found.2]
    unfold DedupKey.make canonicalText
    dsimp only [Function.comp_apply]
    rw [Option.map_map, Option.map_eq_some_iff, String.toList_ofList]
    constructor
    · rintro ⟨twice, read, same⟩
      have text := String.ofList_injective (congrArg DedupKey.targetUrl same)
      rw [read, text]
    · exact fun stable => ⟨canonical, stable, rfl⟩
  rw [again]
  rcases canonicalizeUrl_cases found.1 with ⟨same, other⟩ |
    ⟨parts, standard, number, split, known, read, stable⟩
  · have fixed := found.1
    rw [same] at fixed ⊢
    exact iff_of_true fixed (hostReadsBack_of_other_scheme other)
  · rw [stable, hostReadsBack_iff split known read]

end BacklinkPublisher.CanonicalUrl
