import BacklinkPublisher.CanonicalUrl
import BacklinkPublisher.Groups
import Mathlib.Algebra.Order.Ring.Int

set_option autoImplicit false

/-!
# Reachability

`check_urls` and `check_urls_strict` of `linkcheck/http.py`, whatever a single attempt does.
-/
namespace BacklinkPublisher.Reachability
open CanonicalUrl FormEncoding Groups OrderedDicts UrlSplit

abbrev Url := List Char

/-- An exception, and whether `except Exception` catches it. -/
structure Raised where
  isException : Bool
  text : String
  deriving DecidableEq, Repr

/-- What `_check_url_once` does. -/
inductive Attempt where
  | reachable
  | unreachable (error : Option String)
  | raised (raised : Raised)
  deriving DecidableEq, Repr

abbrev Verdict := Bool × Option String

abbrev Results := List (Url × Verdict)

abbrev Group := Url × List Url

/-- The settings, a single attempt, and the order in which the futures of a batch complete. -/
structure Host where
  U : UnicodeData
  maxConcurrent : ℤ := 10
  maxRetries : ℤ := 2
  retryDelayBase : ℤ := 1
  checkUrlOnce : Url → Attempt
  asCompleted : List Group → List Group
  perm : ∀ futures, (asCompleted futures).Perm futures

/-! ## The checks -/

section Checks
variable (host : Host)

def orUnknown (error : Option String) : String :=
  if error.getD "" = "" then "unknown error" else error.getD ""

/-- `time.sleep` of a negative time. -/
def sleepError : Raised := ⟨true, "sleep length must be non-negative"⟩

/-- The attempts that are left, from the one with an index on. -/
def retryFrom (url : Url) : ℕ → ℕ → String → Except Raised Verdict
  | 0, _, lastError => .ok (false, some lastError)
  | left + 1, attempt, _ =>
    match host.checkUrlOnce url with
    | .raised raised => .error raised
    | .reachable => .ok (true, none)
    | .unreachable error =>
      if (attempt : ℤ) < host.maxRetries ∧ host.retryDelayBase * (attempt + 1) < 0 then
        .error sleepError
      else retryFrom url left (attempt + 1) (orUnknown error)

/-- `_check_url_with_retry`, without the URL that it returns. -/
def checkUrlWithRetry (url : Url) : Except Raised Verdict :=
  retryFrom host url (host.maxRetries + 1).toNat 0 "unknown error"

def dedupKey (url : Url) : Url := (canonicalizeUrl host.U url).getD url

/-- `canonical_to_originals`. -/
def canonicalToOriginals (urls : List Url) : List Group := groups (dedupKey host) urls

/-- The URL of a group that is checked. -/
def representative (group : Group) : Url := group.2.headD []

def record (verdict : Verdict) (results : Results) (group : Group) : Results :=
  group.2.foldl (fun results original => put Prod.fst (original, verdict) results) results

/-- The result of a future. -/
def futureResult (group : Group) : Except Raised Verdict :=
  match checkUrlWithRetry host (representative group) with
  | .ok verdict => .ok verdict
  | .error raised =>
    if raised.isException then .ok (false, some raised.text) else .error raised

/-- The loop over the futures as they complete. -/
def collect : List Group → Results → Except Raised Results
  | [], results => .ok results
  | group :: rest, results =>
    match futureResult host group with
    | .error raised => .error raised
    | .ok verdict => collect rest (record verdict results group)

/-- `ThreadPoolExecutor` without a worker. -/
def workersError : Raised := ⟨true, "max_workers must be greater than 0"⟩

def checkUrls (urls : List Url) : Except Raised Results :=
  match canonicalToOriginals host urls with
  | [] => .ok []
  | [group] =>
    -- no pool, and no `except`
    match checkUrlWithRetry host (representative group) with
    | .error raised => .error raised
    | .ok verdict => .ok (record verdict [] group)
  | futures =>
    let poolSize := min host.maxConcurrent futures.length
    if poolSize ≤ 0 then .error workersError
    else collect host (host.asCompleted futures) []

inductive Strict where
  | returns
  | externalServiceError (text : String)
  | raised (raised : Raised)

def isHttp (url : Url) : Bool :=
  "http://".toList.isPrefixOf url || "https://".toList.isPrefixOf url

def unreachableText (failure : Url × Verdict) : String :=
  "unreachable URL: " ++ String.ofList failure.1 ++
    (if failure.2.2.getD "" = "" then "" else " (" ++ failure.2.2.getD "" ++ ")")

def checkUrlsStrict (urls : List Url) : Strict :=
  match checkUrls host (urls.filter isHttp) with
  | .error raised => .raised raised
  | .ok results =>
    match results.filter fun result => !result.2.1 with
    | [] => .returns
    | failure :: _ => .externalServiceError (unreachableText failure)

end Checks

/-! ## What is asked of a batch -/

section Statement
variable (host : Host) (urls : List Url)

/-- The member of the list that is checked for a URL. -/
def checkedFor (url : Url) : Url :=
  (urls.find? fun member => dedupKey host member = dedupKey host url).getD url

def Reaches (url : Url) : Prop := ∃ error, checkUrlWithRetry host url = .ok (true, error)

/-- The dict of a list, and of each of its members that is alone with its canonical form. -/
structure Agrees (results : Results) : Prop where
  keys : ∀ url, url ∈ results.map Prod.fst ↔ url ∈ urls
  shared : ∀ url ∈ urls, ∀ other ∈ urls, dedupKey host url = dedupKey host other →
    (lookup Prod.fst url results).map Prod.snd = (lookup Prod.fst other results).map Prod.snd
  alone : ∀ url ∈ urls, (∀ other ∈ urls, dedupKey host other = dedupKey host url → other = url) →
    ∃ verdict, checkUrls host [url] = .ok [(url, verdict)] ∧
      lookup Prod.fst url results = some (url, verdict)

structure Sound : Prop where
  batch : ∃ results, checkUrls host urls = .ok results ∧ Agrees host urls results
  strict : (checkUrlsStrict host urls = .returns ∧
      ∀ url ∈ urls.filter isHttp, Reaches host (checkedFor host (urls.filter isHttp) url)) ∨
    ∃ text, checkUrlsStrict host urls = .externalServiceError text ∧
      ∃ url ∈ urls.filter isHttp, ¬ Reaches host (checkedFor host (urls.filter isHttp) url)

/-- The check of the URL ends in an exception. -/
def Raises (url : Url) : Prop := ∃ raised, checkUrlWithRetry host url = .error raised

/-- A single group is checked outside of the pool: no exception may come. In the pool only those
that no `except Exception` catches count, and it has to have a worker. -/
def Completes : Prop :=
  match canonicalToOriginals host urls with
  | [] => True
  | [group] => ¬ Raises host (representative group)
  | futures => 0 < host.maxConcurrent ∧
      ∀ group ∈ futures, ∀ raised,
        checkUrlWithRetry host (representative group) = .error raised → raised.isException = true

structure Covered : Prop where
  batch : Completes host urls
  strict : Completes host (urls.filter isHttp)
  alone : ∀ url ∈ urls, (∀ other ∈ urls, dedupKey host other = dedupKey host url → other = url) →
    ¬ Raises host url

end Statement

/-! ## The groups -/

variable {host : Host} {urls : List Url}

theorem grouped_urls (host : Host) (urls : List Url) :
    Grouped (dedupKey host) urls (canonicalToOriginals host urls) := grouped_groups urls

theorem find_of_mem (host : Host) {url : Url} (member : url ∈ urls) :
    urls.find? (fun other => dedupKey host other = dedupKey host url) =
      some (checkedFor host urls url) := by
  have some_ : (urls.find? fun other => dedupKey host other = dedupKey host url).isSome = true :=
    List.find?_isSome.2 ⟨url, member, decide_eq_true rfl⟩
  have ⟨first, found⟩ := Option.isSome_iff_exists.1 some_
  unfold checkedFor
  rw [found, Option.getD_some]

theorem checkedFor_congr {url other : Url} (member : url ∈ urls) (member' : other ∈ urls)
    (same : dedupKey host url = dedupKey host other) :
    checkedFor host urls url = checkedFor host urls other := by
  have found := find_of_mem host member
  rw [same, find_of_mem host member'] at found
  exact (Option.some.inj found).symm

theorem checkedFor_alone {url : Url} (member : url ∈ urls)
    (alone : ∀ other ∈ urls, dedupKey host other = dedupKey host url → other = url) :
    checkedFor host urls url = url := by
  have found := find_of_mem host member
  have key := List.find?_some found
  exact alone _ (List.mem_of_find?_eq_some found) (of_decide_eq_true key)

/-- The first URL of a group is the one that is checked for all of them. -/
theorem representative_eq {group : Group} (among : group ∈ canonicalToOriginals host urls)
    {url : Url} (member : url ∈ group.2) :
    url ∈ urls ∧ representative group = checkedFor host urls url := by
  have members := (grouped_urls host urls).members group among
  rw [members] at member
  have ⟨inUrls, key⟩ := List.mem_filter.1 member
  rw [decide_eq_true_eq] at key
  refine ⟨inUrls, ?_⟩
  unfold representative checkedFor
  rw [members, List.headD_eq_head?_getD, List.head?_filter, ← key]
  have found := find_of_mem host inUrls
  rw [found]
  rfl

theorem exists_group (host : Host) {url : Url} (member : url ∈ urls) :
    ∃ group ∈ canonicalToOriginals host urls, url ∈ group.2 := by
  have grouped := grouped_urls host urls
  have ⟨group, among, key⟩ := List.mem_map.1 (grouped.reached url member)
  refine ⟨group, among, ?_⟩
  rw [grouped.members group among]
  exact List.mem_filter.2 ⟨member, decide_eq_true key.symm⟩

/-! ## The verdicts -/

/-- The verdict of a check in the pool. -/
def verdictFor (host : Host) (url : Url) : Verdict :=
  match checkUrlWithRetry host url with
  | .ok verdict => verdict
  | .error raised => (false, some raised.text)

theorem reaches_iff {url : Url} : Reaches host url ↔ (verdictFor host url).1 = true := by
  unfold Reaches verdictFor
  cases checkUrlWithRetry host url with
  | error raised =>
    refine iff_of_false ?_ Bool.false_ne_true
    rintro ⟨error, same⟩
    cases same
  | ok verdict =>
    have ⟨reachable, error⟩ := verdict
    constructor
    · rintro ⟨error', same⟩
      cases same
      rfl
    · intro same
      dsimp only at same
      rw [same]
      exact ⟨error, rfl⟩

/-- The dict has the verdict of the URL that is checked, for every URL of the list. -/
structure Filled (host : Host) (urls : List Url) (results : Results) : Prop where
  nodup : (results.map Prod.fst).Nodup
  keys : ∀ url, url ∈ results.map Prod.fst ↔ url ∈ urls
  verdicts : ∀ url ∈ urls, lookup Prod.fst url results =
    some (url, verdictFor host (checkedFor host urls url))

def entriesOf (host : Host) (groups : List Group) : Results :=
  groups.flatMap fun group => group.2.map fun url =>
    (url, verdictFor host (representative group))

theorem filled_entries {groups : List Group}
    (perm : groups.Perm (canonicalToOriginals host urls)) :
    Filled host urls
      ((entriesOf host groups).foldl (fun held entry => put Prod.fst entry held) []) := by
  have entry : ∀ e ∈ entriesOf host groups, e.1 ∈ urls ∧
      e.2 = verdictFor host (checkedFor host urls e.1) := by
    intro e member
    have ⟨group, among, inside⟩ := List.mem_flatMap.1 member
    have ⟨url, here, same⟩ := List.mem_map.1 inside
    have ⟨inUrls, representative⟩ := representative_eq (perm.mem_iff.1 among) here
    rw [← same, representative]
    exact ⟨inUrls, rfl⟩
  have there : ∀ url ∈ urls, url ∈ (entriesOf host groups).map Prod.fst := by
    intro url member
    have ⟨group, among, inside⟩ := exists_group host member
    refine List.mem_map.2 ⟨(url, verdictFor host (representative group)), ?_, rfl⟩
    exact List.mem_flatMap.2 ⟨group, perm.mem_iff.2 among, List.mem_map_of_mem inside⟩
  refine ⟨nodup_keys_foldl_put List.nodup_nil, fun url => ?_, fun url member => ?_⟩
  · rw [mem_keys_foldl_put, List.map_nil, or_iff_left List.not_mem_nil]
    refine ⟨fun held => ?_, there url⟩
    have ⟨e, member, same⟩ := List.mem_map.1 held
    exact same ▸ (entry e member).1
  · refine lookup_foldl_put_of_unique (there url member) fun e among same => ?_
    rw [(entry e among).2, same]

/-! ## What the batch does -/

theorem foldl_record (results : Results) (groups : List Group) :
    groups.foldl (fun results group =>
        record (verdictFor host (representative group)) results group) results =
      (entriesOf host groups).foldl (fun held entry => put Prod.fst entry held) results := by
  unfold entriesOf record
  rw [List.foldl_flatMap]
  simp only [List.foldl_map]

/-- The pool fills in every verdict, if every exception is caught. -/
theorem collect_iff (groups : List Group) (results : Results) :
    ((∃ filled, collect host groups results = .ok filled) ↔
      ∀ group ∈ groups, ∀ raised,
        checkUrlWithRetry host (representative group) = .error raised →
          raised.isException = true) ∧
    ∀ filled, collect host groups results = .ok filled → filled =
      groups.foldl (fun results group =>
        record (verdictFor host (representative group)) results group) results := by
  induction groups generalizing results with
  | nil =>
    refine ⟨iff_of_true ⟨results, rfl⟩ fun group among => absurd among List.not_mem_nil, ?_⟩
    intro filled same
    cases same
    rfl
  | cons group groups ih =>
    unfold collect futureResult
    rw [List.forall_mem_cons, List.foldl_cons]
    cases checked : checkUrlWithRetry host (representative group) with
    | ok verdict =>
      have own : verdictFor host (representative group) = verdict := by
        unfold verdictFor
        rw [checked]
      dsimp only
      have ⟨returns, made⟩ := ih (record verdict results group)
      rw [own]
      refine ⟨returns.trans (and_iff_right ?_).symm, made⟩
      intro raised other
      cases other
    | error raised =>
      have own : verdictFor host (representative group) = (false, some raised.text) := by
        unfold verdictFor
        rw [checked]
      dsimp only
      rw [own]
      by_cases caught : raised.isException = true
      · rw [if_pos caught]
        have ⟨returns, made⟩ := ih (record (false, some raised.text) results group)
        refine ⟨returns.trans (and_iff_right ?_).symm, made⟩
        intro other same
        cases same
        exact caught
      · rw [if_neg caught]
        refine ⟨iff_of_false ?_ fun all => caught (all.1 raised rfl), ?_⟩
        · rintro ⟨filled, same⟩
          cases same
        · intro filled same
          cases same

theorem foldl_record_one (group : Group) :
    record (verdictFor host (representative group)) [] group =
      (entriesOf host [group]).foldl (fun held entry => put Prod.fst entry held) [] :=
  foldl_record [] [group]

/-- The batch returns exactly if it completes, and then its dict is filled. -/
theorem checkUrls_iff (host : Host) (urls : List Url) :
    ((∃ results, checkUrls host urls = .ok results) ↔ Completes host urls) ∧
      ∀ results, checkUrls host urls = .ok results → Filled host urls results := by
  have fills := fun groups => @filled_entries host urls groups
  unfold checkUrls Completes
  generalize canonicalToOriginals host urls = futures at fills ⊢
  match futures with
  | [] =>
    refine ⟨iff_of_true ⟨[], rfl⟩ trivial, fun results same => ?_⟩
    cases same
    exact fills [] .nil
  | [group] =>
    dsimp only
    unfold Raises
    cases checked : checkUrlWithRetry host (representative group) with
    | error raised =>
      refine ⟨iff_of_false ?_ (not_not.2 ⟨raised, rfl⟩), fun results same => ?_⟩
      · rintro ⟨results, same⟩
        cases same
      · cases same
    | ok verdict =>
      have own : verdictFor host (representative group) = verdict := by
        unfold verdictFor
        rw [checked]
      refine ⟨iff_of_true ⟨_, rfl⟩ ?_, fun results same => ?_⟩
      · rintro ⟨raised, other⟩
        cases other
      · cases same
        rw [← own, foldl_record_one]
        exact fills [group] (.refl _)
  | group :: other :: rest =>
    dsimp only
    have longer : (0 : ℤ) < (group :: other :: rest).length := by
      rw [List.length_cons]
      omega
    have perm := host.perm (group :: other :: rest)
    have ⟨returns, made⟩ := @collect_iff host (host.asCompleted (group :: other :: rest)) []
    by_cases workers : 0 < host.maxConcurrent
    · rw [if_neg (not_le.2 (lt_min workers longer)), and_iff_right workers]
      refine ⟨returns.trans ?_, fun results same => ?_⟩
      · exact forall_congr' fun group => imp_congr_left perm.mem_iff
      · rw [made results same, foldl_record]
        exact fills _ perm
    · rw [if_pos (min_le_of_left_le (not_lt.1 workers))]
      refine ⟨iff_of_false ?_ fun completes => workers completes.1, fun results same => ?_⟩
      · rintro ⟨results, same⟩
        cases same
      · cases same

/-! ## A URL by itself -/

theorem canonicalToOriginals_singleton (url : Url) :
    canonicalToOriginals host [url] = [(dedupKey host url, [url])] := by
  unfold canonicalToOriginals groups addTo ensure adjust
  rw [List.foldl_cons, List.foldl_nil, List.map_nil, if_neg List.not_mem_nil]
  simp

theorem checkUrls_singleton (url : Url) :
    checkUrls host [url] =
      match checkUrlWithRetry host url with
      | .error raised => .error raised
      | .ok verdict => .ok [(url, verdict)] := by
  unfold checkUrls
  rw [canonicalToOriginals_singleton]
  rfl

theorem agrees_iff {results : Results} (filled : Filled host urls results) :
    Agrees host urls results ↔
      ∀ url ∈ urls, (∀ other ∈ urls, dedupKey host other = dedupKey host url → other = url) →
        ¬ Raises host url := by
  constructor
  · rintro agrees url member alone ⟨raised, raises⟩
    have ⟨verdict, single, _⟩ := agrees.alone url member alone
    rw [checkUrls_singleton, raises] at single
    cases single
  · intro quiet
    refine ⟨filled.keys, fun url member other member' same => ?_, fun url member alone => ?_⟩
    · rw [filled.verdicts url member, filled.verdicts other member',
        checkedFor_congr member member' same]
      rfl
    · rw [filled.verdicts url member, checkedFor_alone member alone, checkUrls_singleton]
      unfold verdictFor
      cases checked : checkUrlWithRetry host url with
      | error raised => exact absurd ⟨raised, checked⟩ (quiet url member alone)
      | ok verdict => exact ⟨verdict, rfl, rfl⟩

/-! ## The strict check -/

theorem strict_of_filled {results : Results} (filled : Filled host urls results) :
    (results.filter (fun result => !result.2.1) = [] ∧
      ∀ url ∈ urls, Reaches host (checkedFor host urls url)) ∨
    ∃ failure rest, results.filter (fun result => !result.2.1) = failure :: rest ∧
      ∃ url ∈ urls, ¬ Reaches host (checkedFor host urls url) := by
  cases failures : results.filter fun result => !result.2.1 with
  | nil =>
    refine .inl ⟨rfl, fun url member => ?_⟩
    have found := filled.verdicts url member
    have held := List.mem_of_find?_eq_some found
    have fine := List.filter_eq_nil_iff.1 failures _ held
    rw [reaches_iff]
    simpa using fine
  | cons failure rest =>
    refine .inr ⟨failure, rest, rfl, failure.1, ?_, ?_⟩
    · have held := (List.mem_filter.1 (failures ▸ List.mem_cons_self)).1
      exact (filled.keys _).1 (List.mem_map_of_mem held)
    · have ⟨held, failed⟩ := List.mem_filter.1 (failures ▸ List.mem_cons_self)
      have found := filled.verdicts failure.1 ((filled.keys _).1 (List.mem_map_of_mem held))
      rw [lookup_of_mem filled.nodup held] at found
      have verdict : failure.2 = verdictFor host (checkedFor host urls failure.1) :=
        congrArg Prod.snd (Option.some.inj found)
      rw [reaches_iff, ← verdict]
      simpa using failed

/-- **Reachability.** A batch agrees with its single URLs exactly if neither a list that has one
canonical form only, nor a URL that is alone with its form, comes to an exception in its check, and
the pool has a worker and meets no exception that it does not catch. -/
theorem reachability_sound_iff (host : Host) (urls : List Url) :
    Sound host urls ↔ Covered host urls := by
  have ⟨returns, filled⟩ := checkUrls_iff host urls
  have ⟨returnsHttp, filledHttp⟩ := checkUrls_iff host (urls.filter isHttp)
  constructor
  · intro sound
    have ⟨results, made, agrees⟩ := sound.batch
    refine ⟨returns.1 ⟨results, made⟩, returnsHttp.1 ?_,
      (agrees_iff (filled results made)).1 agrees⟩
    have strict := sound.strict
    unfold checkUrlsStrict at strict
    cases http : checkUrls host (urls.filter isHttp) with
    | ok results => exact ⟨results, rfl⟩
    | error raised =>
      rw [http] at strict
      obtain ⟨same, _⟩ | ⟨text, same, _⟩ := strict
      · cases same
      · cases same
  · intro covered
    have ⟨results, made⟩ := returns.2 covered.batch
    have ⟨httpResults, madeHttp⟩ := returnsHttp.2 covered.strict
    refine ⟨⟨results, made, (agrees_iff (filled results made)).2 covered.alone⟩, ?_⟩
    unfold checkUrlsStrict
    rw [madeHttp]
    dsimp only
    obtain ⟨none_, reaches⟩ | ⟨failure, rest, some_, unreachable⟩ :=
      strict_of_filled (filledHttp httpResults madeHttp)
    · rw [none_]
      exact .inl ⟨rfl, reaches⟩
    · rw [some_]
      exact .inr ⟨_, rfl, unreachable⟩

/-- A server whose answers have a status line that `http.client` does not read. -/
def badStatusLine : Host where
  U := asciiData
  checkUrlOnce url :=
    if url = "http://a.com".toList then .raised ⟨true, "BadStatusLine"⟩ else .reachable
  asCompleted futures := futures
  perm _ := .refl _

theorem single_url_raises :
    ¬ Sound badStatusLine ["http://a.com".toList] ∧
      checkUrls badStatusLine ["http://a.com".toList] = .error ⟨true, "BadStatusLine"⟩ ∧
      checkUrls badStatusLine ["http://a.com".toList, "http://b.com".toList] =
        .ok [("http://a.com".toList, false, some "BadStatusLine"),
          ("http://b.com".toList, true, none)] := by
  have raised : checkUrls badStatusLine ["http://a.com".toList] =
      .error ⟨true, "BadStatusLine"⟩ := by decide +kernel
  refine ⟨fun sound => ?_, raised, by decide +kernel⟩
  have ⟨results, made, _⟩ := sound.batch
  rw [raised] at made
  cases made

end BacklinkPublisher.Reachability
