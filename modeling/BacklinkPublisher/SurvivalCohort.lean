import BacklinkPublisher.DiscountMap
import BacklinkPublisher.FailedSaves
import BacklinkPublisher.SortedLists
import Mathlib.Data.List.Dedup
import Mathlib.Data.String.Basic

set_option autoImplicit false

/-!
# The survival of links

`compute_survival` of `events/survival_query.py`: the links that were published long enough ago, and
those of them whose latest definitive recheck found them alive. The rate is a rational number.
-/
namespace BacklinkPublisher.SurvivalCohort
open DiscountMap (isCompound)
open EventPayloads EventStore LatestVerdicts OrderedDicts SortedLists

structure CohortEvent where
  id : ℕ
  tsUtc : String
  kind : String
  host : Option String := none
  articleId : Option ℤ := none
  payloadJson : String
  deriving DecidableEq, Repr

def kindConfirmed : String := "publish.confirmed"
def kindRechecked : String := "link.rechecked"
def excludedHosts : List String := ["example.com"]
def maturityDays : ℤ := 30
def minCohortN : ℕ := 2
def indeterminate : List Value := [probeError]

/-- The recheck of an article. -/
structure Recheck where
  id : ℕ
  articleId : ℤ
  payloadJson : String
  deriving DecidableEq, Repr

/-! ## The two queries -/

def isConfirmed (event : CohortEvent) : Bool :=
  event.kind = kindConfirmed && event.articleId.isSome &&
    event.host.all fun host => !excludedHosts.contains host

def confirmedArticles (events : List CohortEvent) : List ℤ :=
  ((events.filter isConfirmed).filterMap CohortEvent.articleId).dedup

/-- `MIN(ts_utc)` of the confirmed events of an article. -/
def publishTs (events : List CohortEvent) (articleId : ℤ) : Option String :=
  ((events.filter fun event =>
    isConfirmed event && decide (event.articleId = some articleId)).map CohortEvent.tsUtc).min?

def recheckOf (event : CohortEvent) : Option Recheck :=
  if event.kind = kindRechecked then
    event.articleId.map fun articleId => ⟨event.id, articleId, event.payloadJson⟩
  else none

def recheckRows (events : List CohortEvent) : List Recheck :=
  sortedBy Recheck.id (events.filterMap recheckOf)

/-! ## The index of rechecks -/

inductive SurvivalError where
  | payload (error : PayloadError)
  | unhashable
  deriving DecidableEq, Repr

structure RecheckIndex where
  anyRecheck : List ℤ := []
  definitive : List (ℤ × Value) := []
  deriving DecidableEq, Repr

section Reading
variable (R : Readers)

def RecheckIndex.read (index : RecheckIndex) (recheck : Recheck) (verdict : Value) :
    RecheckIndex where
  anyRecheck := index.anyRecheck.insert recheck.articleId
  definitive :=
    if verdict ∈ indeterminate then index.definitive
    else put Prod.fst (recheck.articleId, verdict) index.definitive

/-- A verdict that cannot be hashed cannot be looked for in a set. -/
def indexFrom (index : RecheckIndex) : List Recheck → Except SurvivalError RecheckIndex
  | [] => .ok index
  | recheck :: rest =>
    match payloadOf R.loads (some recheck.payloadJson) with
    | .error error => .error (.payload error)
    | .ok payload =>
      if isCompound (field payload "verdict") then .error .unhashable
      else indexFrom (index.read recheck (field payload "verdict")) rest

/-! ## The cohort -/

def parsePublish (ts : String) : Option ℚ :=
  if ts = "" then none else (R.fromIso ts).map IsoTime.utc

/-- The age in whole days. -/
def ageDays (now publishTs : ℚ) : ℤ := ⌊(now - publishTs) / 86400⌋

/-- The articles whose time of publication can be read, with their ages. -/
def ages (events : List CohortEvent) (now : ℚ) : List (ℤ × ℤ) :=
  (confirmedArticles events).filterMap fun articleId =>
    ((publishTs events articleId).bind (parsePublish R)).map fun ts => (articleId, ageDays now ts)

def mature (events : List CohortEvent) (now : ℚ) : List (ℤ × ℤ) :=
  (ages R events now).filter fun aged => maturityDays ≤ aged.2

structure Survival where
  state : String
  survivalRate : Option ℚ := none
  sampleSize : ℕ := 0
  survived : ℕ := 0
  matureCount : ℕ := 0
  maturingCount : ℕ
  stale : Bool := false
  staleCount : ℕ := 0
  partialCohort : Bool := false
  staleDays : Option ℤ := none
  deriving DecidableEq, Repr

/-- The three results for a cohort, by which articles have been rechecked and which are alive. -/
def summarize (mature : List (ℤ × ℤ)) (maturingCount : ℕ) (rechecked survives : ℤ → Bool) :
    Survival :=
  if mature.length = 0 then { state := "empty", maturingCount := maturingCount }
  else
    let sample := mature.filter fun aged => rechecked aged.1
    let stale := mature.filter fun aged => !rechecked aged.1
    let survived := sample.countP fun aged => survives aged.1
    let counted : Survival :=
      { state := "insufficient"
        sampleSize := sample.length
        survived := survived
        matureCount := mature.length
        maturingCount := maturingCount
        stale := 0 < stale.length
        staleCount := stale.length
        partialCohort := 0 < stale.length
        staleDays := (stale.map Prod.snd).max? }
    if sample.length < minCohortN then counted
    else
      { counted with
        state := "ok"
        survivalRate := some (FailedSaves.round4 (survived / sample.length)) }

def computeSurvival (events : List CohortEvent) (now : ℚ) : Except SurvivalError Survival :=
  (indexFrom R {} (recheckRows events)).map fun index =>
    summarize (mature R events now)
      ((ages R events now).countP fun aged => aged.2 < maturityDays)
      (fun articleId => index.anyRecheck.contains articleId)
      (fun articleId => (lookup Prod.fst articleId index.definitive).any fun held =>
        held.2 = alive)

end Reading

/-! ## What the index holds -/

section Index
variable {R : Readers} {rechecks : List Recheck} {articleId : ℤ}

/-- A payload without a verdict, and one that cannot be read, has the verdict `null`. -/
def verdictIn (R : Readers) (recheck : Recheck) : Value :=
  field (readPayload R.loads (some recheck.payloadJson)) "verdict"

/-- No recheck raises. -/
def Legible (R : Readers) (rechecks : List Recheck) : Prop :=
  ∀ recheck ∈ rechecks, Readable R.loads (some recheck.payloadJson) ∧
    isCompound (verdictIn R recheck) = false

def indexed (R : Readers) (index : RecheckIndex) (rechecks : List Recheck) : RecheckIndex :=
  rechecks.foldl (fun index recheck => index.read recheck (verdictIn R recheck)) index

theorem indexFrom_legible (legible : Legible R rechecks) (index : RecheckIndex) :
    indexFrom R index rechecks = .ok (indexed R index rechecks) := by
  induction rechecks generalizing index with
  | nil => rfl
  | cons recheck rest ih =>
    have ⟨⟨readable, plain⟩, later⟩ := List.forall_mem_cons.1 legible
    rw [indexFrom, payloadOf_of_readable readable]
    change (if isCompound (verdictIn R recheck) then _ else _) = _
    rw [plain, if_neg Bool.false_ne_true]
    exact ih later _

theorem legible_of_indexFrom {index final : RecheckIndex}
    (made : indexFrom R index rechecks = .ok final) : Legible R rechecks := by
  induction rechecks generalizing index with
  | nil => exact fun _ h => absurd h List.not_mem_nil
  | cons recheck rest ih =>
    rw [indexFrom] at made
    cases read : payloadOf R.loads (some recheck.payloadJson) with
    | error error =>
      rw [read] at made
      cases made
    | ok payload =>
      rw [read] at made
      dsimp only at made
      have readable := readable_of_payloadOf read
      have same : payload = readPayload R.loads (some recheck.payloadJson) := by
        rw [payloadOf_of_readable readable] at read
        exact (Except.ok.inj read).symm
      cases plain : isCompound (field payload "verdict") with
      | true =>
        rw [plain, if_pos rfl] at made
        cases made
      | false =>
        rw [plain, if_neg Bool.false_ne_true] at made
        refine List.forall_mem_cons.2 ⟨⟨readable, ?_⟩, ih made⟩
        unfold verdictIn
        rw [← same]
        exact plain

theorem mem_anyRecheck (index : RecheckIndex) :
    articleId ∈ (indexed R index rechecks).anyRecheck ↔
      articleId ∈ index.anyRecheck ∨ ∃ recheck ∈ rechecks, recheck.articleId = articleId := by
  unfold indexed
  induction rechecks generalizing index with
  | nil => simp
  | cons recheck rest ih =>
    rw [List.foldl_cons, ih]
    unfold RecheckIndex.read
    rw [List.mem_insert_iff, List.exists_mem_cons_iff]
    constructor
    · rintro ((rfl | held) | later)
      · exact Or.inr (Or.inl rfl)
      · exact Or.inl held
      · exact Or.inr (Or.inr later)
    · rintro (held | rfl | later)
      · exact Or.inl (Or.inr held)
      · exact Or.inl (Or.inl rfl)
      · exact Or.inr later

/-- A recheck that found the link alive, and none with a verdict that counts is later. -/
def AliveAmong (R : Readers) (counts : Value → Bool) (rechecks : List Recheck) (articleId : ℤ) :
    Prop :=
  ∃ recheck ∈ rechecks, (recheck.articleId = articleId ∧ verdictIn R recheck = alive) ∧
    ∀ other ∈ rechecks, other.articleId = articleId → counts (verdictIn R other) = true →
      other.id ≤ recheck.id

instance (counts : Value → Bool) : Decidable (AliveAmong R counts rechecks articleId) := by
  unfold AliveAmong
  infer_instance

def keepsVerdict (verdict : Value) : Bool := !decide (verdict ∈ indeterminate)

def heldAlive (index : RecheckIndex) (articleId : ℤ) : Bool :=
  (lookup Prod.fst articleId index.definitive).any fun held => held.2 = alive

theorem heldAlive_read (index : RecheckIndex) (recheck : Recheck) (verdict : Value) :
    heldAlive (index.read recheck verdict) articleId =
      if recheck.articleId = articleId ∧ keepsVerdict verdict = true then decide (verdict = alive)
      else heldAlive index articleId := by
  unfold heldAlive RecheckIndex.read keepsVerdict
  by_cases quiet : verdict ∈ indeterminate
  · rw [if_pos quiet, decide_eq_true quiet, if_neg]
    exact fun both => Bool.false_ne_true both.2
  · rw [if_neg quiet, decide_eq_false quiet, lookup_put]
    by_cases own : recheck.articleId = articleId
    · rw [if_pos own, if_pos ⟨own, rfl⟩]
      rfl
    · rw [if_neg own, if_neg fun both => own both.1]

/-- A recheck of another article, or with a verdict that does not count, changes nothing. -/
theorem aliveAmong_add {counts : Value → Bool} {added : Recheck} {all : List Recheck}
    (mem : ∀ recheck, recheck ∈ all ↔ recheck = added ∨ recheck ∈ rechecks)
    (quiet : added.articleId = articleId →
      counts (verdictIn R added) = false ∧ verdictIn R added ≠ alive) :
    AliveAmong R counts all articleId ↔ AliveAmong R counts rechecks articleId := by
  unfold AliveAmong
  constructor
  · rintro ⟨recheck, h, ⟨own, found⟩, latest⟩
    rcases (mem recheck).1 h with rfl | before
    · exact absurd found (quiet own).2
    · refine ⟨recheck, before, ⟨own, found⟩, fun other hother => ?_⟩
      exact latest other ((mem other).2 (Or.inr hother))
  · rintro ⟨recheck, h, found, latest⟩
    refine ⟨recheck, (mem recheck).2 (Or.inr h), found, fun other hother own counted => ?_⟩
    rcases (mem other).1 hother with rfl | before
    · rw [(quiet own).1] at counted
      cases counted
    · exact latest other before own counted

theorem aliveAmong_last {counts : Value → Bool} {last : Recheck}
    (later : ∀ recheck ∈ rechecks, recheck.id < last.id) (own : last.articleId = articleId)
    (counted : counts (verdictIn R last) = true) :
    AliveAmong R counts (rechecks ++ [last]) articleId ↔ verdictIn R last = alive := by
  have here : last ∈ rechecks ++ [last] := List.mem_append_right _ List.mem_cons_self
  constructor
  · rintro ⟨recheck, h, ⟨_, found⟩, latest⟩
    rcases List.mem_append.1 h with before | now
    · have le := latest last here own counted
      have lt := later recheck before
      omega
    · rw [← List.mem_singleton.1 now]
      exact found
  · intro found
    refine ⟨last, here, ⟨own, found⟩, fun other hother _ _ => ?_⟩
    rcases List.mem_append.1 hother with before | now
    · exact le_of_lt (later other before)
    · rw [List.mem_singleton.1 now]

/-- The index holds `alive` where no later recheck but a failed probe is. -/
theorem heldAlive_iff (sorted : rechecks.Pairwise fun a b => a.id < b.id) :
    heldAlive (indexed R {} rechecks) articleId = true ↔
      AliveAmong R keepsVerdict rechecks articleId := by
  unfold indexed
  induction rechecks using List.reverseRecOn with
  | nil => exact iff_of_false Bool.false_ne_true fun ⟨_, h, _⟩ => absurd h List.not_mem_nil
  | append_singleton before last ih =>
    have ⟨earlier, _, later⟩ := List.pairwise_append.1 sorted
    rw [List.foldl_append, List.foldl_cons, List.foldl_nil, heldAlive_read]
    split_ifs with both
    · rw [decide_eq_true_iff]
      refine (aliveAmong_last (fun recheck h => ?_) both.1 both.2).symm
      exact later recheck h last List.mem_cons_self
    · rw [ih earlier]
      have mem : ∀ recheck, recheck ∈ before ++ [last] ↔ recheck = last ∨ recheck ∈ before := by
        intro recheck
        rw [List.mem_append, List.mem_singleton, or_comm]
      refine (aliveAmong_add mem fun own => ?_).symm
      have quiet : keepsVerdict (verdictIn R last) = false := by
        rw [← Bool.not_eq_true]
        exact fun counted => both ⟨own, counted⟩
      refine ⟨quiet, fun found => ?_⟩
      rw [found] at quiet
      exact absurd quiet (by decide)

end Index

/-! ## The result -/

section Result
variable {R : Readers} {events : List CohortEvent} {now : ℚ}

def rechecks (events : List CohortEvent) : List Recheck := events.filterMap recheckOf

def wasRechecked (events : List CohortEvent) (articleId : ℤ) : Prop :=
  ∃ recheck ∈ rechecks events, recheck.articleId = articleId

instance (articleId : ℤ) : Decidable (wasRechecked events articleId) := by
  unfold wasRechecked
  infer_instance

/-- The result for rechecks that do not raise. -/
def summary (R : Readers) (events : List CohortEvent) (now : ℚ) : Survival :=
  summarize (mature R events now) ((ages R events now).countP fun aged => aged.2 < maturityDays)
    (fun articleId => decide (wasRechecked events articleId))
    fun articleId => decide (AliveAmong R keepsVerdict (rechecks events) articleId)

theorem recheckOf_id {event : CohortEvent} {recheck : Recheck}
    (made : recheckOf event = some recheck) : recheck.id = event.id := by
  unfold recheckOf at made
  split_ifs at made
  have ⟨articleId, _, made⟩ := Option.map_eq_some_iff.1 made
  rw [← made]

theorem recheck_ids (ids : (events.map CohortEvent.id).Nodup) :
    DistinctKeys Recheck.id (rechecks events) :=
  DistinctKeys.filterMap ids fun _ _ made => recheckOf_id made

theorem aliveAmong_congr {counts : Value → Bool} {rs rs' : List Recheck}
    (mem : ∀ recheck, recheck ∈ rs ↔ recheck ∈ rs') (articleId : ℤ) :
    AliveAmong R counts rs articleId ↔ AliveAmong R counts rs' articleId := by
  unfold AliveAmong
  simp only [mem]

theorem computeSurvival_legible (ids : (events.map CohortEvent.id).Nodup)
    (legible : Legible R (rechecks events)) :
    computeSurvival R events now = .ok (summary R events now) := by
  have mem : ∀ recheck, recheck ∈ recheckRows events ↔ recheck ∈ rechecks events :=
    fun recheck => mem_sortedBy Recheck.id
  have legible' : Legible R (recheckRows events) :=
    fun recheck h => legible recheck ((mem recheck).1 h)
  have sorted : (recheckRows events).Pairwise fun a b => a.id < b.id :=
    sorted_strict (recheck_ids ids)
  unfold computeSurvival summary
  rw [indexFrom_legible legible']
  change Except.ok (summarize _ _ _ _) = _
  congr 2
  · funext articleId
    rw [Bool.eq_iff_iff, List.contains_iff_mem, mem_anyRecheck, decide_eq_true_iff]
    unfold wasRechecked
    simp only [mem]
    exact or_iff_right List.not_mem_nil
  · funext articleId
    rw [Bool.eq_iff_iff, decide_eq_true_iff, ← aliveAmong_congr mem, ← heldAlive_iff sorted]
    rfl

theorem legible_of_computeSurvival {result : Survival}
    (made : computeSurvival R events now = .ok result) : Legible R (rechecks events) := by
  unfold computeSurvival at made
  cases read : indexFrom R {} (recheckRows events) with
  | error error =>
    rw [read] at made
    cases made
  | ok index =>
    intro recheck h
    exact legible_of_indexFrom read recheck ((mem_sortedBy Recheck.id).2 h)

/-! ## The numbers -/

theorem summarize_survived (mature : List (ℤ × ℤ)) (maturingCount : ℕ)
    (rechecked survives : ℤ → Bool) :
    (summarize mature maturingCount rechecked survives).survived =
      mature.countP fun aged => survives aged.1 && rechecked aged.1 := by
  unfold summarize
  by_cases empty : mature.length = 0
  · rw [if_pos empty, List.length_eq_zero_iff.1 empty]
    rfl
  · rw [if_neg empty, ← List.countP_filter]
    dsimp only
    split_ifs <;> rfl

theorem summarize_counts (mature : List (ℤ × ℤ)) (maturingCount : ℕ)
    (rechecked survives : ℤ → Bool) :
    let result := summarize mature maturingCount rechecked survives
    result.matureCount = mature.length ∧ result.maturingCount = maturingCount ∧
      result.matureCount = result.sampleSize + result.staleCount := by
  have parts := List.length_eq_length_filter_add (l := mature) fun aged => rechecked aged.1
  dsimp only
  unfold summarize
  by_cases empty : mature.length = 0
  · rw [if_pos empty]
    exact ⟨empty.symm, rfl, rfl⟩
  · rw [if_neg empty]
    dsimp only
    split_ifs
    · exact ⟨rfl, rfl, parts⟩
    · exact ⟨rfl, rfl, parts⟩

theorem summarize_congr {mature : List (ℤ × ℤ)} {maturingCount : ℕ}
    {rechecked rechecked' survives survives' : ℤ → Bool}
    (samples : ∀ aged ∈ mature, rechecked aged.1 = rechecked' aged.1)
    (alive_ : ∀ aged ∈ mature, survives aged.1 = survives' aged.1) :
    summarize mature maturingCount rechecked survives =
      summarize mature maturingCount rechecked' survives' := by
  have sample : (mature.filter fun aged => rechecked aged.1) =
      mature.filter fun aged => rechecked' aged.1 := List.filter_congr samples
  have stale : (mature.filter fun aged => !rechecked aged.1) =
      mature.filter fun aged => !rechecked' aged.1 :=
    List.filter_congr fun aged h => congrArg Bool.not (samples aged h)
  have survived : (mature.filter fun aged => rechecked' aged.1).countP
        (fun aged => survives aged.1) =
      (mature.filter fun aged => rechecked' aged.1).countP fun aged => survives' aged.1 := by
    apply List.countP_congr
    intro aged h
    rw [alive_ aged (List.mem_filter.1 h).1]
  unfold summarize
  rw [sample, stale]
  dsimp only
  rw [survived]

/-- A count of the stronger of two tests is that of the weaker where no entry passes only this. -/
theorem countP_eq_iff {α : Type} {p q : α → Bool} {xs : List α}
    (weaker : ∀ x ∈ xs, p x = true → q x = true) :
    xs.countP p = xs.countP q ↔ ∀ x ∈ xs, q x = true → p x = true := by
  induction xs with
  | nil => exact iff_of_true rfl fun _ h => absurd h List.not_mem_nil
  | cons x xs ih =>
    rw [List.forall_mem_cons] at weaker ⊢
    have le : xs.countP p ≤ xs.countP q := List.countP_mono_left weaker.2
    rw [← ih weaker.2, List.countP_cons, List.countP_cons]
    by_cases strong : p x = true
    · rw [if_pos strong, if_pos (weaker.1 strong)]
      constructor
      · intro same
        exact ⟨fun _ => strong, by omega⟩
      · intro same
        rw [same.2]
    · rw [if_neg strong]
      by_cases weak : q x = true
      · rw [if_pos weak]
        refine iff_of_false (by omega) fun both => strong (both.1 weak)
      · rw [if_neg weak, Nat.add_zero, Nat.add_zero]
        exact (and_iff_right fun h => absurd h weak).symm

/-! ## What is claimed of the result -/

def verdicts : List Value := probeError :: definitive

/-- A verdict of the taxonomy, other than that of a failed probe. -/
def isDefinitive (verdict : Value) : Bool := verdict ∈ verdicts && verdict ≠ probeError

/-- The mature articles whose latest definitive recheck found them alive. -/
def survivors (R : Readers) (events : List CohortEvent) (now : ℚ) : ℕ :=
  (mature R events now).countP fun aged => AliveAmong R isDefinitive (rechecks events) aged.1

/-- The confirmed articles whose time of publication can be read. -/
def datedArticles (R : Readers) (events : List CohortEvent) : List ℤ :=
  (confirmedArticles events).filter fun articleId =>
    ((publishTs events articleId).bind (parsePublish R)).isSome

/-- A recheck without a definitive verdict of an article that has been rechecked. -/
def AddsNothing (R : Readers) (events : List CohortEvent) (added : CohortEvent) : Prop :=
  ∃ recheck, recheckOf added = some recheck ∧ isDefinitive (verdictIn R recheck) = false ∧
    wasRechecked events recheck.articleId

structure UsesLatestDefinitive (R : Readers) (events : List CohortEvent) (now : ℚ)
    (added : CohortEvent) : Prop where
  returns : ∃ result, computeSurvival R events now = .ok result
  survived : ∀ result, computeSurvival R events now = .ok result →
    result.survived = survivors R events now
  cohort : ∀ result, computeSurvival R events now = .ok result →
    result.matureCount + result.maturingCount = (datedArticles R events).length ∧
      result.matureCount = result.sampleSize + result.staleCount
  unchanged : AddsNothing R events added →
    computeSurvival R (added :: events) now = computeSurvival R events now

/-- After the latest definitive recheck of a mature article, where it found the link alive, there
are only failed probes. -/
def Unclobbered (R : Readers) (events : List CohortEvent) (now : ℚ) : Prop :=
  ∀ aged ∈ mature R events now, ∀ recheck ∈ rechecks events,
    recheck.articleId = aged.1 → verdictIn R recheck = alive →
    (∀ other ∈ rechecks events, other.articleId = aged.1 →
      isDefinitive (verdictIn R other) = true → other.id ≤ recheck.id) →
    ∀ other ∈ rechecks events, other.articleId = aged.1 → recheck.id < other.id →
      verdictIn R other = probeError

/-- All rechecks can be read, and none clobbers. -/
def Settled (R : Readers) (events : List CohortEvent) (now : ℚ) : Prop :=
  Legible R (rechecks events) ∧ Unclobbered R events now

theorem keepsVerdict_of_isDefinitive {verdict : Value} (h : isDefinitive verdict = true) :
    keepsVerdict verdict = true := by
  unfold isDefinitive at h
  rw [Bool.and_eq_true, decide_eq_true_iff, decide_eq_true_iff] at h
  unfold keepsVerdict indeterminate
  rw [Bool.not_eq_true', decide_eq_false_iff_not, List.mem_singleton]
  exact h.2

theorem keepsVerdict_iff {verdict : Value} :
    keepsVerdict verdict = true ↔ verdict ≠ probeError := by
  unfold keepsVerdict indeterminate
  rw [Bool.not_eq_true', decide_eq_false_iff_not, List.mem_singleton]

theorem isDefinitive_alive : isDefinitive alive = true := by decide

/-- What the code finds alive is alive by its latest definitive recheck. -/
theorem aliveAmong_definitive {rs : List Recheck} {articleId : ℤ}
    (found : AliveAmong R keepsVerdict rs articleId) : AliveAmong R isDefinitive rs articleId := by
  have ⟨recheck, h, own, latest⟩ := found
  exact ⟨recheck, h, own, fun other hother mine counted =>
    latest other hother mine (keepsVerdict_of_isDefinitive counted)⟩

theorem unclobbered_iff :
    Unclobbered R events now ↔ ∀ aged ∈ mature R events now,
      AliveAmong R isDefinitive (rechecks events) aged.1 →
        AliveAmong R keepsVerdict (rechecks events) aged.1 := by
  constructor
  · rintro settled aged haged ⟨recheck, h, ⟨own, found⟩, latest⟩
    refine ⟨recheck, h, ⟨own, found⟩, fun other hother mine counted => ?_⟩
    by_contra later
    have probe := settled aged haged recheck h own found latest other hother mine (by omega)
    exact keepsVerdict_iff.1 counted probe
  · intro kept aged haged recheck h own found latest other hother mine later
    by_contra clobbers
    have ⟨last, hlast, ⟨own', found'⟩, greatest⟩ :=
      kept aged haged ⟨recheck, h, ⟨own, found⟩, latest⟩
    have after := greatest other hother mine (keepsVerdict_iff.2 clobbers)
    have before := latest last hlast own' (found' ▸ isDefinitive_alive)
    omega

theorem survived_iff :
    (summary R events now).survived = survivors R events now ↔ Unclobbered R events now := by
  have known : ∀ articleId, AliveAmong R keepsVerdict (rechecks events) articleId →
      wasRechecked events articleId := by
    rintro articleId ⟨recheck, h, ⟨own, _⟩, _⟩
    exact ⟨recheck, h, own⟩
  have kept : (summary R events now).survived = (mature R events now).countP fun aged =>
      AliveAmong R keepsVerdict (rechecks events) aged.1 := by
    unfold summary
    rw [summarize_survived]
    apply List.countP_congr
    intro aged _
    rw [Bool.and_eq_true, decide_eq_true_iff, decide_eq_true_iff]
    exact and_iff_left_of_imp (known aged.1)
  unfold survivors
  rw [kept, unclobbered_iff, countP_eq_iff]
  · simp only [decide_eq_true_iff]
  · intro aged _ found
    rw [decide_eq_true_iff] at found ⊢
    exact aliveAmong_definitive found

/-! ## A recheck that is added -/

section Added
variable {added : CohortEvent} {recheck : Recheck}

theorem isConfirmed_recheck (made : recheckOf added = some recheck) :
    isConfirmed added = false := by
  unfold recheckOf at made
  split_ifs at made with kind
  unfold isConfirmed
  rw [kind]
  rfl

theorem confirmedArticles_added (made : recheckOf added = some recheck) :
    confirmedArticles (added :: events) = confirmedArticles events := by
  unfold confirmedArticles
  rw [List.filter_cons_of_neg (by rw [isConfirmed_recheck made]; exact Bool.false_ne_true)]

theorem publishTs_added (made : recheckOf added = some recheck) (articleId : ℤ) :
    publishTs (added :: events) articleId = publishTs events articleId := by
  unfold publishTs
  rw [List.filter_cons_of_neg (by rw [isConfirmed_recheck made]; exact Bool.false_ne_true)]

theorem ages_added (made : recheckOf added = some recheck) :
    ages R (added :: events) now = ages R events now := by
  unfold ages
  rw [confirmedArticles_added made]
  simp only [publishTs_added made]

theorem mature_added (made : recheckOf added = some recheck) :
    mature R (added :: events) now = mature R events now := by
  unfold mature
  rw [ages_added made]

theorem rechecks_added (made : recheckOf added = some recheck) :
    rechecks (added :: events) = recheck :: rechecks events :=
  List.filterMap_cons_some made

theorem definitive_added (made : recheckOf added = some recheck)
    (vague : isDefinitive (verdictIn R recheck) = false) (articleId : ℤ) :
    AliveAmong R isDefinitive (rechecks (added :: events)) articleId ↔
      AliveAmong R isDefinitive (rechecks events) articleId := by
  have mem : ∀ other, other ∈ rechecks (added :: events) ↔
      other = recheck ∨ other ∈ rechecks events := by
    intro other
    rw [rechecks_added made, List.mem_cons]
  refine aliveAmong_add mem fun _ => ⟨vague, fun found => ?_⟩
  rw [found, isDefinitive_alive] at vague
  cases vague

theorem survivors_added (made : recheckOf added = some recheck)
    (vague : isDefinitive (verdictIn R recheck) = false) :
    survivors R (added :: events) now = survivors R events now := by
  unfold survivors
  rw [mature_added made]
  simp only [definitive_added made vague]

/-- A recheck that adds nothing leaves the result of events that stay settled. -/
theorem summary_added (made : recheckOf added = some recheck)
    (vague : isDefinitive (verdictIn R recheck) = false)
    (known : wasRechecked events recheck.articleId) (before : Unclobbered R events now)
    (after : Unclobbered R (added :: events) now) :
    summary R (added :: events) now = summary R events now := by
  have samples : ∀ articleId,
      wasRechecked (added :: events) articleId ↔ wasRechecked events articleId := by
    intro articleId
    unfold wasRechecked
    rw [rechecks_added made, List.exists_mem_cons_iff]
    refine or_iff_right_of_imp fun own => ?_
    rw [← own]
    exact known
  have kept : ∀ {events : List CohortEvent}, Unclobbered R events now →
      ∀ aged ∈ mature R events now, (AliveAmong R keepsVerdict (rechecks events) aged.1 ↔
        AliveAmong R isDefinitive (rechecks events) aged.1) := fun settled aged h =>
    ⟨aliveAmong_definitive, unclobbered_iff.1 settled aged h⟩
  unfold summary
  rw [mature_added made, ages_added made]
  apply summarize_congr
  · intro aged _
    exact decide_eq_decide.2 (samples aged.1)
  · intro aged h
    apply decide_eq_decide.2
    rw [kept after aged (by rw [mature_added made]; exact h), kept before aged h]
    exact definitive_added made vague aged.1

end Added

theorem cohort_counts (result : Survival) (ids : (events.map CohortEvent.id).Nodup)
    (made : computeSurvival R events now = .ok result) :
    result.matureCount + result.maturingCount = (datedArticles R events).length ∧
      result.matureCount = result.sampleSize + result.staleCount := by
  rw [computeSurvival_legible ids (legible_of_computeSurvival made)] at made
  rw [← Except.ok.inj made]
  have ⟨matured, maturing, parts⟩ := summarize_counts (mature R events now)
    ((ages R events now).countP fun aged => aged.2 < maturityDays)
    (fun articleId => decide (wasRechecked events articleId))
    fun articleId => decide (AliveAmong R keepsVerdict (rechecks events) articleId)
  refine ⟨?_, parts⟩
  have dated : (ages R events now).length = (datedArticles R events).length := by
    unfold ages datedArticles
    rw [List.length_filterMap_eq_countP, ← List.countP_eq_length_filter]
    apply List.countP_congr
    intro articleId _
    rw [Option.isSome_map]
  calc
    _ = (mature R events now).length +
        (ages R events now).countP fun aged => aged.2 < maturityDays := by
      unfold summary
      rw [matured, maturing]
    _ = (ages R events now).length := by
      unfold mature
      rw [← List.countP_eq_length_filter, List.length_eq_countP_add_countP
        fun aged : ℤ × ℤ => decide (maturityDays ≤ aged.2)]
      congr 1
      apply List.countP_congr
      intro aged _
      rw [decide_eq_true_iff, decide_eq_true_iff, decide_eq_true_iff, not_le]
    _ = (datedArticles R events).length := dated

/-- The latest definitive verdicts are used if and only if every recheck can be read and none
clobbers, the one that is added included. -/
theorem uses_latest_definitive_iff (R : Readers) {events : List CohortEvent} (now : ℚ)
    {added : CohortEvent} (ids : ((added :: events).map CohortEvent.id).Nodup) :
    UsesLatestDefinitive R events now added ↔
      Settled R events now ∧ (AddsNothing R events added → Settled R (added :: events) now) := by
  have ids' : (events.map CohortEvent.id).Nodup := (List.nodup_cons.1 ids).2
  constructor
  · intro uses
    have ⟨result, made⟩ := uses.returns
    have legible := legible_of_computeSurvival made
    have computed : computeSurvival R events now = .ok (summary R events now) :=
      computeSurvival_legible ids' legible
    have settled := survived_iff.1 (uses.survived _ computed)
    refine ⟨⟨legible, settled⟩, fun nothing => ?_⟩
    have same := uses.unchanged nothing
    have ⟨recheck, own, vague, known⟩ := nothing
    have legible' : Legible R (rechecks (added :: events)) :=
      legible_of_computeSurvival (same.trans made)
    refine ⟨legible', survived_iff.1 ?_⟩
    rw [computeSurvival_legible ids legible', computed] at same
    rw [Except.ok.inj same, survivors_added own vague]
    exact uses.survived _ computed
  · rintro ⟨⟨legible, settled⟩, stays⟩
    have computed : computeSurvival R events now = .ok (summary R events now) :=
      computeSurvival_legible ids' legible
    refine ⟨⟨_, computed⟩, fun result made => ?_, fun result made => cohort_counts result ids' made,
      fun nothing => ?_⟩
    · rw [computed] at made
      rw [← Except.ok.inj made]
      exact survived_iff.2 settled
    · have ⟨legible', settled'⟩ := stays nothing
      have ⟨recheck, own, vague, known⟩ := nothing
      rw [computed, computeSurvival_legible ids legible',
        summary_added own vague known settled settled']

end Result

/-! ## A verdict that is not known -/

/-- Payloads that are a verdict, read by its name. -/
def namedVerdicts : Readers where
  loads text := .object [("verdict", .text text)]
  loadsTargets _ := .blank
  fromIso _ := some ⟨0, none⟩
  unicode := UrlSplit.asciiData

def confirmedEvent : CohortEvent where
  id := 1
  tsUtc := "1970-01-01T00:00:00+00:00"
  kind := kindConfirmed
  articleId := some 1
  payloadJson := ""

def recheckEvent (id : ℕ) (verdict : String) : CohortEvent where
  id := id
  tsUtc := "1970-02-01T00:00:00+00:00"
  kind := kindRechecked
  articleId := some 1
  payloadJson := verdict

/-- Forty days later. -/
def fortyDays : ℚ := 3456000

theorem namedVerdicts_legible (rechecks : List Recheck) : Legible namedVerdicts rechecks := by
  intro recheck _
  refine ⟨fun text _ _ => Or.inr ⟨_, rfl⟩, ?_⟩
  unfold verdictIn readPayload
  dsimp only
  split_ifs <;> rfl

theorem failed_probe_adds_nothing :
    UsesLatestDefinitive namedVerdicts [confirmedEvent, recheckEvent 2 "alive"] fortyDays
      (recheckEvent 3 "probe_error") := by
  apply (uses_latest_definitive_iff namedVerdicts fortyDays (by decide)).2
  refine ⟨⟨namedVerdicts_legible _, ?_⟩, fun _ => ⟨namedVerdicts_legible _, ?_⟩⟩
  · unfold Unclobbered
    decide +kernel
  · unfold Unclobbered
    decide +kernel

/-- An unknown verdict hides that the link was found alive. -/
theorem unknown_verdict_clobbers :
    ¬ ∀ (R : Readers) (events : List CohortEvent) (now : ℚ) (added : CohortEvent),
      ((added :: events).map CohortEvent.id).Nodup → UsesLatestDefinitive R events now added := by
  intro uses
  have claimed := uses namedVerdicts
    [confirmedEvent, recheckEvent 2 "alive", recheckEvent 3 "unreachable"] fortyDays
    (recheckEvent 4 "probe_error") (by decide)
  have ⟨result, made⟩ := claimed.returns
  have none_ : (computeSurvival namedVerdicts
      [confirmedEvent, recheckEvent 2 "alive", recheckEvent 3 "unreachable"]
      fortyDays).toOption.map Survival.survived = some 0 := by decide +kernel
  rw [made] at none_
  have counted := claimed.survived result made
  rw [Option.some.inj none_] at counted
  exact absurd counted (by decide +kernel)

end BacklinkPublisher.SurvivalCohort
