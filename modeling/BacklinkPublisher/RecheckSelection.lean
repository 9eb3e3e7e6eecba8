import BacklinkPublisher.RecheckUniverse
import Mathlib.Data.List.Sort
import Mathlib.Data.Prod.Lex
import Mathlib.Data.Rat.Floor
import Mathlib.Tactic.Linarith

set_option autoImplicit false

/-!
# The selection of placements to recheck

`select_candidates` of `recheck/selection.py`: the placements that are due, those without a
definitive verdict first, and in each class the oldest first.
-/
namespace BacklinkPublisher.RecheckSelection
open EventStore (Value)
open LatestVerdicts OptionFolds RecheckUniverse

structure Candidate where
  liveUrl : Value
  targetUrl : Option String
  host : Option String
  articleId : ℤ
  platform : Value
  baselineAnchor : Option Value
  publishedAgeDays : Option ℤ
  source : String := "events"
  deriving DecidableEq, Repr

/-- A candidate with the keys that are popped in the end. -/
structure Entry where
  record : Candidate
  lastDefinitiveAt : Option ℚ
  publishedAt : Option ℚ
  deriving DecidableEq, Repr

/-- `datetime.min`, in seconds from 1970. -/
def epoch : ℚ := -62135596800

/-- `timedelta(days=days)`; `none` is an exception, here and below. -/
def timedelta (days : ℤ) : Option ℚ :=
  if -999999999 ≤ days ∧ days ≤ 999999999 then some (days * 86400) else none

/-- `now - ts`. Every timestamp read is aware, so `now` has to be. -/
def elapsed (now : IsoTime) (ts : ℚ) : Option ℚ :=
  if now.offset = none then none else some (now.utc - ts)

def isWithin (now : IsoTime) (window : ℚ) (cursor : Option ℚ) : Option Bool :=
  match cursor with
  | none => some false
  | some ts => (elapsed now ts).map (· ≤ window)

def publishedAge (now : IsoTime) (publishedAt : Option ℚ) : Option (Option ℤ) :=
  match publishedAt with
  | none => some none
  | some ts => (elapsed now ts).map fun age => some ⌊age / 86400⌋

section Selecting
variable (R : SelectionReaders) (opts : Options) (ageThreshold retryFloor : ℚ)
  (cursors : List Cursor) (baselines : List Baseline)

def entryFor (placement : Placement) (cursor : Cursor) (age : Option ℤ) : Entry where
  record :=
    { liveUrl := placement.liveUrl
      targetUrl := placement.targetUrl
      host := placement.host
      articleId := placement.articleId
      platform := placement.platform
      baselineAnchor := baselineFor R baselines placement.articleId placement.targetUrl
      publishedAgeDays := age }
  lastDefinitiveAt := cursor.lastDefinitiveAt
  publishedAt := placement.publishedAt

/-- The body of the loop over the universe; the inner `none` is `continue`. -/
def candidateOf (placement : Placement) : Option (Option Entry) :=
  let cursor := cursorOf placement.articleId cursors
  (isWithin opts.now ageThreshold cursor.lastDefinitiveAt).bind fun checked =>
    if checked then some none
    else
      (isWithin opts.now retryFloor cursor.lastAttemptAt).bind fun tried =>
        if tried then some none
        else
          (publishedAge opts.now placement.publishedAt).map fun age =>
            some (entryFor R baselines placement cursor age)

def appendCandidate (entries : List Entry) (placement : Placement) : Option (List Entry) :=
  (candidateOf R opts ageThreshold retryFloor cursors baselines placement).map fun candidate =>
    entries ++ candidate.toList

/-- The age of an entry within its class. -/
def ageKey (entry : Entry) : ℚ ×ₗ ℚ :=
  toLex ((entry.lastDefinitiveAt.or entry.publishedAt).getD epoch, entry.publishedAt.getD epoch)

def sortKey (entry : Entry) : Bool ×ₗ ℚ ×ₗ ℚ :=
  toLex (entry.lastDefinitiveAt.isSome, ageKey entry)

def selectCandidates (content : Content) : Option (List Candidate) := do
  let placed ← confirmedUniverse R opts content.confirmed
  let cursors ← recheckCursors R content.rechecked
  let baselines ← anchorBaselines R content.articles
  let ageThreshold ← timedelta opts.days
  let retryFloor ← timedelta opts.minRetryDays
  let entries ← placed.foldlM
    (appendCandidate R opts ageThreshold retryFloor cursors baselines) []
  let sorted := entries.insertionSort fun a b => sortKey a ≤ sortKey b
  some ((sorted.take (opts.limit.getD opts.cap)).map Entry.record)

end Selecting

/-! ## What is selected -/

section Meaning
variable (R : SelectionReaders) (opts : Options) (content : Content)

/-- The article has a placement that is due. A naive `now` is taken for UTC. -/
structure IsDue (articleId : ℤ) : Prop where
  placed : ∃ row, IsLatest R opts content articleId row
  stale : ∀ ts, DefinitiveAt R articleId content.rechecked ts →
    (opts.days * 86400 : ℚ) < opts.now.utc - ts
  rested : ∀ ts, AttemptAt R articleId content.rechecked ts →
    (opts.minRetryDays * 86400 : ℚ) < opts.now.utc - ts

def Entry.placement (entry : Entry) : Placement where
  articleId := entry.record.articleId
  liveUrl := entry.record.liveUrl
  targetUrl := entry.record.targetUrl
  host := entry.record.host
  platform := entry.record.platform
  publishedAt := entry.publishedAt

/-- The entry is the latest placement of its article, with its newest definitive verdict. -/
structure Describes (entry : Entry) : Prop where
  latest : ∃ row, IsLatest R opts content entry.record.articleId row ∧
    entry.placement = placementFor R entry.record.articleId row
  verdict : Newest (DefinitiveAt R entry.record.articleId content.rechecked) entry.lastDefinitiveAt

/-- The entries that are due, `chosen` and then `left`, in the order of the selection. -/
structure Selects (result : List Candidate) (chosen left : List Entry) : Prop where
  result : result = chosen.map Entry.record
  distinct : ((chosen ++ left).map fun entry => entry.record.articleId).Nodup
  complete : ∀ articleId, articleId ∈ (chosen ++ left).map (fun entry => entry.record.articleId) ↔
    IsDue R opts content articleId
  described : ∀ entry ∈ chosen ++ left, Describes R opts content entry
  amount : chosen.length = min (opts.limit.getD opts.cap) (chosen ++ left).length
  neverFirst : (chosen ++ left).Pairwise fun a b =>
    b.lastDefinitiveAt = none → a.lastDefinitiveAt = none
  oldest : ∀ a ∈ chosen, ∀ b ∈ left, a.lastDefinitiveAt.isSome = b.lastDefinitiveAt.isSome →
    ageKey a ≤ ageKey b

/-- What the readers and the clock need. -/
structure Selectable : Prop where
  days : -999999999 ≤ opts.days ∧ opts.days ≤ 999999999
  minRetryDays : -999999999 ≤ opts.minRetryDays ∧ opts.minRetryDays ≤ 999999999
  confirmed : ∀ row ∈ content.confirmed, rowMatches opts row = true →
    EventPayloads.Readable R.loads (some row.payloadJson)
  rechecked : ∀ row ∈ content.rechecked, RecheckReadable R row
  anchors : ∀ row ∈ content.articles, AnchorsReadable R row
  clock : opts.now.offset = none → ∀ articleId row, IsLatest R opts content articleId row →
    parseTs R.toReaders row.tsUtc = none ∧
      ∀ ts, ¬ AttemptAt R articleId content.rechecked ts

end Meaning

/-! ## The clock -/

section Clock
variable {now : IsoTime}

theorem elapsed_eq_some {ts age : ℚ} (some_ : elapsed now ts = some age) : age = now.utc - ts := by
  unfold elapsed at some_
  split_ifs at some_
  exact (Option.some.inj some_).symm

theorem elapsed_isSome (ts : ℚ) : (elapsed now ts).isSome ↔ now.offset ≠ none := by
  unfold elapsed
  split_ifs with naive <;> simp [naive]

theorem isWithin_isSome (window : ℚ) (cursor : Option ℚ) :
    (isWithin now window cursor).isSome ↔ (now.offset = none → cursor = none) := by
  cases cursor with
  | none => simp [isWithin]
  | some ts =>
    unfold isWithin
    rw [Option.isSome_map, elapsed_isSome]
    simp

theorem isWithin_naive (naive : now.offset = none) (window : ℚ) (cursor : Option ℚ) :
    isWithin now window cursor = if cursor = none then some false else none := by
  cases cursor with
  | none => rfl
  | some ts => simp [isWithin, elapsed, naive]

theorem isWithin_eq_some {window : ℚ} {cursor : Option ℚ} {within : Bool}
    (some_ : isWithin now window cursor = some within) :
    within = false ↔ ∀ ts, cursor = some ts → window < now.utc - ts := by
  cases cursor with
  | none =>
    rw [← Option.some.inj some_]
    simp
  | some ts =>
    have ⟨age, age_, within_⟩ := Option.map_eq_some_iff.1 some_
    rw [← within_, decide_eq_false_iff_not, not_le, elapsed_eq_some age_]
    simp

theorem publishedAge_isSome (publishedAt : Option ℚ) :
    (publishedAge now publishedAt).isSome ↔ (now.offset = none → publishedAt = none) := by
  cases publishedAt with
  | none => simp [publishedAge]
  | some ts =>
    unfold publishedAge
    rw [Option.isSome_map, elapsed_isSome]
    simp

theorem publishedAge_naive (naive : now.offset = none) (publishedAt : Option ℚ) :
    publishedAge now publishedAt = if publishedAt = none then some none else none := by
  cases publishedAt with
  | none => rfl
  | some ts => simp [publishedAge, elapsed, naive]

end Clock

/-! ## One placement -/

section Step
variable {R : SelectionReaders} {opts : Options} {ageThreshold retryFloor : ℚ}
  {cursors : List Cursor} {baselines : List Baseline}

/-- Neither window holds the placement back. -/
structure Passes (opts : Options) (ageThreshold retryFloor : ℚ) (cursor : Cursor) : Prop where
  stale : ∀ ts, cursor.lastDefinitiveAt = some ts → ageThreshold < opts.now.utc - ts
  rested : ∀ ts, cursor.lastAttemptAt = some ts → retryFloor < opts.now.utc - ts

/-- A naive clock is used with no timestamp. -/
def Clocked (opts : Options) (cursor : Cursor) (publishedAt : Option ℚ) : Prop :=
  opts.now.offset = none →
    cursor.lastDefinitiveAt = none ∧ cursor.lastAttemptAt = none ∧ publishedAt = none

theorem placement_entryFor (placement : Placement) (cursor : Cursor) (age : Option ℤ) :
    (entryFor R baselines placement cursor age).placement = placement := rfl

theorem candidateOf_isSome (placement : Placement) :
    (candidateOf R opts ageThreshold retryFloor cursors baselines placement).isSome ↔
      Clocked opts (cursorOf placement.articleId cursors) placement.publishedAt := by
  unfold candidateOf Clocked
  dsimp only
  by_cases naive : opts.now.offset = none
  · rw [forall_prop_of_true naive, isWithin_naive naive, isWithin_naive naive,
      publishedAge_naive naive]
    by_cases checked : (cursorOf placement.articleId cursors).lastDefinitiveAt = none
    · by_cases tried : (cursorOf placement.articleId cursors).lastAttemptAt = none
      · by_cases published : placement.publishedAt = none
        · simp [checked, tried, published]
        · simp [checked, tried, published]
      · simp [checked, tried]
    · simp [checked]
  · refine iff_of_true ?_ fun none_ => absurd none_ naive
    have ⟨checked, checked_⟩ := Option.isSome_iff_exists.1
      ((isWithin_isSome ageThreshold (cursorOf placement.articleId cursors).lastDefinitiveAt).2
        fun none_ => absurd none_ naive)
    have ⟨tried, tried_⟩ := Option.isSome_iff_exists.1
      ((isWithin_isSome retryFloor (cursorOf placement.articleId cursors).lastAttemptAt).2
        fun none_ => absurd none_ naive)
    rw [checked_, tried_, Option.bind_some, Option.bind_some]
    split_ifs
    · rfl
    · rfl
    · rw [Option.isSome_map, publishedAge_isSome]
      exact fun none_ => absurd none_ naive

theorem candidateOf_spec {placement : Placement} {candidate : Option Entry}
    (some_ : candidateOf R opts ageThreshold retryFloor cursors baselines placement =
      some candidate) :
    (candidate ≠ none ↔
        Passes opts ageThreshold retryFloor (cursorOf placement.articleId cursors)) ∧
      ∀ entry, candidate = some entry → entry.placement = placement ∧
        entry.lastDefinitiveAt = (cursorOf placement.articleId cursors).lastDefinitiveAt := by
  unfold candidateOf at some_
  dsimp only at some_
  rw [Option.bind_eq_some_iff] at some_
  have ⟨checked, checked_, some_⟩ := some_
  have stale := isWithin_eq_some checked_
  split_ifs at some_ with within
  · rw [← Option.some.inj some_]
    refine ⟨iff_of_false (not_not.2 rfl) fun passes => ?_, fun entry same => by cases same⟩
    rw [stale.2 passes.stale] at within
    cases within
  · rw [Option.bind_eq_some_iff] at some_
    have ⟨tried, tried_, some_⟩ := some_
    have rested := isWithin_eq_some tried_
    split_ifs at some_ with retried
    · rw [← Option.some.inj some_]
      refine ⟨iff_of_false (not_not.2 rfl) fun passes => ?_, fun entry same => by cases same⟩
      rw [rested.2 passes.rested] at retried
      cases retried
    · have ⟨age, _, made⟩ := Option.map_eq_some_iff.1 some_
      rw [← made]
      have passes := Passes.mk (stale.1 (Bool.eq_false_iff.2 within))
        (rested.1 (Bool.eq_false_iff.2 retried))
      refine ⟨iff_of_true (Option.some_ne_none _) passes, fun entry same => ?_⟩
      rw [← Option.some.inj same]
      exact ⟨placement_entryFor _ _ _, rfl⟩

end Step

/-! ## The whole universe -/

section Run
variable {R : SelectionReaders} {opts : Options} {content : Content} {ageThreshold retryFloor : ℚ}
  {cursors : List Cursor} {baselines : List Baseline}

def articleIds (entries : List Entry) : List ℤ := entries.map fun entry => entry.record.articleId

/-- The entries are those of the placements gone through that pass. -/
structure Collects (opts : Options) (ageThreshold retryFloor : ℚ) (cursors : List Cursor)
    (seen : List Placement) (entries : List Entry) : Prop where
  order : (articleIds entries).Sublist (seen.map Placement.articleId)
  made : ∀ entry ∈ entries, entry.placement ∈ seen ∧
    Passes opts ageThreshold retryFloor (cursorOf entry.record.articleId cursors) ∧
    entry.lastDefinitiveAt = (cursorOf entry.record.articleId cursors).lastDefinitiveAt
  reached : ∀ placement ∈ seen,
    Passes opts ageThreshold retryFloor (cursorOf placement.articleId cursors) →
      placement.articleId ∈ articleIds entries

theorem collects_nil : Collects opts ageThreshold retryFloor cursors [] [] where
  order := List.Sublist.slnil
  made _ mem := absurd mem List.not_mem_nil
  reached _ mem := absurd mem List.not_mem_nil

/-- One more placement. -/
theorem Collects.step {seen : List Placement} {entries next : List Entry} {placement : Placement}
    (collects : Collects opts ageThreshold retryFloor cursors seen entries)
    (step : appendCandidate R opts ageThreshold retryFloor cursors baselines entries placement =
      some next) :
    Collects opts ageThreshold retryFloor cursors (seen ++ [placement]) next := by
  have ⟨candidate, made, next_⟩ := Option.map_eq_some_iff.1 step
  have ⟨passes, entry_⟩ := candidateOf_spec made
  rw [← next_]
  cases candidate with
  | none =>
    have held : ¬ Passes opts ageThreshold retryFloor (cursorOf placement.articleId cursors) :=
      fun pass => passes.2 pass rfl
    rw [Option.toList_none, List.append_nil]
    constructor
    · rw [List.map_append]
      exact collects.order.trans (List.sublist_append_left _ _)
    · intro entry mem
      have ⟨own, rest⟩ := collects.made entry mem
      exact ⟨List.mem_append_left _ own, rest⟩
    · intro other mem pass
      rcases List.mem_append.1 mem with before | now
      · exact collects.reached other before pass
      · rw [List.mem_singleton.1 now] at pass
        exact absurd pass held
  | some entry =>
    have pass := passes.1 (Option.some_ne_none entry)
    have ⟨own, verdict⟩ := entry_ entry rfl
    have article : entry.record.articleId = placement.articleId := congrArg Placement.articleId own
    rw [Option.toList_some]
    constructor
    · unfold articleIds
      rw [List.map_append, List.map_append, List.map_singleton, List.map_singleton, article]
      exact collects.order.append (List.Sublist.refl _)
    · intro other mem
      rcases List.mem_append.1 mem with before | now
      · have ⟨known, rest⟩ := collects.made other before
        exact ⟨List.mem_append_left _ known, rest⟩
      · rw [List.mem_singleton.1 now, article, own]
        exact ⟨List.mem_append_right _ List.mem_cons_self, pass, verdict⟩
    · intro other mem pass
      unfold articleIds
      rw [List.map_append, List.map_singleton, List.mem_append, article]
      rcases List.mem_append.1 mem with before | now
      · exact .inl (collects.reached other before pass)
      · rw [List.mem_singleton.1 now]
        exact .inr List.mem_cons_self

theorem timedelta_isSome (days : ℤ) :
    (timedelta days).isSome ↔ -999999999 ≤ days ∧ days ≤ 999999999 := by
  unfold timedelta
  split_ifs with inside <;> simp [inside]

theorem timedelta_eq_some {days : ℤ} {window : ℚ} (some_ : timedelta days = some window) :
    window = days * 86400 := by
  unfold timedelta at some_
  split_ifs at some_
  exact (Option.some.inj some_).symm

/-- What passes the windows is due. -/
theorem passes_iff (tracks : Tracks R content.rechecked cursors)
    (age : timedelta opts.days = some ageThreshold)
    (retry : timedelta opts.minRetryDays = some retryFloor) {articleId : ℤ}
    (placed : ∃ row, IsLatest R opts content articleId row) :
    Passes opts ageThreshold retryFloor (cursorOf articleId cursors) ↔
      IsDue R opts content articleId := by
  have ⟨definitive_, attempt⟩ := tracks articleId
  rw [timedelta_eq_some age, timedelta_eq_some retry]
  constructor
  · intro passes
    refine ⟨placed, fun ts verdict => ?_, fun ts attempted => ?_⟩
    · cases cursor : (cursorOf articleId cursors).lastDefinitiveAt with
      | none => exact absurd verdict (definitive_.absent.1 cursor ts)
      | some newest =>
        have late := definitive_.newest newest cursor ts verdict
        have stale := passes.stale newest cursor
        linarith
    · cases cursor : (cursorOf articleId cursors).lastAttemptAt with
      | none => exact absurd attempted (attempt.absent.1 cursor ts)
      | some newest =>
        have late := attempt.newest newest cursor ts attempted
        have rested := passes.rested newest cursor
        linarith
  · intro due
    constructor
    · exact fun ts cursor => due.stale ts (definitive_.held ts cursor)
    · exact fun ts cursor => due.rested ts (attempt.held ts cursor)

def sortEntries (entries : List Entry) : List Entry :=
  entries.insertionSort fun a b => sortKey a ≤ sortKey b

/-- The stages of a selection that raises no exception. -/
theorem selectCandidates_eq_some {result : List Candidate} :
    selectCandidates R opts content = some result ↔
      ∃ placed cursors baselines ageThreshold retryFloor entries,
        confirmedUniverse R opts content.confirmed = some placed ∧
        recheckCursors R content.rechecked = some cursors ∧
        anchorBaselines R content.articles = some baselines ∧
        timedelta opts.days = some ageThreshold ∧
        timedelta opts.minRetryDays = some retryFloor ∧
        placed.foldlM (appendCandidate R opts ageThreshold retryFloor cursors baselines) [] =
          some entries ∧
        ((sortEntries entries).take (opts.limit.getD opts.cap)).map Entry.record = result := by
  unfold selectCandidates sortEntries
  simp only [Option.bind_eq_bind, Option.bind_eq_some_iff, Option.some.injEq]
  constructor
  · rintro ⟨placed, hp, cursors, hc, baselines, hb, age, ha, retry, hr, entries, he, same⟩
    exact ⟨placed, cursors, baselines, age, retry, entries, hp, hc, hb, ha, hr, he, same⟩
  · rintro ⟨placed, cursors, baselines, age, retry, entries, hp, hc, hb, ha, hr, he, same⟩
    exact ⟨placed, hp, cursors, hc, baselines, hb, age, ha, retry, hr, entries, he, same⟩

/-- A naive clock meets no timestamp in the loop exactly when the articles confirmed have none. -/
theorem clocked_iff {placed : List Placement}
    (read : confirmedUniverse R opts content.confirmed = some placed)
    (tracks : Tracks R content.rechecked cursors) :
    (∀ placement ∈ placed,
        Clocked opts (cursorOf placement.articleId cursors) placement.publishedAt) ↔
      (opts.now.offset = none → ∀ articleId row, IsLatest R opts content articleId row →
        parseTs R.toReaders row.tsUtc = none ∧
          ∀ ts, ¬ AttemptAt R articleId content.rechecked ts) := by
  have ⟨_, latest, reached⟩ := confirmedUniverse_spec read
  constructor
  · intro clocked naive articleId row isLatest
    have ⟨placement, held, own⟩ := List.mem_map.1 (reached articleId row isLatest.1)
    have ⟨_, attempt, published⟩ := clocked placement held naive
    have ⟨row', isLatest', same⟩ := latest placement held
    rw [own] at attempt isLatest' same
    have texts : row.tsUtc = row'.tsUtc :=
      String.le_antisymm (isLatest'.2 row isLatest.1) (isLatest.2 row' isLatest'.1)
    have parsed : placement.publishedAt = parseTs R.toReaders row'.tsUtc :=
      congrArg Placement.publishedAt same
    rw [texts, ← parsed]
    exact ⟨published, (tracks articleId).2.absent.1 attempt⟩
  · intro clock placement held naive
    have ⟨row, isLatest, same⟩ := latest placement held
    have ⟨unparsed, untried⟩ := clock naive placement.articleId row isLatest
    have ⟨definitive_, attempt⟩ := tracks placement.articleId
    refine ⟨definitive_.absent.2 ?_, attempt.absent.2 untried, ?_⟩
    · rintro ts ⟨recheck, mem, here, _⟩
      exact untried ts ⟨recheck, mem, here⟩
    · rw [same]
      exact unparsed

theorem appendCandidate_isSome (entries : List Entry) (placement : Placement) :
    (appendCandidate R opts ageThreshold retryFloor cursors baselines entries placement).isSome ↔
      Clocked opts (cursorOf placement.articleId cursors) placement.publishedAt := by
  unfold appendCandidate
  rw [Option.isSome_map, candidateOf_isSome]

theorem selectCandidates_isSome :
    (selectCandidates R opts content).isSome ↔ Selectable R opts content := by
  constructor
  · intro ends
    have ⟨result, selected⟩ := Option.isSome_iff_exists.1 ends
    have ⟨placed, cursors, baselines, age, retry, entries, hp, hc, hb, ha, hr, he, _⟩ :=
      selectCandidates_eq_some.1 selected
    constructor
    · exact (timedelta_isSome _).1 (Option.isSome_of_eq_some ha)
    · exact (timedelta_isSome _).1 (Option.isSome_of_eq_some hr)
    · exact (confirmedUniverse_isSome _).1 (Option.isSome_of_eq_some hp)
    · exact (recheckCursors_isSome _).1 (Option.isSome_of_eq_some hc)
    · exact (anchorBaselines_isSome _).1 (Option.isSome_of_eq_some hb)
    · rw [← clocked_iff hp (recheckCursors_tracks hc)]
      exact (foldlM_isSome appendCandidate_isSome placed []).1 (Option.isSome_of_eq_some he)
  · intro selectable
    have ⟨placed, hp⟩ := Option.isSome_iff_exists.1
      ((confirmedUniverse_isSome content.confirmed).2 selectable.confirmed)
    have ⟨cursors, hc⟩ := Option.isSome_iff_exists.1
      ((recheckCursors_isSome content.rechecked).2 selectable.rechecked)
    have ⟨baselines, hb⟩ := Option.isSome_iff_exists.1
      ((anchorBaselines_isSome content.articles).2 selectable.anchors)
    have ⟨age, ha⟩ := Option.isSome_iff_exists.1 ((timedelta_isSome opts.days).2 selectable.days)
    have ⟨retry, hr⟩ := Option.isSome_iff_exists.1
      ((timedelta_isSome opts.minRetryDays).2 selectable.minRetryDays)
    have clocked := (clocked_iff hp (recheckCursors_tracks hc)).2 selectable.clock
    have folds : (placed.foldlM (appendCandidate R opts age retry cursors baselines) []).isSome :=
      (foldlM_isSome (fun entries placement => appendCandidate_isSome entries placement)
        placed []).2 clocked
    have ⟨entries, he⟩ := Option.isSome_iff_exists.1 folds
    exact Option.isSome_of_eq_some
      (selectCandidates_eq_some.2 ⟨placed, cursors, baselines, age, retry, entries, hp, hc, hb, ha,
        hr, he, rfl⟩)

end Run

/-! ## The order -/

section Order

theorem sortEntries_sorted (entries : List Entry) :
    (sortEntries entries).Pairwise fun a b => sortKey a ≤ sortKey b :=
  List.pairwise_insertionSort _ _

/-- Those without a definitive verdict are first, and the older of two in one class. -/
theorem sortKey_le {a b : Entry} (le : sortKey a ≤ sortKey b) :
    (b.lastDefinitiveAt = none → a.lastDefinitiveAt = none) ∧
      (a.lastDefinitiveAt.isSome = b.lastDefinitiveAt.isSome → ageKey a ≤ ageKey b) := by
  unfold sortKey at le
  rw [Prod.Lex.toLex_le_toLex] at le
  constructor
  · intro never
    cases checked : a.lastDefinitiveAt with
    | none => rfl
    | some ts =>
      rw [checked, never] at le
      rcases le with less | ⟨equal, _⟩
      · cases less
      · cases equal
  · intro class_
    rcases le with less | ⟨_, older⟩
    · exact absurd class_ (ne_of_lt less)
    · exact older

theorem perm_sortEntries (entries : List Entry) : (sortEntries entries).Perm entries :=
  List.perm_insertionSort _ _

end Order

/-- What has been collected from the universe is what is due. -/
theorem Collects.due {R : SelectionReaders} {opts : Options} {content : Content}
    {ageThreshold retryFloor : ℚ} {cursors : List Cursor} {placed : List Placement}
    {entries : List Entry}
    (collects : Collects opts ageThreshold retryFloor cursors placed entries)
    (read : confirmedUniverse R opts content.confirmed = some placed)
    (tracks : Tracks R content.rechecked cursors)
    (age : timedelta opts.days = some ageThreshold)
    (retry : timedelta opts.minRetryDays = some retryFloor) :
    (articleIds entries).Nodup ∧
      (∀ articleId, articleId ∈ articleIds entries ↔ IsDue R opts content articleId) ∧
      ∀ entry ∈ entries, Describes R opts content entry := by
  have ⟨nodup, latest, reached⟩ := confirmedUniverse_spec read
  refine ⟨collects.order.nodup nodup, fun articleId => ⟨fun mem => ?_, fun due => ?_⟩, ?_⟩
  · have ⟨entry, held, own⟩ := List.mem_map.1 mem
    have ⟨placed_, passes, _⟩ := collects.made entry held
    have ⟨row, isLatest, _⟩ := latest entry.placement placed_
    rw [← own]
    exact (passes_iff tracks age retry ⟨row, isLatest⟩).1 passes
  · have ⟨row, isLatest⟩ := due.placed
    have ⟨placement, held, own⟩ := List.mem_map.1 (reached articleId row isLatest.1)
    have passes := (passes_iff tracks age retry due.placed).2 due
    rw [← own] at passes ⊢
    exact collects.reached placement held passes
  · intro entry held
    have ⟨placed_, _, verdict⟩ := collects.made entry held
    refine ⟨latest entry.placement placed_, ?_⟩
    rw [verdict]
    exact (tracks entry.record.articleId).1

section Main
variable (R : SelectionReaders) (opts : Options) (content : Content)

/-- The selection is the oldest of the placements that are due. -/
theorem selects_iff :
    (∃ result chosen left, selectCandidates R opts content = some result ∧
        Selects R opts content result chosen left) ↔ Selectable R opts content := by
  rw [← selectCandidates_isSome]
  constructor
  · rintro ⟨result, _, _, selected, _⟩
    exact Option.isSome_of_eq_some selected
  · intro ends
    have ⟨result, selected⟩ := Option.isSome_iff_exists.1 ends
    have ⟨placed, cursors, baselines, age, retry, entries, hp, hc, hb, ha, hr, he, result_⟩ :=
      selectCandidates_eq_some.1 selected
    have collects : Collects opts age retry cursors placed entries :=
      foldlM_seen (I := Collects opts age retry cursors) he collects_nil
        fun _ _ _ _ collects step => collects.step step
    have ⟨distinct, complete, described⟩ := collects.due hp (recheckCursors_tracks hc) ha hr
    have perm := perm_sortEntries entries
    have ids : (articleIds (sortEntries entries)).Perm (articleIds entries) := perm.map _
    have sorted := sortEntries_sorted entries
    have whole := List.take_append_drop (opts.limit.getD opts.cap) (sortEntries entries)
    refine ⟨result, (sortEntries entries).take (opts.limit.getD opts.cap),
      (sortEntries entries).drop (opts.limit.getD opts.cap), selected, result_.symm, ?_, ?_, ?_, ?_,
      ?_, ?_⟩
    · rw [whole]
      exact ids.nodup_iff.2 distinct
    · intro articleId
      rw [whole, ← complete]
      exact ids.mem_iff
    · intro entry mem
      rw [whole] at mem
      exact described entry (perm.mem_iff.1 mem)
    · rw [whole, List.length_take]
    · rw [whole]
      exact sorted.imp fun le => (sortKey_le le).1
    · intro a chosen b left
      rw [← whole, List.pairwise_append] at sorted
      exact (sortKey_le (sorted.2.2 a chosen b left)).2

def sampleReaders : SelectionReaders where
  toReaders :=
    { DiscountMap.sampleReaders with
      loads := fun text =>
        if text = "live" then .object [("live_url", .text "https://medium.example/a")]
        else .valueError
      fromIso := fun value =>
        if value = "1970-01-01T00:00:00+00:00" then some ⟨0, some 0⟩ else none }
  loadsAnchors := fun text => if text = "[]" then .list [] else .valueError

def sampleContent : Content where
  confirmed := [⟨"1970-01-01T00:00:00+00:00", none, none, none, some 1, "live"⟩]
  rechecked := []
  articles := [⟨1, "[]"⟩]

/-- A naive clock, as the keep-alive chain passes it, and one confirmed placement. -/
theorem naive_clock_raises : ¬ ∃ result chosen left,
    selectCandidates sampleReaders { now := ⟨40 * 86400, none⟩ } sampleContent = some result ∧
      Selects sampleReaders { now := ⟨40 * 86400, none⟩ } sampleContent result chosen left := by
  rintro ⟨result, _, _, selected, _⟩
  have raises : (selectCandidates sampleReaders { now := ⟨40 * 86400, none⟩ }
      sampleContent).isNone := by
    decide +kernel
  rw [selected] at raises
  cases raises

end Main

end BacklinkPublisher.RecheckSelection
