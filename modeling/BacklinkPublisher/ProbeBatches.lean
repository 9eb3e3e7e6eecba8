import BacklinkPublisher.ProbeSelection
import BacklinkPublisher.VerdictClassifier
import Mathlib.Algebra.Order.Ring.Rat

set_option autoImplicit false

/-!
# Batches of probes

`probe_one` and `probe_many` of `geo/run.py`: the loop over the candidates, its counters, its rows
and the events that it appends.
-/
namespace BacklinkPublisher.ProbeBatches
open CitationEvents JsonValues
open ProbeSelection (ProbeCandidate)
open VerdictClassifier (Probe ProbeResult Url)

/-- What the calls of the turn with an index give; an exception is its text. `classify_verdict`
carries the query that it is given. -/
structure Host where
  monotonic : ℕ → ℚ
  now : ℕ → ℤ
  probeFn : ℕ → String → Except String ProbeResult
  classifyVerdict : ℕ → Probe → Except String VerdictResult
  append : ℕ → Except String Unit
  carried : ∀ index probe verdict, classifyVerdict index probe = .ok verdict →
    verdict.query = probe.query

structure Settings where
  articleUrls : List Url := []
  brandAliasesMap : List (String × List (List Char)) := []
  costCap : ℤ
  wallClockBudget : ℚ
  engine : String := "perplexity"
  runId : Option String := none

/-! ## The batch -/

structure ProbeSummary where
  probed : ℕ := 0
  siteCited : ℕ := 0
  articleCited : ℕ := 0
  absent : ℕ := 0
  refused : ℕ := 0
  probeError : ℕ := 0
  deferred : ℕ := 0
  budgetExhausted : Bool := false
  costCapHit : Bool := false
  deriving DecidableEq, Repr

def ProbeSummary.tally (summary : ProbeSummary) : Tier → ProbeSummary
  | .siteCited => { summary with siteCited := summary.siteCited + 1 }
  | .articleCited => { summary with articleCited := summary.articleCited + 1 }
  | .absent => { summary with absent := summary.absent + 1 }
  | .refused => { summary with refused := summary.refused + 1 }

/-- What the loop has made, and the rows of the event log. -/
structure Batch where
  rows : List Fields := []
  summary : ProbeSummary := {}
  store : List CitationRow

def errorRow (candidate : ProbeCandidate) (error : String) : Fields :=
  [("type", .text "probe"), ("target_url", .text candidate.targetUrl),
    ("query", .text candidate.query), ("verdict", .text "probe_error"), ("error", .text error)]

def verdictRow (candidate : ProbeCandidate) (verdict : VerdictResult) : Fields :=
  update (carryVerdict verdict) [("type", .text "probe"),
    ("target_url", .text candidate.targetUrl), ("query", .text candidate.query)]

def Batch.noteError (batch : Batch) (candidate : ProbeCandidate) (error : String) : Batch :=
  { batch with
    rows := batch.rows ++ [errorRow candidate error]
    summary := { batch.summary with
      probed := batch.summary.probed + 1
      probeError := batch.summary.probeError + 1 } }

/-- The event and the tally. -/
def Batch.noteVerdict (batch : Batch) (event : CitationRow) (candidate : ProbeCandidate)
    (verdict : VerdictResult) : Batch where
  rows := batch.rows ++ [verdictRow candidate verdict]
  summary := ProbeSummary.tally { batch.summary with probed := batch.summary.probed + 1 }
    verdict.tier
  store := batch.store ++ [event]

section Loop
variable (host : Host) (settings : Settings)

def probeOne (index : ℕ) (candidate : ProbeCandidate) : Except String VerdictResult := do
  let rawResult ← host.probeFn index candidate.query
  host.classifyVerdict index {
    result := rawResult
    targetUrl := candidate.targetUrl.toList
    publishedArticleUrls := settings.articleUrls
    brandAliases := (settings.brandAliasesMap.lookup candidate.targetUrl).getD []
    query := candidate.query
    engine := settings.engine }

def deadline : ℚ := host.monotonic 0 + settings.wallClockBudget

/-- The loop from a candidate on, and the exception that ends it. -/
def probeFrom (total : ℕ) : List ProbeCandidate → ℕ → Batch → Batch × Option String
  | [], _, batch => (batch, none)
  | candidate :: rest, index, batch =>
    let remaining := total - index
    if settings.costCap ≤ batch.summary.probed then
      ({ batch with
        summary := { batch.summary with
          deferred := batch.summary.deferred + remaining
          costCapHit := true } }, none)
    else if deadline host settings < host.monotonic (index + 1) then
      ({ batch with
        summary := { batch.summary with
          deferred := batch.summary.deferred + remaining
          budgetExhausted := true } }, none)
    else
      match probeOne host settings index candidate with
      | .error text => probeFrom total rest (index + 1) (batch.noteError candidate text)
      | .ok verdict =>
        -- the append stands outside of the `try`
        match host.append index with
        | .error text => (batch, some text)
        | .ok () =>
          let event := observed (host.now index) (settings.runId.getD "") candidate.targetUrl
            verdict
          probeFrom total rest (index + 1) (batch.noteVerdict event candidate verdict)

def probeMany (candidates : List ProbeCandidate) (store : List CitationRow) :
    Batch × Option String :=
  probeFrom host settings candidates.length candidates 0 { store }

end Loop

/-! ## The accounts of a batch -/

/-- A pair that was probed, when, and what came of it. -/
structure Visit where
  candidate : ProbeCandidate
  now : ℤ
  report : Except String VerdictResult

def Visit.row (visit : Visit) : Fields :=
  match visit.report with
  | .error text => errorRow visit.candidate text
  | .ok verdict => verdictRow visit.candidate verdict

/-- A pair that is reported as an error has no event. -/
def Visit.event (runId : String) (visit : Visit) : Option CitationRow :=
  match visit.report with
  | .error _ => none
  | .ok verdict => some (observed visit.now runId visit.candidate.targetUrl verdict)

/-- The pairs of the visits are probed, every one has its row, and the events are theirs. -/
structure Recorded (settings : Settings) (candidates : List ProbeCandidate)
    (store : List CitationRow) (batch : Batch) (visits : List Visit) : Prop where
  pairs : visits.map Visit.candidate = candidates.take batch.summary.probed
  carried : ∀ visit ∈ visits, ∀ verdict, visit.report = .ok verdict →
    verdict.query = visit.candidate.query
  rows : batch.rows = visits.map Visit.row
  events : batch.store = store ++ visits.filterMap (Visit.event (settings.runId.getD ""))

/-- The five outcomes together. -/
def ProbeSummary.outcomes (summary : ProbeSummary) : ℕ :=
  summary.siteCited + summary.articleCited + summary.absent + summary.refused + summary.probeError

structure Accounts (settings : Settings) (candidates : List ProbeCandidate)
    (store : List CitationRow) (batch : Batch) : Prop where
  pairs : batch.summary.probed + batch.summary.deferred = candidates.length
  capped : (batch.summary.probed : ℤ) ≤ max settings.costCap 0
  outcomes : batch.summary.outcomes = batch.summary.probed
  recorded : ∃ visits, Recorded settings candidates store batch visits

/-- The batch returns, and its accounts are in order. -/
def Sound (host : Host) (settings : Settings) (candidates : List ProbeCandidate)
    (store : List CitationRow) : Prop :=
  (probeMany host settings candidates store).2 = none ∧
    Accounts settings candidates store (probeMany host settings candidates store).1

/-- The turn with an index is not stopped by the cap nor by the budget. -/
def Reached (host : Host) (settings : Settings) (index : ℕ) : Prop :=
  (index : ℤ) < settings.costCap ∧ host.monotonic (index + 1) ≤ deadline host settings

/-- No append raises, as long as the turns are reached. -/
def Durable (host : Host) (settings : Settings) : ℕ → List ProbeCandidate → Prop
  | _, [] => True
  | index, candidate :: rest =>
    Reached host settings index →
      (∀ verdict, probeOne host settings index candidate = .ok verdict →
        host.append index = .ok ()) ∧ Durable host settings (index + 1) rest

/-! ## One turn -/

section Turns
variable {host : Host} {settings : Settings} {candidates : List ProbeCandidate}
  {store : List CitationRow}

/-- The accounts before the turn with an index. -/
structure Books (settings : Settings) (candidates : List ProbeCandidate)
    (store : List CitationRow) (index : ℕ) (batch : Batch) : Prop where
  probed : batch.summary.probed = index
  deferred : batch.summary.deferred = 0
  capped : (index : ℤ) ≤ max settings.costCap 0
  outcomes : batch.summary.outcomes = index
  recorded : ∃ visits, Recorded settings candidates store batch visits

theorem books_start : Books settings candidates store 0 { store } := by
  refine ⟨rfl, rfl, le_max_right _ _, rfl, [], ?_, ?_, rfl, ?_⟩
  · exact List.take_zero.symm
  · exact fun visit member => absurd member List.not_mem_nil
  · exact (List.append_nil _).symm

/-- One more visit. -/
theorem Recorded.concat {batch batch' : Batch} {visits : List Visit} {visit : Visit}
    (recorded : Recorded settings candidates store batch visits)
    (probed : batch'.summary.probed = batch.summary.probed + 1)
    (next : candidates[batch.summary.probed]? = some visit.candidate)
    (carried : ∀ verdict, visit.report = .ok verdict → verdict.query = visit.candidate.query)
    (row : batch'.rows = batch.rows ++ [visit.row])
    (event : batch'.store = batch.store ++ (visit.event (settings.runId.getD "")).toList) :
    Recorded settings candidates store batch' (visits ++ [visit]) := by
  constructor
  · rw [List.map_append, recorded.pairs, probed, List.take_add_one, next]
    rfl
  · intro old member
    obtain before | new := List.mem_append.1 member
    · exact recorded.carried old before
    · rw [List.mem_singleton.1 new]
      exact carried
  · rw [row, recorded.rows, List.map_append]
    rfl
  · rw [event, recorded.events, List.append_assoc, List.filterMap_append, List.filterMap_cons]
    cases visit.event (settings.runId.getD "") <;> rfl

theorem Books.noteError {index : ℕ} {batch : Batch} {candidate : ProbeCandidate} {text : String}
    (books : Books settings candidates store index batch)
    (next : candidates[index]? = some candidate) (below : (index : ℤ) < settings.costCap) :
    Books settings candidates store (index + 1) (batch.noteError candidate text) := by
  have ⟨visits, recorded⟩ := books.recorded
  refine ⟨congrArg (· + 1) books.probed, books.deferred, ?_, ?_, visits ++
    [⟨candidate, 0, .error text⟩], recorded.concat rfl ?_ ?_ rfl (List.append_nil _).symm⟩
  · push_cast
    exact le_max_of_le_left below
  · exact congrArg (· + 1) books.outcomes
  · rw [books.probed, next]
  · exact fun verdict none => by cases none

theorem outcomes_tally (summary : ProbeSummary) (tier : Tier) :
    (summary.tally tier).outcomes = summary.outcomes + 1 := by
  cases tier with
  | siteCited => simp only [ProbeSummary.tally, ProbeSummary.outcomes]; omega
  | articleCited => simp only [ProbeSummary.tally, ProbeSummary.outcomes]; omega
  | absent => simp only [ProbeSummary.tally, ProbeSummary.outcomes]; omega
  | refused => simp only [ProbeSummary.tally, ProbeSummary.outcomes]; omega

theorem probed_tally (summary : ProbeSummary) (tier : Tier) :
    (summary.tally tier).probed = summary.probed := by
  cases tier <;> rfl

theorem deferred_tally (summary : ProbeSummary) (tier : Tier) :
    (summary.tally tier).deferred = summary.deferred := by
  cases tier <;> rfl

theorem query_of_probeOne {index : ℕ} {candidate : ProbeCandidate} {verdict : VerdictResult}
    (probed : probeOne host settings index candidate = .ok verdict) :
    verdict.query = candidate.query := by
  unfold probeOne at probed
  cases raw : host.probeFn index candidate.query with
  | error text =>
    rw [raw] at probed
    cases probed
  | ok rawResult =>
    rw [raw] at probed
    exact host.carried _ _ _ probed

theorem row_ok (candidate : ProbeCandidate) (now : ℤ) (verdict : VerdictResult) :
    Visit.row ⟨candidate, now, .ok verdict⟩ = verdictRow candidate verdict := by
  rw [Visit.row]

theorem event_ok (candidate : ProbeCandidate) (now : ℤ) (verdict : VerdictResult)
    (runId : String) : Visit.event runId ⟨candidate, now, .ok verdict⟩ =
      some (observed now runId candidate.targetUrl verdict) := by
  rw [Visit.event]

theorem Books.noteVerdict {index : ℕ} {batch : Batch} {candidate : ProbeCandidate}
    {verdict : VerdictResult} {now : ℤ} (books : Books settings candidates store index batch)
    (next : candidates[index]? = some candidate) (below : (index : ℤ) < settings.costCap)
    (query : verdict.query = candidate.query) :
    Books settings candidates store (index + 1)
      (batch.noteVerdict (observed now (settings.runId.getD "") candidate.targetUrl verdict)
        candidate verdict) := by
  have ⟨visits, recorded⟩ := books.recorded
  have probed : (batch.noteVerdict (observed now (settings.runId.getD "") candidate.targetUrl
      verdict) candidate verdict).summary.probed = batch.summary.probed + 1 :=
    probed_tally _ _
  refine ⟨probed.trans (congrArg (· + 1) books.probed), (deferred_tally _ _).trans books.deferred,
    ?_, ?_, visits ++ [⟨candidate, now, .ok verdict⟩], recorded.concat probed ?_ ?_ ?_ ?_⟩
  · push_cast
    exact le_max_of_le_left below
  · exact (outcomes_tally _ _).trans (congrArg (· + 1) books.outcomes)
  · rw [books.probed, next]
  · intro other same
    cases same
    exact query
  · rw [row_ok, Batch.noteVerdict]
  · rw [event_ok, Batch.noteVerdict]
    rfl

/-- Where the loop stops, the rest is deferred. -/
theorem Books.accounts {index : ℕ} {batch batch' : Batch}
    (books : Books settings candidates store index batch)
    (probed : batch'.summary.probed = batch.summary.probed)
    (outcomes : batch'.summary.outcomes = batch.summary.outcomes)
    (rows : batch'.rows = batch.rows) (events : batch'.store = batch.store)
    (all : index + batch'.summary.deferred = candidates.length) :
    Accounts settings candidates store batch' := by
  have ⟨visits, recorded⟩ := books.recorded
  refine ⟨?_, ?_, ?_, visits, ?_⟩
  · rw [probed, books.probed]
    exact all
  · rw [probed, books.probed]
    exact books.capped
  · rw [outcomes, probed, books.outcomes, books.probed]
  · refine ⟨?_, recorded.carried, rows.trans recorded.rows, events.trans recorded.events⟩
    rw [probed]
    exact recorded.pairs

/-! ## The loop -/

theorem drop_succ_of_drop {index : ℕ} {candidate : ProbeCandidate} {rest : List ProbeCandidate}
    (split : candidates.drop index = candidate :: rest) :
    candidates[index]? = some candidate ∧ candidates.drop (index + 1) = rest ∧
      index < candidates.length := by
  have here : candidates[index]? = some candidate := by
    rw [← List.head?_drop, split]
    rfl
  refine ⟨here, ?_, (List.getElem?_eq_some_iff.1 here).1⟩
  rw [← List.tail_drop, split]
  rfl

/-- The loop returns exactly if no append raises, and then the accounts are in order. -/
theorem probeFrom_iff {index : ℕ} {rest : List ProbeCandidate} {batch : Batch}
    (split : candidates.drop index = rest) (within : index ≤ candidates.length)
    (books : Books settings candidates store index batch) :
    ((probeFrom host settings candidates.length rest index batch).2 = none ↔
      Durable host settings index rest) ∧
    ((probeFrom host settings candidates.length rest index batch).2 = none →
      Accounts settings candidates store
        (probeFrom host settings candidates.length rest index batch).1) := by
  induction rest generalizing index batch with
  | nil =>
    have done : index = candidates.length :=
      le_antisymm within (List.drop_eq_nil_iff.1 split)
    refine ⟨iff_of_true rfl trivial, fun _ => ?_⟩
    refine books.accounts rfl rfl rfl rfl ?_
    change index + batch.summary.deferred = candidates.length
    rw [books.deferred, done, Nat.add_zero]
  | cons candidate rest ih =>
    have ⟨next, later, inside⟩ := drop_succ_of_drop split
    unfold probeFrom Durable
    dsimp only
    split_ifs with cap budget
    · refine ⟨iff_of_true rfl fun reached => ?_, fun _ => ?_⟩
      · rw [books.probed] at cap
        exact absurd reached.1 (not_lt.2 cap)
      · refine books.accounts rfl rfl rfl rfl ?_
        dsimp only
        rw [books.deferred]
        omega
    · refine ⟨iff_of_true rfl fun reached => absurd budget (not_lt.2 reached.2), fun _ => ?_⟩
      refine books.accounts rfl rfl rfl rfl ?_
      dsimp only
      rw [books.deferred]
      omega
    · rw [books.probed, not_le] at cap
      have reached : Reached host settings index := ⟨cap, not_lt.1 budget⟩
      cases probed : probeOne host settings index candidate with
      | error text =>
        have noted : Books settings candidates store (index + 1) (batch.noteError candidate text) :=
          books.noteError next cap
        have ⟨returns, accounts⟩ := ih later inside noted
        refine ⟨returns.trans ⟨fun durable _ => ⟨fun verdict none => (by cases none), durable⟩,
          fun durable => (durable reached).2⟩, accounts⟩
      | ok verdict =>
        dsimp only
        cases appended : host.append index with
        | error text =>
          refine ⟨iff_of_false (fun none => by cases none) fun durable => ?_,
            fun none => by cases none⟩
          have fine := (durable reached).1 verdict rfl
          cases fine
        | ok =>
          dsimp only
          have noted : Books settings candidates store (index + 1)
              (batch.noteVerdict (observed (host.now index) (settings.runId.getD "")
                candidate.targetUrl verdict) candidate verdict) :=
            books.noteVerdict next cap (query_of_probeOne probed)
          have ⟨returns, accounts⟩ := ih later inside noted
          exact ⟨returns.trans ⟨fun durable _ => ⟨fun _ _ => rfl, durable⟩,
            fun durable => (durable reached).2⟩, accounts⟩

end Turns

/-- **Batches of probes.** A batch returns with its accounts in order exactly if no append of a turn
that is reached raises. -/
theorem batch_sound_iff (host : Host) (settings : Settings) (candidates : List ProbeCandidate)
    (store : List CitationRow) :
    Sound host settings candidates store ↔ Durable host settings 0 candidates := by
  have start : Books settings candidates store 0 { store } := books_start
  have ⟨returns, accounts⟩ :=
    @probeFrom_iff host settings candidates store 0 candidates _ List.drop_zero (Nat.zero_le _)
      start
  exact ⟨fun sound => returns.1 sound.1, fun durable =>
    ⟨returns.2 durable, accounts (returns.2 durable)⟩⟩

/-! ## The classifier of the batch -/

theorem query_of_classifyVerdict {T : VerdictClassifier.TextData} {frames : ℕ} {probe : Probe}
    {verdict : VerdictResult}
    (classified : VerdictClassifier.classifyVerdict T frames probe = some verdict) :
    verdict.query = probe.query := by
  unfold VerdictClassifier.classifyVerdict at classified
  split_ifs at classified
  · cases classified
    rfl
  · have ⟨lists, _, made⟩ := Option.map_eq_some_iff.1 classified
    rw [← made]

/-- `classify_verdict` itself, with a clock that stands still. -/
def classifierHost (probeFn : ℕ → String → Except String ProbeResult)
    (append : ℕ → Except String Unit) : Host where
  monotonic := fun _ => 0
  now := fun _ => 0
  probeFn := probeFn
  classifyVerdict := fun _ probe =>
    match VerdictClassifier.classifyVerdict VerdictClassifier.asciiTexts 900 probe with
    | some verdict => .ok verdict
    | none => .error "maximum recursion depth exceeded"
  append := append
  carried := by
    intro index probe verdict classified
    cases made : VerdictClassifier.classifyVerdict VerdictClassifier.asciiTexts 900 probe with
    | none =>
      rw [made] at classified
      cases classified
    | some found =>
      rw [made] at classified
      cases classified
      exact query_of_classifyVerdict made

/-- The probe of every pair is refused, and the second append finds the log locked. -/
def lockedLog : Host :=
  classifierHost (fun _ _ => .ok ⟨[], [], .refused⟩) fun index =>
    if index = 1 then .error "database is locked" else .ok ()

def threePairs : List ProbeCandidate :=
  [⟨"https://a.com", "q", none⟩, ⟨"https://b.com", "q", none⟩, ⟨"https://c.com", "q", none⟩]

def tenProbes : Settings where
  costCap := 10
  wallClockBudget := 60

theorem locked_log_ends_batch :
    ¬ Sound lockedLog tenProbes threePairs [] ∧
      (probeMany lockedLog tenProbes threePairs []).2 = some "database is locked" := by
  have raised : (probeMany lockedLog tenProbes threePairs []).2 = some "database is locked" := by
    decide +kernel
  refine ⟨fun sound => ?_, raised⟩
  rw [sound.1] at raised
  cases raised

end BacklinkPublisher.ProbeBatches
