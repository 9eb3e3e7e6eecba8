import BacklinkPublisher.Keepalive
import BacklinkPublisher.OptionFolds
import BacklinkPublisher.TransitionSystems
import Mathlib.Algebra.Order.Group.Int

set_option autoImplicit false

/-!
# Runs of the keep-alive chain

The retry counter of a target against the publishes that the chain made for it.
-/
namespace BacklinkPublisher.KeepaliveRuns
open Keepalive OptionFolds TransitionSystems

/-! ## What a cycle did -/

/-- A publish of the chain: its URL may be missing, its verdict is that of the reverification. -/
structure Attempt where
  targetUrl : String
  published : Bool
  verdict : String
  deriving DecidableEq, Repr

def attemptOf (entry : PublishResult × Option String) : Attempt where
  targetUrl := entry.1.targetUrl
  published := entry.1.publishedUrl ≠ ""
  verdict := verdictOf entry.2

def attemptsOf : CycleEnd → List Attempt
  | .finished _ entries => entries.map attemptOf
  | .skipped | .raised | .dryRun _ _ => []

/-- A publish that came to nothing for good: no URL, or a link found dead. -/
def Attempt.failed (attempt : Attempt) : Bool :=
  !attempt.published || attempt.verdict ∈ deadVerdicts

def failuresIn (t : String) (attempts : List Attempt) : ℕ :=
  attempts.countP fun attempt => attempt.targetUrl = t && attempt.failed

def publishesIn (t : String) (attempts : List Attempt) : ℕ :=
  attempts.countP fun attempt => attempt.targetUrl = t

/-! ## Seeds -/

section Seeds
variable {urls : Urls} {perTargetStatus : String → Option TargetStatus} {opts : GapOptions}
  {sticky : List String}

theorem mem_emittedPlatforms {stripped : ℕ} {available : List String} {platform : String}
    (h : platform ∈ emittedPlatforms stripped available) : platform ∈ available := by
  have ⟨i, _, hi⟩ := List.mem_filterMap.1 h
  exact List.mem_of_getElem? hi

theorem planRow_seeds {row : Option String} {part : List Seed × List KeepaliveGap}
    (h : planRow urls perTargetStatus opts sticky row = some part) :
    ∀ seed ∈ part.1, seed.targetUrl ≠ "" ∧ seed.platform ∈ sticky := by
  have nothing (same : some (([], []) : List Seed × List KeepaliveGap) = some part) :
      ∀ seed ∈ part.1, seed.targetUrl ≠ "" ∧ seed.platform ∈ sticky := by
    rw [← Option.some.inj same]
    intro seed hseed
    cases hseed
  unfold planRow at h
  split at h
  · exact nothing h
  rename_i target htarget
  have filled : target ≠ "" := by
    have ⟨text, _, kept⟩ := Option.bind_eq_some_iff.1 htarget
    have ⟨same, held⟩ := Option.filter_eq_some_iff.1 kept
    exact of_decide_eq_true held
  have ⟨host, _, h⟩ := Option.bind_eq_some_iff.1 h
  split_ifs at h
  · exact nothing h
  split at h
  · exact nothing h
  unfold gapSeeds at h
  split_ifs at h
  · exact nothing h
  · exact nothing h
  have ⟨mainDomain, _, same⟩ := Option.map_eq_some_iff.1 h
  rw [← same]
  intro seed hseed
  have ⟨platform, hplatform, hseed⟩ := List.mem_map.1 hseed
  rw [← hseed]
  exact ⟨filled, (List.mem_filter.1 (mem_emittedPlatforms hplatform)).1⟩

theorem planKeepaliveGap_seeds {rows : List (Option String)} {seeds : List Seed}
    {gaps : List KeepaliveGap}
    (h : planKeepaliveGap urls perTargetStatus opts sticky rows = some (seeds, gaps)) :
    ∀ seed ∈ seeds, seed.targetUrl ≠ "" ∧ seed.platform ∈ sticky := by
  have ⟨parts, mapped, same⟩ := Option.map_eq_some_iff.1 h
  rw [← (Prod.mk.inj same).1]
  intro seed hseed
  have ⟨part, hpart, hseed⟩ := List.mem_flatMap.1 hseed
  have ⟨row, _, hrow⟩ := mem_of_mapM_some mapped hpart
  exact planRow_seeds hrow seed hseed

end Seeds

/-! ## The counter through a cycle -/

section Stages
variable (t : String)

theorem attempts_recordPublish {result : PublishResult} (stage : Stage)
    (known : result.targetUrl ≠ "" ∧ result.platform ≠ "") :
    attempts (recordPublish result stage).state t =
      attempts stage.state t +
        if result.targetUrl = t ∧ result.publishedUrl = "" then 1 else 0 := by
  unfold recordPublish
  by_cases published : result.publishedUrl = ""
  · rw [if_neg (by simp [published]), if_pos known, attempts_recordAttempt]
    simp [published, countedOutcomes, eq_comm]
  · simp [published]

theorem attempts_runPublishStep (results : List PublishResult) (stage : Stage)
    (known : ∀ result ∈ results, result.targetUrl ≠ "" ∧ result.platform ≠ "") :
    attempts (runPublishStep results stage).state t =
      attempts stage.state t +
        results.countP fun result => result.targetUrl = t ∧ result.publishedUrl = "" := by
  induction results generalizing stage with
  | nil => rfl
  | cons result results ih =>
    have rest := ih (recordPublish result stage) fun r hr => known r (List.mem_cons_of_mem _ hr)
    have head := attempts_recordPublish t stage (known result List.mem_cons_self)
    change attempts (runPublishStep results (recordPublish result stage)).state t = _
    rw [rest, head, List.countP_cons]
    simp only [decide_eq_true_eq]
    omega

theorem attempts_recordReverify (entry : PublishResult × Option String) (stage : Stage) :
    attempts (recordReverify entry stage).state t =
      attempts stage.state t +
        if entry.1.targetUrl = t ∧ entry.1.publishedUrl ≠ "" ∧ verdictOf entry.2 ∈ deadVerdicts
        then 1 else 0 := by
  have ⟨result, reverified⟩ := entry
  unfold recordReverify
  dsimp only
  by_cases published : result.publishedUrl = ""
  · simp [published]
  rw [if_neg published]
  by_cases alive : verdictOf reverified = "alive"
  · simp [alive, deadVerdicts]
  rw [if_neg alive]
  by_cases dead : verdictOf reverified ∈ deadVerdicts
  · have counted : verdictOf reverified ∈ countedOutcomes := by
      simp only [deadVerdicts, List.mem_cons, List.not_mem_nil, or_false] at dead
      rcases dead with dead | dead <;> simp [countedOutcomes, dead]
    rw [if_pos dead, attempts_recordAttempt]
    simp [published, dead, counted, eq_comm]
  · simp [dead]

theorem attempts_runReverifyStep (entries : List (PublishResult × Option String)) (stage : Stage) :
    attempts (runReverifyStep entries stage).state t =
      attempts stage.state t + entries.countP fun entry =>
        entry.1.targetUrl = t ∧ entry.1.publishedUrl ≠ "" ∧ verdictOf entry.2 ∈ deadVerdicts := by
  induction entries generalizing stage with
  | nil => rfl
  | cons entry entries ih =>
    have rest := ih (recordReverify entry stage)
    have head := attempts_recordReverify t entry stage
    change attempts (runReverifyStep entries (recordReverify entry stage)).state t = _
    rw [rest, head, List.countP_cons]
    simp only [decide_eq_true_eq]
    omega

/-- The publishes without a URL and those found dead are the failures. -/
theorem failuresIn_attempts (entries : List (PublishResult × Option String)) :
    ((entries.map Prod.fst).countP fun result => result.targetUrl = t ∧ result.publishedUrl = "") +
        (entries.countP fun entry => entry.1.targetUrl = t ∧ entry.1.publishedUrl ≠ "" ∧
          verdictOf entry.2 ∈ deadVerdicts) =
      failuresIn t (entries.map attemptOf) := by
  unfold failuresIn
  induction entries with
  | nil => rfl
  | cons entry entries ih =>
    rw [List.map_cons, List.map_cons, List.countP_cons, List.countP_cons, List.countP_cons, ← ih]
    by_cases own : entry.1.targetUrl = t
    · by_cases published : entry.1.publishedUrl = ""
      · simp [own, published, attemptOf, Attempt.failed]
        omega
      · by_cases dead : verdictOf entry.2 ∈ deadVerdicts <;>
          simp [own, published, dead, attemptOf, Attempt.failed]
        omega
    · simp [own, attemptOf]

theorem attempts_republish {inputs : CycleInputs} {seeds : List Seed} (stage : Stage)
    (known : ∀ seed ∈ seeds, seed.targetUrl ≠ "" ∧ seed.platform ≠ "") :
    attempts (republish inputs seeds stage).state t =
      attempts stage.state t + failuresIn t ((inputs.results seeds).map attemptOf) := by
  have named : ∀ result ∈ (inputs.results seeds).map Prod.fst,
      result.targetUrl ≠ "" ∧ result.platform ≠ "" := by
    intro result hresult
    have ⟨entry, hentry, first⟩ := List.mem_map.1 hresult
    have ⟨⟨seed, i⟩, hseed, same⟩ := List.mem_map.1 hentry
    rw [← first, ← same]
    exact known seed (List.fst_mem_of_mem_zipIdx hseed)
  have published := attempts_runPublishStep t _ stage named
  have reverified := attempts_runReverifyStep t (inputs.results seeds)
    (runPublishStep ((inputs.results seeds).map Prod.fst) stage)
  have failures := failuresIn_attempts t (inputs.results seeds)
  unfold republish
  rw [reverified, published]
  omega

end Stages

section Cycles
variable {urls : Urls} {limit : ℕ} {inputs : CycleInputs} {state : RunState}

theorem mem_takeSlice {α : Type} {n : ℤ} {seeds : List α} {seed : α}
    (h : seed ∈ takeSlice n seeds) : seed ∈ seeds := by
  unfold takeSlice at h
  split_ifs at h
  · exact List.mem_of_mem_take h
  · exact List.mem_of_mem_take h

theorem mem_capSeeds {maxGaps : Option ℤ} {seeds : List Seed} {seed : Seed}
    (h : seed ∈ capSeeds maxGaps seeds) : seed ∈ seeds := by
  cases maxGaps with
  | none => exact h
  | some n => exact mem_takeSlice h

/-- What a cycle does: it leaves the counters alone and publishes nothing, or it publishes seeds
of targets that are not exhausted. -/
theorem runCycle_cases (urls : Urls) (limit : ℕ) (inputs : CycleInputs) (state : RunState) :
    ((∀ t, attempts (runCycle urls limit inputs state).1 t = attempts state t) ∧
        attemptsOf (runCycle urls limit inputs state).2 = []) ∨
      ∃ seeds stage, (∀ seed ∈ seeds, seed.targetUrl ≠ "" ∧ seed.platform ≠ "" ∧
          attempts state seed.targetUrl < limit) ∧
        stage.state = state ∧
        (∀ t, attempts (runCycle urls limit inputs state).1 t =
          attempts (republish inputs seeds stage).state t) ∧
        attemptsOf (runCycle urls limit inputs state).2 =
          (inputs.results seeds).map attemptOf := by
  unfold runCycle
  by_cases busy : (!inputs.acquired) = true
  · rw [if_pos busy]
    exact .inl ⟨fun _ => rfl, rfl⟩
  rw [if_neg busy]
  dsimp only
  by_cases broken : inputs.effectiveSticky.isEmpty = true
  · rw [if_pos broken]
    exact .inl ⟨fun _ => rfl, rfl⟩
  rw [if_neg broken]
  cases planned : planKeepaliveGap urls inputs.perTargetStatus cycleOptions inputs.effectiveSticky
      inputs.rows with
  | none => exact .inl ⟨fun _ => rfl, rfl⟩
  | some plan =>
    have ⟨seedsRaw, gaps⟩ := plan
    dsimp only
    by_cases dry : inputs.dryRun = true
    · rw [if_pos dry]
      exact .inl ⟨fun _ => rfl, rfl⟩
    rw [if_neg dry]
    refine .inr ⟨_, _, ?_, ?_, fun _ => rfl, rfl⟩
    · intro seed hseed
      have ⟨raw, kept⟩ := List.mem_filter.1 (mem_capSeeds hseed)
      have ⟨filled, sticky⟩ := planKeepaliveGap_seeds planned seed raw
      have runtime := (List.mem_filter.1 sticky).1
      have named : seed.platform = "blogger" := List.mem_singleton.1 runtime
      refine ⟨filled, by rw [named]; decide, ?_⟩
      rw [isExhausted, Bool.not_eq_true', decide_eq_false_iff_not] at kept
      omega
    · rfl

/-- A cycle counts exactly the failures among its publishes. -/
theorem attempts_runCycle (urls : Urls) (limit : ℕ) (inputs : CycleInputs) (state : RunState)
    (t : String) :
    attempts (runCycle urls limit inputs state).1 t =
      attempts state t + failuresIn t (attemptsOf (runCycle urls limit inputs state).2) := by
  rcases runCycle_cases urls limit inputs state with ⟨same, nothing⟩ | ⟨seeds, stage, known, start,
    after, published⟩
  · rw [same, nothing]
    rfl
  · rw [after, published, ← start]
    apply attempts_republish
    intro seed hseed
    exact ⟨(known seed hseed).1, (known seed hseed).2.1⟩

/-- A cycle publishes for a target only below the limit. -/
theorem lt_limit_of_mem {attempt : Attempt}
    (h : attempt ∈ attemptsOf (runCycle urls limit inputs state).2) :
    attempts state attempt.targetUrl < limit := by
  rcases runCycle_cases urls limit inputs state with ⟨_, nothing⟩ | ⟨seeds, stage, known, _, _,
    published⟩
  · rw [nothing] at h
    cases h
  · rw [published] at h
    have ⟨entry, hentry, same⟩ := List.mem_map.1 h
    have ⟨⟨seed, i⟩, hseed, hresult⟩ := List.mem_map.1 hentry
    rw [← same, ← hresult]
    exact (known seed (List.fst_mem_of_mem_zipIdx hseed)).2.2

theorem failuresIn_le (t : String) (made : List Attempt) : failuresIn t made ≤ publishesIn t made := by
  apply List.countP_mono_left
  intro attempt _ h
  rw [Bool.and_eq_true] at h
  exact h.1

end Cycles

/-! ## Runs -/

inductive Call where
  | cycle (inputs : CycleInputs)
  | reset (target : String)

inductive Event where
  | published (made : List Attempt)
  | reset (target : String)
  deriving DecidableEq, Repr

/-- The run state, and what the calls so far did. -/
structure History where
  state : RunState := {}
  events : List Event := []

def advance (urls : Urls) (setting : Option ℤ) (history : History) : Call → History
  | .cycle inputs =>
    let (state, cycleEnd) := runCycle urls (maxRetry setting) inputs history.state
    ⟨state, history.events ++ [.published (attemptsOf cycleEnd)]⟩
  | .reset target =>
    ⟨resetExhausted target history.state, history.events ++ [.reset target]⟩

def step (urls : Urls) (setting : Option ℤ) (history : History) (call : Call) : Option History :=
  some (advance urls setting history call)

section Counts
variable (t : String)

def failuresAfter (n : ℕ) : Event → ℕ
  | .published made => n + failuresIn t made
  | .reset target => if t = target then 0 else n

/-- The failures of the target since its last reset. -/
def failures (events : List Event) : ℕ := events.foldl (failuresAfter t) 0

def lastBatchAfter (n : ℕ) : Event → ℕ
  | .published made => if publishesIn t made = 0 then n else publishesIn t made
  | .reset target => if t = target then 0 else n

/-- The publishes for the target in the last cycle that made any, since its last reset. -/
def lastBatch (events : List Event) : ℕ := events.foldl (lastBatchAfter t) 0

theorem failures_concat (events : List Event) (event : Event) :
    failures t (events ++ [event]) = failuresAfter t (failures t events) event := by
  rw [failures, List.foldl_append]
  rfl

theorem lastBatch_concat (events : List Event) (event : Event) :
    lastBatch t (events ++ [event]) = lastBatchAfter t (lastBatch t events) event := by
  rw [lastBatch, List.foldl_append]
  rfl

def answered (n : ℕ) (attempt : Attempt) : ℕ :=
  if attempt.targetUrl ≠ t then n
  else if attempt.published && attempt.verdict = "alive" then 0
  else n + 1

def unansweredAfter (n : ℕ) : Event → ℕ
  | .published made => made.foldl (answered t) n
  | .reset target => if t = target then 0 else n

/-- The publishes for the target since its last reset and its last link found alive. -/
def unanswered (events : List Event) : ℕ := events.foldl (unansweredAfter t) 0

end Counts

theorem maxRetry_pos (setting : Option ℤ) : 0 < maxRetry setting := by
  unfold maxRetry
  cases setting with
  | none => decide
  | some n =>
    change 0 < (max 1 n).toNat
    have one : 1 ≤ max 1 n := le_max_left 1 n
    omega

/-- The counters are the failures, which pass the limit by no more than one batch. -/
def Accounted (setting : Option ℤ) (history : History) : Prop :=
  ∀ t, attempts history.state t = failures t history.events ∧
    failures t history.events ≤ maxRetry setting - 1 + lastBatch t history.events

section Runs
variable {urls : Urls} {setting : Option ℤ} {history history' : History}

theorem step_accounted {call : Call} (accounted : Accounted setting history)
    (h : step urls setting history call = some history') : Accounted setting history' := by
  intro t
  have ⟨counted, bounded⟩ := accounted t
  rw [← Option.some.inj h]
  cases call with
  | reset target =>
    change attempts (resetExhausted target history.state) t =
        failures t (history.events ++ [.reset target]) ∧
      failures t (history.events ++ [.reset target]) ≤
        maxRetry setting - 1 + lastBatch t (history.events ++ [.reset target])
    rw [attempts_resetExhausted, failures_concat, lastBatch_concat]
    change (if t = target then 0 else attempts history.state t) =
        (if t = target then 0 else failures t history.events) ∧
      (if t = target then 0 else failures t history.events) ≤
        maxRetry setting - 1 + if t = target then 0 else lastBatch t history.events
    split_ifs
    · omega
    · exact ⟨counted, bounded⟩
  | cycle inputs =>
    let made := attemptsOf (runCycle urls (maxRetry setting) inputs history.state).2
    have after := attempts_runCycle urls (maxRetry setting) inputs history.state t
    have few := failuresIn_le t made
    change attempts (runCycle urls (maxRetry setting) inputs history.state).1 t =
        failures t (history.events ++ [.published made]) ∧
      failures t (history.events ++ [.published made]) ≤
        maxRetry setting - 1 + lastBatch t (history.events ++ [.published made])
    rw [failures_concat, lastBatch_concat]
    change attempts (runCycle urls (maxRetry setting) inputs history.state).1 t =
        failures t history.events + failuresIn t made ∧
      failures t history.events + failuresIn t made ≤ maxRetry setting - 1 +
        if publishesIn t made = 0 then lastBatch t history.events else publishesIn t made
    refine ⟨by rw [after, counted], ?_⟩
    split_ifs with silent
    · omega
    · have below : attempts history.state t < maxRetry setting := by
        have ⟨attempt, hmem, own⟩ := List.countP_pos_iff.1 (Nat.pos_of_ne_zero silent)
        have own : attempt.targetUrl = t := of_decide_eq_true own
        rw [← own]
        exact lt_limit_of_mem hmem
      omega

/-- In every run of cycles and resets the retry counter of a target holds exactly its failures
since its last reset; a cycle publishes for the target only while they are fewer than
`MAX_RETRY`, so they pass it by less than the publishes of one cycle. -/
theorem retries_bounded (urls : Urls) (setting : Option ℤ) {history : History}
    (run : Reaches (step urls setting) (fun _ _ => True) {} history) (t : String) :
    attempts history.state t = failures t history.events ∧
      failures t history.events ≤ maxRetry setting - 1 + lastBatch t history.events ∧
      ∀ inputs attempt,
        attempt ∈ attemptsOf (runCycle urls (maxRetry setting) inputs history.state).2 →
        attempt.targetUrl = t → failures t history.events < maxRetry setting := by
  have start : Accounted setting {} := fun t => ⟨rfl, Nat.zero_le _⟩
  have ⟨counted, bounded⟩ := run.invariant start
    (fun history call history' accounted _ => step_accounted accounted) t
  refine ⟨counted, bounded, ?_⟩
  intro inputs attempt hmem own
  have below := lt_limit_of_mem hmem
  rw [own, counted] at below
  exact below

end Runs

/-! ## Runs that pass the limit -/

def plainUrls : Urls where
  hostname _ := some "site.example"
  canonicalizeUrl := some
  deriveMainDomain := some

def strippedTarget : String := "https://site.example/a"

/-- A cycle that finds `dead` stripped links, and whose republished links all get `verdict`. -/
def strippedCycle (dead : ℕ) (verdict : String) : CycleInputs where
  rows := [some strippedTarget]
  perTargetStatus _ :=
    some { counts := fun found => if found = "link_stripped" then dead else 0 }
  publish _ := .url "https://blog.example/p"
  reverify _ := some verdict

def historyOf (calls : List Call) : History := calls.foldl (advance plainUrls none) {}

theorem reaches_foldl {ok : History → Call → Prop} (start : History) {calls : List Call}
    (allowed : ∀ call ∈ calls, ∀ history, ok history call) :
    Reaches (step plainUrls none) ok start (calls.foldl (advance plainUrls none) start) := by
  induction calls generalizing start with
  | nil => exact .refl
  | cons call calls ih =>
    have rest := ih (advance plainUrls none start call) fun other hother =>
      allowed other (List.mem_cons_of_mem _ hother)
    exact Relation.ReflTransGen.head ⟨call, allowed call List.mem_cons_self start, rfl⟩ rest

theorem retries_bounded_stripped :
    let history := historyOf [.cycle (strippedCycle 4 "link_stripped"),
      .cycle (strippedCycle 4 "link_stripped")]
    failures strippedTarget history.events ≤ 2 + lastBatch strippedTarget history.events :=
  (retries_bounded plainUrls none (reaches_foldl {} fun _ _ _ => trivial) strippedTarget).2.1

/-- Four dead links of a target are republished in one cycle, and links that no reverification
settles are republished without end. -/
theorem publishes_pass_the_limit :
    (¬ ∀ history, Reaches (step plainUrls none) (fun _ _ => True) {} history →
      ∀ t, unanswered t history.events ≤ maxRetry none) ∧
    ¬ ∀ history, Reaches (step plainUrls none)
        (fun _ call => call = .cycle (strippedCycle 1 "probe_error")) {} history →
      ∀ t, unanswered t history.events ≤ maxRetry none := by
  constructor
  · intro bounded
    have run : Reaches (step plainUrls none) (fun _ _ => True) {}
        (historyOf [.cycle (strippedCycle 4 "link_stripped")]) :=
      reaches_foldl {} fun _ _ _ => trivial
    exact absurd (bounded _ run strippedTarget) (by decide)
  · intro bounded
    have run : Reaches (step plainUrls none)
        (fun _ call => call = .cycle (strippedCycle 1 "probe_error")) {}
        (historyOf (List.replicate 4 (.cycle (strippedCycle 1 "probe_error")))) :=
      reaches_foldl {} fun call hcall _ => List.eq_of_mem_replicate hcall
    exact absurd (bounded _ run strippedTarget) (by decide)

end BacklinkPublisher.KeepaliveRuns
