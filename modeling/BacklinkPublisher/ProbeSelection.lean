import BacklinkPublisher.CitationEvents
import BacklinkPublisher.KeyedMaxima
import BacklinkPublisher.RevisitWindows
import BacklinkPublisher.SortedLists
import Mathlib.Data.Int.ConditionallyCompleteOrder
import Mathlib.Order.ConditionallyCompleteLattice.Basic
import Mathlib.Order.Lattice

set_option autoImplicit false

/-!
# The pairs to probe

`geo/selection.py`: which (target, query) pairs a run probes, from the citation events that the runs
before it have left. Times are instants in microseconds; numbers are exact.
-/
namespace BacklinkPublisher.ProbeSelection
open CitationEvents JsonValues KeyedMaxima OrderedDicts RevisitWindows SortedLists

/-- A target and a query. -/
abbrev Pair := String × String

/-! ## The corpus -/

/-- `_build_corpus`. -/
def buildCorpus (targetProbeQueries : List (String × List String)) : List Pair :=
  targetProbeQueries.flatMap fun (domain, queries) =>
    let targetUrl := if "http".toList.isPrefixOf domain.toList then domain else "https://" ++ domain
    (queries.filter fun query => query ≠ "").map fun query => (targetUrl, query)

/-- A last probe of a pair. -/
structure LastProbe where
  key : Pair
  ts : ℤ
  deriving DecidableEq, Repr

inductive RowOutcome where
  | skipped
  | probe (last : LastProbe)
  | raised

/-- What `_build_last_probed_map` takes of a row; it raises where the payload is no object. -/
def probeOf (row : CitationRow) : RowOutcome :=
  match row.targetUrl, row.tsUtc, row.payload with
  | some targetUrl, some ts, some payload =>
    if targetUrl = "" then .skipped
    else
      match payload.asObject with
      | none => .raised
      | some fields =>
        match get "query" fields with
        | some (.text query) => .probe ⟨(targetUrl, query), ts⟩
        | _ => .probe ⟨(targetUrl, ""), ts⟩
  | some _, some _, none => .skipped
  | some _, none, _ => .skipped
  | none, _, _ => .skipped

/-- One row into `last`, which keeps the newest time of each key. -/
def noteProbe (last : List LastProbe) (row : CitationRow) : Option (List LastProbe) :=
  match probeOf row with
  | .skipped => some last
  | .probe fresh =>
    some (keepNewer LastProbe.key (fun fresh old => decide (old.ts < fresh.ts)) fresh last)
  | .raised => none

/-- `_build_last_probed_map`. -/
def lastProbedMap (rows : List CitationRow) : Option (List LastProbe) := rows.foldlM noteProbe []

structure ProbeCandidate where
  targetUrl : String
  query : String
  /-- `none` where the pair was never probed. -/
  lastProbedAt : Option ℤ
  deriving DecidableEq, Repr

def ProbeCandidate.pair (candidate : ProbeCandidate) : Pair :=
  (candidate.targetUrl, candidate.query)

/-- `staleness_days`, `none` for infinity. -/
def ProbeCandidate.stalenessDays (now : ℤ) (candidate : ProbeCandidate) : Option ℚ :=
  candidate.lastProbedAt.map fun ts => (now - ts : ℤ) / microsecondsOfDay

structure SelectionResult where
  candidates : List ProbeCandidate
  starvationRisk : Bool
  totalPairs : ℕ
  coverageCapacity : ℕ
  deriving DecidableEq, Repr

/-- `datetime.min`, in microseconds since 1970. -/
def neverProbedTs : ℤ := -62135596800000000

/-- The candidate that a pair is, with its sort key, where it is eligible. -/
def eligible (last : List LastProbe) (now : ℤ) (staleDays : ℕ) (pair : Pair) :
    Option (ℤ × ProbeCandidate) :=
  match lookup LastProbe.key pair last with
  | none => some (neverProbedTs, ⟨pair.1, pair.2, none⟩)
  | some probe =>
    if staleDays * microsecondsOfDay < now - probe.ts then
      some (probe.ts, ⟨pair.1, pair.2, some probe.ts⟩)
    else none

/-- The most days of a `timedelta`. -/
def maxDays : ℕ := 999999999

/-- `select_pairs`, `none` where it raises. -/
def selectPairs (allPairs : List Pair) (rows : List CitationRow) (staleDays maxPairs : ℕ)
    (now : ℤ) : Option SelectionResult := do
  let last ← lastProbedMap rows
  if maxDays < staleDays then none
  else
    let scored := sortedBy Prod.fst (allPairs.filterMap (eligible last now staleDays))
    some {
      candidates := (scored.take maxPairs).map Prod.snd
      starvationRisk := decide (maxPairs * staleDays < allPairs.length)
      totalPairs := allPairs.length
      coverageCapacity := maxPairs * staleDays }

/-! ## Runs -/

/-- A run a day, and what the engine answers to it. -/
structure Cadence where
  start : ℤ
  runId : ℕ → String
  verdict : ℕ → ProbeCandidate → VerdictResult

def Cadence.at (cadence : Cadence) (run : ℕ) : ℤ := cadence.start + run * microsecondsOfDay

/-- The rows of a run that records every pair that it selected. -/
def Cadence.record (cadence : Cadence) (run : ℕ) (candidates : List ProbeCandidate) :
    List CitationRow :=
  candidates.map fun candidate =>
    observed (cadence.at run) (cadence.runId run) candidate.targetUrl
      { cadence.verdict run candidate with query := candidate.query }

/-- The event log before a run. -/
def eventsBefore (cadence : Cadence) (corpus : List Pair) (staleDays maxPairs : ℕ) :
    ℕ → Option (List CitationRow)
  | 0 => some []
  | run + 1 => do
    let rows ← eventsBefore cadence corpus staleDays maxPairs run
    let selection ← selectPairs corpus rows staleDays maxPairs (cadence.at run)
    some (rows ++ cadence.record run selection.candidates)

def selectionOf (cadence : Cadence) (corpus : List Pair) (staleDays maxPairs : ℕ) (run : ℕ) :
    Option SelectionResult :=
  (eventsBefore cadence corpus staleDays maxPairs run).bind fun rows =>
    selectPairs corpus rows staleDays maxPairs (cadence.at run)

/-- The pairs that a run probes. -/
def probed (cadence : Cadence) (corpus : List Pair) (staleDays maxPairs run : ℕ) : List Pair :=
  match selectionOf cadence corpus staleDays maxPairs run with
  | none => []
  | some selection => selection.candidates.map ProbeCandidate.pair

/-! ## The map of last probes -/

/-- The last probes that rows of probes leave. -/
def newest (probes : List LastProbe) : List LastProbe :=
  probes.foldl (fun values fresh =>
    keepNewer LastProbe.key (fun fresh old => decide (old.ts < fresh.ts)) fresh values) []

section Chosen

variable {allPairs : List Pair} {last : List LastProbe} {staleDays maxPairs : ℕ} {now : ℤ}

end Chosen

section Runs

variable {cadence : Cadence} {corpus : List Pair} {staleDays maxPairs : ℕ}

end Runs

/-- Three pairs, two of them a day. -/
def threePairs : List Pair := buildCorpus [("a.example", ["q", "r"]), ("https://b.example", ["q"])]

end BacklinkPublisher.ProbeSelection
