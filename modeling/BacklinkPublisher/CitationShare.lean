import BacklinkPublisher.FirstPerKey
import BacklinkPublisher.OutputSchema
import Mathlib.Order.OrderDual

set_option autoImplicit false

/-!
# The share of citations

`compute_share` of `geo/share.py` for every log of citation events. Its module promises that
delivery at least once does not inflate the counts.
-/
namespace BacklinkPublisher.CitationShare
open FirstPerKey JsonValues OutputSchema SortedLists

/-- What `json.loads` makes of a text: a value, a `JSONDecodeError`, or another exception. -/
inductive Loaded where
  | value (payload : Json)
  | invalid
  | raised

/-- A row of `events` whose kind is `citation.observed`. -/
structure Event where
  targetUrl : Option String
  payloadJson : Loaded
  tsUtc : String
  runId : Option String

/-- `str` of a value that is no text, `none` where it raises, and `round(a / b, 6)`. -/
structure Host where
  str : Json → Option String
  rate : ℕ → ℕ → ℚ

structure Settings where
  window : ℤ := 10
  minSample : ℤ := 5
  lowConfidenceThreshold : ℤ := 10

inductive ShareState where
  | neverProbed
  | warmingUp
  | measured
  | excluded
  deriving DecidableEq, Repr

structure TargetShare where
  targetUrl : String
  state : ShareState
  share : Option ℚ
  n : ℕ
  refusedRate : ℚ
  unresolvedRate : ℚ
  lowConfidence : Bool
  windowDays : ℤ
  deriving DecidableEq, Repr

/-- A share without a sample. -/
def unsampled (settings : Settings) (targetUrl : String) (state : ShareState) : TargetShare where
  targetUrl
  state
  share := none
  n := 0
  refusedRate := 0
  unresolvedRate := 0
  lowConfidence := false
  windowDays := settings.window

/-! ## The events of a target -/

/-- The newest first, and of those of one time the one that was written last: the index on kind and
time is read backwards. -/
def queryRows (targetUrl : String) (events : List Event) : List Event :=
  sortedBy (fun event => OrderDual.toDual event.tsUtc)
    (events.filter fun event => event.targetUrl = some targetUrl).reverse

section Keys
variable (host : Host)

def Host.format : Json → Option String
  | .text s => some s
  | value => host.str value

/-- `payload.get("query") or ""`, as a text. -/
def queryOf (payload : Fields) : Option String :=
  match get "query" payload with
  | none => some ""
  | some query => if query.truthy then host.format query else some ""

/-- The run of the payload, or else that of the column; a run that is empty is none. -/
def runIdOf (payload : Fields) (column : Option String) : Option (Option String) :=
  match get "run_id" payload with
  | none => some (column.filter fun runId => runId ≠ "")
  | some runId =>
    if runId.truthy then (host.format runId).map some
    else some (column.filter fun runId => runId ≠ "")

def rowSentinel (counter : ℕ) : String := "__row_" ++ counter.repr ++ "__"

def dedupKey (query runId : String) : String := query ++ "\x1f" ++ runId

/-- The loop over the rows: the payloads whose keys come for the first time. -/
def dedupRows : ℕ → List String → List Event → Option (List Fields)
  | _, _, [] => some []
  | counter, seen, row :: rows =>
    match row.payloadJson with
    | .raised => none
    | .invalid => dedupRows (counter + 1) seen rows
    | .value payload =>
      match payload.asObject with
      | none => none
      | some fields => do
        let query ← queryOf host fields
        let runId ← runIdOf host fields row.runId
        let key := dedupKey query (runId.getD (rowSentinel (counter + 1)))
        if key ∈ seen then dedupRows (counter + 1) seen rows
        else (dedupRows (counter + 1) (key :: seen) rows).map fun payloads => fields :: payloads

end Keys

/-! ## The window -/

/-- How many entries `entries[:window]` has room for. -/
def windowSize (window : ℤ) (length : ℕ) : ℕ :=
  if 0 ≤ window then window.toNat else (length + window).toNat

inductive Tally where
  | cited
  | absent
  | refused
  | unknown
  deriving DecidableEq, Repr

/-- The side that a verdict counts on; one that cannot be hashed raises. -/
def tallyOf (payload : Fields) : Option Tally :=
  let verdict := (get "verdict" payload).getD (.text "")
  if hashable verdict = false then none
  else if isOneOf ["site_cited", "article_cited"] verdict then some .cited
  else if isOneOf ["absent"] verdict then some .absent
  else if isOneOf ["refused"] verdict then some .refused
  else some .unknown

def countUnresolved (payload : Fields) : ℕ :=
  match get "possibly_cited_unresolved" payload with
  | some (.array (_ :: _)) => 1
  | _ => 0

structure Counts where
  cited : ℕ := 0
  absent : ℕ := 0
  refused : ℕ := 0
  unresolved : ℕ := 0
  deriving DecidableEq, Repr

def Counts.add (counts : Counts) (tally : Tally) (unresolved : ℕ) : Counts where
  cited := counts.cited + if tally = .cited then 1 else 0
  absent := counts.absent + if tally = .absent then 1 else 0
  refused := counts.refused + if tally = .refused then 1 else 0
  unresolved := counts.unresolved + unresolved

def countProbe (counts : Counts) (payload : Fields) : Option Counts :=
  (tallyOf payload).map fun tally => counts.add tally (countUnresolved payload)

/-- The share of what was counted in a window of this many probes; no probe on either side and no
floor is a division by zero. -/
def shareOf (host : Host) (settings : Settings) (targetUrl : String) (total : ℕ)
    (counts : Counts) : Option TargetShare :=
  let denominator := counts.cited + counts.absent
  let refusedRate := host.rate counts.refused total
  let unresolvedRate := host.rate counts.unresolved total
  let windowDays := settings.window
  if (denominator : ℤ) < settings.minSample then
    some { targetUrl, state := .warmingUp, share := none, n := denominator, refusedRate,
           unresolvedRate, lowConfidence := false, windowDays }
  else if denominator = 0 then none
  else
    some { targetUrl, state := .measured, share := some (host.rate counts.cited denominator),
           n := denominator, refusedRate, unresolvedRate,
           lowConfidence := decide ((denominator : ℤ) < settings.lowConfidenceThreshold),
           windowDays }

def measure (host : Host) (settings : Settings) (targetUrl : String) (windowed : List Fields) :
    Option TargetShare :=
  if windowed.length = 0 then some (unsampled settings targetUrl .neverProbed)
  else (windowed.foldlM countProbe {}).bind (shareOf host settings targetUrl windowed.length)

def computeShare (host : Host) (settings : Settings) (excludedTargets : List String)
    (targetUrl : String) (events : List Event) : Option TargetShare :=
  if targetUrl ∈ excludedTargets then some (unsampled settings targetUrl .excluded)
  else
    let rows := queryRows targetUrl events
    if rows.length = 0 then some (unsampled settings targetUrl .neverProbed)
    else
      (dedupRows host 0 [] rows).bind fun deduped =>
        measure host settings targetUrl (deduped.take (windowSize settings.window deduped.length))

/-! ## What is asked of it -/

/-- The event has a run. -/
def CarriesRun (event : Event) : Prop :=
  (∃ column, event.runId = some column ∧ column ≠ "") ∨
    ∃ payload runId, event.payloadJson = .value (.object payload) ∧
      get "run_id" payload = some runId ∧ runId.truthy = true

/-- A share comes out, only a measured one has a value, and an event that is delivered again, at
whatever time, changes nothing. -/
structure Sound (host : Host) (settings : Settings) (excludedTargets : List String)
    (targetUrl : String) (events : List Event) : Prop where
  returns : ∃ share, computeShare host settings excludedTargets targetUrl events = some share
  honest : ∀ share, computeShare host settings excludedTargets targetUrl events = some share →
    share.state ≠ .measured → share.share = none
  redelivered : ∀ event ∈ events, event.targetUrl = some targetUrl → CarriesRun event →
    ∀ tsUtc,
      computeShare host settings excludedTargets targetUrl (events ++ [{ event with tsUtc }]) =
        computeShare host settings excludedTargets targetUrl events

/-! ## When it is so -/

/-- A row that is read. -/
structure Probe where
  /-- `none` without a run. -/
  key : Option String
  payload : Fields

section Condition
variable (host : Host) (settings : Settings) (targetUrl : String)

def carriedKey (payload : Fields) (column : Option String) : Option String := do
  let query ← queryOf host payload
  let runId ← runIdOf host payload column
  runId.map (dedupKey query)

def probeOf (event : Event) : Option Probe :=
  match event.payloadJson with
  | .value (.object payload) => some ⟨carriedKey host payload event.runId, payload⟩
  | _ => none

def probesOf (rows : List Event) : List Probe := rows.filterMap (probeOf host)

/-- A payload that is no JSON, or an object with a query and a run that can be written as texts. -/
def Readable (event : Event) : Prop :=
  match event.payloadJson with
  | .invalid => True
  | .value (.object payload) =>
    (queryOf host payload).isSome = true ∧ (runIdOf host payload event.runId).isSome = true
  | _ => False

/-- No run is written like the sentinel of a row without one. -/
def Unmistakable (events : List Event) : Prop :=
  ∀ event ∈ events, event.targetUrl = some targetUrl → ∀ probe, probeOf host event = some probe →
    ∀ query counter, probe.key ≠ some (dedupKey query (rowSentinel counter))

def windowOf (probes : List Probe) : List Probe :=
  (distinct Probe.key probes).take
    (windowSize settings.window (distinct Probe.key probes).length)

/-- The probes in the window. -/
def windowed (events : List Event) : List Probe :=
  windowOf settings (probesOf host (queryRows targetUrl events))

/-- The rows in front of those of a time. -/
def newerRows (tsUtc : String) (events : List Event) : List Event :=
  (queryRows targetUrl events).takeWhile fun row => tsUtc < row.tsUtc

def countsOf (probes : List Probe) : Option Counts :=
  (probes.map Probe.payload).foldlM countProbe {}

/-- Two counts of as many probes that lead to one share. -/
structure Alike (total : ℕ) (a b : Counts) : Prop where
  sample : a.cited + a.absent = b.cited + b.absent
  refused : host.rate a.refused total = host.rate b.refused total
  unresolved : host.rate a.unresolved total = host.rate b.unresolved total
  share : ((a.cited + a.absent : ℕ) : ℤ) < settings.minSample ∨
    host.rate a.cited (a.cited + a.absent) = host.rate b.cited (b.cited + b.absent)

/-- A newer row has the key, or newer probes fill the window, or the probe counts like the one that
leaves the window for it. -/
def Harmless (events : List Event) (probe : Probe) (key tsUtc : String) : Prop :=
  key ∈ (probesOf host (newerRows targetUrl tsUtc events)).filterMap Probe.key ∨
    windowSize settings.window
        (distinct Probe.key (probesOf host (queryRows targetUrl events))).length ≤
      (distinct Probe.key (probesOf host (newerRows targetUrl tsUtc events))).length ∨
    ∃ counts counts', countsOf (windowed host settings targetUrl events) = some counts ∧
      countsOf (probe :: makeRoom Probe.key key (windowed host settings targetUrl events)) =
        some counts' ∧
      Alike host settings (windowed host settings targetUrl events).length counts' counts

/-- Every row can be read and every verdict in the window hashed, there is a floor or a probe that
counts, and no event of the log does harm when it is delivered again. -/
structure Covered (events : List Event) : Prop where
  readable : ∀ event ∈ events, event.targetUrl = some targetUrl → Readable host event
  hashable : ∀ probe ∈ windowed host settings targetUrl events, (tallyOf probe.payload).isSome
  sampled : 0 < settings.minSample ∨ windowed host settings targetUrl events = [] ∨
    ∃ probe ∈ windowed host settings targetUrl events,
      tallyOf probe.payload = some .cited ∨ tallyOf probe.payload = some .absent
  harmless : ∀ event ∈ events, event.targetUrl = some targetUrl → ∀ probe key,
    probeOf host event = some probe → probe.key = some key → ∀ tsUtc,
      Harmless host settings targetUrl events probe key tsUtc

end Condition

/-! ## The order of the rows -/

variable {host : Host} {settings : Settings} {targetUrl : String} {events rows : List Event}

theorem Counts.add_comm (counts : Counts) (tally other : Tally) (m n : ℕ) :
    (counts.add tally m).add other n = (counts.add other n).add tally m := by
  unfold Counts.add
  dsimp only
  congr 1 <;> omega

variable {excludedTargets : List String}

theorem Unmistakable.append {event : Event} (clear : Unmistakable host targetUrl events)
    (member : event ∈ events) (tsUtc : String) :
    Unmistakable host targetUrl (events ++ [{ event with tsUtc }]) := by
  intro other among own probe read
  rcases List.mem_append.1 among with old | new
  · exact clear other old own probe read
  · rw [List.mem_singleton.1 new] at own read
    exact clear event member own probe read

/-- A probe of one query. -/
def probed (runId verdict tsUtc : String) : Event where
  targetUrl := some "https://a.com"
  payloadJson := .value (.object [("query", .text "q"), ("verdict", .text verdict)])
  tsUtc
  runId := some runId

end BacklinkPublisher.CitationShare
