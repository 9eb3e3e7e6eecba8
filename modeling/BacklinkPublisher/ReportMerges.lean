import BacklinkPublisher.OrderedDicts
import BacklinkPublisher.TransitionSystems
import Mathlib.Algebra.BigOperators.Group.List.Basic
import Mathlib.Data.List.Nodup
import Mathlib.Order.Defs.LinearOrder
import Mathlib.Tactic.Common

set_option autoImplicit false

/-!
# Reports of one error

`create_error_report` of `api/v1/error_reports.py` in requests that run at the same time, each call
of the store as one step. A request looks for a report of its fingerprint first and adds one later.
-/
namespace BacklinkPublisher.ReportMerges
open OrderedDicts TransitionSystems

/-! ## The store -/

inductive Status where
  | open_
  | acknowledged
  | resolved
  deriving DecidableEq, Repr

/-- A time is the text of `_now_iso`; the texts are compared. -/
structure Report (Time : Type) where
  id : String
  status : Status
  occurrences : ℕ
  createdAt : Time
  updatedAt : Time
  lastSeenAt : Time
  deriving DecidableEq

/-- The columns and what is in `data_json`. An empty fingerprint is none. -/
structure Row (Time : Type) where
  fingerprint : String
  columns : Report Time
  data : Report Time
  deriving DecidableEq

section Store
variable {Time : Type}

def Row.id (row : Row Time) : String := row.columns.id

def ids (rows : List (Row Time)) : List String := rows.map Row.id

def ofFingerprint (fingerprint : String) (rows : List (Row Time)) : List (Row Time) :=
  rows.filter (·.fingerprint = fingerprint)

def add (id : String) (now : Time) (fingerprint : String) (rows : List (Row Time)) :
    List (Row Time) :=
  let report :=
    { id := id, status := .open_, occurrences := 1, createdAt := now, updatedAt := now,
      lastSeenAt := now }
  rows ++ [⟨fingerprint, report, report⟩]

def withStatus (status : Status) (now : Time) (row : Row Time) : Row Time :=
  { row with
    columns := { row.columns with status := status, updatedAt := now }
    data := { row.data with status := status, updatedAt := now } }

def updateStatus (id : String) (status : Status) (now : Time) (rows : List (Row Time)) :
    List (Row Time) :=
  adjust Row.id id (withStatus status now) rows

def bumped (now : Time) (row : Row Time) : Row Time :=
  let count := row.columns.occurrences + 1
  { row with
    columns := { row.columns with occurrences := count, lastSeenAt := now }
    data := { row.data with occurrences := count, lastSeenAt := now } }

/-- The rows, and whether there is one of that id. -/
def incrementOccurrence (id : String) (now : Time) (rows : List (Row Time)) :
    List (Row Time) × Bool :=
  (adjust Row.id id (bumped now) rows, id ∈ ids rows)

def get (id : String) (rows : List (Row Time)) : Option (Report Time) :=
  (lookup Row.id id rows).map Row.data

/-- What the store finds; `none` where it cannot answer with that row. Of rows that were created at
the same time it may find any. -/
def findByFingerprint [LinearOrder Time] (fingerprint : String) (answer : Option String)
    (rows : List (Row Time)) : Option (Option (Report Time)) :=
  let same := ofFingerprint fingerprint rows
  match answer with
  | none => if same = [] then some none else none
  | some id =>
    (same.find? fun row => row.id = id &&
      same.all fun other => other.columns.createdAt ≤ row.columns.createdAt).map fun row =>
        some row.data

end Store

/-! ## Requests -/

/-- Where a request is. -/
inductive Pc (Time : Type) where
  | find
  | increment (existing : Report Time)
  | get (existing : Report Time)
  | add
  | done (id : String) (occurrences : Option ℕ)

structure Request (Time : Type) where
  fingerprint : String
  pc : Pc Time
  /-- The rows that were resolved when the request began. -/
  resolvedBefore : List String
  /-- The rows that were there when the request looked. -/
  known : List String := []
  /-- What the request has added to the occurrences of its fingerprint. -/
  added : ℤ := 0
  /-- The rows that have gained an occurrence from the request. -/
  gained : List String := []

inductive Call (Time : Type) where
  | find (answer : Option String)
  | increment (now : Time)
  | get
  | add (id : String) (now : Time)

section Requests
variable {Time : Type}

def isResolved (row : Row Time) : Bool := row.columns.status = .resolved

/-- A report without a `reportId` or a fingerprint is not merged. -/
def begin_ (reportId : Bool) (fingerprint : String) (rows : List (Row Time)) : Request Time where
  fingerprint := fingerprint
  pc := if reportId && fingerprint ≠ "" then .find else .add
  resolvedBefore := ids (rows.filter isResolved)

def afterFind : Option (Report Time) → Pc Time
  | none => .add
  | some existing => if existing.status ≠ .resolved then .increment existing else .add

/-- The next call of a request to the store. -/
def perform [LinearOrder Time] (rows : List (Row Time)) (request : Request Time) :
    Call Time → Option (List (Row Time) × Request Time)
  | .find answer =>
    match request.pc with
    | .find =>
      (findByFingerprint request.fingerprint answer rows).map fun existing =>
        (rows, { request with known := ids rows, pc := afterFind existing })
    | _ => none
  | .increment now =>
    match request.pc with
    | .increment existing =>
      let (rows, found) := incrementOccurrence existing.id now rows
      some (rows, { request with pc := if found then .get existing else .add })
    | _ => none
  | .get =>
    match request.pc with
    | .get existing =>
      let updated := (get existing.id rows).getD existing
      some (rows, { request with pc := .done existing.id (some updated.occurrences) })
    | _ => none
  | .add id now =>
    match request.pc with
    | .add =>
      if id ∈ ids rows then none
      else some (add id now request.fingerprint rows, { request with pc := .done id none })
    | _ => none

def total (fingerprint : String) (rows : List (Row Time)) : ℕ :=
  ((ofFingerprint fingerprint rows).map fun row => row.columns.occurrences).sum

def occurrencesAt (id : String) (rows : List (Row Time)) : ℕ :=
  (lookup Row.id id rows).elim 0 fun row => row.columns.occurrences

/-- The rows that have more occurrences than before. -/
def gains (before after : List (Row Time)) : List String :=
  ids (after.filter fun row => occurrencesAt row.id before < row.columns.occurrences)

/-- What a call of a request has done to the rows. -/
def account (before after : List (Row Time)) (request : Request Time) : Request Time :=
  { request with
    added := request.added + (total request.fingerprint after - total request.fingerprint before)
    gained := request.gained ++ gains before after }

end Requests

/-! ## Interleavings -/

structure System (Time : Type) where
  rows : List (Row Time) := []
  requests : List (Request Time) := []

inductive Label (Time : Type) where
  | begin_ (reportId : Bool) (fingerprint : String)
  | call (r : ℕ) (call : Call Time)
  | updateStatus (id : String) (status : Status) (now : Time)

section Systems
variable {Time : Type}

def step [LinearOrder Time] (s : System Time) : Label Time → Option (System Time)
  | .begin_ reportId fingerprint =>
    some { s with requests := s.requests ++ [begin_ reportId fingerprint s.rows] }
  | .call r call => do
    let request ← s.requests[r]?
    let (rows, request) ← perform s.rows request call
    some { rows := rows, requests := s.requests.set r (account s.rows rows request) }
  | .updateStatus id status now => some { s with rows := updateStatus id status now s.rows }

def start : System Time := {}

/-- Requests with a `reportId` and a fingerprint, and rows that are resolved. -/
def inScope : Label Time → Bool
  | .begin_ reportId fingerprint => reportId && fingerprint ≠ ""
  | .call _ _ => true
  | .updateStatus _ status _ => status = .resolved

/-- A row is added when those of the fingerprint that were added since the request has looked are
resolved, and when all of them were created before. -/
def timely [LinearOrder Time] (s : System Time) : Label Time → Bool
  | .call r (.add _ now) =>
    match s.requests[r]? with
    | none => true
    | some request =>
      (ofFingerprint request.fingerprint s.rows).all fun row =>
        (row.id ∈ request.known || isResolved row) && row.columns.createdAt < now
  | _ => true

def Request.finished (request : Request Time) : Bool :=
  match request.pc with
  | .done _ _ => true
  | _ => false

def openRows (fingerprint : String) (rows : List (Row Time)) : List (Row Time) :=
  (ofFingerprint fingerprint rows).filter (!isResolved ·)

/-- What each request has done. -/
structure Counted (s : System Time) : Prop where
  once : ∀ request ∈ s.requests, request.finished = true → request.added = 1
  spared : ∀ request ∈ s.requests, ∀ id ∈ request.gained, id ∉ request.resolvedBefore

structure Merged (s : System Time) : Prop extends Counted s where
  oneOpen : ∀ fingerprint, fingerprint ≠ "" → (openRows fingerprint s.rows).length ≤ 1

end Systems

/-! ## Rows -/

section Rows
variable {Time : Type} {rows : List (Row Time)} {id : String} {f : Row Time → Row Time}

def countFor (fingerprint : String) (row : Row Time) : ℕ :=
  if row.fingerprint = fingerprint then row.columns.occurrences else 0

theorem total_eq (fingerprint : String) (rows : List (Row Time)) :
    total fingerprint rows = (rows.map (countFor fingerprint)).sum := by
  unfold total ofFingerprint
  induction rows with
  | nil => rfl
  | cons row rows ih =>
    rw [List.map_cons, List.sum_cons, ← ih]
    by_cases same : row.fingerprint = fingerprint
    · simp [countFor, same]
    · simp [countFor, same]

/-- The row counts once more for its fingerprint. -/
theorem total_bumped {now : Time} (unique : (ids rows).Nodup) {row : Row Time}
    (member : row ∈ rows) : total row.fingerprint (adjust Row.id row.id (bumped now) rows) =
      total row.fingerprint rows + 1 := by
  rw [total_eq, total_eq]
  refine sum_adjust_of unique (List.mem_map_of_mem member) _ 1 fun held inside same => ?_
  have one : held = row := List.inj_on_of_nodup_map unique inside member same
  rw [one]
  unfold countFor
  rw [if_pos rfl, if_pos (show (bumped now row).fingerprint = row.fingerprint from rfl)]
  rfl

theorem total_add (id : String) (now : Time) (fingerprint : String) (rows : List (Row Time)) :
    total fingerprint (add id now fingerprint rows) = total fingerprint rows + 1 := by
  rw [total_eq, total_eq, add, List.map_append, List.sum_append]
  simp [countFor]

theorem mem_adjust_cases {row : Row Time} (member : row ∈ adjust Row.id id f rows) :
    row ∈ rows ∨ ∃ held ∈ rows, held.id = id ∧ row = f held := by
  obtain ⟨held, inside, ⟨here, value⟩ | ⟨-, value⟩⟩ := mem_adjust.1 member
  · exact .inr ⟨held, inside, here, value⟩
  · exact .inl (value ▸ inside)

/-- Only a row that is new or was changed gains an occurrence. -/
theorem exists_of_mem_gains {after : List (Row Time)} (unique : (ids rows).Nodup) {g : String}
    (gained : g ∈ gains rows after) : ∃ row ∈ after, row.id = g ∧ row ∉ rows := by
  obtain ⟨row, member, same⟩ := List.mem_map.1 gained
  have ⟨inside, more⟩ := List.mem_filter.1 member
  refine ⟨row, inside, same, fun held => ?_⟩
  have more := of_decide_eq_true more
  unfold occurrencesAt at more
  rw [lookup_of_mem unique held] at more
  exact Nat.lt_irrefl _ more

theorem gains_self (unique : (ids rows).Nodup) : gains rows rows = [] := by
  refine List.eq_nil_iff_forall_not_mem.2 fun g gained => ?_
  obtain ⟨row, inside, -, outside⟩ := exists_of_mem_gains unique gained
  exact outside inside

theorem eq_of_mem_gains_adjust (unique : (ids rows).Nodup) (kept : ∀ row, (f row).id = row.id)
    {g : String} (gained : g ∈ gains rows (adjust Row.id id f rows)) : g = id := by
  obtain ⟨row, inside, same, outside⟩ := exists_of_mem_gains unique gained
  rcases mem_adjust_cases inside with held | ⟨held, -, here, value⟩
  · exact absurd held outside
  · rw [← same, value, kept, here]

theorem eq_of_mem_gains_add (unique : (ids rows).Nodup) {now : Time} {fingerprint g : String}
    (gained : g ∈ gains rows (add id now fingerprint rows)) : g = id := by
  obtain ⟨row, inside, same, outside⟩ := exists_of_mem_gains unique gained
  rcases List.mem_append.1 inside with held | new
  · exact absurd held outside
  · rw [← same, List.mem_singleton.1 new]
    rfl

end Rows

/-! ## What calls keep of the rows -/

section Evolution
variable {Time : Type} {rows rows' : List (Row Time)}

structure Kept (row row' : Row Time) : Prop where
  id : row'.id = row.id
  fingerprint : row'.fingerprint = row.fingerprint
  createdAt : row'.columns.createdAt = row.columns.createdAt
  resolved : isResolved row = true → isResolved row' = true

theorem Kept.refl (row : Row Time) : Kept row row := ⟨rfl, rfl, rfl, fun resolved => resolved⟩

theorem Kept.unresolved {row row' : Row Time} (kept : Kept row row')
    (unresolved : isResolved row' = false) : isResolved row = false := by
  by_contra resolved
  have still := kept.resolved (eq_true_of_ne_false resolved)
  exact absurd (unresolved.symm.trans still) Bool.noConfusion

/-- No row is lost or opened again, and new rows have new ids. -/
structure Evolves (rows rows' : List (Row Time)) : Prop where
  kept : ∀ row ∈ rows, ∃ row' ∈ rows', Kept row row'
  origin : ∀ row' ∈ rows', (∃ row ∈ rows, Kept row row') ∨ row'.id ∉ ids rows

theorem Evolves.refl (rows : List (Row Time)) : Evolves rows rows :=
  ⟨fun row member => ⟨row, member, .refl row⟩, fun row member => .inl ⟨row, member, .refl row⟩⟩

theorem exists_of_mem_adjust {id : String} {f : Row Time → Row Time}
    (kept : ∀ row, Kept row (f row)) {row' : Row Time} (member : row' ∈ adjust Row.id id f rows) :
    ∃ row ∈ rows, Kept row row' := by
  rcases mem_adjust_cases member with held | ⟨held, inside, -, value⟩
  · exact ⟨row', held, .refl row'⟩
  · exact ⟨held, inside, value ▸ kept held⟩

theorem Evolves.adjust {f : Row Time → Row Time} (kept : ∀ row, Kept row (f row)) (id : String)
    (rows : List (Row Time)) : Evolves rows (adjust Row.id id f rows) := by
  refine ⟨fun row member => ?_, fun row' member => .inl (exists_of_mem_adjust kept member)⟩
  by_cases here : row.id = id
  · exact ⟨f row, mem_adjust.2 ⟨row, member, .inl ⟨here, rfl⟩⟩, kept row⟩
  · exact ⟨row, mem_adjust.2 ⟨row, member, .inr ⟨here, rfl⟩⟩, .refl row⟩

theorem Evolves.add {id : String} (fresh : id ∉ ids rows) (now : Time) (fingerprint : String) :
    Evolves rows (add id now fingerprint rows) := by
  refine ⟨fun row member => ⟨row, List.mem_append_left _ member, .refl row⟩, fun row' member => ?_⟩
  rcases List.mem_append.1 member with held | new
  · exact .inl ⟨row', held, .refl row'⟩
  · rw [List.mem_singleton.1 new]
    exact .inr fresh

theorem kept_bumped (now : Time) (row : Row Time) : Kept row (bumped now row) := ⟨rfl, rfl, rfl, id⟩

theorem kept_resolved (now : Time) (row : Row Time) : Kept row (withStatus .resolved now row) :=
  ⟨rfl, rfl, rfl, fun _ => rfl⟩

theorem mem_ids_of_evolves (evolves : Evolves rows rows') {id : String} (member : id ∈ ids rows) :
    id ∈ ids rows' := by
  obtain ⟨row, inside, same⟩ := List.mem_map.1 member
  obtain ⟨row', inside', kept⟩ := evolves.kept row inside
  exact List.mem_map.2 ⟨row', inside', kept.id.trans same⟩

/-- The ids are unique, and `data_json` says what the columns say. -/
structure Sane (rows : List (Row Time)) : Prop where
  unique : (ids rows).Nodup
  synced : ∀ row ∈ rows, row.data = row.columns

theorem Sane.adjust {f : Row Time → Row Time} (sane : Sane rows)
    (kept : ∀ row, Kept row (f row))
    (synced : ∀ row, row.data = row.columns → (f row).data = (f row).columns) (id : String) :
    Sane (adjust Row.id id f rows) := by
  refine ⟨?_, fun row member => ?_⟩
  · have same : ids (OrderedDicts.adjust Row.id id f rows) = ids rows :=
      keys_adjust fun row => (kept row).id
    rw [same]
    exact sane.unique
  · rcases mem_adjust_cases member with held | ⟨held, inside, -, value⟩
    · exact sane.synced row held
    · rw [value]
      exact synced held (sane.synced held inside)

theorem Sane.add (sane : Sane rows) {id : String} (fresh : id ∉ ids rows) (now : Time)
    (fingerprint : String) : Sane (add id now fingerprint rows) := by
  refine ⟨?_, fun row member => ?_⟩
  · have all : ids (ReportMerges.add id now fingerprint rows) = ids rows ++ [id] :=
      List.map_append
    rw [all]
    exact List.nodup_append.2 ⟨sane.unique, List.nodup_singleton _, fun x held y new same =>
      fresh (List.mem_singleton.1 new ▸ same ▸ held)⟩
  · rcases List.mem_append.1 member with held | new
    · exact sane.synced row held
    · rw [List.mem_singleton.1 new]

theorem Sane.bumped (sane : Sane rows) (id : String) (now : Time) :
    Sane (OrderedDicts.adjust Row.id id (bumped now) rows) := by
  refine sane.adjust (kept_bumped now) (fun row synced => ?_) id
  unfold ReportMerges.bumped
  rw [synced]

theorem Sane.resolved (sane : Sane rows) (id : String) (now : Time) :
    Sane (updateStatus id .resolved now rows) := by
  refine sane.adjust (kept_resolved now) (fun row synced => ?_) id
  unfold withStatus
  rw [synced]

end Evolution

/-! ## What holds of a request -/

section Tracking
variable {Time : Type} {rows rows' : List (Row Time)} {request request' : Request Time}

/-- What a request has added so far. The row that it is about to increment was open after the
request had begun. -/
def Stage (rows : List (Row Time)) (request : Request Time) : Prop :=
  match request.pc with
  | .find | .add => request.added = 0
  | .increment existing =>
    request.added = 0 ∧ existing.id ∉ request.resolvedBefore ∧
      ∃ row ∈ rows, row.id = existing.id ∧ row.fingerprint = request.fingerprint
  | .get _ | .done _ _ => request.added = 1

structure Tracked (rows : List (Row Time)) (request : Request Time) : Prop where
  before : ∀ id ∈ request.resolvedBefore, ∃ row ∈ rows, row.id = id ∧ isResolved row = true
  spared : ∀ id ∈ request.gained, id ∉ request.resolvedBefore
  stage : Stage rows request

theorem Stage.evolves (stage : Stage rows request) (evolves : Evolves rows rows') :
    Stage rows' request := by
  unfold Stage at stage ⊢
  cases pc : request.pc with
  | increment existing =>
    rw [pc] at stage
    have ⟨added, spared, row, member, same, own⟩ := stage
    obtain ⟨row', member', kept⟩ := evolves.kept row member
    exact ⟨added, spared, row', member', kept.id.trans same, kept.fingerprint.trans own⟩
  | _ =>
    rw [pc] at stage
    exact stage

theorem Tracked.evolves (tracked : Tracked rows request) (evolves : Evolves rows rows') :
    Tracked rows' request := by
  refine ⟨fun id member => ?_, tracked.spared, tracked.stage.evolves evolves⟩
  obtain ⟨row, inside, same, resolved⟩ := tracked.before id member
  obtain ⟨row', inside', kept⟩ := evolves.kept row inside
  exact ⟨row', inside', kept.id.trans same, kept.resolved resolved⟩

theorem tracked_begin (reportId : Bool) (fingerprint : String) (rows : List (Row Time)) :
    Tracked rows (begin_ reportId fingerprint rows) := by
  refine ⟨fun id member => ?_, fun id gained => absurd gained List.not_mem_nil, ?_⟩
  · obtain ⟨row, inside, same⟩ := List.mem_map.1 member
    have ⟨held, resolved⟩ := List.mem_filter.1 inside
    exact ⟨row, held, same, resolved⟩
  · unfold Stage begin_
    dsimp only
    split_ifs <;> rfl

theorem account_eq (call : List (Row Time)) (request : Request Time) (sane : Sane call) :
    account call call request = request := by
  unfold account
  rw [gains_self sane.unique, sub_self, add_zero, List.append_nil]

/-- When a request is about to add a row, those that it knows of are resolved. -/
structure Awaits (rows : List (Row Time)) (request : Request Time) : Prop where
  known : ∀ id ∈ request.known, id ∈ ids rows
  settled : request.pc = .add → ∀ row ∈ rows, row.fingerprint = request.fingerprint →
    row.id ∈ request.known → isResolved row = true

theorem Awaits.evolves (awaits : Awaits rows request) (evolves : Evolves rows rows') :
    Awaits rows' request := by
  refine ⟨fun id known => mem_ids_of_evolves evolves (awaits.known id known),
    fun pc row' member' own known => ?_⟩
  rcases evolves.origin row' member' with ⟨row, member, kept⟩ | fresh
  · refine kept.resolved (awaits.settled pc row member ?_ ?_)
    · exact kept.fingerprint.symm.trans own
    · exact kept.id ▸ known
  · exact absurd (awaits.known _ known) fresh

variable [LinearOrder Time]

/-- What is found is the newest row of the fingerprint. -/
theorem findByFingerprint_some {fingerprint : String} {answer : Option String}
    {existing : Report Time}
    (found : findByFingerprint fingerprint answer rows = some (some existing)) :
    ∃ row ∈ rows, row.fingerprint = fingerprint ∧ row.data = existing ∧
      ∀ other ∈ rows, other.fingerprint = fingerprint →
        other.columns.createdAt ≤ row.columns.createdAt := by
  unfold findByFingerprint at found
  cases answer with
  | none =>
    dsimp only at found
    split_ifs at found
    cases found
  | some id =>
    obtain ⟨row, first, same⟩ := Option.map_eq_some_iff.1 found
    have ⟨inside, own⟩ := List.mem_filter.1 (List.mem_of_find?_eq_some first)
    have chosen := List.find?_some first
    have newest := (Bool.and_eq_true_iff.1 chosen).2
    refine ⟨row, inside, of_decide_eq_true own, Option.some.inj same, fun other member own' => ?_⟩
    have listed : other ∈ ofFingerprint fingerprint rows :=
      List.mem_filter.2 ⟨member, decide_eq_true own'⟩
    exact of_decide_eq_true (List.all_eq_true.1 newest other listed)

theorem findByFingerprint_none {fingerprint : String} {answer : Option String}
    (found : findByFingerprint fingerprint answer rows = some none) :
    ∀ row ∈ rows, row.fingerprint ≠ fingerprint := by
  unfold findByFingerprint at found
  cases answer with
  | none =>
    dsimp only at found
    split_ifs at found with empty
    intro row member own
    have listed : row ∈ ofFingerprint fingerprint rows :=
      List.mem_filter.2 ⟨member, decide_eq_true own⟩
    rw [empty] at listed
    cases listed
  | some id =>
    obtain ⟨row, -, same⟩ := Option.map_eq_some_iff.1 found
    cases same

/-- What a call of a request does: it looks, it counts one more on a row, it answers, or it adds a
row. -/
inductive Performs (rows : List (Row Time)) (request : Request Time) :
    Call Time → List (Row Time) → Request Time → Prop where
  | find (answer : Option String) (existing : Option (Report Time)) (pc : request.pc = .find)
      (found : findByFingerprint request.fingerprint answer rows = some existing) :
      Performs rows request (.find answer) rows
        { request with known := ids rows, pc := afterFind existing }
  | increment (existing : Report Time) (now : Time) (pc : request.pc = .increment existing) :
      Performs rows request (.increment now) (adjust Row.id existing.id (bumped now) rows)
        { request with pc := if existing.id ∈ ids rows then .get existing else .add }
  | get (existing : Report Time) (occurrences : ℕ) (pc : request.pc = .get existing) :
      Performs rows request .get rows
        { request with pc := .done existing.id (some occurrences) }
  | add (id : String) (now : Time) (pc : request.pc = .add) (fresh : id ∉ ids rows) :
      Performs rows request (.add id now) (add id now request.fingerprint rows)
        { request with pc := .done id none }

theorem performs_of {call : Call Time}
    (performed : perform rows request call = some (rows', request')) :
    Performs rows request call rows' request' := by
  unfold perform at performed
  cases call with
  | find answer =>
    cases pc : request.pc with
    | find =>
      rw [pc] at performed
      obtain ⟨existing, found, same⟩ := Option.map_eq_some_iff.1 performed
      obtain ⟨rfl, rfl⟩ := Prod.mk.inj same
      exact .find answer existing pc found
    | _ =>
      rw [pc] at performed
      cases performed
  | increment now =>
    cases pc : request.pc with
    | increment existing =>
      rw [pc] at performed
      obtain ⟨rfl, rfl⟩ := Prod.mk.inj (Option.some.inj performed)
      have one : Performs rows request (.increment now)
          (adjust Row.id existing.id (bumped now) rows)
          { request with pc := if existing.id ∈ ids rows then .get existing else .add } :=
        .increment existing now pc
      simpa only [incrementOccurrence, decide_eq_true_eq] using one
    | _ =>
      rw [pc] at performed
      cases performed
  | get =>
    cases pc : request.pc with
    | get existing =>
      rw [pc] at performed
      obtain ⟨rfl, rfl⟩ := Prod.mk.inj (Option.some.inj performed)
      exact .get existing _ pc
    | _ =>
      rw [pc] at performed
      cases performed
  | add id now =>
    cases pc : request.pc with
    | add =>
      rw [pc] at performed
      dsimp only at performed
      split_ifs at performed with fresh
      obtain ⟨rfl, rfl⟩ := Prod.mk.inj (Option.some.inj performed)
      exact .add id now pc fresh
    | _ =>
      rw [pc] at performed
      cases performed

theorem Performs.evolves {call : Call Time} (performs : Performs rows request call rows' request')
    (sane : Sane rows) : Evolves rows rows' ∧ Sane rows' := by
  cases performs with
  | find answer existing pc found => exact ⟨.refl rows, sane⟩
  | increment existing now pc =>
    exact ⟨.adjust (kept_bumped now) existing.id rows, sane.bumped existing.id now⟩
  | get existing occurrences pc => exact ⟨.refl rows, sane⟩
  | add id now pc fresh =>
    exact ⟨.add fresh now request.fingerprint, sane.add fresh now request.fingerprint⟩

/-- A call counts for the request as it should. -/
theorem Performs.tracked {call : Call Time}
    (performs : Performs rows request call rows' request') (sane : Sane rows)
    (tracked : Tracked rows request) : Tracked rows' (account rows rows' request') := by
  have later := tracked.evolves (performs.evolves sane).1
  have stage := tracked.stage
  unfold Stage at stage
  cases performs with
  | find answer existing pc found =>
    rw [account_eq _ _ sane]
    rw [pc] at stage
    refine ⟨tracked.before, tracked.spared, ?_⟩
    cases existing with
    | none => exact stage
    | some existing =>
      obtain ⟨row, member, own, same, -⟩ := findByFingerprint_some found
      rw [sane.synced row member] at same
      unfold Stage afterFind
      dsimp only
      by_cases resolved : existing.status = .resolved
      · rw [if_neg (not_not.2 resolved)]
        exact stage
      · rw [if_pos resolved]
        refine ⟨stage, fun before => ?_, row, member, congrArg Report.id same, own⟩
        obtain ⟨row', member', same', resolved'⟩ := tracked.before _ before
        have one : row' = row := by
          refine List.inj_on_of_nodup_map sane.unique member' member (same'.trans ?_)
          exact (congrArg Report.id same).symm
        rw [one] at resolved'
        exact resolved ((congrArg Report.status same).symm.trans (of_decide_eq_true resolved'))
  | increment existing now pc =>
    rw [pc] at stage
    obtain ⟨added, spared, row, member, same, own⟩ := stage
    refine ⟨later.before, fun id gained => ?_, ?_⟩
    · rcases List.mem_append.1 gained with old | new
      · exact tracked.spared id old
      · rw [eq_of_mem_gains_adjust sane.unique (fun row => (kept_bumped now row).id) new]
        exact spared
    · have present : existing.id ∈ ids rows := List.mem_map.2 ⟨row, member, same⟩
      have count : total request.fingerprint (adjust Row.id existing.id (bumped now) rows) =
          total request.fingerprint rows + 1 := by
        rw [← own, ← same]
        exact total_bumped sane.unique member
      unfold Stage account
      dsimp only
      rw [if_pos present, count, added]
      push_cast
      omega
  | get existing occurrences pc =>
    rw [account_eq _ _ sane]
    rw [pc] at stage
    exact ⟨tracked.before, tracked.spared, stage⟩
  | add id now pc fresh =>
    rw [pc] at stage
    refine ⟨later.before, fun g gained => ?_, ?_⟩
    · rcases List.mem_append.1 gained with old | new
      · exact tracked.spared g old
      · rw [eq_of_mem_gains_add sane.unique new]
        intro before
        obtain ⟨row, member, same, -⟩ := tracked.before id before
        exact fresh (List.mem_map.2 ⟨row, member, same⟩)
    · unfold Stage account
      dsimp only at stage ⊢
      rw [total_add, stage]
      push_cast
      omega

end Tracking

/-! ## The newest row -/

section Newest
variable {Time : Type} [LinearOrder Time] {rows rows' : List (Row Time)}
  {request request' : Request Time}

/-- A row that is not resolved is the newest of its fingerprint. -/
def Newest (rows : List (Row Time)) : Prop :=
  ∀ row ∈ rows, isResolved row = false → ∀ other ∈ rows, other.fingerprint = row.fingerprint →
    other.id ≠ row.id → other.columns.createdAt < row.columns.createdAt

theorem Newest.adjust {f : Row Time → Row Time} (newest : Newest rows)
    (kept : ∀ row, Kept row (f row)) (id : String) : Newest (adjust Row.id id f rows) := by
  intro row' member' unresolved other' others' same differ
  obtain ⟨row, member, from_⟩ := exists_of_mem_adjust kept member'
  obtain ⟨other, others, from_'⟩ := exists_of_mem_adjust kept others'
  rw [from_.createdAt, from_'.createdAt]
  refine newest row member (from_.unresolved unresolved) other others ?_ fun equal => ?_
  · exact from_'.fingerprint.symm.trans (same.trans from_.fingerprint)
  · exact differ (from_'.id.trans (equal.trans from_.id.symm))

theorem Newest.add (newest : Newest rows) {fingerprint : String} (id : String) {now : Time}
    (settled : ∀ row ∈ rows, row.fingerprint = fingerprint → isResolved row = true)
    (later : ∀ row ∈ rows, row.fingerprint = fingerprint → row.columns.createdAt < now) :
    Newest (add id now fingerprint rows) := by
  intro row member unresolved other others same differ
  rcases List.mem_append.1 member with held | new
  · rcases List.mem_append.1 others with held' | new'
    · exact newest row held unresolved other held' same differ
    · rw [List.mem_singleton.1 new'] at same
      exact absurd (unresolved.symm.trans (settled row held same.symm)) Bool.noConfusion
  · rw [List.mem_singleton.1 new] at same differ ⊢
    rcases List.mem_append.1 others with held' | new'
    · exact later other held' same
    · rw [List.mem_singleton.1 new'] at differ
      exact absurd rfl differ

/-- A request that is about to add a row has found that all rows of its fingerprint are resolved. -/
theorem Performs.awaits {call : Call Time} (performs : Performs rows request call rows' request')
    (sane : Sane rows) (stage : Stage rows request) (newest : Newest rows)
    (awaits : Awaits rows request) : Awaits rows' request' := by
  have later := awaits.evolves (performs.evolves sane).1
  cases performs with
  | find answer existing pc found =>
    refine ⟨fun id known => known, fun adding row member own _ => ?_⟩
    cases existing with
    | none => exact absurd own (findByFingerprint_none found row member)
    | some existing =>
      obtain ⟨first, inside, own', same, latest⟩ := findByFingerprint_some found
      rw [sane.synced first inside] at same
      have resolved : isResolved first = true := by
        unfold afterFind at adding
        dsimp only at adding
        by_contra unresolved
        have status : existing.status ≠ .resolved := by
          rw [← congrArg Report.status same]
          exact fun equal => unresolved (decide_eq_true equal)
        rw [if_pos status] at adding
        cases adding
      by_contra unresolved
      have unresolved := eq_false_of_ne_true unresolved
      have other : first.id ≠ row.id := by
        intro equal
        have one := List.inj_on_of_nodup_map sane.unique inside member equal
        rw [one] at resolved
        exact absurd (unresolved.symm.trans resolved) Bool.noConfusion
      have before := newest row member unresolved first inside (own'.trans own.symm) other
      exact absurd (latest row member own) (not_le.2 before)
  | increment existing now pc =>
    unfold Stage at stage
    rw [pc] at stage
    obtain ⟨-, -, row, member, same, -⟩ := stage
    have present : existing.id ∈ ids rows := List.mem_map.2 ⟨row, member, same⟩
    refine ⟨later.known, fun adding => ?_⟩
    dsimp only at adding
    rw [if_pos present] at adding
    cases adding
  | get existing occurrences pc => exact ⟨awaits.known, fun adding => by cases adding⟩
  | add id now pc fresh => exact ⟨later.known, fun adding => by cases adding⟩

end Newest

/-! ## Runs -/

section Runs
variable {Time : Type} {s t : System Time} {a : Label Time}

structure Base (s : System Time) : Prop where
  sane : Sane s.rows
  tracked : ∀ request ∈ s.requests, Tracked s.rows request

theorem base_start : Base (start : System Time) :=
  ⟨⟨List.nodup_nil, fun _ member => absurd member List.not_mem_nil⟩,
    fun _ member => absurd member List.not_mem_nil⟩

theorem Base.counted (base : Base s) : Counted s := by
  refine ⟨fun request member finished => ?_, fun request member =>
    (base.tracked request member).spared⟩
  have stage := (base.tracked request member).stage
  unfold Request.finished at finished
  unfold Stage at stage
  cases pc : request.pc with
  | done id occurrences =>
    rw [pc] at stage
    exact stage
  | _ =>
    rw [pc] at finished
    cases finished

variable [LinearOrder Time]

structure Merging (s : System Time) : Prop extends Base s where
  newest : Newest s.rows
  awaits : ∀ request ∈ s.requests, Awaits s.rows request

theorem step_call {r : ℕ} {call : Call Time} (moved : step s (.call r call) = some t) :
    ∃ request rows' request', s.requests[r]? = some request ∧
      Performs s.rows request call rows' request' ∧
      t = { rows := rows', requests := s.requests.set r (account s.rows rows' request') } := by
  obtain ⟨request, here, moved⟩ := Option.bind_eq_some_iff.1 moved
  obtain ⟨⟨rows', request'⟩, performed, same⟩ := Option.bind_eq_some_iff.1 moved
  exact ⟨request, rows', request', here, performs_of performed, (Option.some.inj same).symm⟩

theorem Base.step (base : Base s) (scope : inScope a = true) (moved : step s a = some t) :
    Base t := by
  cases a with
  | begin_ reportId fingerprint =>
    cases moved
    refine ⟨base.sane, fun request member => ?_⟩
    rcases List.mem_append.1 member with old | new
    · exact base.tracked request old
    · rw [List.mem_singleton.1 new]
      exact tracked_begin reportId fingerprint s.rows
  | call r call =>
    obtain ⟨request, rows', request', here, performs, value⟩ := step_call moved
    have ⟨evolves, sane⟩ := performs.evolves base.sane
    rw [value]
    refine ⟨sane, fun other member => ?_⟩
    rcases List.mem_or_eq_of_mem_set member with old | new
    · exact (base.tracked other old).evolves evolves
    · rw [new]
      exact performs.tracked base.sane (base.tracked request (List.mem_of_getElem? here))
  | updateStatus id status now =>
    cases moved
    have resolved : status = .resolved := of_decide_eq_true scope
    rw [resolved]
    exact ⟨base.sane.resolved id now, fun request member =>
      (base.tracked request member).evolves (.adjust (kept_resolved now) id s.rows)⟩

theorem Merging.step (merging : Merging s) (scope : inScope a = true) (timed : timely s a = true)
    (moved : step s a = some t) : Merging t := by
  have base := merging.toBase.step scope moved
  cases a with
  | begin_ reportId fingerprint =>
    cases moved
    refine ⟨base, merging.newest, fun request member => ?_⟩
    rcases List.mem_append.1 member with old | new
    · exact merging.awaits request old
    · rw [List.mem_singleton.1 new]
      exact ⟨fun id known => absurd known List.not_mem_nil,
        fun _ row _ _ known => absurd known List.not_mem_nil⟩
  | call r call =>
    obtain ⟨request, rows', request', here, performs, value⟩ := step_call moved
    have evolves := (performs.evolves merging.sane).1
    have own := merging.awaits request (List.mem_of_getElem? here)
    have others : ∀ other ∈ t.requests, Awaits t.rows other := by
      rw [value]
      intro other member
      rcases List.mem_or_eq_of_mem_set member with old | new
      · exact (merging.awaits other old).evolves evolves
      · have stage := (merging.tracked request (List.mem_of_getElem? here)).stage
        have mine := performs.awaits merging.sane stage merging.newest own
        rw [new]
        exact ⟨mine.known, mine.settled⟩
    refine ⟨base, ?_, others⟩
    rw [value]
    cases performs with
    | find answer existing pc found => exact merging.newest
    | increment existing now pc => exact merging.newest.adjust (kept_bumped now) existing.id
    | get existing occurrences pc => exact merging.newest
    | add id now pc fresh =>
      simp only [timely, here] at timed
      have all : ∀ row ∈ s.rows, row.fingerprint = request.fingerprint →
          (row.id ∈ request.known ∨ isResolved row = true) ∧ row.columns.createdAt < now := by
        intro row member same
        have listed : row ∈ ofFingerprint request.fingerprint s.rows :=
          List.mem_filter.2 ⟨member, decide_eq_true same⟩
        simpa using List.all_eq_true.1 timed row listed
      refine merging.newest.add id (fun row member same => ?_) fun row member same =>
        (all row member same).2
      rcases (all row member same).1 with known | resolved
      · exact own.settled pc row member same known
      · exact resolved
  | updateStatus id status now =>
    cases moved
    have resolved : status = .resolved := of_decide_eq_true scope
    rw [resolved] at base ⊢
    exact ⟨base, merging.newest.adjust (kept_resolved now) id, fun request member =>
      (merging.awaits request member).evolves (.adjust (kept_resolved now) id s.rows)⟩

theorem length_openRows_le (sane : Sane s.rows) (newest : Newest s.rows) (fingerprint : String) :
    (openRows fingerprint s.rows).length ≤ 1 := by
  have unique : (openRows fingerprint s.rows).Nodup :=
    ((List.Nodup.of_map Row.id sane.unique).filter _).filter _
  have of_mem : ∀ row ∈ openRows fingerprint s.rows,
      row ∈ s.rows ∧ row.fingerprint = fingerprint ∧ isResolved row = false := by
    intro row member
    have ⟨listed, unresolved⟩ := List.mem_filter.1 member
    have ⟨inside, own⟩ := List.mem_filter.1 listed
    exact ⟨inside, of_decide_eq_true own, by simpa using unresolved⟩
  have same : ∀ row ∈ openRows fingerprint s.rows, ∀ other ∈ openRows fingerprint s.rows,
      row = other := by
    intro row member other member'
    have ⟨inside, own, unresolved⟩ := of_mem row member
    have ⟨inside', own', unresolved'⟩ := of_mem other member'
    by_contra differ
    have ids_differ : row.id ≠ other.id := fun equal =>
      differ (List.inj_on_of_nodup_map sane.unique inside inside' equal)
    have first := newest row inside unresolved other inside' (own'.trans own.symm) ids_differ.symm
    have second := newest other inside' unresolved' row inside (own.trans own'.symm) ids_differ
    exact lt_asymm first second
  cases all : openRows fingerprint s.rows with
  | nil => exact Nat.zero_le 1
  | cons row rest =>
    cases rest with
    | nil => exact le_refl 1
    | cons other rest =>
      rw [all] at same unique
      have equal := same row List.mem_cons_self other (List.mem_cons_of_mem _ List.mem_cons_self)
      exact absurd (equal ▸ List.mem_cons_self) (List.nodup_cons.1 unique).1

theorem merging_start : Merging (start : System Time) :=
  ⟨base_start, fun _ member => absurd member List.not_mem_nil,
    fun _ member => absurd member List.not_mem_nil⟩

/-- Every request counts once, and for no row that was resolved before, in whatever order the
calls are made. -/
theorem counted_of_reaches (run : Reaches step (fun _ a => inScope a = true) start s) :
    Counted s :=
  (run.invariant base_start fun _ _ _ base scope moved => base.step scope moved).counted

/-- In a run whose rows are added in time a fingerprint has at most one row that is not resolved,
and every request counts once. -/
theorem reports_merge
    (run : Reaches step (fun s a => (inScope a && timely s a) = true) start s) : Merged s := by
  have merging := run.invariant merging_start fun _ _ _ merging allowed moved =>
    merging.step (Bool.and_eq_true_iff.1 allowed).1 (Bool.and_eq_true_iff.1 allowed).2 moved
  exact ⟨merging.counted, fun fingerprint _ =>
    length_openRows_le merging.sane merging.newest fingerprint⟩

end Runs

/-! ## Two captures of one error -/

/-- The second capture is counted on the row of the first; the row is resolved, and the third adds
one. -/
def recurring : List (Label ℕ) :=
  [.begin_ true "f", .call 0 (.find none), .call 0 (.add "a" 1),
    .begin_ true "f", .call 1 (.find (some "a")), .call 1 (.increment 2), .call 1 .get,
    .updateStatus "a" .resolved 3,
    .begin_ true "f", .call 2 (.find (some "a")), .call 2 (.add "b" 4)]

theorem recurring_merged :
    Merged (final step (fun s a => inScope a && timely s a) start recurring) :=
  reports_merge (reaches_final (fun s a => inScope a && timely s a) start recurring (by decide))

/-- Both captures look before one of them adds its row. -/
def racing : List (Label ℕ) :=
  [.begin_ true "f", .begin_ true "f", .call 0 (.find none), .call 1 (.find none),
    .call 0 (.add "a" 1), .call 1 (.add "b" 2)]

theorem racing_adds_two :
    (execute step (fun _ a => inScope a) start racing).isSome = true ∧
      (openRows "f" (final step (fun _ a => inScope a) start racing).rows).length = 2 ∧
      ¬ Merged (final step (fun _ a => inScope a) start racing) := by
  have two : (openRows "f" (final step (fun _ a => inScope a) start racing).rows).length = 2 := by
    decide
  refine ⟨by decide, two, fun merged => ?_⟩
  have one := merged.oneOpen "f" (by decide)
  rw [two] at one
  exact absurd one (by decide)

end BacklinkPublisher.ReportMerges
