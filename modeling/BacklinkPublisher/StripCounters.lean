import BacklinkPublisher.DiscountMap

set_option autoImplicit false

/-!
# Two counts of stripped links

`derive_decay_counts` and `derive_strip_counts_by_platform` of `recheck/events_io.py`. The one keeps
the latest recheck of each article, the other that of each target of each article.
-/
namespace BacklinkPublisher.StripCounters
open DiscountMap (isCompound)
open EventPayloads EventStore KeyedMaxima LatestVerdicts OrderedDicts

def verdicts : List Value := probeError :: definitive
def linkStripped : Value := .text "link_stripped"
def hostGone : Value := .text "host_gone"
def stripVerdicts : List Value := [linkStripped, hostGone, dofollowLost]

inductive ReadError where
  | payload (error : PayloadError)
  | unhashable
  deriving DecidableEq, Repr

/-! ## The loops -/

section Readers
variable (R : Readers)

/-- The verdict of a row and its payload, `none` for a row that is passed over. -/
def knownVerdict (row : RecheckRow) : Except ReadError (Option (Value × Payload)) :=
  match payloadOf R.loads (some row.payloadJson) with
  | .error error => .error (.payload error)
  | .ok payload =>
    let verdict := field payload "verdict"
    if isCompound verdict then .error .unhashable
    else if verdict ∈ verdicts then .ok (some (verdict, payload))
    else .ok none

/-- The loop of both counts. -/
def newestFrom {α κ : Type} [DecidableEq κ] (read : RecheckRow → Except ReadError (Option α))
    (key : α → κ) (newer : α → α → Bool) (latest : List α) :
    List RecheckRow → Except ReadError (List α)
  | [] => .ok latest
  | row :: rows =>
    match read row with
    | .error error => .error error
    | .ok none => newestFrom read key newer latest rows
    | .ok (some entry) => newestFrom read key newer (keepNewer key newer entry latest) rows

structure Decayed where
  articleId : ℤ
  ts : Option ℚ
  verdict : Value
  deriving DecidableEq, Repr

def decayRow (row : RecheckRow) : Except ReadError (Option Decayed) :=
  (knownVerdict R row).map fun known =>
    known.bind fun (verdict, _) =>
      row.articleId.map fun articleId => ⟨articleId, parseTs R row.tsUtc, verdict⟩

/-- A later time only. -/
def decayNewer (fresh old : Decayed) : Bool :=
  match fresh.ts, old.ts with
  | none, _ => false
  | some _, none => true
  | some ts, some prev => prev < ts

def decayLatest (rows : List RecheckRow) : Except ReadError (List Decayed) :=
  newestFrom (decayRow R) Decayed.articleId decayNewer []
    (rows.filter fun row => row.articleId.isSome)

def deriveDecayCounts (rows : List RecheckRow) : Except ReadError (List (Value × ℕ)) :=
  (decayLatest R rows).map fun latest =>
    verdicts.map fun verdict => (verdict, latest.countP fun entry => entry.verdict = verdict)

structure Stripped where
  target : String
  articleId : ℤ
  ts : Option ℚ
  rid : ℕ
  verdict : Value
  platform : Value
  deriving DecidableEq, Repr

def Stripped.link (entry : Stripped) : String × ℤ := (entry.target, entry.articleId)

def stripRow (row : RecheckRow) : Except ReadError (Option Stripped) :=
  (knownVerdict R row).map fun known =>
    known.bind fun (verdict, payload) =>
      (row.targetUrl.bind fun url => canonTarget R (.text url)).bind fun target =>
        row.articleId.map fun articleId =>
          ⟨target, articleId, parseTs R row.tsUtc, row.id, verdict, field payload "platform"⟩

def stripNewer (fresh old : Stripped) : Bool := isNewer fresh.ts fresh.rid old.ts old.rid

def stripLatest (rows : List RecheckRow) : Except ReadError (List Stripped) :=
  newestFrom (stripRow R) Stripped.link stripNewer []
    (rows.filter fun row => row.articleId.isSome && row.targetUrl.isSome)

/-- The counts of a platform. -/
structure StripBucket where
  platform : Value
  linkStripped : ℕ := 0
  hostGone : ℕ := 0
  dofollowLost : ℕ := 0
  deriving DecidableEq, Repr

def StripBucket.bump (verdict : Value) (bucket : StripBucket) : StripBucket :=
  if verdict = StripCounters.linkStripped then
    { bucket with linkStripped := bucket.linkStripped + 1 }
  else if verdict = StripCounters.hostGone then { bucket with hostGone := bucket.hostGone + 1 }
  else { bucket with dofollowLost := bucket.dofollowLost + 1 }

def StripBucket.count (verdict : Value) (bucket : StripBucket) : ℕ :=
  if verdict = StripCounters.linkStripped then bucket.linkStripped
  else if verdict = StripCounters.hostGone then bucket.hostGone
  else bucket.dofollowLost

/-- A platform that cannot be hashed is no key. -/
def countStrips (out : List StripBucket) : List Stripped → Except ReadError (List StripBucket)
  | [] => .ok out
  | entry :: rest =>
    if entry.verdict ∉ stripVerdicts then countStrips out rest
    else if isCompound entry.platform then .error .unhashable
    else
      countStrips (adjust StripBucket.platform entry.platform (StripBucket.bump entry.verdict)
        (ensure StripBucket.platform { platform := entry.platform } out)) rest

def deriveStripCountsByPlatform (rows : List RecheckRow) : Except ReadError (List StripBucket) :=
  (stripLatest R rows).bind (countStrips [])

end Readers

/-! ## Rows that can be read -/

section Reading
variable {R : Readers} {rows : List RecheckRow}

def rowVerdict (R : Readers) (row : RecheckRow) : Value :=
  field (readPayload R.loads (some row.payloadJson)) "verdict"

/-- No row raises. -/
def Legible (R : Readers) (rows : List RecheckRow) : Prop :=
  ∀ row ∈ rows, Readable R.loads (some row.payloadJson) ∧ isCompound (rowVerdict R row) = false

theorem knownVerdict_legible {row : RecheckRow} (readable : Readable R.loads (some row.payloadJson))
    (plain : isCompound (rowVerdict R row) = false) :
    knownVerdict R row = .ok (if rowVerdict R row ∈ verdicts then
      some (rowVerdict R row, readPayload R.loads (some row.payloadJson)) else none) := by
  unfold knownVerdict
  rw [payloadOf_of_readable readable]
  change (if isCompound (rowVerdict R row) then _ else if rowVerdict R row ∈ verdicts then _ else _)
    = _
  rw [plain, if_neg Bool.false_ne_true]
  split_ifs <;> rfl

theorem legible_of_knownVerdict {row : RecheckRow} {known : Option (Value × Payload)}
    (read : knownVerdict R row = .ok known) :
    Readable R.loads (some row.payloadJson) ∧ isCompound (rowVerdict R row) = false := by
  unfold knownVerdict at read
  cases got : payloadOf R.loads (some row.payloadJson) with
  | error error =>
    rw [got] at read
    cases read
  | ok payload =>
    have readable := readable_of_payloadOf got
    rw [payloadOf_of_readable readable] at read
    refine ⟨readable, ?_⟩
    cases plain : isCompound (rowVerdict R row) with
    | false => rfl
    | true =>
      have raised : knownVerdict R row = .error .unhashable := by
        unfold knownVerdict
        rw [payloadOf_of_readable readable]
        exact if_pos plain
      unfold knownVerdict at raised
      rw [payloadOf_of_readable readable] at raised
      rw [raised] at read
      cases read

section Loop
variable {α κ : Type} [DecidableEq κ] {read : RecheckRow → Except ReadError (Option α)}
  {key : α → κ} {newer : α → α → Bool} {entry : RecheckRow → Option α}

theorem newestFrom_ok (reads : ∀ row ∈ rows, read row = .ok (entry row)) (latest : List α) :
    newestFrom read key newer latest rows = .ok ((rows.filterMap entry).foldl
      (fun latest fresh => keepNewer key newer fresh latest) latest) := by
  induction rows generalizing latest with
  | nil => rfl
  | cons row rows ih =>
    have ⟨first, later⟩ := List.forall_mem_cons.1 reads
    rw [newestFrom, first]
    cases made : entry row with
    | none =>
      rw [List.filterMap_cons_none made]
      exact ih later latest
    | some fresh =>
      rw [List.filterMap_cons_some made]
      exact ih later _

theorem reads_of_newestFrom {latest final : List α}
    (made : newestFrom read key newer latest rows = .ok final) :
    ∀ row ∈ rows, ∃ fresh, read row = .ok fresh := by
  induction rows generalizing latest with
  | nil => exact fun _ h => absurd h List.not_mem_nil
  | cons row rows ih =>
    rw [newestFrom] at made
    rw [List.forall_mem_cons]
    cases first : read row with
    | error error =>
      rw [first] at made
      cases made
    | ok fresh =>
      rw [first] at made
      refine ⟨⟨fresh, rfl⟩, ?_⟩
      cases fresh with
      | none => exact ih made
      | some fresh => exact ih made

end Loop

/-! ## The entries of placed rows -/

/-- A row of an article, with a target that can be compared. -/
def Placed (R : Readers) (row : RecheckRow) : Prop :=
  row.articleId.isSome = true ∧
    (row.targetUrl.bind fun url => canonTarget R (.text url)).isSome = true

def stripEntry (R : Readers) (row : RecheckRow) : Option Stripped :=
  if rowVerdict R row ∈ verdicts then
    (row.targetUrl.bind fun url => canonTarget R (.text url)).bind fun target =>
      row.articleId.map fun articleId =>
        ⟨target, articleId, parseTs R row.tsUtc, row.id, rowVerdict R row,
          field (readPayload R.loads (some row.payloadJson)) "platform"⟩
  else none

def Stripped.decayed (entry : Stripped) : Decayed :=
  ⟨entry.articleId, entry.ts, entry.verdict⟩

def entries (R : Readers) (rows : List RecheckRow) : List Stripped :=
  rows.filterMap (stripEntry R)

theorem stripRow_legible {row : RecheckRow} (readable : Readable R.loads (some row.payloadJson))
    (plain : isCompound (rowVerdict R row) = false) :
    stripRow R row = .ok (stripEntry R row) := by
  unfold stripRow stripEntry
  rw [knownVerdict_legible readable plain]
  change Except.ok _ = _
  split_ifs <;> rfl

theorem decayRow_legible {row : RecheckRow} (placed : Placed R row)
    (readable : Readable R.loads (some row.payloadJson))
    (plain : isCompound (rowVerdict R row) = false) :
    decayRow R row = .ok ((stripEntry R row).map Stripped.decayed) := by
  have ⟨target, named⟩ := Option.isSome_iff_exists.1 placed.2
  have ⟨articleId, own⟩ := Option.isSome_iff_exists.1 placed.1
  unfold decayRow stripEntry
  rw [knownVerdict_legible readable plain, named, own]
  change Except.ok _ = _
  split_ifs <;> rfl

theorem filter_placed {test : RecheckRow → Bool} (placed : ∀ row ∈ rows, test row = true) :
    rows.filter test = rows := List.filter_eq_self.2 placed

theorem targetUrl_of_placed {row : RecheckRow} (placed : Placed R row) :
    (row.articleId.isSome && row.targetUrl.isSome) = true := by
  rw [Bool.and_eq_true]
  refine ⟨placed.1, ?_⟩
  have ⟨target, named⟩ := Option.isSome_iff_exists.1 placed.2
  have ⟨url, here, _⟩ := Option.bind_eq_some_iff.1 named
  rw [here]
  rfl

theorem stripLatest_legible (placed : ∀ row ∈ rows, Placed R row) (legible : Legible R rows) :
    stripLatest R rows = .ok ((entries R rows).foldl
      (fun latest fresh => keepNewer Stripped.link stripNewer fresh latest) []) := by
  unfold stripLatest
  rw [filter_placed fun row h => targetUrl_of_placed (placed row h)]
  exact newestFrom_ok (fun row h => stripRow_legible (legible row h).1 (legible row h).2) []

theorem decayLatest_legible (placed : ∀ row ∈ rows, Placed R row) (legible : Legible R rows) :
    decayLatest R rows = .ok (((entries R rows).map Stripped.decayed).foldl
      (fun latest fresh => keepNewer Decayed.articleId decayNewer fresh latest) []) := by
  unfold decayLatest entries
  rw [filter_placed fun row h => (placed row h).1, List.map_filterMap]
  exact newestFrom_ok
    (fun row h => decayRow_legible (placed row h) (legible row h).1 (legible row h).2) []

theorem legible_of_stripLatest (placed : ∀ row ∈ rows, Placed R row) {latest : List Stripped}
    (made : stripLatest R rows = .ok latest) : Legible R rows := by
  unfold stripLatest at made
  rw [filter_placed fun row h => targetUrl_of_placed (placed row h)] at made
  intro row h
  have ⟨fresh, read⟩ := reads_of_newestFrom made row h
  unfold stripRow at read
  cases known : knownVerdict R row with
  | error error =>
    rw [known] at read
    cases read
  | ok verdict => exact legible_of_knownVerdict known

theorem legible_of_decayLatest (placed : ∀ row ∈ rows, Placed R row) {latest : List Decayed}
    (made : decayLatest R rows = .ok latest) : Legible R rows := by
  unfold decayLatest at made
  rw [filter_placed fun row h => (placed row h).1] at made
  intro row h
  have ⟨fresh, read⟩ := reads_of_newestFrom made row h
  unfold decayRow at read
  cases known : knownVerdict R row with
  | error error =>
    rw [known] at read
    cases read
  | ok verdict => exact legible_of_knownVerdict known

end Reading

end BacklinkPublisher.StripCounters
