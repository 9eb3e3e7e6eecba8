import BacklinkPublisher.CanonicalUrl
import BacklinkPublisher.ConfigSections
import BacklinkPublisher.EventPayloads
import BacklinkPublisher.KeyedMaxima
import Mathlib.Algebra.Order.Ring.Rat
import Mathlib.Data.Prod.Lex
import Mathlib.Order.WithBot

set_option autoImplicit false

/-!
# The latest verdict of each link

`_parse_ts` of `recheck/selection.py`, the taxonomy of `recheck/verdicts.py` and
`latest_link_verdicts` of `recheck/latest_verdicts.py`, the reader that the overlay and the
scorecard share.
-/
namespace BacklinkPublisher.LatestVerdicts
open ConfigSections (isSpace)
open EventPayloads EventStore KeyedMaxima OrderedDicts

/-- A parsed timestamp; one without an offset is naive. -/
structure IsoTime where
  clock : ℚ
  offset : Option ℚ
  deriving DecidableEq, Repr

/-- A naive timestamp is taken for UTC. -/
def IsoTime.utc (time : IsoTime) : ℚ := time.clock - time.offset.getD 0

/-- `json.loads` of the list of an article's targets. -/
inductive TargetsOutcome where
  | list (items : List Value)
  | text (s : String)
  | blank
  | unindexable
  | valueError
  | recursionError
  deriving DecidableEq, Repr

/-- The library functions that the readers use: `json.loads`, `datetime.fromisoformat`, and the
Unicode tables under `canonicalize_url`. -/
structure Readers where
  loads : String → JsonOutcome
  loadsTargets : String → TargetsOutcome
  fromIso : String → Option IsoTime
  unicode : UrlSplit.UnicodeData

def replaceZ (value : String) : String :=
  String.ofList (value.toList.flatMap fun c => if c = 'Z' then "+00:00".toList else [c])

section Reading
variable (R : Readers)

def parseTs (value : String) : Option ℚ :=
  if value = "" then none else (R.fromIso (replaceZ value)).map IsoTime.utc

/-! ## Verdicts -/

def alive : Value := .text "alive"
def probeError : Value := .text "probe_error"
def deterministicDead : List Value := [.text "host_gone", .text "link_stripped"]
def dofollowLost : Value := .text "dofollow_lost"
def definitive : List Value := alive :: dofollowLost :: deterministicDead

/-! ## The reader -/

structure RecheckRow where
  id : ℕ
  tsUtc : String
  articleId : Option ℤ
  targetUrl : Option String
  payloadJson : String
  deriving DecidableEq, Repr

structure LatestVerdict where
  key : String
  ts : Option ℚ
  rid : ℕ
  payload : Payload
  targetUrl : Option String
  articleId : Option ℤ
  deriving DecidableEq, Repr

def field (payload : Payload) (name : String) : Value := (payload.lookup name).getD .null

/-- `_canon_target`. -/
def canonTarget : Value → Option String
  | .text url =>
    if url.toList.all isSpace then none else CanonicalUrl.canonicalText R.unicode url
  | _ => none

/-- The canonical live URL, else the article. -/
def linkKey (payload : Payload) (articleId : Option ℤ) : Option String :=
  (canonTarget R (field payload "live_url")).or (articleId.map fun aid => "aid:" ++ toString aid)

def isNewer (ts : Option ℚ) (rid : ℕ) (prevTs : Option ℚ) (prevRid : ℕ) : Bool :=
  match ts, prevTs with
  | none, none => prevRid < rid
  | _, none => true
  | none, _ => false
  | some ts, some prevTs => if ts ≠ prevTs then prevTs < ts else prevRid < rid

def newer (fresh old : LatestVerdict) : Bool := isNewer fresh.ts fresh.rid old.ts old.rid

def entryOf (row : RecheckRow) (payload : Payload) : Option LatestVerdict :=
  (linkKey R payload row.articleId).map fun key =>
    ⟨key, parseTs R row.tsUtc, row.id, payload, row.targetUrl, row.articleId⟩

def latestFrom (latest : List LatestVerdict) (unkeyable : ℕ) :
    List RecheckRow → Except PayloadError (List LatestVerdict × ℕ)
  | [] => .ok (latest, unkeyable)
  | row :: rows =>
    match payloadOf R.loads (some row.payloadJson) with
    | .error error => .error error
    | .ok payload =>
      match entryOf R row payload with
      | none => latestFrom latest (unkeyable + 1) rows
      | some entry => latestFrom (keepNewer LatestVerdict.key newer entry latest) unkeyable rows

def latestLinkVerdicts (rows : List RecheckRow) :
    Except PayloadError (List LatestVerdict × ℕ) :=
  latestFrom R [] 0 rows

end Reading

/-! ## Recency -/

/-- An unparseable timestamp is before every other. -/
def moment : Option ℚ → WithBot ℚ
  | none => ⊥
  | some ts => ts

/-- A parseable timestamp first, then the later one, then the greater id. -/
def rank (entry : LatestVerdict) : WithBot ℚ ×ₗ ℕ := toLex (moment entry.ts, entry.rid)

/-- The comparison of the reader is that of the ranks. -/
theorem newer_iff (fresh old : LatestVerdict) : newer fresh old = true ↔ rank old < rank fresh := by
  unfold newer isNewer rank moment
  rw [Prod.Lex.toLex_lt_toLex]
  cases fresh.ts with
  | none =>
    cases old.ts with
    | none => simp
    | some prev => simp
  | some ts =>
    cases old.ts with
    | none => simp
    | some prev =>
      dsimp only
      rw [WithBot.coe_lt_coe, WithBot.coe_inj]
      by_cases same : ts = prev
      · rw [if_neg (not_not.2 same), decide_eq_true_eq, same]
        simp
      · rw [if_pos same, decide_eq_true_eq]
        constructor
        · exact .inl
        · rintro (later | ⟨equal, _⟩)
          · exact later
          · exact absurd equal.symm same

/-! ## What the reader returns -/

section Results
variable {R : Readers}

def rowEntry (R : Readers) (row : RecheckRow) : Option LatestVerdict :=
  entryOf R row (readPayload R.loads (some row.payloadJson))

/-- The rows that can be identified by neither a live URL nor an article. -/
def unkeyedRows (R : Readers) (rows : List RecheckRow) : ℕ :=
  rows.countP fun row => (rowEntry R row).isNone

theorem latestFrom_spec {rows : List RecheckRow}
    (readable : ∀ row ∈ rows, Readable R.loads (some row.payloadJson))
    {seen latest : List LatestVerdict} (max : Maxima LatestVerdict.key rank seen latest)
    (unkeyable : ℕ) :
    ∃ next, latestFrom R latest unkeyable rows = .ok (next, unkeyable + unkeyedRows R rows) ∧
      Maxima LatestVerdict.key rank (seen ++ rows.filterMap (rowEntry R)) next := by
  induction rows generalizing seen latest unkeyable with
  | nil =>
    rw [List.filterMap_nil, List.append_nil]
    exact ⟨latest, rfl, max⟩
  | cons row rows ih =>
    have later := fun other hother => readable other (List.mem_cons_of_mem row hother)
    rw [latestFrom, payloadOf_of_readable (readable row List.mem_cons_self)]
    dsimp only
    have own : entryOf R row (readPayload R.loads (some row.payloadJson)) = rowEntry R row := rfl
    rw [own]
    unfold unkeyedRows at ih ⊢
    rw [List.countP_cons]
    cases keyed : rowEntry R row with
    | none =>
      have ⟨next, read, maxima⟩ := ih later max (unkeyable + 1)
      rw [List.filterMap_cons_none keyed]
      refine ⟨next, ?_, maxima⟩
      rw [read]
      simp
      omega
    | some entry =>
      have ⟨next, read, maxima⟩ := ih later (max.keepNewer newer_iff entry) unkeyable
      rw [List.filterMap_cons_some keyed, List.append_cons]
      refine ⟨next, ?_, maxima⟩
      dsimp only
      rw [read]
      simp

theorem readable_of_latestFrom {rows : List RecheckRow} {latest next : List LatestVerdict}
    {unkeyable total : ℕ} (h : latestFrom R latest unkeyable rows = .ok (next, total)) :
    ∀ row ∈ rows, Readable R.loads (some row.payloadJson) := by
  induction rows generalizing latest unkeyable with
  | nil => exact fun _ h => absurd h List.not_mem_nil
  | cons row rows ih =>
    rw [latestFrom] at h
    cases read : payloadOf R.loads (some row.payloadJson) with
    | error error =>
      rw [read] at h
      cases h
    | ok payload =>
      rw [read] at h
      dsimp only at h
      have later : ∀ other ∈ rows, Readable R.loads (some other.payloadJson) := by
        cases keyed : entryOf R row payload with
        | none =>
          rw [keyed] at h
          exact ih h
        | some entry =>
          rw [keyed] at h
          exact ih h
      intro other hother
      rcases List.mem_cons.1 hother with rfl | hother
      · exact readable_of_payloadOf read
      · exact later other hother

theorem rowEntry_rid {row : RecheckRow} {entry : LatestVerdict}
    (h : rowEntry R row = some entry) : entry.rid = row.id := by
  unfold rowEntry entryOf at h
  have ⟨key, _, made⟩ := Option.map_eq_some_iff.1 h
  rw [← made]

/-- Entries of one rank are those of one row. -/
theorem distinct_entries {rows : List RecheckRow} (ids : (rows.map RecheckRow.id).Nodup) :
    ∀ a ∈ rows.filterMap (rowEntry R), ∀ b ∈ rows.filterMap (rowEntry R),
      a.key = b.key → rank a = rank b → a = b := by
  intro a ha b hb _ same
  have ⟨row, hrow, made⟩ := List.mem_filterMap.1 ha
  have ⟨row', hrow', made'⟩ := List.mem_filterMap.1 hb
  have rids : a.rid = b.rid := congrArg (fun r => (ofLex r).2) same
  rw [rowEntry_rid made, rowEntry_rid made'] at rids
  have one := List.inj_on_of_nodup_map ids hrow hrow' rids
  rw [one, made'] at made
  exact (Option.some.inj made).symm

/-- The row of greatest rank among those of a link. -/
def IsLatest (R : Readers) (rows : List RecheckRow) (key : String) (entry : LatestVerdict) : Prop :=
  (∃ row ∈ rows, rowEntry R row = some entry) ∧ entry.key = key ∧
    ∀ row ∈ rows, ∀ other, rowEntry R row = some other → other.key = key → rank other ≤ rank entry

/-- The reader returns the latest verdicts, whatever the order of the rows. -/
theorem lookup_latest {rows order : List RecheckRow} (ids : (rows.map RecheckRow.id).Nodup)
    (perm : order.Perm rows) {latest : List LatestVerdict}
    (max : Maxima LatestVerdict.key rank (order.filterMap (rowEntry R)) latest) {key : String}
    {entry : LatestVerdict} :
    lookup LatestVerdict.key key latest = some entry ↔ IsLatest R rows key entry := by
  have ids' : (order.map RecheckRow.id).Nodup := (perm.map RecheckRow.id).nodup_iff.2 ids
  rw [max.lookup_iff (distinct_entries ids')]
  unfold IsLatest
  simp only [List.mem_filterMap, perm.mem_iff]
  constructor
  · rintro ⟨made, own, greatest⟩
    exact ⟨made, own, fun row hrow other keyed => greatest other ⟨row, hrow, keyed⟩⟩
  · rintro ⟨made, own, greatest⟩
    exact ⟨made, own, fun other ⟨row, hrow, keyed⟩ => greatest row hrow other keyed⟩

end Results
end BacklinkPublisher.LatestVerdicts
