import BacklinkPublisher.DiscountMap
import BacklinkPublisher.OptionFolds

set_option autoImplicit false

/-!
# What the recheck selection reads

`_confirmed_universe`, `_recheck_cursors` and `_anchor_baselines` of `recheck/selection.py`: the
latest confirmation of each article, the newest rechecks of it, and the anchors it was published
with.
-/
namespace BacklinkPublisher.RecheckUniverse
open DiscountMap (isCompound)
open EventPayloads EventStore LatestVerdicts OptionFolds OrderedDicts

/-- A row of `events` whose kind is `publish.confirmed`. -/
structure ConfirmedRow where
  tsUtc : String
  runId : Option String
  host : Option String
  targetUrl : Option String
  articleId : Option ℤ
  payloadJson : String
  deriving DecidableEq, Repr

structure AnchorsRow where
  articleId : ℤ
  anchorsJson : String
  deriving DecidableEq, Repr

/-- The tables; of `events` the confirmations and the rechecks. -/
structure Content where
  confirmed : List ConfirmedRow
  rechecked : List RecheckRow
  articles : List AnchorsRow
  deriving DecidableEq, Repr

/-- `json.loads` of the anchors of an article; an item that is no object is `none`. -/
inductive AnchorsOutcome where
  | list (items : List (Option Payload))
  | other
  | valueError
  | recursionError
  deriving DecidableEq, Repr

structure SelectionReaders extends Readers where
  loadsAnchors : String → AnchorsOutcome

/-- The arguments of `select_candidates`. -/
structure Options where
  now : IsoTime
  days : ℤ := 14
  cap : ℕ := 50
  minRetryDays : ℤ := 1
  since : Option ℚ := none
  host : Option String := none
  runId : Option String := none
  limit : Option ℕ := none
  deriving DecidableEq, Repr

/-- An entry of the universe. -/
structure Placement where
  articleId : ℤ
  liveUrl : Value
  targetUrl : Option String
  host : Option String
  platform : Value
  publishedAt : Option ℚ
  deriving DecidableEq, Repr

structure Cursor where
  articleId : ℤ
  lastDefinitiveAt : Option ℚ := none
  lastAttemptAt : Option ℚ := none
  deriving DecidableEq, Repr

structure Anchor where
  url : Value
  anchor : Value
  deriving DecidableEq, Repr

structure Baseline where
  articleId : ℤ
  mapping : List Anchor
  deriving DecidableEq, Repr

section Reading
variable (R : SelectionReaders) (opts : Options)

/-! ## The confirmed universe -/

/-- `host = ?` and `run_id = ?`, where an argument that is given is not empty. -/
def columnMatches (wanted column : Option String) : Bool :=
  wanted.all fun text => text = "" ∨ column = some text

def rowMatches (row : ConfirmedRow) : Bool :=
  row.articleId.isSome && columnMatches opts.host row.host && columnMatches opts.runId row.runId

/-- The rows of the query, `ORDER BY ts_utc`. -/
def queryConfirmed (rows : List ConfirmedRow) : List ConfirmedRow :=
  (rows.filter (rowMatches opts)).insertionSort fun a b => a.tsUtc ≤ b.tsUtc

def beforeSince (publishedAt : Option ℚ) : Bool :=
  match opts.since, publishedAt with
  | some since, some published => published < since
  | _, _ => false

/-- The entry that a row makes, if it has a live URL and is not too old. -/
def placementOf (row : ConfirmedRow) (payload : Payload) : Option Placement :=
  let publishedAt := parseTs R.toReaders row.tsUtc
  if !(field payload "live_url").truthy then none
  else if beforeSince opts publishedAt then none
  else row.articleId.map fun articleId =>
    { articleId := articleId
      liveUrl := field payload "live_url"
      targetUrl := row.targetUrl
      host := row.host
      platform := field payload "platform"
      publishedAt := publishedAt }

/-- `none` is an exception, here and below. -/
def placeRow (placed : List Placement) (row : ConfirmedRow) : Option (List Placement) :=
  match payloadOf R.loads (some row.payloadJson) with
  | .error _ => none
  | .ok payload =>
    match placementOf R opts row payload with
    | none => some placed
    | some placement => some (put Placement.articleId placement placed)

def confirmedUniverse (rows : List ConfirmedRow) : Option (List Placement) :=
  (queryConfirmed opts rows).foldlM (placeRow R opts) []

/-! ## The cursors -/

def later (ts : ℚ) (cursor : Option ℚ) : Option ℚ :=
  if cursor.all (· < ts) then some ts else cursor

def Cursor.advance (ts : ℚ) (isDefinitive : Bool) (cursor : Cursor) : Cursor :=
  { cursor with
    lastAttemptAt := later ts cursor.lastAttemptAt
    lastDefinitiveAt :=
      if isDefinitive then later ts cursor.lastDefinitiveAt else cursor.lastDefinitiveAt }

def advance (articleId : ℤ) (ts : ℚ) (isDefinitive : Bool) (cursors : List Cursor) : List Cursor :=
  adjust Cursor.articleId articleId (Cursor.advance ts isDefinitive)
    (ensure Cursor.articleId { articleId } cursors)

/-- A verdict that is no scalar cannot be looked up in `DEFINITIVE`. -/
def cursorRow (cursors : List Cursor) (row : RecheckRow) : Option (List Cursor) :=
  match row.articleId, parseTs R.toReaders row.tsUtc with
  | some articleId, some ts =>
    match payloadOf R.loads (some row.payloadJson) with
    | .error _ => none
    | .ok payload =>
      let verdict := field payload "verdict"
      if isCompound verdict then none
      else some (advance articleId ts (verdict ∈ definitive) cursors)
  | _, _ => some cursors

def recheckCursors (rows : List RecheckRow) : Option (List Cursor) := rows.foldlM (cursorRow R) []

/-- `cursors.get(article_id, (None, None))`. -/
def cursorOf (articleId : ℤ) (cursors : List Cursor) : Cursor :=
  (lookup Cursor.articleId articleId cursors).getD { articleId }

/-! ## The anchor baselines -/

def anchorItem (mapping : List Anchor) (item : Option Payload) : Option (List Anchor) :=
  match item with
  | none => some mapping
  | some a =>
    let url := field a "url"
    let anchor := field a "anchor"
    if url.truthy && anchor.truthy then
      if isCompound url then none else some (put Anchor.url ⟨url, anchor⟩ mapping)
    else some mapping

/-- The mapping of an article; the inner `none` skips it. -/
def anchorsOf (anchorsJson : String) : Option (Option (List Anchor)) :=
  if anchorsJson = "" then some (some [])
  else
    match R.loadsAnchors anchorsJson with
    | .list items => (items.foldlM anchorItem []).map some
    | .other => some none
    | .valueError => some none
    | .recursionError => none

def baselineRow (baselines : List Baseline) (row : AnchorsRow) : Option (List Baseline) :=
  (anchorsOf R row.anchorsJson).map fun mapping =>
    match mapping with
    | some (anchor :: anchors) =>
      put Baseline.articleId ⟨row.articleId, anchor :: anchors⟩ baselines
    | _ => baselines

def anchorBaselines (rows : List AnchorsRow) : Option (List Baseline) :=
  rows.foldlM (baselineRow R) []

def canonicalOf : Value → Option String
  | .text url => CanonicalUrl.canonicalText R.unicode url
  | _ => none

/-- An exception ends the comparison. -/
def findCanonical (canonTarget : String) : List Anchor → Option Value
  | [] => none
  | entry :: entries =>
    match canonicalOf R entry.url with
    | none => none
    | some canon =>
      if canon = canonTarget then some entry.anchor else findCanonical canonTarget entries

def baselineFor (baselines : List Baseline) (articleId : ℤ) (targetUrl : Option String) :
    Option Value :=
  match lookup Baseline.articleId articleId baselines, targetUrl with
  | some baseline, some target =>
    if target = "" then none
    else
      match lookup Anchor.url (.text target) baseline.mapping with
      | some entry => some entry.anchor
      | none =>
        (canonicalOf R (.text target)).bind fun canon => findCanonical R canon baseline.mapping
  | _, _ => none

end Reading

/-! ## What the tables say of an article -/

section Meaning
variable (R : SelectionReaders) (opts : Options) (content : Content) (articleId : ℤ)

def payloadText (row : ConfirmedRow) : Payload := readPayload R.loads (some row.payloadJson)

def recheckPayload (row : RecheckRow) : Payload := readPayload R.loads (some row.payloadJson)

/-- The row confirms a live URL of the article, for a run with these filters. -/
structure Confirms (row : ConfirmedRow) : Prop where
  held : row ∈ content.confirmed
  selected : rowMatches opts row = true
  article : row.articleId = some articleId
  live : (field (payloadText R row) "live_url").truthy = true
  recent : beforeSince opts (parseTs R.toReaders row.tsUtc) = false

/-- What the universe holds for an article that the row confirms. -/
def placementFor (row : ConfirmedRow) : Placement where
  articleId := articleId
  liveUrl := field (payloadText R row) "live_url"
  targetUrl := row.targetUrl
  host := row.host
  platform := field (payloadText R row) "platform"
  publishedAt := parseTs R.toReaders row.tsUtc

/-- The timestamps of `events` are compared as texts. -/
def IsLatest (row : ConfirmedRow) : Prop :=
  Confirms R opts content articleId row ∧
    ∀ other, Confirms R opts content articleId other → other.tsUtc ≤ row.tsUtc

def AttemptAt (rows : List RecheckRow) (ts : ℚ) : Prop :=
  ∃ row ∈ rows, row.articleId = some articleId ∧ parseTs R.toReaders row.tsUtc = some ts

def DefinitiveAt (rows : List RecheckRow) (ts : ℚ) : Prop :=
  ∃ row ∈ rows, (row.articleId = some articleId ∧ parseTs R.toReaders row.tsUtc = some ts) ∧
    field (recheckPayload R row) "verdict" ∈ definitive

/-- The newest of some times, if there is one. -/
structure Newest (times : ℚ → Prop) (cursor : Option ℚ) : Prop where
  absent : cursor = none ↔ ∀ ts, ¬ times ts
  held : ∀ ts, cursor = some ts → times ts
  newest : ∀ ts, cursor = some ts → ∀ other, times other → other ≤ ts

/-! ## What the readers accept -/

/-- A recheck of an article at a time has a payload with a hashable verdict. -/
def RecheckReadable (row : RecheckRow) : Prop :=
  row.articleId ≠ none → parseTs R.toReaders row.tsUtc ≠ none →
    Readable R.loads (some row.payloadJson) ∧
      isCompound (field (recheckPayload R row) "verdict") = false

/-- The anchors of an article are not nested too deep, and the URL of each is hashable. -/
def AnchorsReadable (row : AnchorsRow) : Prop :=
  row.anchorsJson ≠ "" → R.loadsAnchors row.anchorsJson ≠ .recursionError ∧
    ∀ items, R.loadsAnchors row.anchorsJson = .list items → ∀ a, some a ∈ items →
      (field a "url").truthy = true → (field a "anchor").truthy = true →
        isCompound (field a "url") = false

end Meaning

/-! ## The newest times -/

theorem newest_none : Newest (fun _ => False) none where
  absent := iff_of_true rfl fun _ => not_false
  held _ h := nomatch h
  newest _ h := nomatch h

theorem Newest.congr {times times' : ℚ → Prop} {cursor : Option ℚ} (newest : Newest times cursor)
    (same : ∀ ts, times' ts ↔ times ts) : Newest times' cursor := by
  have equal : times' = times := funext fun ts => propext (same ts)
  rw [equal]
  exact newest

/-- One more time. -/
theorem Newest.later {times : ℚ → Prop} {cursor : Option ℚ} (known : Newest times cursor) (ts : ℚ) :
    Newest (fun other => times other ∨ other = ts) (later ts cursor) := by
  cases cursor with
  | none =>
    have empty := known.absent.1 rfl
    constructor
    · exact iff_of_false nofun fun none_ => none_ ts (.inr rfl)
    · exact fun other same => .inr (Option.some.inj same).symm
    · intro other same third held
      rw [← Option.some.inj same]
      rcases held with held | held
      · exact absurd held (empty third)
      · exact le_of_eq held
  | some prev =>
    have held := known.held prev rfl
    change Newest _ (if decide (prev < ts) = true then some ts else some prev)
    split_ifs with newer
    · constructor
      · exact iff_of_false nofun fun none_ => none_ ts (.inr rfl)
      · exact fun other same => .inr (Option.some.inj same).symm
      · intro other same third time
        rw [← Option.some.inj same]
        rcases time with time | time
        · exact le_trans (known.newest prev rfl third time) (le_of_lt (of_decide_eq_true newer))
        · exact le_of_eq time
    · constructor
      · exact iff_of_false nofun fun none_ => none_ prev (.inl held)
      · intro other same
        rw [← Option.some.inj same]
        exact .inl held
      · intro other same third time
        rw [← Option.some.inj same]
        rcases time with time | time
        · exact known.newest prev rfl third time
        · rw [time]
          exact not_lt.1 fun less => newer (decide_eq_true less)

/-- Rows that bring no time in leave the newest as it is. -/
theorem Newest.unchanged {times times' added : ℚ → Prop} {cursor : Option ℚ}
    (newest : Newest times cursor) (concat : ∀ ts, times' ts ↔ times ts ∨ added ts)
    (none_ : ∀ ts, ¬ added ts) : Newest times' cursor := by
  apply newest.congr
  intro ts
  rw [concat, or_iff_left (none_ ts)]

/-- A row that brings one time in. -/
theorem Newest.added {times times' added : ℚ → Prop} {cursor : Option ℚ} {ts : ℚ}
    (newest : Newest times cursor) (concat : ∀ other, times' other ↔ times other ∨ added other)
    (one : ∀ other, added other ↔ other = ts) :
    Newest times' (RecheckUniverse.later ts cursor) := by
  apply (newest.later ts).congr
  intro other
  rw [concat, one]

/-! ## The cursors of the rechecks -/

section Cursors
variable {R : SelectionReaders}

theorem Cursor.articleId_advance (ts : ℚ) (isDefinitive : Bool) (cursor : Cursor) :
    (cursor.advance ts isDefinitive).articleId = cursor.articleId := rfl

theorem cursorOf_advance (articleId : ℤ) (ts : ℚ) (isDefinitive : Bool) (cursors : List Cursor)
    (other : ℤ) :
    cursorOf other (advance articleId ts isDefinitive cursors) =
      if other = articleId then (cursorOf other cursors).advance ts isDefinitive
      else cursorOf other cursors := by
  unfold cursorOf advance
  rw [lookup_adjust (Cursor.articleId_advance ts isDefinitive), lookup_ensure]
  by_cases same : other = articleId
  · rw [same]
    cases lookup Cursor.articleId articleId cursors with
    | none => simp
    | some cursor => simp
  · cases lookup Cursor.articleId other cursors with
    | none => simp [same]
    | some cursor => simp [same]

/-- The cursors are the newest times of the rows gone through. -/
def Tracks (R : SelectionReaders) (rows : List RecheckRow) (cursors : List Cursor) : Prop :=
  ∀ articleId, Newest (DefinitiveAt R articleId rows) (cursorOf articleId cursors).lastDefinitiveAt ∧
    Newest (AttemptAt R articleId rows) (cursorOf articleId cursors).lastAttemptAt

theorem attemptAt_concat (rows : List RecheckRow) (row : RecheckRow) (articleId : ℤ) (ts : ℚ) :
    AttemptAt R articleId (rows ++ [row]) ts ↔ AttemptAt R articleId rows ts ∨
      row.articleId = some articleId ∧ parseTs R.toReaders row.tsUtc = some ts := by
  unfold AttemptAt
  simp only [List.mem_append, List.mem_singleton, or_and_right, exists_or, exists_eq_left]

theorem definitiveAt_concat (rows : List RecheckRow) (row : RecheckRow) (articleId : ℤ) (ts : ℚ) :
    DefinitiveAt R articleId (rows ++ [row]) ts ↔ DefinitiveAt R articleId rows ts ∨
      (row.articleId = some articleId ∧ parseTs R.toReaders row.tsUtc = some ts) ∧
        field (recheckPayload R row) "verdict" ∈ definitive := by
  unfold DefinitiveAt
  simp only [List.mem_append, List.mem_singleton, or_and_right, exists_or, exists_eq_left]

theorem cursorRow_isSome (cursors : List Cursor) (row : RecheckRow) :
    (cursorRow R cursors row).isSome ↔ RecheckReadable R row := by
  unfold cursorRow RecheckReadable recheckPayload
  cases row.articleId with
  | none => simp
  | some articleId =>
    cases parseTs R.toReaders row.tsUtc with
    | none => simp
    | some ts =>
      dsimp only
      cases read : payloadOf R.loads (some row.payloadJson) with
      | error error =>
        exact iff_of_false Bool.false_ne_true
          fun readable => not_readable_of_error read (readable nofun nofun).1
      | ok payload =>
        have readable := readable_of_payloadOf read
        rw [payloadOf_of_readable readable] at read
        rw [Except.ok.inj read]
        dsimp only
        split_ifs with compound
        · simp [compound]
        · simp [readable, compound]

/-- A recheck of an article at a time advances its cursor; every other one is passed over. -/
theorem cursorRow_cases {cursors next : List Cursor} {row : RecheckRow}
    (step : cursorRow R cursors row = some next) :
    (¬ (∃ articleId ts, row.articleId = some articleId ∧
        parseTs R.toReaders row.tsUtc = some ts) ∧ next = cursors) ∨
      ∃ articleId ts, row.articleId = some articleId ∧ parseTs R.toReaders row.tsUtc = some ts ∧
        next = advance articleId ts (field (recheckPayload R row) "verdict" ∈ definitive) cursors := by
  have readable := (cursorRow_isSome cursors row).1 (Option.isSome_of_eq_some step)
  unfold cursorRow at step
  unfold RecheckReadable at readable
  cases article : row.articleId with
  | none =>
    rw [article] at step
    exact .inl ⟨by simp, (Option.some.inj step).symm⟩
  | some articleId =>
    cases parsed : parseTs R.toReaders row.tsUtc with
    | none =>
      rw [article, parsed] at step
      exact .inl ⟨by simp, (Option.some.inj step).symm⟩
    | some ts =>
      rw [article, parsed] at step readable
      have ⟨read, scalar⟩ := readable nofun nofun
      unfold recheckPayload at scalar ⊢
      rw [payloadOf_of_readable read] at step
      dsimp only at step
      rw [scalar, if_neg Bool.false_ne_true] at step
      exact .inr ⟨articleId, ts, rfl, rfl, (Option.some.inj step).symm⟩

/-- One more recheck. -/
theorem Tracks.step {rows : List RecheckRow} {cursors next : List Cursor} {row : RecheckRow}
    (tracks : Tracks R rows cursors) (step : cursorRow R cursors row = some next) :
    Tracks R (rows ++ [row]) next := by
  intro other
  have ⟨definitive_, attempt⟩ := tracks other
  rcases cursorRow_cases step with ⟨passed, rfl⟩ | ⟨articleId, ts, article, parsed, rfl⟩
  · have none_ : ∀ ts, ¬ (row.articleId = some other ∧ parseTs R.toReaders row.tsUtc = some ts) :=
      fun ts here => passed ⟨other, ts, here⟩
    constructor
    · exact definitive_.unchanged (definitiveAt_concat rows row other) fun ts h => none_ ts h.1
    · exact attempt.unchanged (attemptAt_concat rows row other) none_
  · rw [cursorOf_advance]
    by_cases same : other = articleId
    · rw [if_pos same]
      have here : ∀ time, row.articleId = some other ∧ parseTs R.toReaders row.tsUtc = some time ↔
          time = ts := by
        intro time
        rw [article, parsed, same, Option.some.injEq]
        simp [eq_comm]
      constructor
      · unfold Cursor.advance
        dsimp only
        split_ifs with counts
        · apply definitive_.added (definitiveAt_concat rows row other)
          intro time
          rw [here, and_iff_left (of_decide_eq_true counts)]
        · apply definitive_.unchanged (definitiveAt_concat rows row other)
          exact fun time h => counts (decide_eq_true h.2)
      · exact attempt.added (attemptAt_concat rows row other) here
    · rw [if_neg same]
      have elsewhere : row.articleId ≠ some other := by
        rw [article]
        exact fun h => same (Option.some.inj h).symm
      constructor
      · exact definitive_.unchanged (definitiveAt_concat rows row other)
          fun _ h => elsewhere h.1.1
      · exact attempt.unchanged (attemptAt_concat rows row other) fun _ h => elsewhere h.1

theorem recheckCursors_isSome (rows : List RecheckRow) :
    (recheckCursors R rows).isSome ↔ ∀ row ∈ rows, RecheckReadable R row :=
  foldlM_isSome cursorRow_isSome rows []

theorem recheckCursors_tracks {rows : List RecheckRow} {cursors : List Cursor}
    (read : recheckCursors R rows = some cursors) : Tracks R rows cursors := by
  have start : Tracks R [] [] := by
    intro articleId
    constructor
    · apply newest_none.congr
      simp [DefinitiveAt]
    · apply newest_none.congr
      simp [AttemptAt]
  exact foldlM_seen (I := Tracks R) read start fun _ _ _ _ tracks step => tracks.step step

end Cursors

/-! ## The universe of the confirmations -/

section Universe
variable {R : SelectionReaders} {opts : Options} {content : Content}

/-- The entry of a row whose payload is readable. -/
def entryOf (R : SelectionReaders) (opts : Options) (row : ConfirmedRow) : Option Placement :=
  placementOf R opts row (payloadText R row)

theorem entryOf_eq_some {row : ConfirmedRow} {placement : Placement} :
    entryOf R opts row = some placement ↔
      (field (payloadText R row) "live_url").truthy = true ∧
        beforeSince opts (parseTs R.toReaders row.tsUtc) = false ∧
        row.articleId = some placement.articleId ∧
        placement = placementFor R placement.articleId row := by
  unfold entryOf placementOf
  dsimp only
  cases (field (payloadText R row) "live_url").truthy with
  | false => simp
  | true =>
    cases beforeSince opts (parseTs R.toReaders row.tsUtc) with
    | true => simp
    | false =>
      simp only [Bool.not_true, Bool.false_eq_true, if_false, true_and, Option.map_eq_some_iff]
      constructor
      · rintro ⟨articleId, article, rfl⟩
        exact ⟨article, rfl⟩
      · rintro ⟨article, same⟩
        exact ⟨placement.articleId, article, same.symm⟩

theorem placeRow_isSome (placed : List Placement) (row : ConfirmedRow) :
    (placeRow R opts placed row).isSome ↔ Readable R.loads (some row.payloadJson) := by
  unfold placeRow
  cases read : payloadOf R.loads (some row.payloadJson) with
  | error error => exact iff_of_false Bool.false_ne_true (not_readable_of_error read)
  | ok payload =>
    refine iff_of_true ?_ (readable_of_payloadOf read)
    dsimp only
    cases placementOf R opts row payload <;> rfl

theorem placeRow_eq {placed next : List Placement} {row : ConfirmedRow}
    (step : placeRow R opts placed row = some next) :
    next = (entryOf R opts row).elim placed fun entry => put Placement.articleId entry placed := by
  have readable := (placeRow_isSome placed row).1 (Option.isSome_of_eq_some step)
  unfold placeRow at step
  rw [payloadOf_of_readable readable] at step
  unfold entryOf payloadText
  dsimp only at step
  cases placed_ : placementOf R opts row (readPayload R.loads (some row.payloadJson)) with
  | none =>
    rw [placed_] at step
    exact (Option.some.inj step).symm
  | some placement =>
    rw [placed_] at step
    exact (Option.some.inj step).symm

/-- In rows ordered by timestamp, the last entry of an article is one of a latest row. -/
theorem latest_of_lookup {articleId : ℤ} {placement : Placement} {rows : List ConfirmedRow}
    (sorted : rows.Pairwise fun a b => a.tsUtc ≤ b.tsUtc)
    (found : lookup Placement.articleId articleId (rows.filterMap (entryOf R opts)).reverse =
      some placement) :
    ∃ row ∈ rows, entryOf R opts row = some placement ∧ ∀ other ∈ rows, ∀ entry,
      entryOf R opts other = some entry → entry.articleId = articleId → other.tsUtc ≤ row.tsUtc := by
  induction rows generalizing placement with
  | nil => cases found
  | cons first rows ih =>
    rw [List.pairwise_cons] at sorted
    -- an entry that is found among the later rows is also the latest with the first row
    have extend : ∀ known, lookup Placement.articleId articleId
          (rows.filterMap (entryOf R opts)).reverse = some known →
        ∃ row ∈ first :: rows, entryOf R opts row = some known ∧ ∀ other ∈ first :: rows, ∀ entry,
          entryOf R opts other = some entry → entry.articleId = articleId →
            other.tsUtc ≤ row.tsUtc := by
      intro known found
      have ⟨row, held, own, latest⟩ := ih sorted.2 found
      refine ⟨row, List.mem_cons_of_mem first held, own, fun other hother => ?_⟩
      rcases List.mem_cons.1 hother with rfl | hother
      · exact fun _ _ _ => sorted.1 row held
      · exact latest other hother
    cases entry : entryOf R opts first with
    | none =>
      rw [List.filterMap_cons_none entry] at found
      exact extend placement found
    | some own =>
      rw [List.filterMap_cons_some entry, List.reverse_cons] at found
      unfold lookup at found extend
      rw [List.find?_append] at found
      cases rest : (rows.filterMap (entryOf R opts)).reverse.find? fun value =>
          decide (value.articleId = articleId) with
      | some known =>
        rw [rest] at found
        exact extend placement (rest.trans found)
      | none =>
        rw [rest] at found
        have ⟨_, here⟩ : own.articleId = articleId ∧ own = placement := by
          simpa using found
        refine ⟨first, List.mem_cons_self, entry.trans (congrArg some here), ?_⟩
        intro other hother value made keyed
        rcases List.mem_cons.1 hother with rfl | hother
        · exact String.le_refl _
        · have absent := List.find?_eq_none.1 rest value
            (List.mem_reverse.2 (List.mem_filterMap.2 ⟨other, hother, made⟩))
          exact absurd (decide_eq_true keyed) absent

theorem mem_queryConfirmed {row : ConfirmedRow} {rows : List ConfirmedRow} :
    row ∈ queryConfirmed opts rows ↔ row ∈ rows ∧ rowMatches opts row = true := by
  unfold queryConfirmed
  rw [List.mem_insertionSort, List.mem_filter]

theorem confirmedUniverse_isSome (rows : List ConfirmedRow) :
    (confirmedUniverse R opts rows).isSome ↔
      ∀ row ∈ rows, rowMatches opts row = true → Readable R.loads (some row.payloadJson) := by
  unfold confirmedUniverse
  rw [foldlM_isSome placeRow_isSome]
  simp only [mem_queryConfirmed, and_imp]

/-- A row of the query with an entry confirms the article of the entry. -/
theorem confirms_iff {articleId : ℤ} {row : ConfirmedRow} :
    Confirms R opts content articleId row ↔ row ∈ queryConfirmed opts content.confirmed ∧
      entryOf R opts row = some (placementFor R articleId row) := by
  rw [mem_queryConfirmed, entryOf_eq_some]
  constructor
  · intro confirms
    exact ⟨⟨confirms.held, confirms.selected⟩, confirms.live, confirms.recent, confirms.article, rfl⟩
  · rintro ⟨⟨held, selected⟩, live, recent, article, _⟩
    exact ⟨held, selected, article, live, recent⟩

/-- The universe is a dictionary of the last entries of the query. -/
theorem lookup_confirmedUniverse {rows : List ConfirmedRow} {placed : List Placement}
    (read : confirmedUniverse R opts rows = some placed) :
    (placed.map Placement.articleId).Nodup ∧
      ∀ articleId, lookup Placement.articleId articleId placed = lookup Placement.articleId articleId
        ((queryConfirmed opts rows).filterMap (entryOf R opts)).reverse := by
  have folded : placed = ((queryConfirmed opts rows).filterMap (entryOf R opts)).foldl
      (fun held entry => put Placement.articleId entry held) [] := by
    rw [List.foldl_filterMap]
    apply foldlM_projects (π := id) read
    intro held row next step
    rw [id, id, placeRow_eq step]
    cases entryOf R opts row <;> rfl
  rw [folded]
  refine ⟨nodup_keys_foldl_put List.nodup_nil, fun articleId => ?_⟩
  rw [lookup_foldl_put]
  exact Option.or_none

/-- The universe holds what a latest row of each article says. -/
theorem confirmedUniverse_spec {placed : List Placement}
    (read : confirmedUniverse R opts content.confirmed = some placed) :
    (placed.map Placement.articleId).Nodup ∧
      (∀ placement ∈ placed, ∃ row, IsLatest R opts content placement.articleId row ∧
        placement = placementFor R placement.articleId row) ∧
      ∀ articleId row, Confirms R opts content articleId row →
        articleId ∈ placed.map Placement.articleId := by
  have ⟨nodup, last⟩ := lookup_confirmedUniverse read
  have sorted : (queryConfirmed opts content.confirmed).Pairwise fun a b => a.tsUtc ≤ b.tsUtc :=
    List.pairwise_insertionSort _ _
  refine ⟨nodup, fun placement held => ?_, fun articleId row confirms => ?_⟩
  · have found := lookup_of_mem nodup held
    rw [last] at found
    have ⟨row, hrow, own, latest⟩ := latest_of_lookup sorted found
    have same := (entryOf_eq_some.1 own).2.2.2
    rw [same] at own
    refine ⟨row, ⟨confirms_iff.2 ⟨hrow, own⟩, fun other confirms => ?_⟩, same⟩
    have ⟨hother, made⟩ := confirms_iff.1 confirms
    exact latest other hother _ made rfl
  · by_contra missing
    have none_ := lookup_eq_none missing
    rw [last] at none_
    have ⟨hrow, made⟩ := confirms_iff.1 confirms
    have listed := List.mem_reverse.2 (List.mem_filterMap.2 ⟨row, hrow, made⟩)
    exact not_mem_keys_of_lookup none_ (List.mem_map.2 ⟨_, listed, rfl⟩)

end Universe

/-! ## The baselines -/

section Baselines
variable {R : SelectionReaders}

theorem anchorItem_isSome (mapping : List Anchor) (item : Option Payload) :
    (anchorItem mapping item).isSome ↔ ∀ a, item = some a → (field a "url").truthy = true →
      (field a "anchor").truthy = true → isCompound (field a "url") = false := by
  cases item with
  | none => simp [anchorItem]
  | some a =>
    unfold anchorItem
    dsimp only
    split_ifs with named compound
    · simp [compound, Bool.and_eq_true_iff.1 named]
    · simp [compound]
    · refine iff_of_true rfl fun other same url anchor => absurd ?_ named
      rw [Option.some.inj same, url, anchor]
      rfl

theorem baselineRow_isSome (baselines : List Baseline) (row : AnchorsRow) :
    (baselineRow R baselines row).isSome ↔ AnchorsReadable R row := by
  unfold baselineRow anchorsOf AnchorsReadable
  rw [Option.isSome_map]
  by_cases empty : row.anchorsJson = ""
  · rw [if_pos empty]
    simp [empty]
  · rw [if_neg empty, forall_prop_of_true empty]
    cases R.loadsAnchors row.anchorsJson with
    | list items =>
      dsimp only
      rw [Option.isSome_map, foldlM_isSome anchorItem_isSome]
      constructor
      · intro hashable
        refine ⟨nofun, fun listed same a mem => ?_⟩
        rw [← AnchorsOutcome.list.inj same] at mem
        exact hashable (some a) mem a rfl
      · rintro ⟨_, hashable⟩ item mem a rfl
        exact hashable items rfl a mem
    | other => simp
    | valueError => simp
    | recursionError => simp

theorem anchorBaselines_isSome (rows : List AnchorsRow) :
    (anchorBaselines R rows).isSome ↔ ∀ row ∈ rows, AnchorsReadable R row :=
  foldlM_isSome baselineRow_isSome rows []

end Baselines

end BacklinkPublisher.RecheckUniverse
