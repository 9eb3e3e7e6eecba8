import BacklinkPublisher.DraftsStore
import BacklinkPublisher.HistoryItems
import BacklinkPublisher.OutputSchema
import Mathlib.Data.Int.ConditionallyCompleteOrder
import Mathlib.Order.ConditionallyCompleteLattice.Basic

set_option autoImplicit false

/-!
# The next publish time

`calc_next_available` of `schedule/engine.py`, over the drafts of the store and the items of the
history.
-/
namespace BacklinkPublisher.PublishTimes
open DraftsStore HistoryItems OutputSchema

/-! ## Times -/

/-- A `datetime`, its fields in microseconds and its offset from UTC, `none` where it is naive. -/
structure DateTime where
  wall : ℤ
  offset : Option ℤ
  deriving DecidableEq, Repr

def minute : ℤ := 60000000

def hour : ℤ := 60 * minute

/-- `datetime.max`, in microseconds since 1970. -/
def maxWall : ℤ := 253402300799999999

/-- `a > b`, `none` where one of the two is naive and the other is not. -/
def DateTime.isAfter (a b : DateTime) : Option Bool :=
  match a.offset, b.offset with
  | none, none => some (b.wall < a.wall)
  | some x, some y => some (b.wall - y < a.wall - x)
  | _, _ => none

/-- `d + timedelta`, `none` where it overflows. -/
def DateTime.plus (d : DateTime) (delta : ℤ) : Option DateTime :=
  if d.wall + delta ≤ maxWall then some { d with wall := d.wall + delta } else none

/-- The instant of a time where naive times are in a zone. -/
def DateTime.instant (zone : ℤ) (d : DateTime) : ℤ := d.wall - d.offset.getD zone

def DateTime.naive (d : DateTime) : Bool := d.offset.isNone

/-- `datetime.fromisoformat` and `strptime` with `%Y-%m-%d %H:%M`, `none` where they raise
`ValueError`. The latter reads no text with a `T`. -/
structure Parsers where
  fromisoformat : String → Option DateTime
  strptime : String → Option DateTime
  strptime_iso : ∀ ts, contains "T" ts = true → strptime ts = none

/-! ## The scans -/

/-- `last_published` after one more time. -/
def latest (last : Option DateTime) (dt : DateTime) : Option (Option DateTime) :=
  match last with
  | none => some (some dt)
  | some held => (dt.isAfter held).map fun later => some (if later then dt else held)

def truthy : Value → Bool
  | .null => false
  | .bool b => b
  | .int i => decide (i ≠ 0)
  | .float numeral => decide (numeral ∉ ["0.0", "-0.0"])
  | .text s => decide (s ≠ "")
  | .compound json => decide (json ∉ ["[]", "{}"])

/-- `published_at or scheduled_at`, where it is truthy. -/
def publishTime (draft : Draft) : Option Value :=
  (((draft.get "published_at").filter truthy).or (draft.get "scheduled_at")).filter truthy

def counted (draft : Draft) : Bool :=
  decide (draft.get "status" = some (.text "published") ∨
    draft.get "status" = some (.text "scheduled"))

/-- How the scan of the drafts reads a text. -/
def Parsers.read (parsers : Parsers) (ts : String) : Option DateTime :=
  if contains "T" ts then parsers.fromisoformat ts else parsers.strptime ts

/-- What is no text raises. -/
def scanDraft (parsers : Parsers) (last : Option DateTime) (draft : Draft) :
    Option (Option DateTime) :=
  if counted draft then
    match publishTime draft with
    | none => some last
    | some (.text ts) =>
      match parsers.read ts with
      | none => some last
      | some dt => latest last dt
    | some _ => none
  else some last

section Scans

variable {τ : Type}

def countedItem (item : HistoryItem τ) : Bool :=
  decide (item.status = .text "drafted" ∨ item.status = .text "published")

def scanItem (parsers : Parsers) (last : Option DateTime) (item : HistoryItem τ) :
    Option (Option DateTime) :=
  if item.createdAt ≠ "" ∧ countedItem item then
    match parsers.strptime item.createdAt with
    | none => some last
    | some dt => latest last dt
  else some last

/-- The draw of `randint` is added where there is one. -/
def addJitter (jitterMinutes draw : ℕ) (earliest : DateTime) : Option DateTime :=
  if 0 < jitterMinutes then earliest.plus (draw * minute) else some earliest

/-- `calc_next_available`, `none` where it raises; `draw` is what `randint` draws. -/
def calcNextAvailable (parsers : Parsers) (requested : DateTime) (drafts : List Draft)
    (history : List (HistoryItem τ)) (minIntervalHours jitterMinutes draw : ℕ) :
    Option DateTime := do
  let last ← drafts.foldlM (scanDraft parsers) none
  let last ← history.foldlM (scanItem parsers) last
  match last with
  | none => some requested
  | some last =>
    let earliest ← last.plus (minIntervalHours * hour)
    let earliest ← addJitter jitterMinutes draw earliest
    (earliest.isAfter requested).map fun later => if later then earliest else requested

/-! ## The times in question -/

/-- The time of a published or scheduled draft. -/
def draftTime (parsers : Parsers) (draft : Draft) : Option DateTime :=
  if counted draft then
    match publishTime draft with
    | some (.text ts) => parsers.read ts
    | _ => none
  else none

/-- The time of a drafted or published item. -/
def itemTime (parsers : Parsers) (item : HistoryItem τ) : Option DateTime :=
  if item.createdAt ≠ "" ∧ countedItem item then parsers.read item.createdAt else none

/-- The time of an item as far as the scan of the history reads it. -/
def scannedTime (parsers : Parsers) (item : HistoryItem τ) : Option DateTime :=
  if item.createdAt ≠ "" ∧ countedItem item then parsers.strptime item.createdAt else none

/-- The times of the drafts are texts. -/
def TextTimes (drafts : List Draft) : Prop :=
  ∀ draft ∈ drafts, counted draft = true → ∀ value, publishTime draft = some value →
    ∃ ts, value = .text ts

/-- The times that the scans read. -/
def readTimes (parsers : Parsers) (drafts : List Draft) (history : List (HistoryItem τ)) :
    List DateTime :=
  drafts.filterMap (draftTime parsers) ++ history.filterMap (scannedTime parsers)

/-- The draw, where there is one. -/
def jitter (jitterMinutes draw : ℕ) : ℤ := if 0 < jitterMinutes then draw * minute else 0

/-- It returns a time that is neither before the requested one nor closer to a publish than the
least interval. -/
def Respects (zone : ℤ) (parsers : Parsers) (requested : DateTime) (drafts : List Draft)
    (history : List (HistoryItem τ)) (minIntervalHours jitterMinutes draw : ℕ) : Prop :=
  ∃ result, calcNextAvailable parsers requested drafts history minIntervalHours jitterMinutes draw =
      some result ∧
    requested.instant zone ≤ result.instant zone ∧
    (∀ draft ∈ drafts, ∀ d, draftTime parsers draft = some d →
      d.instant zone + minIntervalHours * hour ≤ result.instant zone) ∧
    ∀ item ∈ history, ∀ d, itemTime parsers item = some d →
      d.instant zone + minIntervalHours * hour ≤ result.instant zone

/-- The times that the scans read are naive where the requested one is, and the interval after the
latest of them ends before the year 10000. A time of the history that they do not read is followed
by the interval before the requested time, or is not after a time that they read, but for the
draw. -/
structure Fits (zone : ℤ) (parsers : Parsers) (requested : DateTime) (drafts : List Draft)
    (history : List (HistoryItem τ)) (minIntervalHours jitterMinutes draw : ℕ) : Prop where
  alike : ∀ d ∈ readTimes parsers drafts history, d.naive = requested.naive
  within : ∀ d, (readTimes parsers drafts history).argmax (DateTime.instant zone) = some d →
    d.wall + minIntervalHours * hour + jitter jitterMinutes draw ≤ maxWall
  skipped : ∀ item ∈ history, ∀ h, itemTime parsers item = some h →
    scannedTime parsers item = none →
      h.instant zone + minIntervalHours * hour ≤ requested.instant zone ∨
      ∃ d ∈ readTimes parsers drafts history,
        h.instant zone ≤ d.instant zone + jitter jitterMinutes draw

end Scans

/-! ## The latest time -/

theorem isAfter_eq (zone : ℤ) (a b : DateTime) :
    a.isAfter b =
      if a.naive = b.naive then some (decide (b.instant zone < a.instant zone)) else none := by
  unfold DateTime.isAfter DateTime.naive DateTime.instant
  cases a.offset with
  | none =>
    cases b.offset with
    | none =>
      simp only [Option.isNone_none, if_true, Option.getD_none, Option.some_inj, decide_eq_decide]
      omega
    | some y => rfl
  | some x =>
    cases b.offset with
    | none => rfl
    | some y => rfl

theorem latest_eq (zone : ℤ) {held dt : DateTime} (alike : dt.naive = held.naive) :
    latest (some held) dt =
      some (some (if held.instant zone < dt.instant zone then dt else held)) := by
  unfold latest
  dsimp only
  rw [isAfter_eq zone, if_pos alike]
  simp only [Option.map_some, decide_eq_true_eq]

theorem latest_concat (times : List DateTime) (dt : DateTime) (last : Option DateTime) :
    (times ++ [dt]).foldlM latest last =
      (times.foldlM latest last).bind fun before => latest before dt := by
  rw [List.foldlM_append]
  apply congrArg
  funext before
  exact bind_pure (latest before dt)

/-- Times of one kind have a latest one, the first of greatest instant. -/
theorem latest_of_alike (zone : ℤ) {kind : Bool} {times : List DateTime}
    (alike : ∀ d ∈ times, d.naive = kind) :
    times.foldlM latest none = some (times.argmax (DateTime.instant zone)) := by
  induction times using List.reverseRecOn with
  | nil => rfl
  | append_singleton times dt ih =>
    rw [List.forall_mem_append, List.forall_mem_singleton] at alike
    rw [latest_concat, ih alike.1, List.argmax_concat, Option.bind_some]
    cases found : times.argmax (DateTime.instant zone) with
    | none => rfl
    | some held =>
      have same : dt.naive = held.naive := by
        rw [alike.2, alike.1 held (List.argmax_mem found)]
      rw [latest_eq zone same]
      dsimp only
      split_ifs <;> rfl

/-- Times of both kinds have none. -/
theorem alike_of_latest {times : List DateTime} {last : Option DateTime}
    (scanned : times.foldlM latest none = some last) :
    ∃ kind, ∀ d ∈ times, d.naive = kind := by
  induction times using List.reverseRecOn generalizing last with
  | nil => exact ⟨true, fun _ member => by cases member⟩
  | append_singleton times dt ih =>
    rw [latest_concat] at scanned
    have ⟨before, first, compared⟩ := Option.bind_eq_some_iff.1 scanned
    have ⟨kind, alike⟩ := ih first
    rw [latest_of_alike 0 alike, Option.some_inj] at first
    rw [← first] at compared
    cases found : times.argmax (DateTime.instant 0) with
    | none =>
      rw [List.argmax_eq_none.1 found]
      exact ⟨dt.naive, fun d member => by rw [List.mem_singleton.1 member]⟩
    | some held =>
      rw [found] at compared
      have ⟨_, after, _⟩ := Option.map_eq_some_iff.1 compared
      rw [isAfter_eq 0] at after
      split_ifs at after with same
      refine ⟨kind, ?_⟩
      rw [List.forall_mem_append, List.forall_mem_singleton]
      exact ⟨alike, by rw [same, alike held (List.argmax_mem found)]⟩

section Scans

variable {τ : Type} {parsers : Parsers} {drafts : List Draft} {history : List (HistoryItem τ)}

theorem scanDraft_foldlM (texts : TextTimes drafts) (last : Option DateTime) :
    drafts.foldlM (scanDraft parsers) last =
      (drafts.filterMap (draftTime parsers)).foldlM latest last := by
  induction drafts generalizing last with
  | nil => rfl
  | cons draft drafts ih =>
    have texts' : TextTimes drafts := fun d member => texts d (List.mem_cons_of_mem _ member)
    have step : scanDraft parsers last draft =
        match draftTime parsers draft with
        | none => some last
        | some dt => latest last dt := by
      unfold scanDraft draftTime
      split_ifs with taken
      · cases time : publishTime draft with
        | none => rfl
        | some value =>
          have ⟨ts, is⟩ := texts draft List.mem_cons_self taken value time
          rw [is]
      · rfl
    rw [List.foldlM_cons, step]
    cases time : draftTime parsers draft with
    | none =>
      rw [List.filterMap_cons_none time]
      exact ih texts' last
    | some dt =>
      rw [List.filterMap_cons_some time, List.foldlM_cons]
      exact congrArg _ (funext fun next => ih texts' next)

theorem scanItem_foldlM (last : Option DateTime) :
    history.foldlM (scanItem parsers) last =
      (history.filterMap (scannedTime parsers)).foldlM latest last := by
  induction history generalizing last with
  | nil => rfl
  | cons item history ih =>
    have step : scanItem parsers last item =
        match scannedTime parsers item with
        | none => some last
        | some dt => latest last dt := by
      unfold scanItem scannedTime
      split_ifs <;> rfl
    rw [List.foldlM_cons, step]
    cases time : scannedTime parsers item with
    | none =>
      rw [List.filterMap_cons_none time]
      exact ih last
    | some dt =>
      rw [List.filterMap_cons_some time, List.foldlM_cons]
      exact congrArg _ (funext fun next => ih next)

theorem itemTime_of_scanned {item : HistoryItem τ} {d : DateTime}
    (scanned : scannedTime parsers item = some d) : itemTime parsers item = some d := by
  unfold scannedTime at scanned
  unfold itemTime Parsers.read
  split_ifs at scanned with taken
  rw [if_pos taken]
  have plain : contains "T" item.createdAt ≠ true := by
    intro iso
    rw [parsers.strptime_iso _ iso] at scanned
    cases scanned
  rw [if_neg plain]
  exact scanned

theorem plus_addJitter (last : DateTime) (delta : ℤ) (jitterMinutes draw : ℕ) :
    (last.plus delta).bind (addJitter jitterMinutes draw) =
      last.plus (delta + jitter jitterMinutes draw) := by
  unfold DateTime.plus addJitter jitter minute
  by_cases drawn : 0 < jitterMinutes
  · rw [if_pos drawn]
    simp only [if_pos drawn]
    by_cases fits : last.wall + delta ≤ maxWall
    · rw [if_pos fits, Option.bind_some]
      unfold DateTime.plus
      dsimp only
      rw [← add_assoc]
    · rw [if_neg fits, if_neg (by omega)]
      rfl
  · rw [if_neg drawn, add_zero]
    simp only [if_neg drawn]
    exact bind_pure (last.plus delta)

/-- The call where the scans have been read. -/
theorem calcNextAvailable_eq (texts : TextTimes drafts) {requested : DateTime}
    {minIntervalHours jitterMinutes draw : ℕ} :
    calcNextAvailable parsers requested drafts history minIntervalHours jitterMinutes draw =
      ((readTimes parsers drafts history).foldlM latest none).bind fun last =>
        match last with
        | none => some requested
        | some last =>
          (last.plus (minIntervalHours * hour + jitter jitterMinutes draw)).bind fun earliest =>
            (earliest.isAfter requested).map fun later =>
              if later then earliest else requested := by
  unfold calcNextAvailable readTimes
  rw [scanDraft_foldlM texts, List.foldlM_append]
  simp only [Option.bind_eq_bind, scanItem_foldlM, Option.bind_assoc]
  apply congrArg
  funext read
  apply congrArg
  funext last
  cases last with
  | none => rfl
  | some last =>
    dsimp only
    rw [← plus_addJitter, Option.bind_assoc]

/-- The later of two times of one kind. -/
theorem instant_ite (zone : ℤ) (a b : DateTime) {result : DateTime}
    (is : (if decide (b.instant zone < a.instant zone) = true then a else b) = result) :
    result.instant zone = max (b.instant zone) (a.instant zone) := by
  rw [← is]
  by_cases later : b.instant zone < a.instant zone
  · rw [if_pos (decide_eq_true later)]
    omega
  · rw [if_neg (by simpa using later)]
    omega

theorem jitter_nonneg (jitterMinutes draw : ℕ) : 0 ≤ jitter jitterMinutes draw := by
  unfold jitter minute
  split_ifs <;> omega

theorem Respects.fits {zone : ℤ} {requested : DateTime}
    {minIntervalHours jitterMinutes draw : ℕ} (texts : TextTimes drafts)
    (respects : Respects zone parsers requested drafts history minIntervalHours jitterMinutes
      draw) :
    Fits zone parsers requested drafts history minIntervalHours jitterMinutes draw := by
  have ⟨result, returned, _, _, items⟩ := respects
  rw [calcNextAvailable_eq texts] at returned
  have ⟨last, scanned, rest⟩ := Option.bind_eq_some_iff.1 returned
  have ⟨kind, alike⟩ := alike_of_latest scanned
  rw [latest_of_alike zone alike, Option.some_inj] at scanned
  cases last with
  | none =>
    have empty := List.argmax_eq_none.1 scanned
    cases rest
    constructor
    · rw [empty]
      exact fun _ member => by cases member
    · rw [scanned]
      exact fun _ found => by cases found
    · exact fun item member h time _ => .inl (items item member h time)
  | some last =>
    have ⟨earliest, added, compared⟩ := Option.bind_eq_some_iff.1 rest
    have ⟨later, after, chosen⟩ := Option.map_eq_some_iff.1 compared
    have among := List.argmax_mem scanned
    unfold DateTime.plus at added
    split_ifs at added with small
    rw [← Option.some.inj added] at after chosen
    rw [isAfter_eq zone] at after
    split_ifs at after with same
    rw [← Option.some.inj after] at chosen
    have instant := instant_ite zone _ _ chosen
    constructor
    · intro d member
      rw [alike d member, ← alike last among]
      exact same
    · intro d found
      rw [scanned, Option.some_inj] at found
      rw [← found, add_assoc]
      exact small
    · intro item member h time _
      have bound := items item member h time
      rw [instant] at bound
      unfold DateTime.instant at bound ⊢
      dsimp only at bound
      rcases le_max_iff.1 bound with before | within
      · exact .inl before
      · exact .inr ⟨last, among, by omega⟩

theorem Fits.respects {zone : ℤ} {requested : DateTime}
    {minIntervalHours jitterMinutes draw : ℕ} (texts : TextTimes drafts)
    (fits : Fits zone parsers requested drafts history minIntervalHours jitterMinutes draw) :
    Respects zone parsers requested drafts history minIntervalHours jitterMinutes draw := by
  have drawn := jitter_nonneg jitterMinutes draw
  unfold Respects
  rw [calcNextAvailable_eq texts]
  have scanned := latest_of_alike zone fits.alike
  rw [scanned, Option.bind_some]
  have draftsRead : ∀ draft ∈ drafts, ∀ d, draftTime parsers draft = some d →
      d ∈ readTimes parsers drafts history := fun draft member d time =>
    List.mem_append_left _ (List.mem_filterMap.2 ⟨draft, member, time⟩)
  have itemsRead : ∀ item ∈ history, ∀ d, scannedTime parsers item = some d →
      d ∈ readTimes parsers drafts history := fun item member d time =>
    List.mem_append_right _ (List.mem_filterMap.2 ⟨item, member, time⟩)
  cases found : (readTimes parsers drafts history).argmax (DateTime.instant zone) with
  | none =>
    have empty := List.argmax_eq_none.1 found
    rw [empty] at draftsRead itemsRead
    refine ⟨requested, rfl, le_refl _, ?_, ?_⟩
    · exact fun draft member d time => by cases draftsRead draft member d time
    · intro item member h time
      cases read : scannedTime parsers item with
      | some d => cases itemsRead item member d read
      | none =>
        rcases fits.skipped item member h time read with before | ⟨d, among, _⟩
        · exact before
        · rw [empty] at among
          cases among
  | some last =>
    have among := List.argmax_mem found
    have small := fits.within last found
    have most : ∀ d ∈ readTimes parsers drafts history, d.instant zone ≤ last.instant zone :=
      fun d member => List.le_of_mem_argmax member found
    let earliest : DateTime :=
      { last with wall := last.wall + (minIntervalHours * hour + jitter jitterMinutes draw) }
    have added : last.plus (minIntervalHours * hour + jitter jitterMinutes draw) =
        some earliest := by
      unfold DateTime.plus
      rw [if_pos (by omega)]
    have compared : earliest.isAfter requested =
        some (decide (requested.instant zone < earliest.instant zone)) := by
      rw [isAfter_eq zone, if_pos]
      exact fits.alike last among
    dsimp only
    rw [added, Option.bind_some, compared, Option.map_some]
    have instant := instant_ite zone earliest requested rfl
    have later : earliest.instant zone = last.instant zone +
        (minIntervalHours * hour + jitter jitterMinutes draw) := by
      unfold DateTime.instant
      change last.wall + _ - last.offset.getD zone = _
      omega
    refine ⟨_, rfl, ?_, ?_, ?_⟩
    · rw [instant]
      exact le_max_left _ _
    · intro draft member d time
      have le := most d (draftsRead draft member d time)
      rw [instant]
      omega
    · intro item member h time
      rw [instant]
      cases read : scannedTime parsers item with
      | some d =>
        have le := most d (itemsRead item member d read)
        rw [itemTime_of_scanned read, Option.some_inj] at time
        rw [← time]
        omega
      | none =>
        rcases fits.skipped item member h time read with before | ⟨d, among', near⟩
        · exact le_max_of_le_left before
        · have le := most d among'
          omega

/-- The call respects every time exactly where the times fit. -/
theorem respects_iff (zone : ℤ) (parsers : Parsers) (requested : DateTime) (drafts : List Draft)
    (history : List (HistoryItem τ)) (minIntervalHours jitterMinutes draw : ℕ)
    (texts : TextTimes drafts) :
    Respects zone parsers requested drafts history minIntervalHours jitterMinutes draw ↔
      Fits zone parsers requested drafts history minIntervalHours jitterMinutes draw :=
  ⟨Respects.fits texts, Fits.respects texts⟩

end Scans

/-- Noon of a day of May in UTC, as the program writes it in three formats. -/
def noonParsers : Parsers where
  fromisoformat ts :=
    if ts = "2026-05-18T12:00:00+00:00" then some ⟨1779105600000000, some 0⟩
    else if ts = "2026-05-18T12:00:00" then some ⟨1779105600000000, none⟩
    else none
  strptime ts := if ts = "2026-05-18 12:00" then some ⟨1779105600000000, none⟩ else none
  strptime_iso ts iso := by
    rw [if_neg]
    rintro rfl
    exact absurd iso (by decide)

/-- Half past twelve. -/
def halfPastTwelve : DateTime := ⟨1779107400000000, none⟩

def scheduledAt (ts : String) : Draft :=
  ⟨[("id", .text "d"), ("status", .text "scheduled"), ("scheduled_at", .text ts)], by simp⟩

def publishedItem (ts : String) : HistoryItem ℕ :=
  { id := "1", status := .text "published", createdAt := ts }

theorem noon_respects_iff :
    Respects 0 noonParsers halfPastTwelve [scheduledAt "2026-05-18T12:00:00"]
        [publishedItem "2026-05-18 12:00"] 4 30 7 ↔
      Fits 0 noonParsers halfPastTwelve [scheduledAt "2026-05-18T12:00:00"]
        [publishedItem "2026-05-18 12:00"] 4 30 7 :=
  respects_iff 0 noonParsers halfPastTwelve _ _ 4 30 7 fun draft member _ value time => by
    rw [List.mem_singleton.1 member] at time
    exact ⟨"2026-05-18T12:00:00", (Option.some.inj time).symm⟩

/-- The history's own format is skipped, and an aware draft raises at a naive request. -/
theorem written_time_missed :
    (calcNextAvailable noonParsers halfPastTwelve [] [publishedItem "2026-05-18T12:00:00+00:00"]
        4 30 7 = some halfPastTwelve ∧
      ¬ Respects 0 noonParsers halfPastTwelve []
        [publishedItem "2026-05-18T12:00:00+00:00"] 4 30 7) ∧
    calcNextAvailable noonParsers halfPastTwelve [scheduledAt "2026-05-18T12:00:00+00:00"]
      ([] : List (HistoryItem ℕ)) 4 30 7 = none := by
  have returned : calcNextAvailable noonParsers halfPastTwelve []
      [publishedItem "2026-05-18T12:00:00+00:00"] 4 30 7 = some halfPastTwelve := by decide
  refine ⟨⟨returned, ?_⟩, by decide⟩
  rintro ⟨result, same, _, _, items⟩
  rw [returned, Option.some_inj] at same
  have late := items _ List.mem_cons_self ⟨1779105600000000, some 0⟩ (by decide)
  rw [← same] at late
  exact absurd late (by decide)

end BacklinkPublisher.PublishTimes
