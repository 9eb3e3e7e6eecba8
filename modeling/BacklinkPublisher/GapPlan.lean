import BacklinkPublisher.DiscountMap
import BacklinkPublisher.OptionFolds
import Mathlib.Data.Finset.Dedup
import Mathlib.Data.Rat.Floor

set_option autoImplicit false

/-!
# Planning the gaps

`plan_gap` of `gap/engine.py` and `derive_main_domain` of `bulk_input.py`: each row of the ledger
is classified, and one that lacks links is fanned out over the platforms without one.
-/
namespace BacklinkPublisher.GapPlan
open DiscountMap (isCompound)
open EventStore (Value)
open LatestVerdicts (IsoTime)
open OptionFolds UrlSplit

/-- The JSON value of a field of a row. Of a float only the truth value matters, of an object only
the keys. -/
inductive Field where
  | null
  | bool (b : Bool)
  | int (n : ℤ)
  | float (truthy : Bool)
  | text (s : String)
  | list (items : List Value)
  | object (keys : List String)
  deriving DecidableEq, Repr

/-- A row of the ledger; a field that is missing is `null`, except `liveness`. -/
structure LedgerRow where
  targetUrl : Field := .null
  livenessVerifiedAt : Field := .null
  liveness : Option String := none
  liveDofollow : Field := .null
  liveDofollowPlatforms : Field := .null
  deriving DecidableEq, Repr

structure GapOptions where
  desired : ℤ
  language : String
  urlMode : String := "A"
  publishMode : String := "draft"
  desiredMap : List (String × ℤ) := []
  emitStale : Bool := false
  includeFailed : Bool := false
  staleAfterDays : Option ℤ := none
  deriving DecidableEq, Repr

/-- The counters of which a row that is not fanned out increments one. -/
inductive Reason where
  | satisfied
  | suppressedStale
  | suppressedUnverified
  | suppressedStaleFloor
  | failed
  | unknownLiveness
  | malformed
  deriving DecidableEq, Repr

structure SuppressionCounts where
  satisfied : ℕ := 0
  suppressedStale : ℕ := 0
  suppressedUnverified : ℕ := 0
  suppressedStaleFloor : ℕ := 0
  failed : ℕ := 0
  unknownLiveness : ℕ := 0
  malformed : ℕ := 0
  channelExhausted : ℕ := 0
  channelExhaustedTargets : List String := []
  deriving DecidableEq, Repr

namespace SuppressionCounts

def counter (counts : SuppressionCounts) : Reason → ℕ
  | .satisfied => counts.satisfied
  | .suppressedStale => counts.suppressedStale
  | .suppressedUnverified => counts.suppressedUnverified
  | .suppressedStaleFloor => counts.suppressedStaleFloor
  | .failed => counts.failed
  | .unknownLiveness => counts.unknownLiveness
  | .malformed => counts.malformed

def increment (counts : SuppressionCounts) : Reason → SuppressionCounts
  | .satisfied => { counts with satisfied := counts.satisfied + 1 }
  | .suppressedStale => { counts with suppressedStale := counts.suppressedStale + 1 }
  | .suppressedUnverified => { counts with suppressedUnverified := counts.suppressedUnverified + 1 }
  | .suppressedStaleFloor => { counts with suppressedStaleFloor := counts.suppressedStaleFloor + 1 }
  | .failed => { counts with failed := counts.failed + 1 }
  | .unknownLiveness => { counts with unknownLiveness := counts.unknownLiveness + 1 }
  | .malformed => { counts with malformed := counts.malformed + 1 }

def exhaust (counts : SuppressionCounts) (target : String) : SuppressionCounts :=
  { counts with
    channelExhausted := counts.channelExhausted + 1
    channelExhaustedTargets := counts.channelExhaustedTargets ++ [target] }

end SuppressionCounts

structure Seed where
  targetUrl : String
  platform : String
  mainDomain : String
  language : String
  urlMode : String
  publishMode : String
  deriving DecidableEq, Repr

structure Report where
  seeds : List Seed := []
  counts : SuppressionCounts := {}
  asOf : Option String := none
  deriving DecidableEq, Repr

/-- What a run depends on. `now` is a naive clock; `toLocal` is the clock of the local timezone at
a moment of UTC, and `none` where `astimezone` leaves the range of `datetime`. -/
structure Runtime where
  now : ℚ
  fromIso : String → Option IsoTime
  toLocal : ℚ → Option ℚ
  unicode : UnicodeData

section Engine
variable (env : Runtime) (opts : GapOptions) (active : List String)

def knownLiveness : List String := ["live", "stale", "failed", "unverified"]

def coerceLiveDofollow : Field → ℤ
  | .int n => max 0 n
  | _ => 0

/-- The timestamp as a naive local one. -/
def localClock (time : IsoTime) : Option ℚ :=
  if time.offset = none then some time.clock else env.toLocal time.utc

def ageDays (clock : ℚ) : ℤ := ⌊(env.now - clock) / 86400⌋

/-- `none` is an exception, here and below. -/
def verifiedOlderThan (verifiedAt : Field) (days : ℤ) : Option Bool :=
  match verifiedAt with
  | .text s =>
    if s = "" then some true
    else
      match env.fromIso s with
      | none => some true
      | some time => (localClock env time).map fun clock => days < ageDays env clock
  | _ => some true

/-- The first part of `_row_suppressed`. -/
def evidenceReason (liveness : String) (liveDofollow : ℤ) : Option Reason :=
  if liveness ∉ knownLiveness then some .unknownLiveness
  else if liveness = "failed" then if opts.includeFailed then none else some .failed
  else if liveness ∈ ["stale", "unverified"] ∧ liveDofollow = 0 then
    if opts.emitStale then none
    else if liveness = "stale" then some .suppressedStale
    else some .suppressedUnverified
  else none

/-- The counter that the row increments, if it is suppressed. -/
def rowSuppressed (liveness : String) (liveDofollow : ℤ) (verifiedAt : Field) :
    Option (Option Reason) :=
  match evidenceReason opts liveness liveDofollow with
  | some reason => some (some reason)
  | none =>
    match opts.staleAfterDays with
    | none => some none
    | some days =>
      if opts.emitStale then some none
      else
        (verifiedOlderThan env verifiedAt days).map fun older =>
          if older then some .suppressedStaleFloor else none

/-- `set(value or [])`, as far as texts are in it. -/
def platformSet : Field → Option (Finset String)
  | .null => some ∅
  | .bool b => if b then none else some ∅
  | .int n => if n ≠ 0 then none else some ∅
  | .float truthy => if truthy then none else some ∅
  | .text s => some (s.toList.map fun c => String.ofList [c]).toFinset
  | .list items =>
    if items.any isCompound then none else some (items.filterMap Value.asText).toFinset
  | .object keys => some keys.toFinset

def deriveMainDomain (url : String) : Option String :=
  (urlsplit env.unicode url.toList).map fun parsed =>
    if parsed.scheme ≠ [] ∧ parsed.netloc ≠ [] then
      String.ofList (parsed.scheme ++ "://".toList ++ parsed.netloc)
    else url

def seedOf (target mainDomain platform : String) : Seed where
  targetUrl := target
  platform := platform
  mainDomain := mainDomain
  language := opts.language
  urlMode := opts.urlMode
  publishMode := opts.publishMode

def emittedSeeds (target : String) (emitted : List String) : Option (List Seed) :=
  if emitted = [] then some []
  else (deriveMainDomain env target).map fun mainDomain => emitted.map (seedOf opts target mainDomain)

def fanOutTarget (target : String) (deficit : ℕ) (row : LedgerRow) (report : Report) :
    Option Report :=
  (platformSet row.liveDofollowPlatforms).bind fun alreadyLive =>
    let candidates := active.filter (· ∉ alreadyLive)
    (emittedSeeds env opts target (candidates.take deficit)).map fun seeds =>
      { report with
        seeds := report.seeds ++ seeds
        counts :=
          if candidates.length < deficit then report.counts.exhaust target else report.counts }

def desiredFor (target : String) : ℤ := (opts.desiredMap.lookup target).getD opts.desired

/-- The latest verification stamp so far. -/
def latestStamp (verifiedAt : Field) (asOf : Option String) : Option String :=
  match verifiedAt with
  | .text s => if asOf.all (· < s) then some s else asOf
  | _ => asOf

def Report.count (report : Report) (reason : Reason) : Report :=
  { report with counts := report.counts.increment reason }

/-- The body of the loop of `plan_gap`. -/
def planRow (report : Report) (row : LedgerRow) : Option Report :=
  match row.targetUrl with
  | .text target =>
    if target = "" then some (report.count .malformed)
    else
      let report := { report with asOf := latestStamp row.livenessVerifiedAt report.asOf }
      let liveDofollow := coerceLiveDofollow row.liveDofollow
      (rowSuppressed env opts (row.liveness.getD "unverified") liveDofollow
        row.livenessVerifiedAt).bind fun suppressed =>
        match suppressed with
        | some reason => some (report.count reason)
        | none =>
          let deficit := (desiredFor opts target - liveDofollow).toNat
          if deficit = 0 then some (report.count .satisfied)
          else fanOutTarget env opts active target deficit row report
  | _ => some (report.count .malformed)

def planGap (rows : List LedgerRow) : Option Report :=
  rows.foldlM (planRow env opts active) {}

end Engine

/-! ## What a row is counted as -/

section Meaning
variable (env : Runtime) (opts : GapOptions) (active : List String) (row : LedgerRow)

def livenessOf : String := row.liveness.getD "unverified"

def liveCount : ℤ := coerceLiveDofollow row.liveDofollow

/-- The row has a usable target. -/
def Targets (target : String) : Prop := row.targetUrl = .text target ∧ target ≠ ""

def floorDays : Option ℤ := if opts.emitStale then none else opts.staleAfterDays

/-- The liveness of the row is evidence that the options accept. -/
structure Trusted : Prop where
  known : livenessOf row ∈ knownLiveness
  failed : livenessOf row = "failed" → opts.includeFailed = true
  unproven : livenessOf row ∈ ["stale", "unverified"] → liveCount row = 0 → opts.emitStale = true

/-- The verification stamp is a timestamp of which the local clock is `clock`. -/
def VerifiedAt (clock : ℚ) : Prop :=
  ∃ stamp time, row.livenessVerifiedAt = .text stamp ∧ stamp ≠ "" ∧ env.fromIso stamp = some time ∧
    localClock env time = some clock

/-- The row was verified within the days of the floor. -/
def Fresh : Prop :=
  ∀ days, floorDays opts = some days → ∃ clock, VerifiedAt env row clock ∧ ageDays env clock ≤ days

/-- When a row increments a counter. -/
def Reason.Applies : Reason → Prop
  | .malformed => ∀ target, ¬ Targets row target
  | .unknownLiveness => livenessOf row ∉ knownLiveness
  | .failed => livenessOf row = "failed" ∧ opts.includeFailed = false
  | .suppressedStale => livenessOf row = "stale" ∧ liveCount row = 0 ∧ opts.emitStale = false
  | .suppressedUnverified =>
    livenessOf row = "unverified" ∧ liveCount row = 0 ∧ opts.emitStale = false
  | .suppressedStaleFloor => Trusted opts row ∧ ¬ Fresh env opts row
  | .satisfied =>
    Trusted opts row ∧ Fresh env opts row ∧
      ∃ target, Targets row target ∧ desiredFor opts target ≤ liveCount row

/-! ## What a row contributes -/

/-- One row of the report. -/
inductive Part where
  | counted (reason : Reason)
  | fannedOut (seeds : List Seed) (exhausted : Option String)
  deriving DecidableEq, Repr

def Part.seeds : Part → List Seed
  | .counted _ => []
  | .fannedOut seeds _ => seeds

def Part.exhausted : Part → Option String
  | .counted _ => none
  | .fannedOut _ exhausted => exhausted

/-- A fanned out row gets as many seeds as it lacks links, or as there are platforms for. -/
structure FansOut (seeds : List Seed) (exhausted : Option String) (target : String)
    (held : Finset String) (deficit : ℕ) : Prop where
  targeted : Targets row target
  trusted : Trusted opts row
  fresh : Fresh env opts row
  platforms : platformSet row.liveDofollowPlatforms = some held
  lacks : (deficit : ℤ) = desiredFor opts target - liveCount row
  positive : 0 < deficit
  amount : seeds.length = min deficit (active.filter (· ∉ held)).length
  targets : ∀ seed ∈ seeds, seed.targetUrl = target
  distinct : (seeds.map Seed.platform).Nodup
  outside : ∀ seed ∈ seeds, seed.platform ∉ held
  order : List.Sublist (seeds.map Seed.platform) active
  listed : exhausted = some target ↔ (active.filter (· ∉ held)).length < deficit
  unlisted : exhausted = none ↔ deficit ≤ (active.filter (· ∉ held)).length

inductive Accounts : Part → Prop
  | counted {reason : Reason} (applies : reason.Applies env opts row) : Accounts (.counted reason)
  | fannedOut {seeds : List Seed} {exhausted : Option String} {target : String}
      {held : Finset String} {deficit : ℕ}
      (fans : FansOut env opts active row seeds exhausted target held deficit) :
      Accounts (.fannedOut seeds exhausted)

/-- The row raises no exception: where it reaches the floor its timestamp has a local clock, and
where it is fanned out its platforms are a set, and its target a URL if there is a seed for it. -/
def Plannable : Prop :=
  ∀ target, Targets row target → Trusted opts row →
    (floorDays opts ≠ none → ∀ stamp time, row.livenessVerifiedAt = .text stamp → stamp ≠ "" →
      env.fromIso stamp = some time → (localClock env time).isSome) ∧
    (Fresh env opts row → liveCount row < desiredFor opts target →
      ∃ held, platformSet row.liveDofollowPlatforms = some held ∧
        ((∃ platform ∈ active, platform ∉ held) → (urlsplit env.unicode target.toList).isSome))

end Meaning

/-- The report is the sum of the parts. -/
structure Totals (parts : List Part) (report : Report) : Prop where
  seeds : report.seeds = parts.flatMap Part.seeds
  counters : ∀ reason, report.counts.counter reason = parts.count (.counted reason)
  exhausted : report.counts.channelExhausted = (parts.filterMap Part.exhausted).length
  exhaustedTargets : report.counts.channelExhaustedTargets = parts.filterMap Part.exhausted

/-! ## The classification -/

section Classification
variable {env : Runtime} {opts : GapOptions} {row : LedgerRow}

theorem evidenceReason_eq_none :
    evidenceReason opts (livenessOf row) (liveCount row) = none ↔ Trusted opts row := by
  constructor
  · intro none_
    unfold evidenceReason at none_
    split_ifs at none_ with known failed included unproven stale
    · exact ⟨known, fun _ => included, fun listed => by simp [failed] at listed⟩
    · exact ⟨known, fun h => absurd h failed, fun _ _ => stale⟩
    · exact ⟨known, fun h => absurd h failed, fun listed zero => absurd ⟨listed, zero⟩ unproven⟩
  · intro trusted
    unfold evidenceReason
    rw [if_neg (not_not.2 trusted.known)]
    by_cases failed : livenessOf row = "failed"
    · rw [if_pos failed, if_pos (trusted.failed failed)]
    · rw [if_neg failed]
      by_cases unproven : livenessOf row ∈ ["stale", "unverified"] ∧ liveCount row = 0
      · rw [if_pos unproven, if_pos (trusted.unproven unproven.1 unproven.2)]
      · rw [if_neg unproven]

theorem not_trusted_of_reason {reason : Reason}
    (some_ : evidenceReason opts (livenessOf row) (liveCount row) = some reason) :
    ¬ Trusted opts row := by
  intro trusted
  rw [evidenceReason_eq_none.2 trusted] at some_
  cases some_

theorem evidenceReason_applies {reason : Reason}
    (some_ : evidenceReason opts (livenessOf row) (liveCount row) = some reason) :
    reason.Applies env opts row := by
  unfold evidenceReason at some_
  split_ifs at some_ with known failed included unproven emit stale
  · rw [← Option.some.inj some_]
    exact ⟨failed, Bool.eq_false_iff.2 included⟩
  · rw [← Option.some.inj some_]
    exact ⟨stale, unproven.2, Bool.eq_false_iff.2 emit⟩
  · rw [← Option.some.inj some_]
    have unverified : livenessOf row = "unverified" := by
      rcases List.mem_cons.1 unproven.1 with h | h
      · exact absurd h stale
      · exact List.mem_singleton.1 h
    exact ⟨unverified, unproven.2, Bool.eq_false_iff.2 emit⟩
  · rw [← Option.some.inj some_]
    exact known

/-- A row is within `days` when it was verified at a clock that is no older. -/
theorem verifiedOlderThan_eq_false {days : ℤ} :
    verifiedOlderThan env row.livenessVerifiedAt days = some false ↔
      ∃ clock, VerifiedAt env row clock ∧ ageDays env clock ≤ days := by
  unfold VerifiedAt
  cases stamped : row.livenessVerifiedAt with
  | text stamp =>
    change (if stamp = "" then some true else _) = some false ↔ _
    by_cases empty : stamp = ""
    · rw [if_pos empty]
      simp [empty]
    · rw [if_neg empty]
      cases parsed : env.fromIso stamp with
      | none => simp [parsed]
      | some time => simp [parsed, empty]
  | _ => simp [verifiedOlderThan]

theorem verifiedOlderThan_isSome {days : ℤ} :
    (verifiedOlderThan env row.livenessVerifiedAt days).isSome ↔
      ∀ stamp time, row.livenessVerifiedAt = .text stamp → stamp ≠ "" →
        env.fromIso stamp = some time → (localClock env time).isSome := by
  cases stamped : row.livenessVerifiedAt with
  | text stamp =>
    change (if stamp = "" then some true else _ : Option Bool).isSome ↔ _
    constructor
    · intro decided _ time same nonempty parsed
      cases same
      rw [if_neg nonempty, parsed] at decided
      exact (Option.isSome_map ..).symm.trans decided
    · intro local_
      split_ifs with empty
      · rfl
      · cases parsed : env.fromIso stamp with
        | none => rfl
        | some time => exact (Option.isSome_map ..).trans (local_ stamp time rfl empty parsed)
  | _ => simp [verifiedOlderThan]

/-- What `_row_suppressed` does with a row whose liveness is accepted. -/
theorem rowSuppressed_trusted (trusted : Trusted opts row) :
    rowSuppressed env opts (livenessOf row) (liveCount row) row.livenessVerifiedAt =
      match floorDays opts with
      | none => some none
      | some days => (verifiedOlderThan env row.livenessVerifiedAt days).map fun older =>
          if older then some .suppressedStaleFloor else none := by
  unfold rowSuppressed floorDays
  rw [evidenceReason_eq_none.2 trusted]
  cases opts.staleAfterDays with
  | none => cases opts.emitStale <;> rfl
  | some days => cases opts.emitStale <;> rfl

theorem rowSuppressed_eq_none :
    rowSuppressed env opts (livenessOf row) (liveCount row) row.livenessVerifiedAt = some none ↔
      Trusted opts row ∧ Fresh env opts row := by
  cases evidence : evidenceReason opts (livenessOf row) (liveCount row) with
  | some reason =>
    simp [rowSuppressed, evidence, not_trusted_of_reason evidence]
  | none =>
    have trusted := evidenceReason_eq_none.1 evidence
    rw [rowSuppressed_trusted trusted, and_iff_right trusted]
    unfold Fresh
    cases floorDays opts with
    | none => simp
    | some days =>
      dsimp only
      rw [Option.map_eq_some_iff]
      constructor
      · rintro ⟨older, verified, none_⟩ _ same
        cases same
        cases older with
        | false => exact verifiedOlderThan_eq_false.1 verified
        | true => cases none_
      · intro fresh
        exact ⟨false, verifiedOlderThan_eq_false.2 (fresh days rfl), rfl⟩

theorem rowSuppressed_applies {reason : Reason}
    (suppressed : rowSuppressed env opts (livenessOf row) (liveCount row) row.livenessVerifiedAt =
      some (some reason)) : reason.Applies env opts row := by
  cases evidence : evidenceReason opts (livenessOf row) (liveCount row) with
  | some first =>
    unfold rowSuppressed at suppressed
    rw [evidence] at suppressed
    rw [← Option.some.inj (Option.some.inj suppressed)]
    exact evidenceReason_applies evidence
  | none =>
    have trusted := evidenceReason_eq_none.1 evidence
    have stale : reason = .suppressedStaleFloor := by
      rw [rowSuppressed_trusted trusted] at suppressed
      cases days : floorDays opts with
      | none =>
        rw [days] at suppressed
        cases suppressed
      | some days =>
        rw [days] at suppressed
        have ⟨older, _, reason_⟩ := Option.map_eq_some_iff.1 suppressed
        cases older with
        | true => exact (Option.some.inj reason_).symm
        | false => cases reason_
    rw [stale] at suppressed ⊢
    refine ⟨trusted, fun fresh => ?_⟩
    rw [rowSuppressed_eq_none.2 ⟨trusted, fresh⟩] at suppressed
    cases suppressed

theorem rowSuppressed_isSome :
    (rowSuppressed env opts (livenessOf row) (liveCount row) row.livenessVerifiedAt).isSome ↔
      (Trusted opts row → floorDays opts ≠ none → ∀ stamp time,
        row.livenessVerifiedAt = .text stamp → stamp ≠ "" → env.fromIso stamp = some time →
          (localClock env time).isSome) := by
  cases evidence : evidenceReason opts (livenessOf row) (liveCount row) with
  | some reason =>
    simp [rowSuppressed, evidence, not_trusted_of_reason evidence]
  | none =>
    have trusted := evidenceReason_eq_none.1 evidence
    rw [rowSuppressed_trusted trusted, forall_prop_of_true trusted]
    cases floorDays opts with
    | none => simp
    | some days =>
      dsimp only
      rw [Option.isSome_map, verifiedOlderThan_isSome]
      simp

end Classification

/-! ## The fan-out -/

section FanOut
variable {env : Runtime} {opts : GapOptions} {active : List String} {row : LedgerRow}

theorem emittedSeeds_spec {target : String} {emitted : List String} {seeds : List Seed}
    (some_ : emittedSeeds env opts target emitted = some seeds) :
    seeds.map Seed.platform = emitted ∧ ∀ seed ∈ seeds, seed.targetUrl = target := by
  unfold emittedSeeds at some_
  split_ifs at some_ with empty
  · rw [← Option.some.inj some_, empty]
    exact ⟨rfl, fun _ mem => absurd mem List.not_mem_nil⟩
  · have ⟨mainDomain, _, seeds_⟩ := Option.map_eq_some_iff.1 some_
    rw [← seeds_, List.map_map]
    constructor
    · exact List.map_id _
    · intro seed mem
      have ⟨platform, _, seed_⟩ := List.mem_map.1 mem
      rw [← seed_]
      rfl

theorem emittedSeeds_isSome {target : String} {emitted : List String} :
    (emittedSeeds env opts target emitted).isSome ↔
      (emitted ≠ [] → (urlsplit env.unicode target.toList).isSome) := by
  unfold emittedSeeds deriveMainDomain
  split_ifs with empty
  · simp [empty]
  · rw [Option.isSome_map, Option.isSome_map, forall_prop_of_true empty]

theorem fanOutTarget_isSome {target : String} {deficit : ℕ} {report : Report}
    (positive : 0 < deficit) :
    (fanOutTarget env opts active target deficit row report).isSome ↔
      ∃ held, platformSet row.liveDofollowPlatforms = some held ∧
        ((∃ platform ∈ active, platform ∉ held) → (urlsplit env.unicode target.toList).isSome) := by
  have emits : ∀ held : Finset String, (active.filter (· ∉ held)).take deficit ≠ [] ↔
      ∃ platform ∈ active, platform ∉ held := by
    intro held
    rw [Ne, List.take_eq_nil_iff, List.filter_eq_nil_iff]
    push Not
    simp [positive.ne']
  unfold fanOutTarget
  cases platforms : platformSet row.liveDofollowPlatforms with
  | none => simp
  | some held =>
    simp only [Option.bind_some, Option.isSome_map, emittedSeeds_isSome, Option.some.injEq,
      exists_eq_left', emits]

/-- What a fanned out row changes. -/
theorem fanOutTarget_spec {target : String} {deficit : ℕ} {report next : Report}
    (distinct : active.Nodup) (targeted : Targets row target) (trusted : Trusted opts row)
    (fresh : Fresh env opts row) (lacks : (deficit : ℤ) = desiredFor opts target - liveCount row)
    (positive : 0 < deficit)
    (some_ : fanOutTarget env opts active target deficit row report = some next) :
    ∃ seeds exhausted held, FansOut env opts active row seeds exhausted target held deficit ∧
      next.seeds = report.seeds ++ seeds ∧
      next.counts = exhausted.elim report.counts report.counts.exhaust := by
  have ⟨held, platforms, emitted⟩ := Option.bind_eq_some_iff.1 some_
  have ⟨seeds, seeds_, next_⟩ := Option.map_eq_some_iff.1 emitted
  have ⟨listed, targets⟩ := emittedSeeds_spec seeds_
  have order : List.Sublist (seeds.map Seed.platform) (active.filter (· ∉ held)) := by
    rw [listed]
    exact List.take_sublist _ _
  refine ⟨seeds, if (active.filter (· ∉ held)).length < deficit then some target else none, held,
    ⟨targeted, trusted, fresh, platforms, lacks, positive, ?_, targets, ?_, ?_, ?_, ?_, ?_⟩, ?_, ?_⟩
  · rw [← List.length_map Seed.platform, listed, List.length_take]
  · exact order.nodup (distinct.filter _)
  · intro seed mem
    have kept := order.mem (List.mem_map_of_mem mem)
    exact of_decide_eq_true (List.mem_filter.1 kept).2
  · exact order.trans List.filter_sublist
  · split_ifs with short
    · exact iff_of_true rfl short
    · exact iff_of_false (by simp) short
  · split_ifs with short
    · exact iff_of_false (by simp) (Nat.not_le_of_lt short)
    · exact iff_of_true rfl (Nat.le_of_not_lt short)
  · rw [← next_]
  · rw [← next_]
    dsimp only
    split_ifs <;> rfl

end FanOut

/-! ## A row of a run -/

section Runs
variable {env : Runtime} {opts : GapOptions} {active : List String}

@[simp] theorem SuppressionCounts.counter_increment (counts : SuppressionCounts)
    (reason other : Reason) : (counts.increment reason).counter other =
      counts.counter other + if reason = other then 1 else 0 := by
  cases reason <;> cases other <;> rfl

@[simp] theorem SuppressionCounts.counter_exhaust (counts : SuppressionCounts) (target : String)
    (reason : Reason) : (counts.exhaust target).counter reason = counts.counter reason := by
  cases reason <;> rfl

@[simp] theorem SuppressionCounts.channelExhausted_increment (counts : SuppressionCounts)
    (reason : Reason) : (counts.increment reason).channelExhausted = counts.channelExhausted := by
  cases reason <;> rfl

@[simp] theorem SuppressionCounts.channelExhaustedTargets_increment (counts : SuppressionCounts)
    (reason : Reason) :
    (counts.increment reason).channelExhaustedTargets = counts.channelExhaustedTargets := by
  cases reason <;> rfl

theorem untargeted {row : LedgerRow} (blank : ∀ target, row.targetUrl = .text target → target = "")
    (target : String) : ¬ Targets row target :=
  fun targeted => targeted.2 (blank target targeted.1)

/-- The loop over one row counts it or fans it out. -/
theorem planRow_spec (distinct : active.Nodup) {report next : Report} {row : LedgerRow}
    (step : planRow env opts active report row = some next) :
    (∃ reason : Reason, reason.Applies env opts row ∧ next.seeds = report.seeds ∧
        next.counts = report.counts.increment reason) ∨
      ∃ seeds exhausted target held deficit,
        FansOut env opts active row seeds exhausted target held deficit ∧
          next.seeds = report.seeds ++ seeds ∧
          next.counts = exhausted.elim report.counts report.counts.exhaust := by
  unfold planRow at step
  cases url : row.targetUrl with
  | text target =>
    rw [url] at step
    dsimp only at step
    by_cases empty : target = ""
    · rw [if_pos empty] at step
      rw [← Option.some.inj step]
      refine .inl ⟨.malformed, untargeted fun other other_ => ?_, rfl, rfl⟩
      rw [← Field.text.inj (url.symm.trans other_)]
      exact empty
    · rw [if_neg empty] at step
      have ⟨suppressed, suppressed_, step⟩ := Option.bind_eq_some_iff.1 step
      cases suppressed with
      | some reason =>
        dsimp only at step
        rw [← Option.some.inj step]
        exact .inl ⟨reason, rowSuppressed_applies suppressed_, rfl, rfl⟩
      | none =>
        have ⟨trusted, fresh⟩ := rowSuppressed_eq_none.1 suppressed_
        have targeted : Targets row target := ⟨url, empty⟩
        dsimp only at step
        split_ifs at step with zero
        · rw [← Option.some.inj step]
          have enough : desiredFor opts target ≤ liveCount row := by
            unfold liveCount
            omega
          exact .inl ⟨.satisfied, ⟨trusted, fresh, target, targeted, enough⟩, rfl, rfl⟩
        · have lacks : (((desiredFor opts target - liveCount row).toNat : ℕ) : ℤ) =
              desiredFor opts target - liveCount row := by
            unfold liveCount
            omega
          have ⟨seeds, exhausted, held, fans, next_⟩ := fanOutTarget_spec distinct targeted trusted
            fresh lacks (Nat.pos_of_ne_zero zero) step
          exact .inr ⟨seeds, exhausted, target, held, _, fans, next_⟩
  | _ =>
    rw [url] at step
    rw [← Option.some.inj step]
    refine .inl ⟨.malformed, untargeted fun other other_ => ?_, rfl, rfl⟩
    cases url.symm.trans other_

theorem planRow_isSome (report : Report) (row : LedgerRow) :
    (planRow env opts active report row).isSome ↔ Plannable env opts active row := by
  unfold planRow
  cases url : row.targetUrl with
  | text target =>
    dsimp only
    by_cases empty : target = ""
    · rw [if_pos empty]
      refine iff_of_true rfl fun other targeted => absurd targeted (untargeted ?_ other)
      intro text text_
      rw [← Field.text.inj (url.symm.trans text_)]
      exact empty
    · rw [if_neg empty]
      have plannable : Plannable env opts active row ↔ (Trusted opts row →
          (floorDays opts ≠ none → ∀ stamp time, row.livenessVerifiedAt = .text stamp →
            stamp ≠ "" → env.fromIso stamp = some time → (localClock env time).isSome) ∧
          (Fresh env opts row → liveCount row < desiredFor opts target →
            ∃ held, platformSet row.liveDofollowPlatforms = some held ∧
              ((∃ platform ∈ active, platform ∉ held) →
                (urlsplit env.unicode target.toList).isSome))) := by
        constructor
        · exact fun plannable => plannable target ⟨url, empty⟩
        · intro plannable other targeted
          rw [← Field.text.inj (url.symm.trans targeted.1)]
          exact plannable
      rw [plannable, imp_and, ← rowSuppressed_isSome]
      change (Option.bind (rowSuppressed env opts (livenessOf row) (liveCount row)
        row.livenessVerifiedAt) _).isSome ↔ _
      cases suppressed : rowSuppressed env opts (livenessOf row) (liveCount row)
        row.livenessVerifiedAt with
      | none => simp
      | some reason =>
        rw [Option.bind_some, and_iff_right Option.isSome_some]
        cases reason with
        | some reason =>
          refine iff_of_true rfl fun trusted fresh => ?_
          rw [rowSuppressed_eq_none.2 ⟨trusted, fresh⟩] at suppressed
          cases suppressed
        | none =>
          have ⟨trusted, fresh⟩ := rowSuppressed_eq_none.1 suppressed
          rw [forall_prop_of_true trusted, forall_prop_of_true fresh]
          change (if (desiredFor opts target - liveCount row).toNat = 0 then _ else _ :
            Option Report).isSome ↔ _
          split_ifs with zero
          · refine iff_of_true rfl fun lacks => ?_
            omega
          · have lacks : liveCount row < desiredFor opts target := by omega
            rw [forall_prop_of_true lacks]
            exact fanOutTarget_isSome (Nat.pos_of_ne_zero zero)
  | _ =>
    refine iff_of_true rfl fun other targeted => ?_
    cases url.symm.trans targeted.1

/-- A row adds its part to the report. -/
theorem Totals.step (distinct : active.Nodup) {parts : List Part} {report next : Report}
    {row : LedgerRow} (totals : Totals parts report)
    (step : planRow env opts active report row = some next) :
    ∃ part, Accounts env opts active row part ∧ Totals (parts ++ [part]) next := by
  rcases planRow_spec distinct step with
    ⟨reason, applies, seeds_, counts_⟩ | ⟨seeds, exhausted, target, held, deficit, fans, seeds_, counts_⟩
  · refine ⟨.counted reason, .counted applies, ?_, fun other => ?_, ?_, ?_⟩
    · rw [seeds_, totals.seeds, List.flatMap_append, List.flatMap_singleton]
      exact (List.append_nil _).symm
    · rw [counts_, SuppressionCounts.counter_increment, totals.counters, List.count_append,
        List.count_singleton]
      simp
    · rw [counts_, SuppressionCounts.channelExhausted_increment, totals.exhausted,
        List.filterMap_append]
      simp [Part.exhausted]
    · rw [counts_, SuppressionCounts.channelExhaustedTargets_increment, totals.exhaustedTargets,
        List.filterMap_append]
      simp [Part.exhausted]
  · have counters : ∀ other, next.counts.counter other =
        (parts ++ [Part.fannedOut seeds exhausted]).count (Part.counted other) := by
      intro other
      rw [List.count_append, List.count_singleton, ← totals.counters, counts_]
      cases exhausted with
      | none => simp
      | some target => simp
    refine ⟨.fannedOut seeds exhausted, .fannedOut fans, ?_, counters, ?_, ?_⟩
    · rw [seeds_, totals.seeds, List.flatMap_append, List.flatMap_singleton]
      rfl
    · rw [counts_, List.filterMap_append, List.length_append, ← totals.exhausted]
      cases exhausted with
      | none => rfl
      | some target => rfl
    · rw [counts_, List.filterMap_append, ← totals.exhaustedTargets]
      cases exhausted with
      | none => exact (List.append_nil _).symm
      | some target => rfl

theorem planGap_accounts (distinct : active.Nodup) {rows : List LedgerRow} {report : Report}
    (run : planGap env opts active rows = some report) :
    ∃ parts, List.Forall₂ (Accounts env opts active) rows parts ∧ Totals parts report := by
  have start : Totals [] {} := ⟨rfl, fun reason => by cases reason <;> rfl, rfl, rfl⟩
  apply @foldlM_seen _ _ _ (fun seen report =>
    ∃ parts, List.Forall₂ (Accounts env opts active) seen parts ∧ Totals parts report)
    _ _ [] _ run ⟨[], .nil, start⟩
  rintro seen before row next ⟨parts, accounts, totals⟩ step
  have ⟨part, own, totals'⟩ := totals.step distinct step
  exact ⟨parts ++ [part], List.rel_append accounts (.cons own .nil), totals'⟩

end Runs

section Main
variable (env : Runtime) (opts : GapOptions) (active : List String)

/-- Every row of a run is counted once or fanned out. -/
theorem gap_accounted_iff (distinct : active.Nodup) (rows : List LedgerRow) :
    (∃ report, planGap env opts active rows = some report ∧
        ∃ parts, List.Forall₂ (Accounts env opts active) rows parts ∧ Totals parts report) ↔
      ∀ row ∈ rows, Plannable env opts active row := by
  rw [← foldlM_isSome (fun report row => planRow_isSome report row) rows {}]
  constructor
  · rintro ⟨report, run, _⟩
    exact Option.isSome_of_eq_some run
  · intro ends
    have ⟨report, run⟩ := Option.isSome_iff_exists.1 ends
    exact ⟨report, run, planGap_accounts distinct run⟩

end Main

def sampleRuntime : Runtime where
  now := 20 * 86400
  fromIso := fun value =>
    if value = "1970-01-15T00:00:00+00:00" then some ⟨14 * 86400, some 0⟩ else none
  toLocal := some
  unicode := asciiData

def sampleRow : LedgerRow where
  targetUrl := .text "https://a.example/x"
  livenessVerifiedAt := .text "1970-01-15T00:00:00+00:00"
  liveness := some "live"
  liveDofollow := .int 1
  liveDofollowPlatforms := .list [.text "blogger"]

def sampleOptions : GapOptions where
  desired := 3
  language := "en"
  staleAfterDays := some 7

/-- A row with a target that is no URL is fanned out; the run ends in a `ValueError`. -/
theorem unclosed_bracket_raises : ¬ ∃ report,
    planGap sampleRuntime sampleOptions ["blogger"]
        [{ sampleRow with
            targetUrl := .text "http://[x", liveDofollowPlatforms := .list [] }] = some report ∧
      ∃ parts, List.Forall₂ (Accounts sampleRuntime sampleOptions ["blogger"])
        [{ sampleRow with
            targetUrl := .text "http://[x", liveDofollowPlatforms := .list [] }] parts ∧
        Totals parts report := by
  rintro ⟨report, run, _⟩
  have raises : (planGap sampleRuntime sampleOptions ["blogger"]
      [{ sampleRow with
          targetUrl := .text "http://[x", liveDofollowPlatforms := .list [] }]).isNone := by
    decide +kernel
  rw [run] at raises
  cases raises

theorem gap_accounted_sample : ∃ report,
    planGap sampleRuntime sampleOptions ["blogger", "ghpages"] [sampleRow, {}] = some report ∧
      ∃ parts, List.Forall₂ (Accounts sampleRuntime sampleOptions ["blogger", "ghpages"])
        [sampleRow, {}] parts ∧ Totals parts report := by
  refine (gap_accounted_iff _ _ _ (by decide) _).2 fun row mem target targeted _ => ?_
  rcases List.mem_cons.1 mem with here | later
  · rw [here] at targeted ⊢
    refine ⟨fun _ stamp time _ _ _ => ?_, fun _ _ => ⟨{"blogger"}, rfl, fun _ => ?_⟩⟩
    · unfold localClock
      split_ifs <;> rfl
    · rw [← Field.text.inj targeted.1]
      decide +kernel
  · rw [List.mem_singleton.1 later] at targeted
    cases targeted.1

end BacklinkPublisher.GapPlan
