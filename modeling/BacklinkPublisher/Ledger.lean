import BacklinkPublisher.LedgerFiling
import Mathlib.Data.List.Sort

set_option autoImplicit false

/-!
# The ledger

`build_ledger` of `ledger/aggregate.py` with the readers of `link.rechecked` events that it
uses. The ratio of exact-match anchors is left out.
-/
namespace BacklinkPublisher.Ledger
open Checkpoints OrderedDicts LedgerJoin LedgerFiling

/-! ## What the ledger asks -/

inductive DofollowStatus where
  | dofollow
  | nofollow
  | uncertain
  deriving DecidableEq, Repr

structure Registry where
  dofollowStatus : String → Option DofollowStatus
  referralValue : String → Option String

/-- What one evaluation reads of its surroundings. `ageDays` is the age in days of a time text
at its `now`, `none` where `fromisoformat` raises; `isSpace` is what `strip` removes. -/
structure Host where
  canonicalizeUrl : String → Option String
  isSpace : Char → Bool
  ageDays : String → Option ℤ
  registry : Registry

/-! ## Rechecks -/

def linkRechecked : String := "link.rechecked"

def deterministicDead : List String := ["host_gone", "link_stripped"]

def dofollowLost : String := "dofollow_lost"

structure LatestVerdict where
  ts : Option ℤ
  rid : ℕ
  payload : EventPayload
  deriving DecidableEq, Repr

def isNewer (ts : Option ℤ) (rid : ℕ) (prevTs : Option ℤ) (prevRid : ℕ) : Bool :=
  match ts, prevTs with
  | none, none => prevRid < rid
  | some _, none => true
  | none, some _ => false
  | some ts, some prevTs => if ts ≠ prevTs then prevTs < ts else prevRid < rid

section Rechecks
variable (host : Host)

/-- `_canon_target` of a text. -/
def canonTarget (value : String) : Option String :=
  if value.toList.all host.isSpace then none else host.canonicalizeUrl value

def recheckKey (row : EventRow) : Option String :=
  match row.payload.liveUrl.bind (canonTarget host) with
  | some key => some key
  | none => row.articleId.map fun articleId => "aid:" ++ toString articleId

def latestStep (latest : String → Option LatestVerdict) (row : EventRow) :
    String → Option LatestVerdict :=
  if row.kind ≠ linkRechecked then latest
  else match recheckKey host row with
    | none => latest
    | some key =>
      match latest key with
      | none => Function.update latest key (some ⟨row.ts, row.id, row.payload⟩)
      | some prev =>
        if isNewer row.ts row.id prev.ts prev.rid then
          Function.update latest key (some ⟨row.ts, row.id, row.payload⟩)
        else latest

def latestLinkVerdicts (events : List EventRow) : String → Option LatestVerdict :=
  events.foldl (latestStep host) fun _ => none

/-- The latest verdict of a link where it overrides the recorded verify signal. -/
def loadRecheckLiveness (events : List EventRow) (liveUrl : String) : Option String :=
  if "aid:".toList.isPrefixOf liveUrl.toList then none
  else (latestLinkVerdicts host events liveUrl).bind fun latest =>
    latest.payload.verdict.filter (· ∈ dofollowLost :: deterministicDead)

def confirmedStep (latest : String → Option (Option ℤ × ℕ × Bool)) (row : EventRow) :
    String → Option (Option ℤ × ℕ × Bool) :=
  if row.kind ≠ linkRechecked then latest
  else match (truthy row.payload.liveUrl).bind host.canonicalizeUrl with
    | none => latest
    | some key =>
      match latest key with
      | none => Function.update latest key (some (row.ts, row.id, row.payload.confirmedDofollow))
      | some (prevTs, prevRid, _) =>
        if row.ts.isSome && prevTs.isNone ||
            (row.ts.any fun ts => prevTs.any fun prevTs => decide (prevTs < ts)) ||
            row.ts = prevTs && prevRid < row.id then
          Function.update latest key (some (row.ts, row.id, row.payload.confirmedDofollow))
        else latest

def loadConfirmedDofollowUrls (events : List EventRow) (liveUrl : String) : Bool :=
  (events.foldl (confirmedStep host) (fun _ => none) liveUrl).any fun latest => latest.2.2

end Rechecks

/-! ## A link -/

inductive DofollowClass where
  | dofollow
  | uncertain
  | nofollow
  | unknown
  deriving DecidableEq, Repr

def classify (registry : Registry) (platform : Option String)
    (confirmedDofollowUrls : String → Bool := fun _ => false) (liveUrl : Option String := none) :
    DofollowClass × Option String :=
  match truthy platform with
  | none => (.unknown, none)
  | some platform =>
    match registry.dofollowStatus platform with
    | none => (.unknown, none)
    | some .dofollow => (.dofollow, none)
    | some .uncertain =>
      if (truthy liveUrl).any confirmedDofollowUrls then (.dofollow, none) else (.uncertain, none)
    | some .nofollow => (.nofollow, registry.referralValue platform)

inductive Liveness where
  | failed
  | stale
  | live
  | unverified
  deriving DecidableEq, Repr

def Liveness.rank : Liveness → ℕ
  | .failed => 3
  | .stale => 2
  | .live => 1
  | .unverified => 0

def linkLiveness (ageDays : String → Option ℤ) (staleDays : ℤ) (link : LinkRecord)
    (recheckVerdict : Option String := none) : Liveness :=
  if recheckVerdict.any (· ∈ deterministicDead) then .failed
  else if (truthy link.verifyError).isSome then .failed
  else match truthy link.verifiedAt with
    | none => .unverified
    | some verifiedAt =>
      match ageDays verifiedAt with
      | none => .unverified
      | some days => if staleDays < days then .stale else .live

/-! ## A row -/

structure DofollowBreakdown where
  dofollow : ℕ := 0
  uncertain : ℕ := 0
  nofollow : ℕ := 0
  unknown : ℕ := 0
  nofollowHigh : ℕ := 0
  nofollowLow : ℕ := 0
  deriving DecidableEq, Repr

def DofollowBreakdown.count (breakdown : DofollowBreakdown) :
    DofollowClass × Option String → DofollowBreakdown
  | (.dofollow, _) => { breakdown with dofollow := breakdown.dofollow + 1 }
  | (.uncertain, _) => { breakdown with uncertain := breakdown.uncertain + 1 }
  | (.nofollow, referral) =>
    { breakdown with
      nofollow := breakdown.nofollow + 1
      nofollowHigh := breakdown.nofollowHigh + if referral = some "high" then 1 else 0
      nofollowLow := breakdown.nofollowLow + if referral = some "low" then 1 else 0 }
  | (.unknown, _) => { breakdown with unknown := breakdown.unknown + 1 }

structure LedgerRow where
  targetUrl : String
  totalLinks : ℕ
  liveLinks : ℕ
  dofollow : DofollowBreakdown
  liveDofollow : ℕ
  platformCount : ℕ
  platforms : List String
  liveDofollowPlatforms : List String
  hasAnchorData : Bool
  liveness : Liveness
  livenessRowLevel : Bool
  historyItemIds : List String
  deriving DecidableEq, Repr

/-- The locals of the loop over the links of a bucket. -/
structure Tally where
  breakdown : DofollowBreakdown := {}
  platforms : List String := []
  liveDofollowPlatforms : List String := []
  statuses : List Liveness := []
  liveLinks : ℕ := 0
  liveDofollow : ℕ := 0
  rowLevel : Bool := false

/-- `set.add` of a platform that a link may lack. -/
def addPlatform (platform : Option String) (platforms : List String) : List String :=
  match truthy platform with
  | none => platforms
  | some platform => if platform ∈ platforms then platforms else platforms ++ [platform]

section Rows
variable (host : Host) (staleDays : ℤ) (events : List EventRow)

/-- Class and liveness of a link, and whether it counts as live dofollow. -/
def ledgerClass (link : LinkRecord) : DofollowClass × Option String :=
  classify host.registry link.platform (loadConfirmedDofollowUrls host events) (some link.liveUrl)

def ledgerLiveness (link : LinkRecord) : Liveness :=
  linkLiveness host.ageDays staleDays link (loadRecheckLiveness host events link.liveUrl)

def ledgerCounts (link : LinkRecord) : Bool :=
  ledgerLiveness host staleDays events link = .live &&
    ((ledgerClass host events link).1 = .dofollow &&
      loadRecheckLiveness host events link.liveUrl ≠ some dofollowLost)

def itemLinkCount (links : List LinkRecord) (itemId : String) : ℕ :=
  links.countP fun link => truthy link.historyItemId = some itemId

def tallyStep (links : List LinkRecord) (tally : Tally) (link : LinkRecord) : Tally where
  breakdown := tally.breakdown.count (ledgerClass host events link)
  platforms := addPlatform link.platform tally.platforms
  liveDofollowPlatforms :=
    if ledgerCounts host staleDays events link then
      addPlatform link.platform tally.liveDofollowPlatforms
    else tally.liveDofollowPlatforms
  statuses := tally.statuses ++ [ledgerLiveness host staleDays events link]
  liveLinks :=
    tally.liveLinks + if ledgerLiveness host staleDays events link = .live then 1 else 0
  liveDofollow := tally.liveDofollow + if ledgerCounts host staleDays events link then 1 else 0
  rowLevel := tally.rowLevel ||
    (truthy link.historyItemId).any fun itemId => 1 < itemLinkCount links itemId

def tallyOf (bucket : TargetBucket) : Tally :=
  bucket.links.foldl (tallyStep host staleDays events bucket.links) {}

end Rows

/-- The order of the ledger: weak targets first. -/
def LedgerRow.before (row row' : LedgerRow) : Prop :=
  row.liveDofollow < row'.liveDofollow ∨
    row.liveDofollow = row'.liveDofollow ∧ row.targetUrl ≤ row'.targetUrl

instance : DecidableRel LedgerRow.before := fun _ _ => inferInstanceAs (Decidable (_ ∨ _ ∧ _))

def DofollowBreakdown.total (breakdown : DofollowBreakdown) : ℕ :=
  breakdown.dofollow + breakdown.uncertain + breakdown.nofollow + breakdown.unknown

theorem total_count (breakdown : DofollowBreakdown) (graded : DofollowClass × Option String) :
    (breakdown.count graded).total = breakdown.total + 1 := by
  obtain ⟨grade, referral⟩ := graded
  unfold DofollowBreakdown.total
  cases grade <;> simp only [DofollowBreakdown.count] <;> omega

theorem mem_addPlatform {platform : Option String} {platforms : List String} {p : String} :
    p ∈ addPlatform platform platforms ↔ p ∈ platforms ∨ truthy platform = some p := by
  unfold addPlatform
  cases named : truthy platform with
  | none => simp
  | some name =>
    dsimp only
    split_ifs with present
    · constructor
      · exact .inl
      · intro h
        rcases h with h | h
        · exact h
        · rw [← Option.some.inj h]
          exact present
    · simp [eq_comm]

/-- The tally of `n` links. -/
structure TallySound (n : ℕ) (tally : Tally) : Prop where
  classes : tally.breakdown.total = n
  live : tally.liveLinks ≤ n
  dofollow : tally.liveDofollow ≤ tally.liveLinks
  platforms : ∀ platform ∈ tally.liveDofollowPlatforms, platform ∈ tally.platforms

section Tallies
variable {host : Host} {staleDays : ℤ} {events : List EventRow}

theorem live_of_counts {link : LinkRecord} (counts : ledgerCounts host staleDays events link = true) :
    ledgerLiveness host staleDays events link = .live := by
  unfold ledgerCounts at counts
  rw [Bool.and_eq_true] at counts
  exact of_decide_eq_true counts.1

theorem TallySound.step {n : ℕ} {tally : Tally} (sound : TallySound n tally)
    (links : List LinkRecord) (link : LinkRecord) :
    TallySound (n + 1) (tallyStep host staleDays events links tally link) where
  classes := by
    have counted := total_count tally.breakdown (ledgerClass host events link)
    change (tally.breakdown.count _).total = n + 1
    rw [counted, sound.classes]
  live := by
    have before := sound.live
    change tally.liveLinks + (if _ then 1 else 0) ≤ n + 1
    split_ifs <;> omega
  dofollow := by
    have before := sound.dofollow
    change tally.liveDofollow + (if ledgerCounts host staleDays events link = true then 1 else 0) ≤
      tally.liveLinks + (if ledgerLiveness host staleDays events link = .live then 1 else 0)
    by_cases counts : ledgerCounts host staleDays events link = true
    · rw [if_pos counts, if_pos (live_of_counts counts)]
      omega
    · rw [if_neg counts]
      omega
  platforms := by
    intro platform h
    change platform ∈ if ledgerCounts host staleDays events link = true then _ else _ at h
    change platform ∈ addPlatform link.platform tally.platforms
    rw [mem_addPlatform]
    by_cases counts : ledgerCounts host staleDays events link = true
    · rw [if_pos counts, mem_addPlatform] at h
      exact h.imp_left (sound.platforms platform)
    · rw [if_neg counts] at h
      exact .inl (sound.platforms platform h)

end Tallies

/-! ## Every link once -/

def plainRegistry : Registry where
  dofollowStatus platform :=
    if platform = "velog" then some .dofollow
    else if platform = "mastodon" then some .uncertain
    else none
  referralValue _ := none

/-- URLs whose canonical form only lacks a trailing slash, and recent times. -/
def plainHost : Host where
  canonicalizeUrl url :=
    some (if url.toList.getLast? = some '/' then String.ofList url.toList.dropLast else url)
  isSpace c := c = ' '
  ageDays _ := some 1
  registry := plainRegistry

end BacklinkPublisher.Ledger
