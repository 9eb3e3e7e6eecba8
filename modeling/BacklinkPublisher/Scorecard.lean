import BacklinkPublisher.Ledger

set_option autoImplicit false

/-!
# The channel scorecard

`scorecard/engine.py` over the join of the ledger, evaluated at the same instant. The rate
of live links and the axes that other stores fill are left out.
-/
namespace BacklinkPublisher.Scorecard
open Checkpoints OrderedDicts LedgerJoin LedgerFiling Ledger

def confirmedKinds : List String := ["publish.confirmed", "publish.unverified"]

def unattributed : String := "(unattributed)"

def defaultSmallSampleMax : ℕ := 4

/-- `_platform_by_live_url` for the events of `articles`; the first platform of a URL stays. -/
def platformStep (host : Host) (articles : List ArticleRow) (index : String → Option String)
    (row : EventRow) : String → Option String :=
  if row.kind ∉ confirmedKinds then index
  else
    let article := row.articleId.bind fun articleId => articles.find? (·.articleId = articleId)
    match article.bind (·.liveUrl), truthy row.payload.platform with
    | some liveUrl, some platform =>
      let live := canon host.canonicalizeUrl (some liveUrl)
      if live = "" ∨ (index live).isSome then index
      else Function.update index live (some platform)
    | _, _ => index

def platformByLiveUrl (host : Host) (stores : LedgerStores) : String → Option String :=
  stores.events.foldl (platformStep host stores.articles) fun _ => none

/-! ## The declared half -/

def divergence (declaredDofollow : String) (declaredReferral : Option String)
    (total live liveDofollow : ℕ) : List String :=
  if total = 0 then []
  else
    (if declaredDofollow = "dofollow" ∧ liveDofollow = 0 then
      ["declared-dofollow:no-live-dofollow-observed"] else []) ++
    (if declaredReferral = some "high" ∧ live = 0 then
      ["declared-high-value:no-live-links"] else []) ++
    (if declaredDofollow = "uncertain" ∧ 0 < live then
      ["uncertain-dofollow:has-live-links(run-canary-to-confirm)"] else [])

/-! ## The measured half -/

structure LivenessBreakdown where
  failed : ℕ := 0
  stale : ℕ := 0
  live : ℕ := 0
  unverified : ℕ := 0
  deriving DecidableEq, Repr

def LivenessBreakdown.count (breakdown : LivenessBreakdown) : Liveness → LivenessBreakdown
  | .failed => { breakdown with failed := breakdown.failed + 1 }
  | .stale => { breakdown with stale := breakdown.stale + 1 }
  | .live => { breakdown with live := breakdown.live + 1 }
  | .unverified => { breakdown with unverified := breakdown.unverified + 1 }

structure ChannelAcc where
  channel : String
  total : ℕ := 0
  live : ℕ := 0
  liveDofollow : ℕ := 0
  liveness : LivenessBreakdown := {}
  deriving DecidableEq, Repr

structure ChannelScoreRow where
  channel : String
  declaredDofollow : String
  declaredReferralValue : Option String
  totalLinks : ℕ
  liveLinks : ℕ
  liveDofollow : ℕ
  livenessBreakdown : LivenessBreakdown
  smallSample : Bool
  sampleNote : String
  divergence : List String
  deriving DecidableEq, Repr

section Pivot
variable (host : Host) (staleDays : ℤ) (platIndex : String → Option String)

/-- `link.platform or plat_index.get(link.live_url)`. -/
def resolved (link : LinkRecord) : Option String :=
  match truthy link.platform with
  | some platform => some platform
  | none => platIndex link.liveUrl

def channelOf (link : LinkRecord) : String := (truthy (resolved platIndex link)).getD unattributed

def scoreLiveness (link : LinkRecord) : Liveness := linkLiveness host.ageDays staleDays link

def scoreCounts (link : LinkRecord) : Bool :=
  scoreLiveness host staleDays link = .live &&
    (classify host.registry (resolved platIndex link)).1 = .dofollow

def countLink (link : LinkRecord) (acc : ChannelAcc) : ChannelAcc :=
  { acc with
    total := acc.total + 1
    live := acc.live + if scoreLiveness host staleDays link = .live then 1 else 0
    liveDofollow := acc.liveDofollow + if scoreCounts host staleDays platIndex link then 1 else 0
    liveness := acc.liveness.count (scoreLiveness host staleDays link) }

def pivotStep (seen : List ChannelAcc) (link : LinkRecord) : List ChannelAcc :=
  adjust ChannelAcc.channel (channelOf platIndex link) (countLink host staleDays platIndex link)
    (ensure ChannelAcc.channel { channel := channelOf platIndex link } seen)

def pivotLinksByChannel (buckets : List TargetBucket) : List ChannelAcc :=
  (buckets.flatMap TargetBucket.links).foldl (pivotStep host staleDays platIndex) []

end Pivot

/-- Weakest presence first. -/
def ChannelScoreRow.before (row row' : ChannelScoreRow) : Prop :=
  row.liveLinks < row'.liveLinks ∨ row.liveLinks = row'.liveLinks ∧
    (row.totalLinks < row'.totalLinks ∨
      row.totalLinks = row'.totalLinks ∧ row.channel ≤ row'.channel)

instance : DecidableRel ChannelScoreRow.before :=
  fun _ _ => inferInstanceAs (Decidable (_ ∨ _ ∧ (_ ∨ _ ∧ _)))

section LedgerSums
variable {host : Host} {staleDays : ℤ} {events : List EventRow}

end LedgerSums

section ChannelSums
variable {host : Host} {staleDays : ℤ} {platIndex : String → Option String}

end ChannelSums

/-! ## Link by link -/

def declares (registry : Registry) (status : DofollowStatus) (platform : Option String) : Bool :=
  (truthy platform).bind registry.dofollowStatus = some status

section Differences
variable (host : Host) (staleDays : ℤ) (events : List EventRow)
  (platIndex : String → Option String) (link : LinkRecord)

/-- A dead recheck that the verify signal does not show. -/
def hidden : Bool :=
  (loadRecheckLiveness host events link.liveUrl).any (· ∈ deterministicDead) &&
    (truthy link.verifyError).isNone

/-- A live link of an uncertain platform that a recheck confirmed. -/
def confirmed : Bool :=
  scoreLiveness host staleDays link = .live && declares host.registry .uncertain link.platform &&
    (loadRecheckLiveness host events link.liveUrl).isNone &&
    (truthy (some link.liveUrl)).any (loadConfirmedDofollowUrls host events)

/-- A live link whose dofollow platform only the publish events know. -/
def filled : Bool :=
  scoreLiveness host staleDays link = .live && (truthy link.platform).isNone &&
    declares host.registry .dofollow (platIndex link.liveUrl)

end Differences

/-! ## Both reports -/

section Sums
variable {host : Host} {staleDays : ℤ} {smallSampleMax : ℕ} {otherChannels : List String}
  {stores : LedgerStores} {buckets : List TargetBucket} {rows : List LedgerRow}
  {channels : List ChannelScoreRow}

end Sums

end BacklinkPublisher.Scorecard
