import BacklinkPublisher.LinkPlatforms
import BacklinkPublisher.SortedLists
import BacklinkPublisher.StripCounters
import Mathlib.Data.String.Basic

set_option autoImplicit false

/-!
# The drawer of links

`derive_links_by_channel` of `scorecard/links.py`, against the channels under which
`_pivot_links_by_channel` of `scorecard/engine.py` counts the links of the ledger. The
`link.rechecked` rows are apart from the other events.
-/
namespace BacklinkPublisher.LinkDrawer
open Checkpoints (truthy)
open ConfigSections (isSpace)
open DiscountMap (isCompound)
open EventPayloads EventStore KeyedMaxima LatestVerdicts OrderedDicts
open Ledger (Host Registry)
open LedgerJoin (LedgerStores EventRow TargetBucket LinkRecord buildTargetBuckets joinStores)
open LinkPlatforms Scorecard SortedLists
open StripCounters (verdicts)

/-! ## The rows -/

def reservedSecondLevel : List String := ["example.com", "example.net", "example.org"]

def reservedTlds : List String := [".example", ".test", ".invalid", ".localhost"]

structure LinkVerdictRow where
  liveUrl : Option String
  targetUrl : Option String
  channel : Value
  verdict : Value
  lastRecheckTs : Option ℚ
  dofollowState : Option String
  anchorDrift : Option Bool
  deriving DecidableEq, Repr

/-- The rows of a channel. -/
structure ChannelLinks where
  channel : Value
  rows : List LinkVerdictRow := []
  deriving DecidableEq, Repr

inductive DrawerError where
  | payload (error : PayloadError)
  | badUrl
  | unhashable
  deriving DecidableEq, Repr

def textOf : Value → Option String
  | .text s => some s
  | _ => none

def dofollowState (payload : Payload) : Option String :=
  if field payload "verdict" = dofollowLost then some "lost"
  else if (field payload "confirmed_dofollow").truthy then some "dofollow"
  else if (field payload "confirmed_nofollow").truthy then some "nofollow"
  else if (field payload "expected_nofollow").truthy then some "nofollow-expected"
  else none

section Drawer
variable (R : Readers) (registry : Registry) (ageDays : String → Option ℤ)

/-- The surroundings of the scorecard, with the readers of the drawer. -/
def scorecardHost : Host where
  canonicalizeUrl := CanonicalUrl.canonicalText R.unicode
  isSpace := isSpace
  ageDays := ageDays
  registry := registry

/-- `_host`. -/
def hostOf : Option String → Option (List Char)
  | none => none
  | some url =>
    if url.toList.all isSpace then none
    else
      ((UrlSplit.urlsplit R.unicode url.toList).bind fun parts =>
        UrlSplit.hostname R.unicode parts.netloc).map R.unicode.lower

def isReservedTestTarget (url : Option String) : Bool :=
  match hostOf R url with
  | none => false
  | some host =>
    reservedSecondLevel.any (fun base =>
      host = base.toList || ('.' :: base.toList).isSuffixOf host) ||
      reservedTlds.any fun tld => tld.toList.isSuffixOf host

/-- `platform or (plat_index.get(canon) if canon else None) or UNATTRIBUTED`. -/
def linkChannel (platIndex : String → Option String) (payload : Payload) : Value :=
  let platform := field payload "platform"
  if platform.truthy then platform
  else
    let canon := canonTarget R (field payload "live_url")
    .text ((truthy ((truthy canon).bind platIndex)).getD unattributed)

def linkRow (platIndex : String → Option String) (lv : LatestVerdict) : LinkVerdictRow where
  liveUrl := textOf (field lv.payload "live_url")
  targetUrl := lv.targetUrl
  channel := linkChannel R platIndex lv.payload
  verdict := field lv.payload "verdict"
  lastRecheckTs := lv.ts
  dofollowState := dofollowState lv.payload
  anchorDrift := if (field lv.payload "anchor_drift").truthy then some true else none

def ChannelLinks.add (row : LinkVerdictRow) (cell : ChannelLinks) : ChannelLinks :=
  { cell with rows := cell.rows ++ [row] }

/-- The loop; neither a verdict nor a channel that cannot be hashed is looked up. -/
def drawFrom (excludeTest : Bool) (platIndex : String → Option String) (out : List ChannelLinks) :
    List LatestVerdict → Except DrawerError (List ChannelLinks)
  | [] => .ok out
  | lv :: latest =>
    let verdict := field lv.payload "verdict"
    if isCompound verdict then .error .unhashable
    else if verdict ∉ verdicts then drawFrom excludeTest platIndex out latest
    else if excludeTest ∧ isReservedTestTarget R lv.targetUrl then
      drawFrom excludeTest platIndex out latest
    else
      let channel := linkChannel R platIndex lv.payload
      if isCompound channel then .error .unhashable
      else
        drawFrom excludeTest platIndex
          (adjust ChannelLinks.channel channel (ChannelLinks.add (linkRow R platIndex lv))
            (ensure ChannelLinks.channel { channel } out)) latest

/-- The live URLs that the index of platforms canonicalizes. -/
def indexedUrls (stores : LedgerStores) : List String :=
  stores.events.filterMap fun row =>
    if row.kind ∈ confirmedKinds ∧ row.payload.platform.isSome then
      let article := row.articleId.bind fun articleId =>
        stores.articles.find? (·.articleId = articleId)
      truthy (article.bind (·.liveUrl))
    else none

def deriveLinksByChannel (excludeTest : Bool) (stores : LedgerStores) (rows : List RecheckRow) :
    Except DrawerError (List ChannelLinks) :=
  match latestLinkVerdicts R rows with
  | .error error => .error (.payload error)
  | .ok (latest, _) =>
    if (indexedUrls stores).any fun url => (CanonicalUrl.canonicalText R.unicode url).isNone then
      .error .badUrl
    else
      (drawFrom R excludeTest (platformByLiveUrl (scorecardHost R registry ageDays) stores) []
        latest).map fun out => out.map fun cell =>
          { cell with rows := sortedBy (fun row => row.liveUrl.getD "") cell.rows }

end Drawer

/-! ## What the drawer holds -/

/-- The row is in the drawer, under the channel. -/
def Drawn (cells : List ChannelLinks) (channel : Value) (row : LinkVerdictRow) : Prop :=
  ∃ cell ∈ cells, cell.channel = channel ∧ row ∈ cell.rows

section Cells
variable {cells : List ChannelLinks} {channel ch : Value} {row r : LinkVerdictRow}

theorem drawn_add : Drawn (adjust ChannelLinks.channel channel (ChannelLinks.add row)
      (ensure ChannelLinks.channel { channel } cells)) ch r ↔
    Drawn cells ch r ∨ ch = channel ∧ r = row := by
  constructor
  · rintro ⟨cell, hmem, rfl, hrow⟩
    obtain ⟨old, hold, ⟨same, changed⟩ | ⟨_, same⟩⟩ := mem_adjust.1 hmem
    · rw [changed] at hrow ⊢
      rcases List.mem_append.1 hrow with before | now
      · rcases mem_ensure.1 hold with known | ⟨fresh, _⟩
        · exact .inl ⟨old, known, rfl, before⟩
        · rw [fresh] at before
          cases before
      · exact .inr ⟨same, List.mem_singleton.1 now⟩
    · rw [same] at hrow ⊢
      rcases mem_ensure.1 hold with known | ⟨fresh, _⟩
      · exact .inl ⟨old, known, rfl, hrow⟩
      · rw [fresh] at hrow
        cases hrow
  · rintro (⟨cell, hmem, rfl, hrow⟩ | ⟨rfl, rfl⟩)
    · have kept : cell ∈ ensure ChannelLinks.channel { channel } cells := mem_ensure.2 (.inl hmem)
      by_cases same : cell.channel = channel
      · exact ⟨_, mem_adjust.2 ⟨cell, kept, .inl ⟨same, rfl⟩⟩, rfl, List.mem_append_left _ hrow⟩
      · exact ⟨cell, mem_adjust.2 ⟨cell, kept, .inr ⟨same, rfl⟩⟩, rfl, hrow⟩
    · obtain ⟨cell, hmem, same⟩ := exists_ensure ChannelLinks.channel { channel := ch } cells
      exact ⟨_, mem_adjust.2 ⟨cell, hmem, .inl ⟨same, rfl⟩⟩, same,
        List.mem_append_right _ List.mem_cons_self⟩

theorem drawn_sorted {κ : Type} [LinearOrder κ] (key : LinkVerdictRow → κ) :
    Drawn (cells.map fun cell => { cell with rows := sortedBy key cell.rows }) ch r ↔
      Drawn cells ch r := by
  unfold Drawn
  simp only [List.mem_map]
  constructor
  · rintro ⟨_, ⟨cell, hmem, rfl⟩, named, hrow⟩
    exact ⟨cell, hmem, named, (mem_sortedBy key).1 hrow⟩
  · rintro ⟨cell, hmem, named, hrow⟩
    exact ⟨_, ⟨cell, hmem, rfl⟩, named, (mem_sortedBy key).2 hrow⟩

end Cells

section Results
variable {R : Readers} {registry : Registry} {ageDays : String → Option ℤ} {excludeTest : Bool}
  {platIndex : String → Option String} {stores : LedgerStores} {rows order : List RecheckRow}

/-- A recheck with a known verdict, of a target that is no test domain. -/
def Shown (R : Readers) (excludeTest : Bool) (entry : LatestVerdict) : Prop :=
  field entry.payload "verdict" ∈ verdicts ∧
    ¬ (excludeTest = true ∧ isReservedTestTarget R entry.targetUrl = true)

theorem drawFrom_drawn {latest : List LatestVerdict} {cells out : List ChannelLinks}
    (drawn : drawFrom R excludeTest platIndex cells latest = .ok out) (ch : Value)
    (r : LinkVerdictRow) :
    Drawn out ch r ↔ Drawn cells ch r ∨ ∃ entry ∈ latest, Shown R excludeTest entry ∧
      ch = linkChannel R platIndex entry.payload ∧ r = linkRow R platIndex entry := by
  induction latest generalizing cells with
  | nil =>
    rw [drawFrom] at drawn
    cases drawn
    simp
  | cons lv latest ih =>
    rw [drawFrom] at drawn
    dsimp only at drawn
    simp only [List.mem_cons, exists_eq_or_imp]
    split_ifs at drawn with compound known reserved unhashable
    · have hidden : ¬ Shown R excludeTest lv := fun shown => shown.2 reserved
      rw [ih drawn]
      simp only [hidden, false_and, false_or]
    · have shown : Shown R excludeTest lv := ⟨known, reserved⟩
      rw [ih drawn, drawn_add, or_assoc]
      simp only [shown, true_and]
    · have hidden : ¬ Shown R excludeTest lv := fun shown => known shown.1
      rw [ih drawn]
      simp only [hidden, false_and, false_or]

theorem mem_latest (ids : (rows.map RecheckRow.id).Nodup) (perm : order.Perm rows)
    {latest : List LatestVerdict} {unkeyable : ℕ}
    (read : latestLinkVerdicts R order = .ok (latest, unkeyable)) (entry : LatestVerdict) :
    entry ∈ latest ↔ IsLatest R rows entry.key entry := by
  have ⟨next, made, max⟩ := latestFrom_spec (readable_of_latestFrom read)
    (maxima_nil LatestVerdict.key rank) 0
  have same : latestFrom R [] 0 order = .ok (latest, unkeyable) := read
  rw [same] at made
  cases made
  rw [List.nil_append] at max
  rw [← lookup_latest ids perm max, lookup_eq_some max.nodup]
  exact (and_iff_left rfl).symm

/-- The drawer holds the newest recheck of each link that is shown. -/
theorem drawer_drawn (ids : (rows.map RecheckRow.id).Nodup) (perm : order.Perm rows)
    {drawer : List ChannelLinks}
    (drawn : deriveLinksByChannel R registry ageDays excludeTest stores order = .ok drawer)
    (ch : Value) (r : LinkVerdictRow) :
    Drawn drawer ch r ↔ ∃ entry, IsLatest R rows entry.key entry ∧ Shown R excludeTest entry ∧
      ch = linkChannel R (platformByLiveUrl (scorecardHost R registry ageDays) stores)
        entry.payload ∧
      r = linkRow R (platformByLiveUrl (scorecardHost R registry ageDays) stores) entry := by
  unfold deriveLinksByChannel at drawn
  cases read : latestLinkVerdicts R order with
  | error error =>
    rw [read] at drawn
    cases drawn
  | ok result =>
    rw [read] at drawn
    dsimp only at drawn
    split_ifs at drawn
    cases made : drawFrom R excludeTest
        (platformByLiveUrl (scorecardHost R registry ageDays) stores) [] result.1 with
    | error error =>
      rw [made] at drawn
      cases drawn
    | ok out =>
      rw [made] at drawn
      cases drawn
      rw [drawn_sorted, drawFrom_drawn made]
      have none_ : ¬ Drawn [] ch r := fun ⟨_, hmem, _⟩ => List.not_mem_nil hmem
      rw [or_iff_right none_]
      simp only [mem_latest ids perm read]

/-! ## The channel of a link -/

/-- The platform of a recheck and the one recorded for the link are the same where both are named;
where one is missing, the other is that of the first publish event. -/
def PlatformsAgree (platform : Value) (recorded published : Option String) : Prop :=
  let missing := (truthy published).getD unattributed
  match truthy recorded with
  | some name => if platform.truthy = true then platform = .text name else name = missing
  | none => platform.truthy = true → platform = .text missing

/-- The channel of the drawer is that of the pivot, for every link that both have. -/
def SameChannel (R : Readers) (registry : Registry) (ageDays : String → Option ℤ)
    (stores : LedgerStores) (drawer : List ChannelLinks) (buckets : List TargetBucket) : Prop :=
  ∀ channel row, Drawn drawer channel row → ∀ bucket ∈ buckets, ∀ link ∈ bucket.links,
    (row.liveUrl.bind fun url => canonTarget R (.text url)) = some link.liveUrl →
      channel =
        .text (channelOf (platformByLiveUrl (scorecardHost R registry ageDays) stores) link)

/-- The newest recheck of every link names a platform that agrees with the stores. -/
def SourcesAgree (R : Readers) (registry : Registry) (ageDays : String → Option ℤ)
    (excludeTest : Bool) (stores : LedgerStores) (rows : List RecheckRow) : Prop :=
  ∀ entry, IsLatest R rows entry.key entry → Shown R excludeTest entry → ∀ target live recorded,
    canonTarget R (field entry.payload "live_url") = some live →
      recordedPlatform (CanonicalUrl.canonicalText R.unicode) stores target live = some recorded →
        PlatformsAgree (field entry.payload "platform") recorded
          (publishedPlatform (scorecardHost R registry ageDays) stores live)

theorem canonTarget_textOf (value : Value) :
    ((textOf value).bind fun url => canonTarget R (.text url)) = canonTarget R value := by
  cases value <;> rfl

theorem channels_iff {payload : Payload} {link : LinkRecord}
    (same : canonTarget R (field payload "live_url") = some link.liveUrl)
    (blank : platIndex "" = none) :
    linkChannel R platIndex payload = .text (channelOf platIndex link) ↔
      PlatformsAgree (field payload "platform") link.platform (platIndex link.liveUrl) := by
  have index : (truthy (some link.liveUrl)).bind platIndex = platIndex link.liveUrl := by
    by_cases empty : link.liveUrl = ""
    · rw [empty, blank]
      rfl
    · have filled : truthy (some link.liveUrl) = some link.liveUrl :=
        Option.filter_some_pos (decide_eq_true empty)
      rw [filled, Option.bind_some]
  unfold linkChannel PlatformsAgree channelOf resolved
  dsimp only
  rw [same, index]
  cases named : truthy link.platform with
  | some name =>
    have again : truthy (some name) = some name := by
      have filled := Option.mem_filter_iff.1 named
      simpa [truthy] using filled.2
    dsimp only
    rw [again, Option.getD_some]
    by_cases truth : (field payload "platform").truthy = true
    · rw [if_pos truth, if_pos truth]
    · rw [if_neg truth, if_neg truth, Value.text.injEq]
      exact eq_comm
  | none =>
    dsimp only
    by_cases truth : (field payload "platform").truthy = true
    · rw [if_pos truth]
      exact (imp_iff_right truth).symm
    · rw [if_neg truth]
      exact iff_of_true rfl fun h => absurd h truth

/-- The drawer and the scorecard agree on the channel of every link if and only if the platforms
of the newest rechecks agree with those that articles, history and publish events record. -/
theorem same_channel_iff (registry : Registry) (ageDays : String → Option ℤ)
    (ids : (rows.map RecheckRow.id).Nodup) (perm : order.Perm rows) {drawer : List ChannelLinks}
    (drawn : deriveLinksByChannel R registry ageDays excludeTest stores order = .ok drawer)
    {buckets : List TargetBucket}
    (built : buildTargetBuckets (CanonicalUrl.canonicalText R.unicode) stores = some buckets) :
    SameChannel R registry ageDays stores drawer buckets ↔
      SourcesAgree R registry ageDays excludeTest stores rows := by
  let host := scorecardHost R registry ageDays
  have index := platformByLiveUrl_eq host stores
  have blank : platformByLiveUrl host stores "" = none := by
    rw [index]
    exact publishedPlatform_blank host stores
  have joined : (joinStores (CanonicalUrl.canonicalText R.unicode) stores).buckets = buckets := by
    unfold buildTargetBuckets at built
    split_ifs at built
    exact Option.some.inj built
  constructor
  · intro agree entry newest shown target live recorded same record
    have ⟨bucket, hbucket, _, link, hlink, live_eq, platform⟩ := recordedPlatform_iff.1 record
    rw [joined] at hbucket
    rw [← live_eq] at same ⊢
    rw [← platform, ← index]
    apply (channels_iff same blank).1
    apply agree _ (linkRow R (platformByLiveUrl host stores) entry) _ bucket hbucket link hlink
    · change ((textOf (field entry.payload "live_url")).bind _) = _
      rw [canonTarget_textOf]
      exact same
    · exact (drawer_drawn ids perm drawn _ _).2 ⟨entry, newest, shown, rfl, rfl⟩
  · intro agree channel row held bucket hbucket link hlink same
    have ⟨entry, newest, shown, channel_eq, row_eq⟩ := (drawer_drawn ids perm drawn _ _).1 held
    rw [row_eq] at same
    change ((textOf (field entry.payload "live_url")).bind _) = _ at same
    rw [canonTarget_textOf] at same
    rw [← joined] at hbucket
    have record : recordedPlatform (CanonicalUrl.canonicalText R.unicode) stores bucket.targetUrl
        link.liveUrl = some link.platform :=
      recordedPlatform_iff.2 ⟨bucket, hbucket, rfl, link, hlink, rfl, rfl⟩
    have platforms := agree entry newest shown _ _ _ same record
    rw [← index] at platforms
    rw [channel_eq]
    exact (channels_iff same blank).2 platforms

/-- The pivot counts under a channel the links that `channelOf` gives it. -/
theorem pivot_total (host : Host) (staleDays : ℤ) (buckets : List TargetBucket) (ch : String) :
    ((lookup ChannelAcc.channel ch (pivotLinksByChannel host staleDays platIndex buckets)).map
      ChannelAcc.total).getD 0 =
        (buckets.flatMap TargetBucket.links).countP fun link => channelOf platIndex link = ch := by
  have kept (link : LinkRecord) (acc : ChannelAcc) :
      (countLink host staleDays platIndex link acc).channel = acc.channel := rfl
  have total (links : List LinkRecord) (seen : List ChannelAcc) :
      ((lookup ChannelAcc.channel ch
        (links.foldl (pivotStep host staleDays platIndex) seen)).map ChannelAcc.total).getD 0 =
        ((lookup ChannelAcc.channel ch seen).map ChannelAcc.total).getD 0 +
          links.countP fun link => channelOf platIndex link = ch := by
    induction links generalizing seen with
    | nil => rfl
    | cons link links ih =>
      rw [List.foldl_cons, ih, List.countP_cons, pivotStep, lookup_adjust (kept link),
        lookup_ensure]
      simp only [decide_eq_true_eq, @eq_comm _ (channelOf platIndex link) ch]
      by_cases here : ch = channelOf platIndex link
      · rw [if_pos here]
        cases lookup ChannelAcc.channel ch seen with
        | none =>
          simp [here, countLink]
          omega
        | some acc =>
          simp [here, countLink]
          omega
      · rw [if_neg here, Option.or_none]
        cases lookup ChannelAcc.channel ch seen <;> simp [here]
  have all := total (buckets.flatMap TargetBucket.links) []
  have none_ : lookup ChannelAcc.channel ch [] = none := rfl
  rw [none_, Option.map_none, Option.getD_none, Nat.zero_add] at all
  exact all

end Results

/-! ## A recheck without a platform -/

/-- Payloads of one live link; the text is its platform. -/
def liveLink : Readers where
  loads text := .object [("live_url", .text "https://blog.site/p"), ("verdict", .text "alive"),
    ("platform", if text = "null" then .null else .text text)]
  loadsTargets _ := .blank
  fromIso _ := none
  unicode := UrlSplit.asciiData

def recheckOf (platform : String) : RecheckRow where
  id := 1
  tsUtc := ""
  articleId := some 1
  targetUrl := some "https://money.site/a"
  payloadJson := platform

def velogStores : LedgerStores where
  articles := [{ articleId := 1, targetUrls := ["https://money.site/a"]
                 liveUrl := some "https://blog.site/p", platform := some "velog" }]

def drawerUnder (channel : String) : List ChannelLinks :=
  [{ channel := .text channel
     rows := [{ liveUrl := some "https://blog.site/p", targetUrl := some "https://money.site/a"
                channel := .text channel, verdict := .text "alive", lastRecheckTs := none
                dofollowState := none, anchorDrift := none }] }]

def velogBuckets : List TargetBucket :=
  [{ targetUrl := "https://money.site/a"
     links := [{ liveUrl := "https://blog.site/p", platform := some "velog" }] }]

theorem velogBuckets_built : buildTargetBuckets (CanonicalUrl.canonicalText liveLink.unicode)
    velogStores = some velogBuckets := by
  decide +kernel

def draws (platform : String) : Except DrawerError (List ChannelLinks) :=
  deriveLinksByChannel liveLink Ledger.plainRegistry (fun _ => none) true velogStores
    [recheckOf platform]

theorem same_channel_velog :
    SameChannel liveLink Ledger.plainRegistry (fun _ => none) velogStores (drawerUnder "velog")
        velogBuckets ↔
      SourcesAgree liveLink Ledger.plainRegistry (fun _ => none) true velogStores
        [recheckOf "velog"] := by
  have drawn : draws "velog" = .ok (drawerUnder "velog") := by decide +kernel
  have ids : ([recheckOf "velog"].map RecheckRow.id).Nodup := List.nodup_singleton _
  exact same_channel_iff Ledger.plainRegistry (fun _ => none) ids (List.Perm.refl _) drawn
    velogBuckets_built

/-- The link is unattributed in the drawer, and of its article's platform in the scorecard. -/
theorem unnamed_recheck_unattributed :
    ¬ ∀ (R : Readers) (registry : Registry) (ageDays : String → Option ℤ) (excludeTest : Bool)
      (stores : LedgerStores) (rows : List RecheckRow) (drawer : List ChannelLinks)
      (buckets : List TargetBucket), (rows.map RecheckRow.id).Nodup →
        deriveLinksByChannel R registry ageDays excludeTest stores rows = .ok drawer →
          buildTargetBuckets (CanonicalUrl.canonicalText R.unicode) stores = some buckets →
            SameChannel R registry ageDays stores drawer buckets := by
  intro same
  have drawn : draws "null" = .ok (drawerUnder unattributed) := by decide +kernel
  have agree := same liveLink Ledger.plainRegistry (fun _ => none) true velogStores
    [recheckOf "null"] (drawerUnder unattributed) velogBuckets (List.nodup_singleton _) drawn
    velogBuckets_built
  have held : Drawn (drawerUnder unattributed) (.text unattributed) _ :=
    ⟨_, List.mem_cons_self, rfl, List.mem_cons_self⟩
  have one := agree _ _ held _ List.mem_cons_self _ List.mem_cons_self (by decide +kernel)
  exact absurd one (by decide +kernel)

end BacklinkPublisher.LinkDrawer
