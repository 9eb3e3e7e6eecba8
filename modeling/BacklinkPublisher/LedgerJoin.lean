import BacklinkPublisher.Checkpoints
import BacklinkPublisher.OrderedDicts
import Mathlib.Data.Int.Notation

set_option autoImplicit false

/-!
# The join of the ledger

`ledger/sources.py`: the articles, the events and the history of an operator, collected per
target page. A JSON column is what the reader finds in it.
-/
namespace BacklinkPublisher.LedgerJoin
open Checkpoints OrderedDicts

/-! ## The stores -/

/-- A row of `articles`. `targetUrls` is the list in `target_urls_json`, empty where there is
none. -/
structure ArticleRow where
  articleId : ℕ
  targetUrls : List String
  liveUrl : Option String
  platform : Option String := none
  deriving DecidableEq, Repr

structure EventPayload where
  liveUrl : Option String := none
  platform : Option String := none
  verdict : Option String := none
  confirmedDofollow : Bool := false
  deriving DecidableEq, Repr

/-- A row of `events`; `ts` is what `_parse_ts` makes of `ts_utc`. -/
structure EventRow where
  id : ℕ
  kind : String
  targetUrl : Option String := none
  articleId : Option ℕ := none
  ts : Option ℤ := none
  payload : EventPayload := {}
  deriving DecidableEq, Repr

structure HistoryItem where
  id : Option String := none
  platform : Option String := none
  targetUrl : Option String := none
  articleUrls : List String := []
  verifiedAt : Option String := none
  verifyError : Option String := none
  deriving DecidableEq, Repr

/-- What the ledger reads, in the order in which it reads it; of the anchor profiles the target
URL of each group. -/
structure LedgerStores where
  articles : List ArticleRow := []
  events : List EventRow := []
  history : List HistoryItem := []
  profileTargets : List String := []
  deriving DecidableEq, Repr

def attemptedKinds : List String := ["publish.intent", "publish.confirmed", "publish.failed"]

def adapterStringToPlatform : List (String × String) :=
  [("blogger-api", "blogger"), ("devto", "devto"), ("ghpages", "ghpages"),
    ("gitlabpages", "gitlabpages"), ("hackmd", "hackmd"), ("hashnode", "hashnode"),
    ("hashnode-gql", "hashnode"), ("mataroa", "mataroa"), ("hatena", "hatena"),
    ("linkedin", "linkedin"), ("livejournal-api", "livejournal"), ("medium-api", "medium"),
    ("medium-brave", "medium"), ("medium-browser", "medium"), ("notion", "notion"),
    ("rentry", "rentry"), ("substack", "substack"), ("telegraph-api", "telegraph"),
    ("telegraph-cdp", "telegraph"), ("tumblr", "tumblr"), ("notesio-form-post", "notesio"),
    ("txtfyi-form-post", "txtfyi"), ("velog-graphql", "velog"), ("wordpresscom", "wordpresscom"),
    ("writeas", "writeas"), ("velog-browser-attach", "velog"), ("devto-browser-attach", "devto"),
    ("mastodon-browser-attach", "mastodon"), ("qiita", "qiita"), ("qiita-api", "qiita"),
    ("zenn", "zenn"), ("zenn-github", "zenn")]

def canonicalPlatform (name : Option String) : Option String :=
  match truthy name with
  | none => name
  | some name => some ((adapterStringToPlatform.lookup name).getD name)

/-! ## The buckets -/

structure LinkRecord where
  liveUrl : String
  platform : Option String := none
  historyItemId : Option String := none
  verifiedAt : Option String := none
  verifyError : Option String := none
  deriving DecidableEq, Repr

structure TargetBucket where
  targetUrl : String
  links : List LinkRecord := []
  hasAnchorData : Bool := false
  deriving DecidableEq, Repr

/-- The buckets, and the target under which each live URL was last filed. -/
structure Join where
  buckets : List TargetBucket := []
  liveIndex : String → Option String := fun _ => none

def bucketFor (target : String) (buckets : List TargetBucket) : List TargetBucket :=
  ensure TargetBucket.targetUrl { targetUrl := target } buckets

def TargetBucket.linkFor (bucket : TargetBucket) (live : String) : TargetBucket :=
  { bucket with links := ensure LinkRecord.liveUrl { liveUrl := live } bucket.links }

def TargetBucket.setLink (bucket : TargetBucket) (live : String) (f : LinkRecord → LinkRecord) :
    TargetBucket :=
  { bucket with links := adjust LinkRecord.liveUrl live f bucket.links }

/-- The link of `live` under `target`, made where it is missing and then changed. -/
def Join.attach (join : Join) (target live : String) (f : LinkRecord → LinkRecord) : Join where
  buckets := adjust TargetBucket.targetUrl target (fun bucket => (bucket.linkFor live).setLink live f)
    (bucketFor target join.buckets)
  liveIndex := Function.update join.liveIndex live (some target)

def Join.revise (join : Join) (target live : String) (f : LinkRecord → LinkRecord) : Join :=
  { join with
    buckets := adjust TargetBucket.targetUrl target (fun bucket => bucket.setLink live f)
      join.buckets }

section Steps
variable (canonicalizeUrl : String → Option String)

/-- `_canon` of a URL that `canonicalize_url` accepts. -/
def canon (url : Option String) : String :=
  match truthy url with
  | none => ""
  | some url => (canonicalizeUrl url).getD ""

def articleStep (join : Join) (row : ArticleRow) : Join :=
  let target := canon canonicalizeUrl row.targetUrls.head?
  let live := canon canonicalizeUrl row.liveUrl
  if target = "" ∨ live = "" then join
  else join.attach target live fun link =>
    match truthy row.platform with
    | none => link
    | some platform => { link with platform := canonicalPlatform (some platform) }

def attemptedStep (join : Join) (row : EventRow) : Join :=
  let target := canon canonicalizeUrl row.targetUrl
  if row.kind ∈ attemptedKinds ∧ target ≠ "" then
    { join with buckets := bucketFor target join.buckets }
  else join

def HistoryItem.mark (item : HistoryItem) (link : LinkRecord) : LinkRecord :=
  { link with
    platform := canonicalPlatform item.platform
    historyItemId := item.id
    verifiedAt := item.verifiedAt
    verifyError := item.verifyError }

def historyLinkStep (item : HistoryItem) (join : Join) (rawUrl : String) : Join :=
  let itemTarget := canon canonicalizeUrl item.targetUrl
  let live := canon canonicalizeUrl (some rawUrl)
  if live = "" then join
  else match join.liveIndex live with
    | some target => join.revise target live item.mark
    | none => join.attach (if itemTarget ≠ "" then itemTarget else live) live item.mark

def historyStep (join : Join) (item : HistoryItem) : Join :=
  item.articleUrls.foldl (historyLinkStep canonicalizeUrl item) join

def profileStep (join : Join) (rawTarget : String) : Join :=
  if rawTarget = "" then join
  else { join with
    buckets := adjust TargetBucket.targetUrl (canon canonicalizeUrl (some rawTarget))
      (fun bucket => { bucket with hasAnchorData := true }) join.buckets }

/-- Every URL that the join looks at. -/
def LedgerStores.urls (stores : LedgerStores) : List String :=
  (stores.articles.flatMap fun row => row.targetUrls.head?.toList ++ row.liveUrl.toList) ++
    ((stores.events.filter (·.kind ∈ attemptedKinds)).flatMap (·.targetUrl.toList)) ++
    (stores.history.flatMap fun item => item.targetUrl.toList ++ item.articleUrls) ++
    stores.profileTargets

def LedgerStores.accepted (stores : LedgerStores) : Bool :=
  stores.urls.all fun url => url = "" || (canonicalizeUrl url).isSome

def joinArticles (stores : LedgerStores) : Join :=
  stores.articles.foldl (articleStep canonicalizeUrl) {}

def joinStores (stores : LedgerStores) : Join :=
  let join := stores.events.foldl (attemptedStep canonicalizeUrl)
    (joinArticles canonicalizeUrl stores)
  let join := stores.history.foldl (historyStep canonicalizeUrl) join
  stores.profileTargets.foldl (profileStep canonicalizeUrl) join

/-- `build_target_buckets`; an exception of `canonicalize_url` leaves it from any row. -/
def buildTargetBuckets (stores : LedgerStores) : Option (List TargetBucket) :=
  if stores.accepted canonicalizeUrl then some (joinStores canonicalizeUrl stores).buckets else none

end Steps

/-! ## Who holds a link -/

def TargetBucket.lives (bucket : TargetBucket) : List String := bucket.links.map LinkRecord.liveUrl

def Holds (buckets : List TargetBucket) (target live : String) : Prop :=
  ∃ bucket ∈ buckets, bucket.targetUrl = target ∧ live ∈ bucket.lives

structure WellKeyed (buckets : List TargetBucket) : Prop where
  targets : (buckets.map TargetBucket.targetUrl).Nodup
  lives : ∀ bucket ∈ buckets, bucket.lives.Nodup

section Buckets
variable {buckets : List TargetBucket} {target live t l : String} {f : LinkRecord → LinkRecord}

theorem holds_bucketFor : Holds (bucketFor target buckets) t l ↔ Holds buckets t l := by
  constructor
  · intro ⟨bucket, hmem, htarget, hlive⟩
    rcases mem_ensure.1 hmem with hmem | ⟨rfl, -⟩
    · exact ⟨bucket, hmem, htarget, hlive⟩
    · cases hlive
  · intro ⟨bucket, hmem, htarget, hlive⟩
    exact ⟨bucket, mem_ensure.2 (.inl hmem), htarget, hlive⟩

theorem WellKeyed.bucketFor (keyed : WellKeyed buckets) :
    WellKeyed (bucketFor target buckets) where
  targets := nodup_keys_ensure keyed.targets
  lives := by
    intro bucket hmem
    rcases mem_ensure.1 hmem with hmem | ⟨rfl, -⟩
    · exact keyed.lives bucket hmem
    · exact List.nodup_nil

@[simp] theorem lives_setLink (bucket : TargetBucket) (kept : ∀ link, (f link).liveUrl = link.liveUrl) :
    (bucket.setLink live f).lives = bucket.lives :=
  keys_adjust kept

theorem mem_lives_linkFor (bucket : TargetBucket) :
    l ∈ (bucket.linkFor live).lives ↔ l ∈ bucket.lives ∨ l = live :=
  mem_keys_ensure

section Adjust
variable {g : TargetBucket → TargetBucket}

/-- Changes of one bucket that keep its target and its live URLs. -/
theorem holds_adjust (target_kept : ∀ bucket, (g bucket).targetUrl = bucket.targetUrl)
    (lives_kept : ∀ bucket, (g bucket).lives = bucket.lives) :
    Holds (adjust TargetBucket.targetUrl target g buckets) t l ↔ Holds buckets t l := by
  constructor
  · intro ⟨bucket, hmem, htarget, hlive⟩
    obtain ⟨old, hold, ⟨-, changed⟩ | ⟨-, same⟩⟩ := mem_adjust.1 hmem
    · rw [changed, target_kept] at htarget
      rw [changed, lives_kept] at hlive
      exact ⟨old, hold, htarget, hlive⟩
    · rw [same] at htarget hlive
      exact ⟨old, hold, htarget, hlive⟩
  · intro ⟨bucket, hmem, htarget, hlive⟩
    by_cases same : bucket.targetUrl = target
    · refine ⟨g bucket, mem_adjust.2 ⟨bucket, hmem, .inl ⟨same, rfl⟩⟩, ?_, ?_⟩
      · rw [target_kept, htarget]
      · rw [lives_kept]
        exact hlive
    · exact ⟨bucket, mem_adjust.2 ⟨bucket, hmem, .inr ⟨same, rfl⟩⟩, htarget, hlive⟩

theorem WellKeyed.adjust (keyed : WellKeyed buckets)
    (target_kept : ∀ bucket, (g bucket).targetUrl = bucket.targetUrl)
    (lives_nodup : ∀ bucket, bucket.lives.Nodup → (g bucket).lives.Nodup) :
    WellKeyed (adjust TargetBucket.targetUrl target g buckets) where
  targets := by
    rw [keys_adjust target_kept]
    exact keyed.targets
  lives := by
    intro bucket hmem
    obtain ⟨old, hold, ⟨-, changed⟩ | ⟨-, same⟩⟩ := mem_adjust.1 hmem
    · rw [changed]
      exact lives_nodup old (keyed.lives old hold)
    · rw [same]
      exact keyed.lives old hold

end Adjust

section Attach
variable {join : Join}

theorem holds_attach (kept : ∀ link, (f link).liveUrl = link.liveUrl) :
    Holds (join.attach target live f).buckets t l ↔
      Holds join.buckets t l ∨ t = target ∧ l = live := by
  constructor
  · intro ⟨bucket, hmem, htarget, hlive⟩
    obtain ⟨old, hold, ⟨same, changed⟩ | ⟨-, same⟩⟩ := mem_adjust.1 hmem
    · rw [changed] at htarget hlive
      rw [lives_setLink _ kept, mem_lives_linkFor] at hlive
      rcases hlive with hlive | hlive
      · exact .inl (holds_bucketFor.1 ⟨old, hold, htarget, hlive⟩)
      · exact .inr ⟨htarget.symm.trans same, hlive⟩
    · rw [same] at htarget hlive
      exact .inl (holds_bucketFor.1 ⟨old, hold, htarget, hlive⟩)
  · intro h
    have entered (bucket : TargetBucket) (hmem : bucket ∈ bucketFor target join.buckets)
        (same : bucket.targetUrl = target) (hlive : l ∈ bucket.lives ∨ l = live) :
        Holds (join.attach target live f).buckets target l := by
      refine ⟨_, mem_adjust.2 ⟨bucket, hmem, .inl ⟨same, rfl⟩⟩, same, ?_⟩
      rw [lives_setLink _ kept, mem_lives_linkFor]
      exact hlive
    rcases h with h | ⟨rfl, rfl⟩
    · have held : Holds (bucketFor target join.buckets) t l := holds_bucketFor.2 h
      obtain ⟨bucket, hmem, htarget, hlive⟩ := held
      by_cases same : bucket.targetUrl = target
      · have holds := entered bucket hmem same (.inl hlive)
        have moved : target = t := same.symm.trans htarget
        rw [← moved]
        exact holds
      · exact ⟨bucket, mem_adjust.2 ⟨bucket, hmem, .inr ⟨same, rfl⟩⟩, htarget, hlive⟩
    · obtain ⟨bucket, hmem, same⟩ :=
        exists_ensure TargetBucket.targetUrl { targetUrl := t } join.buckets
      exact entered bucket hmem same (.inr rfl)

theorem wellKeyed_attach (keyed : WellKeyed join.buckets)
    (kept : ∀ link, (f link).liveUrl = link.liveUrl) :
    WellKeyed (join.attach target live f).buckets := by
  apply keyed.bucketFor.adjust
  · intro bucket
    rfl
  · intro bucket nodup
    rw [lives_setLink _ kept]
    exact nodup_keys_ensure nodup

theorem holds_revise (kept : ∀ link, (f link).liveUrl = link.liveUrl) :
    Holds (join.revise target live f).buckets t l ↔ Holds join.buckets t l :=
  holds_adjust (fun _ => rfl) fun bucket => lives_setLink bucket kept

theorem wellKeyed_revise (keyed : WellKeyed join.buckets)
    (kept : ∀ link, (f link).liveUrl = link.liveUrl) :
    WellKeyed (join.revise target live f).buckets := by
  apply keyed.adjust
  · intro bucket
    rfl
  · intro bucket nodup
    rw [lives_setLink _ kept]
    exact nodup

end Attach

/-! ## How many buckets hold a link -/

end Buckets

end BacklinkPublisher.LedgerJoin
