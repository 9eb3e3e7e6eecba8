import BacklinkPublisher.JsonValues

set_option autoImplicit false

/-!
# Citation events

The verdicts of `geo/verdict.py` and the `citation.observed` rows of the event log that hold them.
-/
namespace BacklinkPublisher.CitationEvents
open JsonValues

inductive Tier where
  | siteCited
  | articleCited
  | absent
  | refused
  deriving DecidableEq, Repr

/-- `VERDICT_TIERS`. -/
def Tier.name : Tier → String
  | .siteCited => "site_cited"
  | .articleCited => "article_cited"
  | .absent => "absent"
  | .refused => "refused"

structure VerdictResult where
  tier : Tier
  brandMentioned : Bool
  creditedUrls : List String := []
  uncreditedUrls : List String := []
  possiblyCitedUnresolved : List String := []
  query : String := ""
  engine : String := ""
  deriving DecidableEq, Repr

/-- A list of texts. -/
def texts (urls : List String) : Json := .array (urls.map .text)

/-- `carry_verdict`, without a share. -/
def carryVerdict (result : VerdictResult) : Fields :=
  [("verdict", .text result.tier.name), ("brand_mentioned", .bool result.brandMentioned),
    ("credited_urls", texts result.creditedUrls), ("uncredited_urls", texts result.uncreditedUrls),
    ("possibly_cited_unresolved", texts result.possiblyCitedUnresolved),
    ("engine", .text result.engine), ("query", .text result.query)]

/-- A row of `events` whose kind is `citation.observed`. `payload` is the value of `payload_json`,
`none` where that is no JSON; `tsUtc` is the instant, in microseconds, that `_parse_ts_utc` reads in
`ts_utc`, `none` where it reads none. -/
structure CitationRow where
  targetUrl : Option String
  payload : Option Json
  tsUtc : Option ℤ
  runId : Option String := none

/-- What `probe_many` records of a verdict. -/
def observed (now : ℤ) (runId targetUrl : String) (verdict : VerdictResult) : CitationRow where
  targetUrl := some targetUrl
  payload :=
    some (.object (if runId = "" then carryVerdict verdict
      else setItem "run_id" (.text runId) (carryVerdict verdict)))
  tsUtc := some now
  runId := some runId

def microsecondsOfDay : ℤ := 86400000000

end BacklinkPublisher.CitationEvents
