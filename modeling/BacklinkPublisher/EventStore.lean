import Mathlib.Data.List.Basic
import Mathlib.Tactic.Common

set_option autoImplicit false

/-!
# The event store

The `events` and `articles` tables of `events/store.py`, and the kinds of
`events/kinds.py` that the reducers of the projector emit.
-/
namespace BacklinkPublisher.EventStore

/-- A JSON value as the reducers look at it. Of a number or a boolean (`scalar`)
and of a list or an object (`compound`) only the truth value and the equality
class matter. -/
inductive Value where
  | null
  | text (s : String)
  | scalar (code : ℕ) (truthy : Bool)
  | compound (code : ℕ) (truthy : Bool)
  deriving DecidableEq, Repr

def Value.truthy : Value → Bool
  | .null => false
  | .text s => s ≠ ""
  | .scalar _ t | .compound _ t => t

/-- `value or None`. -/
def Value.orNull (value : Value) : Value := if value.truthy then value else .null

def Value.asText : Value → Option String
  | .text s => some s
  | _ => none

def Value.ofOption : Option String → Value
  | some s => .text s
  | none => .null

/-- What `sqlite3` accepts as a parameter. -/
def Value.bindable : Value → Bool
  | .compound _ _ => false
  | _ => true

inductive EventKind where
  | publishIntent
  | publishConfirmed
  | publishUnverified
  | publishFailed
  | draftCreated
  | draftScheduled
  | reconcileSwallowed
  | publishIntentDeduped
  deriving DecidableEq, Repr

def EventKind.value : EventKind → String
  | .publishIntent => "publish.intent"
  | .publishConfirmed => "publish.confirmed"
  | .publishUnverified => "publish.unverified"
  | .publishFailed => "publish.failed"
  | .draftCreated => "draft.created"
  | .draftScheduled => "draft.scheduled"
  | .reconcileSwallowed => "reconcile.swallowed"
  | .publishIntentDeduped => "publish.intent_deduped"

def EventKind.requiredFields : EventKind → List String
  | .publishIntent => ["target_url"]
  | .publishConfirmed | .publishUnverified | .reconcileSwallowed | .publishIntentDeduped =>
    ["live_url"]
  | .publishFailed => ["error_class", "error_message_clean"]
  | .draftCreated | .draftScheduled => ["draft_id"]

abbrev Payload := List (String × Value)

def missingRequiredFields (kind : EventKind) (payload : Payload) : List String :=
  kind.requiredFields.filter fun field => field ∉ payload.map Prod.fst

inductive SourceType where
  | checkpoint
  | history
  | drafts
  deriving DecidableEq, Repr

inductive Classification where
  | kind (kind : EventKind)
  | confirmedFamily
  | noEmit
  | quarantine
  deriving DecidableEq, Repr

/-- `STATUS_MAP` with `SOURCE_DEFAULT`. -/
def classify (source : SourceType) (status : String) : Classification :=
  match source with
  | .checkpoint =>
    if status = "pending" then .kind .publishIntent
    else if status = "done" ∨ status = "succeeded" then .confirmedFamily
    else if status = "failed" then .kind .publishFailed
    else .quarantine
  | .history =>
    if status = "published" then .kind .publishConfirmed
    else if status = "failed" then .kind .publishFailed
    else .noEmit
  | .drafts =>
    if status = "published" then .kind .publishConfirmed
    else if status = "scheduled" then .kind .draftScheduled
    else if status = "drafted" then .kind .draftCreated
    else .noEmit

structure Event where
  tsRaw : String
  tsUtc : String
  runId : Option String := none
  kind : EventKind
  targetUrl : Value
  host : Option String
  articleId : Option ℕ := none
  payload : Payload
  deriving DecidableEq, Repr

/-- A `links[]` entry: the two keys that are looked at, and the rest of it. -/
structure Link where
  kind : Value
  anchor : Value
  rest : ℕ
  deriving DecidableEq, Repr

structure ArticleColumns where
  anchors : List Link := []
  targetUrls : List Value
  host : Option String
  liveUrl : Option String
  body : Value := .null
  runId : Option String := none
  lang : Option String := none
  publishedAtRaw : Option String := none
  publishedAtUtc : Option String := none
  platform : Option String := none
  deriving DecidableEq, Repr

structure Article where
  articleId : ℕ
  columns : ArticleColumns
  deriving DecidableEq, Repr

structure QuarantineRecord where
  reason : String
  failureType : String
  source : String
  runId : Option String
  sourceStatus : Option String
  recordIdentity : Option String
  deriving DecidableEq, Repr

/-- One open transaction: the tables as it sees them, and the quarantine records
it has put aside for after its commit. -/
structure Tx where
  events : List Event
  articles : List Article
  nextArticleId : ℕ
  pending : List QuarantineRecord := []

/-- `append` on a shared connection. `clock` gives the default time of the n-th
event; `sink` is whether the caller passes `pending_quarantines`. -/
def Tx.append (tx : Tx) (clock : ℕ → String) (kind : EventKind) (payload : Payload)
    (runId : Option String) (targetUrl : Value) (host : Option String) (articleId : Option ℕ)
    (ts : Option String × Option String) (sink : Bool) : Option Tx :=
  let tsUtc := ts.2.getD (clock tx.events.length)
  match missingRequiredFields kind payload with
  | [] =>
    if targetUrl.bindable then
      some { tx with
        events := tx.events ++
          [⟨ts.1.getD tsUtc, tsUtc, runId, kind, targetUrl, host, articleId, payload⟩] }
    else none
  | missing =>
    if sink then
      some { tx with
        pending := tx.pending ++
          [⟨"missing_field: " ++ kind.value ++ " missing " ++ ", ".intercalate missing,
            "missing_field", kind.value, runId, none, targetUrl.asText⟩] }
    else none

inductive AddArticleError where
  | integrity
  | binding
  deriving DecidableEq, Repr

/-- `add_article`: the id of the new row, or the error that the `INSERT` raises. -/
def Tx.addArticle (tx : Tx) (columns : ArticleColumns) : Except AddArticleError (ℕ × Tx) :=
  if !columns.body.bindable then .error .binding
  else if columns.liveUrl.isSome && tx.articles.any (·.columns.liveUrl = columns.liveUrl) then
    .error .integrity
  else
    .ok (tx.nextArticleId,
      { tx with
        articles := tx.articles ++ [⟨tx.nextArticleId, columns⟩]
        nextArticleId := tx.nextArticleId + 1 })

/-! ## What the two inserts do -/

def Tx.tables (tx : Tx) : List Event × List Article := (tx.events, tx.articles)

def Extends (before after : List Event × List Article) : Prop :=
  before.1 <+: after.1 ∧ before.2 <+: after.2

theorem Extends.refl (tables : List Event × List Article) : Extends tables tables :=
  ⟨List.prefix_rfl, List.prefix_rfl⟩

theorem Extends.trans {a b c : List Event × List Article} (h : Extends a b) (h' : Extends b c) :
    Extends a c :=
  ⟨h.1.trans h'.1, h.2.trans h'.2⟩

theorem Extends.antisymm {a b : List Event × List Article} (h : Extends a b) (h' : Extends b a) :
    a = b :=
  Prod.ext (h.1.eq_of_length_le h'.1.length_le) (h.2.eq_of_length_le h'.2.length_le)

theorem Tx.append_some {tx tx' : Tx} {clock : ℕ → String} {kind : EventKind} {payload : Payload}
    {runId : Option String} {targetUrl : Value} {host : Option String} {articleId : Option ℕ}
    {ts : Option String × Option String} {sink : Bool}
    (floor : missingRequiredFields kind payload = [])
    (h : tx.append clock kind payload runId targetUrl host articleId ts sink = some tx') :
    ∃ tsRaw tsUtc, tx' = { tx with
      events := tx.events ++
        [⟨tsRaw, tsUtc, runId, kind, targetUrl, host, articleId, payload⟩] } := by
  simp only [Tx.append, floor] at h
  split_ifs at h
  exact ⟨_, _, (Option.some.inj h).symm⟩

theorem Tx.addArticle_ok {tx tx' : Tx} {columns : ArticleColumns} {articleId : ℕ}
    (h : tx.addArticle columns = .ok (articleId, tx')) :
    tx' = { tx with
      articles := tx.articles ++ [⟨articleId, columns⟩]
      nextArticleId := tx.nextArticleId + 1 } := by
  unfold Tx.addArticle at h
  split_ifs at h
  obtain ⟨rfl, rfl⟩ := Prod.mk.inj (Except.ok.inj h)
  rfl

/-- The `UNIQUE` of `live_url` fails exactly on a URL that some article has. -/
theorem Tx.addArticle_integrity {tx : Tx} {columns : ArticleColumns} :
    tx.addArticle columns = .error .integrity ↔
      columns.body.bindable = true ∧ ∃ url, columns.liveUrl = some url ∧
        ∃ article ∈ tx.articles, article.columns.liveUrl = some url := by
  unfold Tx.addArticle
  cases hbody : columns.body.bindable with
  | false => simp
  | true =>
    cases hurl : columns.liveUrl with
    | none => simp
    | some url => simp

end BacklinkPublisher.EventStore
