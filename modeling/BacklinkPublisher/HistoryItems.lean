import BacklinkPublisher.EventPayloads
import BacklinkPublisher.OptionFolds
import BacklinkPublisher.SortedLists
import Mathlib.Data.List.MinMax
import Mathlib.Data.Prod.Lex
import Mathlib.Data.String.Basic
import Mathlib.Order.WithBot

set_option autoImplicit false

/-!
# The items of the history

`list_history` of `events/history_query.py` over the `articles` and `events` tables, with the items
that `_build_history_item` makes of their rows. Times of deletion are of any linear order `τ`, as
the column is compared and nothing else.
-/
namespace BacklinkPublisher.HistoryItems
open EventPayloads EventStore OptionFolds SortedLists

variable {τ : Type}

/-! ## The tables -/

structure EventRow (τ : Type) where
  id : ℕ
  tsUtc : String
  runId : Option String := none
  kind : String
  targetUrl : Option String := none
  articleId : Option ℕ := none
  payloadJson : String
  deletedAt : Option τ := none
  deriving DecidableEq, Repr

structure ArticleRow (τ : Type) where
  articleId : ℕ
  lang : Option String := none
  liveUrl : Option String := none
  publishedAtUtc : Option String := none
  runId : Option String := none
  platform : Option String := none
  verifiedAt : Option String := none
  verifyError : Option String := none
  deletedAt : Option τ := none
  deriving DecidableEq, Repr

/-- The ids are primary keys. The rows of a table are in the order in which a query meets them. -/
structure HistoryStore (τ : Type) where
  articles : List (ArticleRow τ)
  events : List (EventRow τ)
  articleIds : (articles.map ArticleRow.articleId).Nodup
  eventIds : (events.map EventRow.id).Nodup

def kindConfirmed : String := "publish.confirmed"
def kindUnverified : String := "publish.unverified"
def kindFailed : String := "publish.failed"
def kindRechecked : String := "link.rechecked"

def publishKinds : List String := [kindConfirmed, kindUnverified, kindFailed]

def HistoryStore.articleKnown (store : HistoryStore τ) (articleId : ℕ) : Bool :=
  (store.articles.map ArticleRow.articleId).contains articleId

/-- An event of no article that there is. -/
def HistoryStore.isOrphan (store : HistoryStore τ) (event : EventRow τ) : Bool :=
  event.articleId.all fun articleId => !store.articleKnown articleId

/-- The publish event of an article that its item shows, the one of greatest id. -/
def latestPublish (events : List (EventRow τ)) (articleId : ℕ) : Option (EventRow τ) :=
  (events.filter fun event =>
    event.articleId = some articleId ∧ event.kind ∈ publishKinds).argmax EventRow.id

/-! ## Verdicts -/

/-- The last recheck of each article. -/
def latestRechecks (events : List (EventRow τ)) : List (EventRow τ) :=
  events.filter fun event =>
    event.kind = kindRechecked ∧ event.articleId.isSome = true ∧
      ∀ other ∈ events, other.kind = kindRechecked → other.articleId = event.articleId →
        other.id ≤ event.id

structure Verdict where
  articleId : Option ℕ
  verdict : Value
  expectedNofollow : Bool
  deriving DecidableEq, Repr

def payloadField (payload : Payload) (name : String) : Value := (payload.lookup name).getD .null

/-- `none` where the payload is no object. -/
def verdictOf (loads : String → JsonOutcome) (event : EventRow τ) : Option Verdict :=
  match payloadOf loads (some event.payloadJson) with
  | .ok payload =>
    some ⟨event.articleId, payloadField payload "verdict",
      (payloadField payload "expected_nofollow").truthy⟩
  | .error _ => none

def latestVerdicts (loads : String → JsonOutcome) (events : List (EventRow τ)) :
    Option (List Verdict) :=
  (latestRechecks events).mapM (verdictOf loads)

def deriveTargetDofollow (verdict : Value) (expectedNofollow : Bool) : String :=
  if verdict = .text "alive" then if expectedNofollow then "unverified" else "dofollow"
  else if verdict = .text "dofollow_lost" then "dofollow_lost"
  else if verdict = .text "link_stripped" ∨ verdict = .text "host_gone" then "stripped"
  else "unverified"

def targetDofollow (verdicts : List Verdict) (articleId : ℕ) : String :=
  match verdicts.find? fun verdict => verdict.articleId = some articleId with
  | none => "unverified"
  | some verdict => deriveTargetDofollow verdict.verdict verdict.expectedNofollow

/-! ## Items -/

/-- The keys that not every item has are `none` where they are missing; the publish mode is always
`draft`. -/
structure HistoryItem (τ : Type) where
  id : String
  targetUrl : String := ""
  createdAt : String := ""
  platform : Value := .text ""
  status : Value := .text "unknown"
  articleUrls : List Value := []
  runId : String := ""
  language : String := ""
  error : Value := .text ""
  errorClass : Option Value := none
  verifiedAt : Option String := none
  verifyError : Option String := none
  targetDofollow : String := "unverified"
  title : Option Value := none
  adapter : Option Value := none
  deletedAt : Option τ := none
  deriving DecidableEq, Repr

/-- `a or b` for a text column. -/
def textOr (a : Option String) (b : String) : String := if a.getD "" = "" then b else a.getD ""

/-- `_apply_article_fields` on the blank item. -/
def articleFields (verdicts : List Verdict) (article : ArticleRow τ) : HistoryItem τ where
  id := toString article.articleId
  createdAt := textOr article.publishedAtUtc ""
  platform := .text (textOr article.platform "")
  articleUrls := if textOr article.liveUrl "" = "" then [] else [.text (textOr article.liveUrl "")]
  runId := textOr article.runId ""
  language := textOr article.lang ""
  verifiedAt := article.verifiedAt
  verifyError := some (textOr article.verifyError "")
  targetDofollow := targetDofollow verdicts article.articleId

/-- A value that is shown where it is truthy. -/
def shown (value : Value) : Option Value := if value.truthy then some value else none

def platformOr (platform : Value) (payload : Payload) : Value :=
  if platform.truthy then platform else (payload.lookup "platform").getD (.text "")

def failedFields (payload : Payload) (item : HistoryItem τ) : HistoryItem τ :=
  let errorClass := payloadField payload "error_class"
  { item with
    status := .text "failed"
    error := ((shown (payloadField payload "error_message_clean")).or (shown errorClass)).getD
      (.text "")
    errorClass := shown errorClass
    platform := platformOr item.platform payload }

def publishedFields (payload : Payload) (status : Value) (item : HistoryItem τ) : HistoryItem τ :=
  { item with
    status := status
    articleUrls := ((shown (payloadField payload "live_url")).map fun live => [live]).getD
      item.articleUrls
    platform := platformOr item.platform payload
    title := shown (payloadField payload "title")
    adapter := shown (payloadField payload "adapter") }

/-- `_apply_event_fields` with a payload that has been read. -/
def eventFields (event : EventRow τ) (payload : Payload) (item : HistoryItem τ) : HistoryItem τ :=
  let common := { item with
    targetUrl := textOr event.targetUrl item.targetUrl
    createdAt := if item.createdAt = "" then event.tsUtc else item.createdAt
    runId := if item.runId = "" then event.runId.getD "" else item.runId }
  if event.kind = kindFailed then failedFields payload common
  else if event.kind = kindUnverified then
    publishedFields payload
      ((shown (payloadField payload "ui_status")).getD (.text "published_unverified")) common
  else if event.kind = kindConfirmed then publishedFields payload (.text "published") common
  else { common with status := .text "unknown" }

/-- `json.loads(payload_json) if payload_json else {}`, of which the fields are then taken. -/
def eventPayload (loads : String → JsonOutcome) (event : EventRow τ) : Option Payload :=
  if event.payloadJson = "" then some []
  else
    match loads event.payloadJson with
    | .object payload => some payload
    | _ => none

/-- A row of one of the two queries: an article with the event it is shown by, or an orphan. -/
inductive Entry (τ : Type) where
  | article (row : ArticleRow τ) (event : Option (EventRow τ))
  | orphan (event : EventRow τ)
  deriving DecidableEq, Repr

def orphanId (id : ℕ) : String := "evt-" ++ toString id

def Entry.event : Entry τ → Option (EventRow τ)
  | .article _ event => event
  | .orphan event => some event

def Entry.deletedAt : Entry τ → Option τ
  | .article row _ => row.deletedAt
  | .orphan event => event.deletedAt

def Entry.blank (verdicts : List Verdict) : Entry τ → HistoryItem τ
  | .article row _ => articleFields verdicts row
  | .orphan event => { id := orphanId event.id }

/-- What is listed: the rows that are not deleted, or those deleted no earlier than a cutoff, which
each of the two queries computes for itself. -/
inductive View (τ : Type) where
  | live
  | window (articleCutoff orphanCutoff : τ)

/-- `_build_history_item`, with the time of deletion in the window. -/
def Entry.item (verdicts : List Verdict) (windowed : Bool) (entry : Entry τ) (payload : Payload) :
    HistoryItem τ :=
  let built := match entry.event with
    | none => entry.blank verdicts
    | some event => eventFields event payload (entry.blank verdicts)
  { built with deletedAt := if windowed then entry.deletedAt else none }

def Entry.payload (loads : String → JsonOutcome) (entry : Entry τ) : Option Payload :=
  match entry.event with
  | none => some []
  | some event => eventPayload loads event

/-- `none` where the payload raises. -/
def Entry.build (loads : String → JsonOutcome) (verdicts : List Verdict) (windowed : Bool)
    (entry : Entry τ) : Option (HistoryItem τ) :=
  (entry.payload loads).map (entry.item verdicts windowed)

/-! ## The list -/

section Listing
variable [LinearOrder τ]

def View.showsArticle : View τ → ArticleRow τ → Bool
  | .live, article => article.deletedAt.isNone
  | .window cutoff _, article => article.deletedAt.any fun time => cutoff ≤ time

def View.showsOrphan : View τ → EventRow τ → Bool
  | .live, event => event.deletedAt.isNone
  | .window _ cutoff, event => event.deletedAt.any fun time => cutoff ≤ time

def View.windowed : View τ → Bool
  | .live => false
  | .window _ _ => true

/-- Latest first, and `NULL` last. -/
def publishedDesc (article : ArticleRow τ) : (WithBot String)ᵒᵈ :=
  OrderDual.toDual article.publishedAtUtc

def idDesc (event : EventRow τ) : ℕᵒᵈ := OrderDual.toDual event.id

def articlesShown (store : HistoryStore τ) (view : View τ) : List (ArticleRow τ) :=
  store.articles.filter view.showsArticle

def orphansShown (store : HistoryStore τ) (view : View τ) : List (EventRow τ) :=
  store.events.filter fun event =>
    store.isOrphan event && decide (event.kind ∈ publishKinds) && view.showsOrphan event

def entryOf (store : HistoryStore τ) (article : ArticleRow τ) : Entry τ :=
  .article article (latestPublish store.events article.articleId)

/-- The first query. -/
def articleEntries (store : HistoryStore τ) (view : View τ) (limit : ℕ) : List (Entry τ) :=
  ((sortedBy publishedDesc (articlesShown store view)).take limit).map (entryOf store)

/-- The second query. -/
def orphanEntries (store : HistoryStore τ) (view : View τ) (limit : ℕ) : List (Entry τ) :=
  ((sortedBy idDesc (orphansShown store view)).take limit).map .orphan

/-- Latest first, and among equals the greatest id. -/
def itemKey (item : HistoryItem τ) : (String ×ₗ String)ᵒᵈ :=
  OrderDual.toDual (toLex (item.createdAt, item.id))

/-- `list_history`, `none` where a payload raises. -/
def listHistory (loads : String → JsonOutcome) (store : HistoryStore τ) (limit : ℕ)
    (view : View τ) : Option (List (HistoryItem τ)) := do
  let verdicts ← latestVerdicts loads store.events
  let articles ← (articleEntries store view limit).mapM (Entry.build loads verdicts view.windowed)
  let orphans ← (orphanEntries store view limit).mapM (Entry.build loads verdicts view.windowed)
  some ((sortedBy itemKey (articles ++ orphans)).take limit)

/-! ## The ids of the items -/

def Entry.id : Entry τ → String
  | .article row _ => toString row.articleId
  | .orphan event => orphanId event.id

omit [LinearOrder τ] in
theorem item_id (verdicts : List Verdict) (windowed : Bool) (entry : Entry τ) (payload : Payload) :
    (entry.item verdicts windowed payload).id = entry.id := by
  have kept : ∀ (event : EventRow τ) (item : HistoryItem τ),
      (eventFields event payload item).id = item.id := by
    intro event item
    unfold eventFields failedFields publishedFields
    split_ifs <;> rfl
  have blank : (entry.blank verdicts).id = entry.id := by cases entry <;> rfl
  unfold Entry.item
  cases entry.event with
  | none => exact blank
  | some event => exact (kept event _).trans blank

theorem toString_injective : Function.Injective fun n : ℕ => toString n := by
  intro m n same
  have digits : Nat.toDigits 10 m = Nat.toDigits 10 n := by
    rw [← Nat.toList_repr, ← Nat.toList_repr]
    exact congrArg String.toList same
  calc
    m = Nat.ofDigitChars 10 (Nat.toDigits 10 m) 0 := Nat.ofDigitChars_ten_toDigits.symm
    _ = Nat.ofDigitChars 10 (Nat.toDigits 10 n) 0 := by rw [digits]
    _ = n := Nat.ofDigitChars_ten_toDigits

theorem orphanId_injective : Function.Injective orphanId := by
  intro m n same
  apply toString_injective
  have lists := congrArg String.toList same
  unfold orphanId at lists
  rw [String.toList_append, String.toList_append] at lists
  exact String.toList_injective (List.append_cancel_left lists)

theorem toString_ne_orphanId (m n : ℕ) : toString m ≠ orphanId n := by
  intro same
  have lists := congrArg String.toList same
  unfold orphanId at lists
  rw [String.toList_append] at lists
  have first : 'e' ∈ Nat.toDigits 10 m := by
    rw [← Nat.toList_repr]
    exact lists ▸ List.mem_cons_self
  exact absurd (Nat.isDigit_of_mem_toDigits (by decide) (by decide) first) (by decide)

/-! ## What is listed -/

/-- The rows that a limit leaves. -/
def cutEntries (store : HistoryStore τ) (view : View τ) (limit : ℕ) : List (Entry τ) :=
  articleEntries store view limit ++ orphanEntries store view limit

/-- All rows of a view. -/
def entries (store : HistoryStore τ) (view : View τ) : List (Entry τ) :=
  (articlesShown store view).map (entryOf store) ++ (orphansShown store view).map .orphan

/-- The item of a row whose payload can be read. -/
def itemOf (loads : String → JsonOutcome) (verdicts : List Verdict) (view : View τ)
    (entry : Entry τ) : HistoryItem τ :=
  entry.item verdicts view.windowed ((entry.payload loads).getD [])

/-- No payload raises. -/
def Legible (loads : String → JsonOutcome) (rows : List (Entry τ)) : Prop :=
  ∀ entry ∈ rows, (entry.payload loads).isSome

omit [LinearOrder τ] in
theorem build_legible {loads : String → JsonOutcome} {verdicts : List Verdict} {view : View τ}
    {rows : List (Entry τ)} (legible : Legible loads rows) :
    ∀ entry ∈ rows, entry.build loads verdicts view.windowed =
      some (itemOf loads verdicts view entry) := by
  intro entry hentry
  have ⟨payload, read⟩ := Option.isSome_iff_exists.1 (legible entry hentry)
  unfold Entry.build itemOf
  rw [read]
  rfl

theorem listHistory_iff {loads : String → JsonOutcome} {store : HistoryStore τ} {limit : ℕ}
    {view : View τ} {items : List (HistoryItem τ)} :
    listHistory loads store limit view = some items ↔
      ∃ verdicts, latestVerdicts loads store.events = some verdicts ∧
        Legible loads (cutEntries store view limit) ∧
        items = (sortedBy itemKey ((cutEntries store view limit).map
          (itemOf loads verdicts view))).take limit := by
  unfold listHistory cutEntries
  constructor
  · intro listed
    have ⟨verdicts, hverdicts, listed⟩ := Option.bind_eq_some_iff.1 listed
    have ⟨articles, harticles, listed⟩ := Option.bind_eq_some_iff.1 listed
    have ⟨orphans, horphans, listed⟩ := Option.bind_eq_some_iff.1 listed
    have legible : ∀ rows built, rows.mapM (Entry.build loads verdicts view.windowed) = some built →
        Legible loads rows ∧ built = rows.map (itemOf loads verdicts view) := by
      intro rows built made
      have all : Legible loads rows := by
        intro entry hentry
        have some_ := isSome_of_mapM made entry hentry
        unfold Entry.build at some_
        rw [Option.isSome_map] at some_
        exact some_
      refine ⟨all, ?_⟩
      rw [mapM_of_forall (build_legible all)] at made
      exact (Option.some.inj made).symm
    have ⟨left_, hleft⟩ := legible _ _ harticles
    have ⟨right_, hright⟩ := legible _ _ horphans
    refine ⟨verdicts, hverdicts, List.forall_mem_append.2 ⟨left_, right_⟩, ?_⟩
    rw [List.map_append, ← hleft, ← hright]
    exact (Option.some.inj listed).symm
  · rintro ⟨verdicts, hverdicts, legible, rfl⟩
    have ⟨left_, right_⟩ := List.forall_mem_append.1 legible
    rw [hverdicts, Option.bind_eq_bind, Option.bind_some, mapM_of_forall (build_legible left_),
      mapM_of_forall (build_legible right_), List.map_append]
    rfl

omit [LinearOrder τ] in
/-- The ids of rows of the two tables are distinct. -/
theorem rows_ids_nodup (store : HistoryStore τ) {articles : List (ArticleRow τ)}
    {events : List (EventRow τ)} (distinct : (articles.map ArticleRow.articleId).Nodup)
    (distinct' : (events.map EventRow.id).Nodup) :
    ((articles.map (entryOf store) ++ events.map Entry.orphan).map Entry.id).Nodup := by
  have ids : (articles.map (entryOf store)).map Entry.id =
      (articles.map ArticleRow.articleId).map fun n => toString n := by
    rw [List.map_map, List.map_map]
    rfl
  have ids' : (events.map Entry.orphan).map Entry.id = (events.map EventRow.id).map orphanId := by
    rw [List.map_map, List.map_map]
    rfl
  rw [List.map_append, ids, ids']
  refine List.Nodup.append (distinct.map toString_injective) (distinct'.map orphanId_injective) ?_
  intro id hid hid'
  have ⟨m, _, here⟩ := List.mem_map.1 hid
  have ⟨n, _, there⟩ := List.mem_map.1 hid'
  exact toString_ne_orphanId m n (here.trans there.symm)

/-- A page shows no id twice. -/
theorem cutEntries_nodup (store : HistoryStore τ) (view : View τ) (limit : ℕ) :
    ((cutEntries store view limit).map Entry.id).Nodup := by
  have taken : ∀ {α κ : Type} [LinearOrder κ] (key : α → κ) (id : α → ℕ) (xs : List α),
      (xs.map id).Nodup → (((sortedBy key xs).take limit).map id).Nodup := by
    intro α κ _ key id xs distinct
    apply List.Nodup.sublist ((List.take_sublist _ _).map id)
    exact ((sortedBy_perm key xs).map id).nodup_iff.2 distinct
  apply rows_ids_nodup
  · exact taken publishedDesc ArticleRow.articleId (articlesShown store view)
      (store.articleIds.sublist (List.filter_sublist.map _))
  · exact taken idDesc EventRow.id (orphansShown store view)
      (store.eventIds.sublist (List.filter_sublist.map _))

theorem entries_nodup (store : HistoryStore τ) (view : View τ) :
    ((entries store view).map Entry.id).Nodup :=
  rows_ids_nodup store (store.articleIds.sublist (List.filter_sublist.map _))
    (store.eventIds.sublist (List.filter_sublist.map _))

omit [LinearOrder τ] in
/-- Items of distinct ids have distinct keys. -/
theorem distinct_items {loads : String → JsonOutcome} {verdicts : List Verdict} {view : View τ}
    {rows : List (Entry τ)} (nodup : (rows.map Entry.id).Nodup) :
    DistinctKeys itemKey (rows.map (itemOf loads verdicts view)) := by
  unfold DistinctKeys
  apply List.Nodup.of_map fun key => (ofLex (OrderDual.ofDual key)).2
  rw [List.map_map, List.map_map]
  have same : ((fun key => (ofLex (OrderDual.ofDual key)).2) ∘ itemKey) ∘
      itemOf loads verdicts view = Entry.id := by
    funext entry
    exact item_id verdicts view.windowed entry _
  rw [same]
  exact nodup

/-- A limit above the number of rows cuts nothing. -/
theorem cutEntries_perm (store : HistoryStore τ) (view : View τ) {limit : ℕ}
    (large : store.articles.length + store.events.length ≤ limit) :
    (cutEntries store view limit).Perm (entries store view) := by
  have whole : ∀ {α κ : Type} [LinearOrder κ] (key : α → κ) (xs : List α), xs.length ≤ limit →
      ((sortedBy key xs).take limit).Perm xs := by
    intro α κ _ key xs short
    rw [List.take_of_length_le (by rw [(sortedBy_perm key xs).length_eq]; exact short)]
    exact sortedBy_perm key xs
  have few : (articlesShown store view).length ≤ store.articles.length := List.length_filter_le _ _
  have few' : (orphansShown store view).length ≤ store.events.length := List.length_filter_le _ _
  unfold cutEntries entries articleEntries orphanEntries
  exact ((whole publishedDesc _ (by omega)).map _).append ((whole idDesc _ (by omega)).map _)

/-- The whole list, with a limit above the number of rows. -/
theorem listHistory_whole {loads : String → JsonOutcome} {store : HistoryStore τ} {limit : ℕ}
    {view : View τ} (large : store.articles.length + store.events.length ≤ limit)
    {items : List (HistoryItem τ)} :
    listHistory loads store limit view = some items ↔
      ∃ verdicts, latestVerdicts loads store.events = some verdicts ∧
        Legible loads (entries store view) ∧
        items = sortedBy itemKey ((entries store view).map (itemOf loads verdicts view)) := by
  have perm := cutEntries_perm store view large
  have count : (entries store view).length ≤ limit := by
    have few : (articlesShown store view).length ≤ store.articles.length :=
      List.length_filter_le _ _
    have few' : (orphansShown store view).length ≤ store.events.length := List.length_filter_le _ _
    unfold entries
    rw [List.length_append, List.length_map, List.length_map]
    omega
  rw [listHistory_iff]
  apply exists_congr
  intro verdicts
  apply and_congr_right
  intro _
  have legible : Legible loads (cutEntries store view limit) ↔ Legible loads (entries store view) :=
    forall_congr' fun entry => by rw [perm.mem_iff]
  rw [legible, sortedBy_of_perm (distinct_items (entries_nodup store view)) (perm.map _),
    List.take_of_length_le]
  rw [(sortedBy_perm itemKey _).length_eq, List.length_map]
  exact count

end Listing
end BacklinkPublisher.HistoryItems
