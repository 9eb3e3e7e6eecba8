import BacklinkPublisher.ProjectionEmit

set_option autoImplicit false

/-!
# The publish writer

`map_history_entry` and `write_publish_result` of `events/publish_writer.py`, and
`_ensure_article` of `events/_project_helpers.py`. Both writers swallow their errors: the
store is then as it was.
-/
namespace BacklinkPublisher.PublishWriter
open EventStore ProjectionHelpers ProjectionEmit

/-- A history entry as its writers build it; `none` where a key is missing. -/
structure HistoryEntry where
  status : String := ""
  error : String := ""
  articleUrls : List String := []
  targetUrl : Option Value := none
  platform : Option String := none
  title : Option String := none
  adapter : Option String := none
  language : Option String := none
  runId : Option String := none
  createdAt : Option String := none
  deriving DecidableEq, Repr

/-- `(article_urls or [None])[0]`. -/
def HistoryEntry.liveUrl (entry : HistoryEntry) : Option String := entry.articleUrls.head?

def isUnverified (status : String) : Bool := "_unverified".toList.isSuffixOf status.toList

def HistoryEntry.adapterPayload (entry : HistoryEntry) : Payload :=
  match entry.adapter with
  | none => []
  | some adapter => if adapter = "" then [] else [("adapter", .text adapter)]

def HistoryEntry.publishPayload (entry : HistoryEntry) : Payload :=
  [("live_url", .ofOption entry.liveUrl), ("target_url", entry.targetUrl.getD (.text "")),
    ("platform", .text (entry.platform.getD "")), ("title", .text (entry.title.getD ""))]

def mapHistoryEntry (entry : HistoryEntry) : Option (EventKind × Payload) :=
  if entry.status = "published" then
    some (.publishConfirmed, entry.publishPayload ++ entry.adapterPayload)
  else if isUnverified entry.status then
    some (.publishUnverified,
      entry.publishPayload ++ [("ui_status", .text entry.status)] ++ entry.adapterPayload)
  else if entry.status = "failed" ∨ entry.error ≠ "" then
    some (.publishFailed,
      [("error_class", .text "publish_failed"),
        ("error_message_clean", .text (if entry.error = "" then "unknown error" else entry.error)),
        ("target_url", entry.targetUrl.getD (.text "")),
        ("platform", .text (entry.platform.getD ""))])
  else none

/-- `target_url` of the event; the fallback reads what the payload copied from the entry. -/
def HistoryEntry.eventTarget (entry : HistoryEntry) : Value :=
  match entry.targetUrl.getD .null with
  | .null => (entry.targetUrl.getD (.text "")).orNull
  | target => target

def HistoryEntry.article (entry : HistoryEntry) : ArticleColumns where
  targetUrls := []
  host := none
  liveUrl := entry.liveUrl
  platform := some (entry.platform.getD "")
  lang := some (entry.language.getD "")
  runId := some (entry.runId.getD "")
  publishedAtRaw := some (entry.createdAt.getD "")
  publishedAtUtc := some (entry.createdAt.getD "")

/-- `add_article`, or the row that has the `live_url` already. -/
def registerArticle (tx : Tx) (columns : ArticleColumns) : Option (ℕ × Tx) :=
  match tx.addArticle columns with
  | .ok registered => some registered
  | .error .integrity =>
    (tx.articles.find? (·.columns.liveUrl = columns.liveUrl)).map fun article =>
      (article.articleId, tx)
  | .error .binding => none

section Writers
variable {C : Type}

def commit (store : ProjectedStore C) (tx : Tx) : ProjectedStore C :=
  ⟨tx.events, tx.articles, tx.nextArticleId, store.cursor⟩

/-- The article and its event, in one transaction. -/
def recordPublish (lib : Helpers) (entry : HistoryEntry) (kind : EventKind) (payload : Payload)
    (tx : Tx) : Option (ℕ × Tx) := do
  let (articleId, tx) ← registerArticle tx entry.article
  let tx ← tx.append lib.clock kind
    (payload ++ [("article_id", .scalar articleId (articleId ≠ 0))]) entry.runId entry.eventTarget
    none (some articleId) (none, none) true
  some (articleId, tx)

/-- The id of the article, for a failure that of the event. -/
def writePublishResult (lib : Helpers) (entry : HistoryEntry) (store : ProjectedStore C) :
    Option ℕ × ProjectedStore C :=
  match mapHistoryEntry entry with
  | none => (none, store)
  | some (kind, payload) =>
    if kind = .publishFailed then
      match store.begin.append lib.clock kind payload entry.runId entry.eventTarget none none
        (none, none) true with
      | some tx => (some tx.events.length, commit store tx)
      | none => (none, store)
    else
      match recordPublish lib entry kind payload store.begin with
      | some (articleId, tx) => (some articleId, commit store tx)
      | none => (none, store)

def ensureArticle (lib : Helpers) (liveUrl : String) (targetUrl host platform : Option String)
    (store : ProjectedStore C) : Option ℕ × ProjectedStore C :=
  if liveUrl = "" then (none, store)
  else
    let registered := (lib.canonicalizeUrl liveUrl).bind fun canonical =>
      registerArticle store.begin
        { articlePayload canonical (.ofOption targetUrl) host .null (none, none) with
          platform := platform }
    match registered with
    | some (articleId, tx) => (some articleId, commit store tx)
    | none => (none, store)

end Writers

/-! ## What the writers leave -/

theorem append_articles {tx tx' : Tx} {clock : ℕ → String} {kind : EventKind} {payload : Payload}
    {runId : Option String} {targetUrl : Value} {host : Option String} {articleId : Option ℕ}
    {ts : Option String × Option String} {sink : Bool}
    (h : tx.append clock kind payload runId targetUrl host articleId ts sink = some tx') :
    tx'.articles = tx.articles := by
  unfold Tx.append at h
  dsimp only at h
  split at h
  · split_ifs at h
    rw [← Option.some.inj h]
  · split_ifs at h
    rw [← Option.some.inj h]

/-- The article that a registration returns has the URL, and it is the only one added. -/
theorem registerArticle_some {tx tx' : Tx} {columns : ArticleColumns} {articleId : ℕ}
    (h : registerArticle tx columns = some (articleId, tx')) :
    tx'.events = tx.events ∧
      (∃ article ∈ tx'.articles,
        article.articleId = articleId ∧ article.columns.liveUrl = columns.liveUrl) ∧
      (tx'.articles = tx.articles ∨
        tx'.articles = tx.articles ++ [⟨articleId, columns⟩] ∧
          ∀ url, columns.liveUrl = some url → ¬ HasLink tx.articles url) := by
  unfold registerArticle at h
  cases added : tx.addArticle columns with
  | ok registered =>
    rw [added] at h
    have same : registered = (articleId, tx') := Option.some.inj h
    rw [same] at added
    have lacks : ∀ url, columns.liveUrl = some url → ¬ HasLink tx.articles url := by
      intro url hurl ⟨article, hmem, hlive⟩
      have bindable : columns.body.bindable = true := by
        cases hbody : columns.body.bindable with
        | true => rfl
        | false => simp [Tx.addArticle, hbody] at added
      have conflict : tx.addArticle columns = .error .integrity :=
        Tx.addArticle_integrity.2 ⟨bindable, url, hurl, article, hmem, hlive⟩
      rw [conflict] at added
      cases added
    rw [Tx.addArticle_ok added]
    exact ⟨rfl, ⟨_, List.mem_append_right _ List.mem_cons_self, rfl, rfl⟩, .inr ⟨rfl, lacks⟩⟩
  | error error =>
    cases error with
    | binding =>
      rw [added] at h
      cases h
    | integrity =>
      rw [added] at h
      obtain ⟨article, found, same⟩ := Option.map_eq_some_iff.1 h
      have hid : article.articleId = articleId := congrArg Prod.fst same
      have htx : tx = tx' := congrArg Prod.snd same
      rw [← htx]
      have held := List.find?_some found
      exact ⟨rfl, ⟨article, List.mem_of_find?_eq_some found, hid, of_decide_eq_true held⟩, .inl rfl⟩

theorem registerArticle_isSome (tx : Tx) (columns : ArticleColumns)
    (bindable : columns.body.bindable = true) :
    ∃ registered, registerArticle tx columns = some registered := by
  unfold registerArticle
  cases added : tx.addArticle columns with
  | ok registered => exact ⟨registered, rfl⟩
  | error error =>
    cases error with
    | binding =>
      unfold Tx.addArticle at added
      simp only [bindable, Bool.not_true, Bool.false_eq_true, if_false] at added
      split_ifs at added
      cases added
    | integrity =>
      have ⟨_, url, hurl, article, hmem, hlive⟩ := Tx.addArticle_integrity.1 added
      have found : (tx.articles.find? (·.columns.liveUrl = columns.liveUrl)).isSome = true := by
        rw [List.find?_isSome]
        exact ⟨article, hmem, decide_eq_true (hlive.trans hurl.symm)⟩
      have ⟨known, hknown⟩ := Option.isSome_iff_exists.1 found
      exact ⟨(known.articleId, tx), by dsimp only; rw [hknown]; rfl⟩

theorem append_isSome (tx : Tx) (clock : ℕ → String) {kind : EventKind} {payload : Payload}
    (complete : missingRequiredFields kind payload = []) {targetUrl : Value}
    (bindable : targetUrl.bindable = true) (runId host : Option String) (articleId : Option ℕ)
    (ts : Option String × Option String) (sink : Bool) :
    ∃ tx', tx.append clock kind payload runId targetUrl host articleId ts sink = some tx' := by
  unfold Tx.append
  rw [complete]
  dsimp only
  rw [if_pos bindable]
  exact ⟨_, rfl⟩

section Recorded
variable {C : Type} {lib : Helpers} {entry : HistoryEntry} {kind : EventKind} {payload : Payload}

theorem mapHistoryEntry_liveUrl (mapped : mapHistoryEntry entry = some (kind, payload))
    (publishes : kind ≠ .publishFailed) :
    (kind = .publishConfirmed ∨ kind = .publishUnverified) ∧
      ("live_url", Value.ofOption entry.liveUrl) ∈ payload := by
  unfold mapHistoryEntry at mapped
  split_ifs at mapped
  · have same := Prod.mk.inj (Option.some.inj mapped)
    rw [← same.1, ← same.2]
    exact ⟨.inl rfl, List.mem_append_left _ List.mem_cons_self⟩
  · have same := Prod.mk.inj (Option.some.inj mapped)
    rw [← same.1, ← same.2]
    exact ⟨.inr rfl, List.mem_append_left _ (List.mem_append_left _ List.mem_cons_self)⟩
  -- the two texts of a failure
  all_goals
    have same := Prod.mk.inj (Option.some.inj mapped)
    exact absurd same.1.symm publishes

theorem live_url_complete (hkind : kind = .publishConfirmed ∨ kind = .publishUnverified)
    {value : Value} (hmem : ("live_url", value) ∈ payload) :
    missingRequiredFields kind payload = [] := by
  have known : "live_url" ∈ payload.map Prod.fst := List.mem_map_of_mem hmem
  rcases hkind with rfl | rfl <;> simp [missingRequiredFields, EventKind.requiredFields, known]

/-- What a publish that returns an id has added to the tables. -/
structure Recorded (entry : HistoryEntry) (kind : EventKind) (articleId : ℕ)
    (before after : List Event × List Article) : Prop where
  event : ∃ event, after.1 = before.1 ++ [event] ∧ event.kind = kind ∧
    event.articleId = some articleId
  article : ∃ article ∈ after.2, article.articleId = articleId ∧
    article.columns.liveUrl = entry.liveUrl
  articles : after.2 = before.2 ∨ after.2 = before.2 ++ [⟨articleId, entry.article⟩] ∧
    ∀ url, entry.liveUrl = some url → ¬ HasLink before.2 url

theorem recordPublish_recorded {tx tx' : Tx} {articleId : ℕ}
    (mapped : mapHistoryEntry entry = some (kind, payload)) (publishes : kind ≠ .publishFailed)
    (h : recordPublish lib entry kind payload tx = some (articleId, tx')) :
    Recorded entry kind articleId tx.tables tx'.tables := by
  obtain ⟨hkind, hlive⟩ := mapHistoryEntry_liveUrl mapped publishes
  obtain ⟨⟨registered, tx₁⟩, registration, h⟩ := Option.bind_eq_some_iff.1 h
  obtain ⟨tx₂, appended, h⟩ := Option.bind_eq_some_iff.1 h
  have same := Prod.mk.inj (Option.some.inj h)
  rw [same.1] at registration appended
  rw [same.2] at appended
  have complete : missingRequiredFields kind
      (payload ++ [("article_id", Value.scalar articleId (articleId ≠ 0))]) = [] :=
    live_url_complete hkind (List.mem_append_left _ hlive)
  obtain ⟨_, _, htx⟩ := Tx.append_some complete appended
  have ⟨events, article, articles⟩ := registerArticle_some registration
  rw [htx]
  exact {
    event := ⟨_, congrArg (· ++ _) events, rfl, rfl⟩
    article := article
    articles := articles }

/-- The event of a publish needs nothing of the store. -/
theorem writePublishResult_recorded {store store' : ProjectedStore C} {articleId : ℕ}
    (mapped : mapHistoryEntry entry = some (kind, payload)) (publishes : kind ≠ .publishFailed)
    (h : writePublishResult lib entry store = (some articleId, store')) :
    Recorded entry kind articleId store.tables store'.tables := by
  unfold writePublishResult at h
  rw [mapped] at h
  dsimp only at h
  rw [if_neg publishes] at h
  cases recorded : recordPublish lib entry kind payload store.begin with
  | none =>
    rw [recorded] at h
    cases h
  | some registered =>
    have ⟨ownId, tx⟩ := registered
    rw [recorded] at h
    have hid : ownId = articleId := Option.some.inj (congrArg Prod.fst h)
    have hstore : commit store tx = store' := congrArg Prod.snd h
    rw [← hstore, ← hid]
    exact recordPublish_recorded mapped publishes recorded

theorem writePublishResult_isSome (lib : Helpers) (store : ProjectedStore C)
    (mapped : mapHistoryEntry entry = some (kind, payload)) (publishes : kind ≠ .publishFailed)
    (bindable : entry.eventTarget.bindable = true) :
    ∃ articleId store', writePublishResult lib entry store = (some articleId, store') := by
  have ⟨hkind, hlive⟩ := mapHistoryEntry_liveUrl mapped publishes
  have ⟨⟨articleId, tx⟩, registration⟩ := registerArticle_isSome store.begin entry.article rfl
  have complete : missingRequiredFields kind
      (payload ++ [("article_id", Value.scalar articleId (articleId ≠ 0))]) = [] :=
    live_url_complete hkind (List.mem_append_left _ hlive)
  have ⟨tx', appended⟩ := append_isSome tx lib.clock complete bindable entry.runId none
    (some articleId) (none, none) true
  have recorded : recordPublish lib entry kind payload store.begin = some (articleId, tx') := by
    unfold recordPublish
    rw [registration]
    dsimp only [Option.bind_eq_bind, Option.bind_some]
    rw [appended]
    rfl
  refine ⟨articleId, commit store tx', ?_⟩
  unfold writePublishResult
  rw [mapped]
  dsimp only
  rw [if_neg publishes, recorded]

/-- A publish writes its event and its article, or nothing at all. -/
theorem writePublishResult_cases {store store' : ProjectedStore C} {result : Option ℕ}
    (h : writePublishResult lib entry store = (result, store')) :
    store'.cursor = store.cursor ∧
      (store'.tables = store.tables ∨
        (∃ payload, mapHistoryEntry entry = some (.publishFailed, payload)) ∧
          store'.articles = store.articles ∨
        ∃ kind payload articleId, mapHistoryEntry entry = some (kind, payload) ∧
          kind ≠ .publishFailed ∧ result = some articleId ∧
          Recorded entry kind articleId store.tables store'.tables) := by
  have unchanged (same : (none, store) = (result, store')) :
      store'.cursor = store.cursor ∧ store'.tables = store.tables := by
    have hstore : store = store' := congrArg Prod.snd same
    rw [← hstore]
    exact ⟨rfl, rfl⟩
  unfold writePublishResult at h
  cases mapped : mapHistoryEntry entry with
  | none =>
    rw [mapped] at h
    exact (unchanged h).imp_right .inl
  | some mapping =>
    have ⟨kind, payload⟩ := mapping
    rw [mapped] at h
    dsimp only at h
    by_cases failed : kind = .publishFailed
    · rw [if_pos failed] at h
      cases appended : store.begin.append lib.clock kind payload entry.runId entry.eventTarget none
          none (none, none) true with
      | none =>
        rw [appended] at h
        exact (unchanged h).imp_right .inl
      | some tx =>
        rw [appended] at h
        have hstore : commit store tx = store' := congrArg Prod.snd h
        rw [← hstore]
        refine ⟨rfl, .inr (.inl ⟨⟨payload, by rw [failed]⟩, ?_⟩)⟩
        exact append_articles appended
    · rw [if_neg failed] at h
      cases recorded : recordPublish lib entry kind payload store.begin with
      | none =>
        rw [recorded] at h
        exact (unchanged h).imp_right .inl
      | some registered =>
        have ⟨articleId, tx⟩ := registered
        rw [recorded] at h
        have hresult : some articleId = result := congrArg Prod.fst h
        have hstore : commit store tx = store' := congrArg Prod.snd h
        rw [← hstore]
        exact ⟨rfl, .inr (.inr ⟨kind, payload, articleId, rfl, failed, hresult.symm,
          recordPublish_recorded mapped failed recorded⟩)⟩

end Recorded

end BacklinkPublisher.PublishWriter
