import BacklinkPublisher.CheckpointProjection
import BacklinkPublisher.HistoryProjection
import BacklinkPublisher.DraftsProjection
import BacklinkPublisher.PublishWriter
import BacklinkPublisher.TransitionSystems

set_option autoImplicit false

/-!
# The writers of articles

The reducers, the publish writer and the keep-alive chain on one store. `live_url` is unique
as a text only: that no link has two articles rests on what the writers store.
-/
namespace BacklinkPublisher.ArticleWriters
open EventStore OptionFolds ProjectionHelpers ProjectionEmit PublishWriter TransitionSystems
open CheckpointProjection (CheckpointFile CheckpointItem ItemCursor projectCheckpoint)
open HistoryProjection (HistoryFile HistoryRow projectHistory)
open DraftsProjection (DraftRow StatusCursor projectDrafts)

/-! ## One link, one article -/

/-- A URL that is its own canonical form, or has none. -/
def Stable (lib : Helpers) (url : String) : Prop :=
  ∀ canonical, lib.canonicalizeUrl url = some canonical → canonical = url

/-- No two articles have live URLs with one canonical form. -/
def OneArticlePerLink (lib : Helpers) (articles : List Article) : Prop :=
  articles.Pairwise fun a b => ∀ url url' canonical, a.columns.liveUrl = some url →
    b.columns.liveUrl = some url' → lib.canonicalizeUrl url = some canonical →
    lib.canonicalizeUrl url' ≠ some canonical

/-- Distinct live URLs, all of them stable. -/
structure Keyed (lib : Helpers) (articles : List Article) : Prop where
  distinct : articles.Pairwise fun a b => ∀ url, a.columns.liveUrl = some url →
    b.columns.liveUrl ≠ some url
  stable : ∀ article ∈ articles, ∀ url, article.columns.liveUrl = some url → Stable lib url

section Articles
variable {lib : Helpers} {articles : List Article}

theorem Keyed.oneArticlePerLink (keyed : Keyed lib articles) : OneArticlePerLink lib articles := by
  have both := List.Pairwise.and_mem.1 keyed.distinct
  apply both.imp
  intro a b ⟨ha, hb, distinct⟩ url url' canonical hurl hurl' hcanonical hcanonical'
  have first : canonical = url := keyed.stable a ha url hurl canonical hcanonical
  have second : canonical = url' := keyed.stable b hb url' hurl' canonical hcanonical'
  apply distinct url hurl
  rw [hurl', ← second, first]

theorem Keyed.concat (keyed : Keyed lib articles) {article : Article}
    (new : ∀ url, article.columns.liveUrl = some url → ¬ HasLink articles url ∧ Stable lib url) :
    Keyed lib (articles ++ [article]) where
  distinct := by
    rw [List.pairwise_append]
    refine ⟨keyed.distinct, List.pairwise_singleton _ _, ?_⟩
    intro a ha b hb url hurl hurl'
    rw [List.mem_singleton.1 hb] at hurl'
    exact (new url hurl').1 ⟨a, ha, hurl⟩
  stable := by
    intro a ha url hurl
    rcases List.mem_append.1 ha with ha | ha
    · exact keyed.stable a ha url hurl
    · rw [List.mem_singleton.1 ha] at hurl
      exact (new url hurl).2

/-- A registration keeps the table keyed where it stores a stable URL. -/
theorem Keyed.grown (keyed : Keyed lib articles) {after : List Article} {articleId : ℕ}
    {columns : ArticleColumns} (stable : ∀ url, columns.liveUrl = some url → Stable lib url)
    (h : after = articles ∨ after = articles ++ [⟨articleId, columns⟩] ∧
      ∀ url, columns.liveUrl = some url → ¬ HasLink articles url) : Keyed lib after := by
  rcases h with same | ⟨grown, lacks⟩
  · rw [same]
    exact keyed
  · rw [grown]
    apply keyed.concat
    intro url hurl
    exact ⟨lacks url hurl, stable url hurl⟩

theorem Keyed.appended {tx tx' : Tx} (keyed : Keyed lib tx.articles) {clock : ℕ → String}
    {kind : EventKind} {payload : Payload} {runId : Option String} {targetUrl : Value}
    {host : Option String} {articleId : Option ℕ} {ts : Option String × Option String} {sink : Bool}
    (h : tx.append clock kind payload runId targetUrl host articleId ts sink = some tx') :
    Keyed lib tx'.articles := by
  rw [append_articles h]
  exact keyed

end Articles

/-! ## Calls -/

/-- The cursors of the source files, each under its path. -/
structure Cursors where
  checkpoint : String → ItemCursor := fun _ _ => none
  history : String → List String := fun _ => []
  drafts : String → StatusCursor := fun _ _ => none

abbrev EventsDb := ProjectedStore Cursors

def emptyDb : EventsDb := { cursor := {} }

inductive WriterCall where
  | writePublishResult (entry : HistoryEntry)
  | flushCheckpoint (path : String) (file : CheckpointFile)
  | flushHistory (path : String) (file : HistoryFile)
  | flushDrafts (path : String) (rows : List (Option DraftRow))
  | ensureArticle (liveUrl : String) (targetUrl host platform : Option String)

def withCursor {C D : Type} (store : ProjectedStore C) (cursor : D) : ProjectedStore D :=
  ⟨store.events, store.articles, store.nextArticleId, cursor⟩

def WriterCall.run (lib : Helpers) (db : EventsDb) : WriterCall → EventsDb
  | .writePublishResult entry => (PublishWriter.writePublishResult lib entry db).2
  | .flushCheckpoint path file =>
    let flushed := flush (projectCheckpoint lib file) (withCursor db (db.cursor.checkpoint path))
    withCursor flushed { db.cursor with
      checkpoint := Function.update db.cursor.checkpoint path flushed.cursor }
  | .flushHistory path file =>
    let flushed := flush (projectHistory lib file) (withCursor db (db.cursor.history path))
    withCursor flushed { db.cursor with
      history := Function.update db.cursor.history path flushed.cursor }
  | .flushDrafts path rows =>
    let flushed := flush (projectDrafts lib rows) (withCursor db (db.cursor.drafts path))
    withCursor flushed { db.cursor with
      drafts := Function.update db.cursor.drafts path flushed.cursor }
  | .ensureArticle liveUrl targetUrl host platform =>
    (PublishWriter.ensureArticle lib liveUrl targetUrl host platform db).2

def step (lib : Helpers) (db : EventsDb) (call : WriterCall) : Option EventsDb :=
  some (call.run lib db)

/-! ## What a call stores -/

def historyRows : HistoryFile → List (Option HistoryRow)
  | .rows rows => rows
  | .unparsable | .other => []

/-- `canonicalize_url` of the texts among the URLs of a row. -/
def canonicalUrls (lib : Helpers) (urls : Option (List Value)) : List String :=
  (urls.getD []).filterMap fun url => (nonEmptyText url).bind lib.canonicalizeUrl

/-- The live URLs that a call stores, unless an article has them. -/
def WriterCall.stored (lib : Helpers) : WriterCall → List String
  | .writePublishResult entry =>
    if (mapHistoryEntry entry).any (·.1 ≠ .publishFailed) then entry.liveUrl.toList else []
  | .flushCheckpoint _ file => file.items.flatMap fun entry =>
    canonicalUrls lib (entry.map fun item => [item.publishedUrl.orNull])
  | .flushHistory _ file => (historyRows file).flatMap fun entry =>
    canonicalUrls lib (entry.bind HistoryRow.articleUrls)
  | .flushDrafts _ rows => rows.flatMap fun entry =>
    canonicalUrls lib (entry.bind DraftRow.articleUrls)
  | .ensureArticle liveUrl _ _ _ => (lib.canonicalizeUrl liveUrl).toList

/-- Every URL that the call stores is its own canonical form. -/
def StoresCanonical (lib : Helpers) (_ : EventsDb) (call : WriterCall) : Prop :=
  ∀ url ∈ call.stored lib, Stable lib url

/-! ## Reducers -/

section Emitters
variable {lib : Helpers} {row : ConfirmedRow}

theorem emitConfirmedUrl_keyed {e e' : Emission} {url : Value} (keyed : Keyed lib e.tx.articles)
    (stable : ∀ canonical, (nonEmptyText url).bind lib.canonicalizeUrl = some canonical →
      Stable lib canonical)
    (h : emitConfirmedUrl lib row e url = some e') : Keyed lib e'.tx.articles := by
  cases hurl : nonEmptyText url with
  | none =>
    rw [emitConfirmedUrl_unusable hurl] at h
    rw [← Option.some.inj h]
    exact keyed
  | some text =>
    have ⟨_, liveUrl, hcanonical, effect⟩ := emitConfirmedUrl_effect hurl h
    rw [hurl, Option.bind_some] at stable
    cases effect with
    | known has articles grows silent =>
      rw [articles]
      exact keyed
    | new lacks article own articles grows =>
      rw [articles]
      apply keyed.concat
      intro url' hurl'
      have same : liveUrl = url' := Option.some.inj (own.symm.trans hurl')
      rw [← same]
      exact ⟨lacks, stable liveUrl hcanonical⟩

theorem emitConfirmedRow_keyed {tx : Tx} {e : Emission} {mark : Bool}
    (keyed : Keyed lib tx.articles)
    (stable : ∀ url ∈ canonicalUrls lib row.articleUrls, Stable lib url)
    (h : emitConfirmedRow lib row tx = some (e, mark)) : Keyed lib e.tx.articles := by
  have unlisted (h : ((tx.append lib.clock .publishConfirmed (row.payload .null) none row.targetUrl
      row.host none row.ts true).map fun tx => (({ tx := tx, events := 1 } : Emission), true)) =
        some (e, mark)) : Keyed lib e.tx.articles := by
    have ⟨tx', appended, same⟩ := Option.map_eq_some_iff.1 h
    rw [← (Prod.mk.inj same).1]
    exact keyed.appended appended
  unfold emitConfirmedRow at h
  split at h
  · exact unlisted h
  · exact unlisted h
  · rename_i urls _ hurls
    have ⟨e', loop, same⟩ := Option.map_eq_some_iff.1 h
    rw [← (Prod.mk.inj same).1]
    apply foldlM_invariant (I := fun e : Emission => Keyed lib e.tx.articles) loop keyed
    intro e url e' hmem keyed hstep
    apply emitConfirmedUrl_keyed keyed _ hstep
    intro canonical hcanonical
    apply stable canonical
    rw [hurls]
    exact List.mem_filterMap.2 ⟨url, hmem, hcanonical⟩

end Emitters

section Rows
variable {lib : Helpers}

theorem projectHistoryRow_keyed {r r' : HistoryProjection.HistoryReduction}
    {entry : Option HistoryRow} (keyed : Keyed lib r.tx.articles)
    (stable : ∀ url ∈ canonicalUrls lib (entry.bind HistoryRow.articleUrls), Stable lib url)
    (h : HistoryProjection.projectHistoryRow lib r entry = some r') :
    Keyed lib r'.tx.articles := by
  have unchanged (same : r = r') : Keyed lib r'.tx.articles := same ▸ keyed
  unfold HistoryProjection.projectHistoryRow at h
  split at h
  · exact unchanged (Option.some.inj h)
  split at h
  · exact unchanged (Option.some.inj h)
  split at h
  · exact unchanged (Option.some.inj h)
  simp only [Option.bind_eq_bind, Option.bind_eq_some_iff] at h
  have ⟨host, _, ts, _, h⟩ := h
  split at h
  · have ⟨⟨e, mark⟩, emitted, same⟩ := Option.map_eq_some_iff.1 h
    rw [← same]
    exact emitConfirmedRow_keyed keyed stable emitted
  · have ⟨_, _, h⟩ := Option.bind_eq_some_iff.1 h
    have ⟨tx, appended, same⟩ := Option.map_eq_some_iff.1 h
    rw [← same]
    exact keyed.appended appended
  · rw [← Option.some.inj h]
    exact keyed

theorem appendDraftEvent_keyed {kind : EventKind} {id : String} {row : DraftRow}
    {host : Option String} {r r' : DraftsProjection.DraftsReduction}
    (keyed : Keyed lib r.tx.articles)
    (h : DraftsProjection.appendDraftEvent lib kind id row host r = some r') :
    Keyed lib r'.tx.articles := by
  have ⟨tx, appended, same⟩ := Option.map_eq_some_iff.1 h
  rw [← same]
  exact keyed.appended appended

theorem projectChangedDraft_keyed {id status : String} {row : DraftRow} {prior : Option String}
    {r r' : DraftsProjection.DraftsReduction} (keyed : Keyed lib r.tx.articles)
    (stable : ∀ url ∈ canonicalUrls lib row.articleUrls, Stable lib url)
    (h : DraftsProjection.projectChangedDraft lib id status row prior r = some r') :
    Keyed lib r'.tx.articles := by
  simp only [DraftsProjection.projectChangedDraft, Option.bind_eq_bind,
    Option.bind_eq_some_iff] at h
  obtain ⟨host, _, h⟩ := h
  split at h
  · obtain ⟨e, emitted, same⟩ := Option.map_eq_some_iff.1 h
    obtain ⟨⟨e', mark⟩, row_emitted, first⟩ := Option.map_eq_some_iff.1 emitted
    rw [← same]
    change Keyed lib e.tx.articles
    rw [← first]
    exact emitConfirmedRow_keyed keyed stable row_emitted
  · split_ifs at h
    · rw [← Option.some.inj h]
      exact keyed
    · refine appendDraftEvent_keyed ?_ h
      exact keyed
  · split_ifs at h
    · rw [← Option.some.inj h]
      exact keyed
    · refine appendDraftEvent_keyed ?_ h
      exact keyed
  · rw [← Option.some.inj h]
    exact keyed

theorem projectDraftRow_keyed {prior : StatusCursor} {r r' : DraftsProjection.DraftsReduction}
    {entry : Option DraftRow} (keyed : Keyed lib r.tx.articles)
    (stable : ∀ url ∈ canonicalUrls lib (entry.bind DraftRow.articleUrls), Stable lib url)
    (h : DraftsProjection.projectDraftRow lib prior r entry = some r') :
    Keyed lib r'.tx.articles := by
  unfold DraftsProjection.projectDraftRow at h
  split at h
  · rw [← Option.some.inj h]
    exact keyed
  split at h
  · rw [← Option.some.inj h]
    exact keyed
  dsimp only at h
  split_ifs at h
  · rw [← Option.some.inj h]
    exact keyed
  · refine projectChangedDraft_keyed ?_ stable h
    exact keyed

theorem handleCheckpointConfirmed_keyed {item : CheckpointItem}
    {payload : CheckpointProjection.CheckpointPayload} {context : CheckpointProjection.Context}
    {publishedUrl : Value} {r r' : CheckpointProjection.Reduction}
    (keyed : Keyed lib r.tx.articles)
    (stable : ∀ url ∈ canonicalUrls lib (some [publishedUrl]), Stable lib url)
    (h : CheckpointProjection.handleCheckpointConfirmed lib item payload context publishedUrl r =
      some r') : Keyed lib r'.tx.articles := by
  unfold CheckpointProjection.handleCheckpointConfirmed at h
  split at h
  · rename_i ownHost liveUrl _ hcanonical
    dsimp only at h
    have stored : ∀ url, liveUrl = some url → Stable lib url := by
      intro url hurl
      apply stable url
      unfold Helpers.canonicalOf at hcanonical
      cases text : nonEmptyText publishedUrl with
      | none =>
        rw [text] at hcanonical
        rw [← Option.some.inj hcanonical] at hurl
        cases hurl
      | some s =>
        rw [text, hurl] at hcanonical
        have ⟨canonical, found, same⟩ := Option.map_eq_some_iff.1 hcanonical
        rw [Option.some.inj same] at found
        apply List.mem_filterMap.2
        exact ⟨publishedUrl, List.mem_cons_self, by rw [text]; exact found⟩
    split at h
    · cases h
    · have ⟨tx, appended, same⟩ := Option.map_eq_some_iff.1 h
      rw [← same]
      exact keyed.appended appended
    · rename_i articleId tx added
      have ⟨tx', appended, same⟩ := Option.map_eq_some_iff.1 h
      rw [← same]
      change Keyed lib tx'.articles
      rw [append_articles appended]
      have registered : registerArticle r.tx
          (CheckpointProjection.confirmedColumns lib item payload context liveUrl
            (ownHost.or context.host)) = some (articleId, tx) := by
        rw [registerArticle, added]
      exact keyed.grown stored (registerArticle_some registered).2.2
  · cases h

theorem handleCheckpointIntent_keyed {item : CheckpointItem}
    {context : CheckpointProjection.Context} {prior : Option CheckpointProjection.ItemState}
    {r r' : CheckpointProjection.Reduction} (keyed : Keyed lib r.tx.articles)
    (h : CheckpointProjection.handleCheckpointIntent lib item context prior r = some r') :
    Keyed lib r'.tx.articles := by
  unfold CheckpointProjection.handleCheckpointIntent at h
  dsimp only at h
  split_ifs at h
  · rw [← Option.some.inj h]
    exact keyed
  · rw [← Option.some.inj h]
    exact keyed
  · have ⟨tx, appended, same⟩ := Option.map_eq_some_iff.1 h
    rw [← same]
    exact keyed.appended appended

theorem handleCheckpointFailed_keyed {item : CheckpointItem}
    {context : CheckpointProjection.Context} {r r' : CheckpointProjection.Reduction}
    (keyed : Keyed lib r.tx.articles)
    (h : CheckpointProjection.handleCheckpointFailed lib item context r = some r') :
    Keyed lib r'.tx.articles := by
  unfold CheckpointProjection.handleCheckpointFailed at h
  dsimp only at h
  split_ifs at h
  · rw [← Option.some.inj h]
    exact keyed
  · rw [← Option.some.inj h]
    exact keyed
  · have ⟨_, _, scrubbed⟩ := Option.bind_eq_some_iff.1 h
    have ⟨tx, appended, same⟩ := Option.map_eq_some_iff.1 scrubbed
    rw [← same]
    exact keyed.appended appended

theorem projectCheckpointItem_keyed {runId : String} {startedAt : Value} {prior : ItemCursor}
    {r r' : CheckpointProjection.Reduction} {entry : Option CheckpointItem}
    (keyed : Keyed lib r.tx.articles)
    (stable : ∀ url ∈ canonicalUrls lib (entry.map fun item => [item.publishedUrl.orNull]),
      Stable lib url)
    (h : CheckpointProjection.projectCheckpointItem lib runId startedAt prior r entry = some r') :
    Keyed lib r'.tx.articles := by
  unfold CheckpointProjection.projectCheckpointItem at h
  split at h
  · rw [← Option.some.inj h]
    exact keyed
  rename_i item
  split at h
  · rw [← Option.some.inj h]
    exact keyed
  rename_i id state hstate
  have url : state.publishedUrl = item.publishedUrl.orNull := by
    unfold CheckpointProjection.CheckpointItem.state at hstate
    split at hstate
    · rw [← (Prod.mk.inj (Option.some.inj hstate)).2]
    · cases hstate
  simp only [Option.bind_eq_bind, Option.bind_eq_some_iff] at h
  have ⟨payload, _, host, _, ts, _, h⟩ := h
  split_ifs at h
  · rw [← Option.some.inj h]
    exact keyed
  split at h
  · refine handleCheckpointIntent_keyed ?_ h
    exact keyed
  · rw [url] at h
    refine handleCheckpointConfirmed_keyed ?_ stable h
    exact keyed
  · refine handleCheckpointFailed_keyed ?_ h
    exact keyed
  · rw [← Option.some.inj h]
    exact keyed
  · rw [← Option.some.inj h]
    exact keyed

end Rows

/-! ## Runs -/

section Runs
variable {lib : Helpers}

theorem flush_keyed {C : Type} {project : ProjectedStore C → Option (Flushed C)}
    {store : ProjectedStore C} (keyed : Keyed lib store.articles)
    (committed : ∀ flushed, project store = some flushed → Keyed lib flushed.store.articles) :
    Keyed lib (flush project store).articles := by
  cases h : project store with
  | none =>
    rw [flush, h]
    exact keyed
  | some flushed =>
    rw [flush_of_some h]
    exact committed flushed h

theorem projectCheckpoint_keyed {file : CheckpointFile} {store : ProjectedStore ItemCursor}
    {flushed : Flushed ItemCursor} (keyed : Keyed lib store.articles)
    (stable : ∀ url ∈ (WriterCall.flushCheckpoint "" file).stored lib, Stable lib url)
    (h : projectCheckpoint lib file store = some flushed) : Keyed lib flushed.store.articles := by
  have ⟨runId, r, _, pass, finished⟩ := CheckpointProjection.projectCheckpoint_some h
  rw [finished]
  apply foldlM_invariant (I := fun r : CheckpointProjection.Reduction => Keyed lib r.tx.articles)
    pass keyed
  intro r entry r' hmem keyed hstep
  apply projectCheckpointItem_keyed keyed _ hstep
  intro url hurl
  exact stable url (List.mem_flatMap.2 ⟨entry, hmem, hurl⟩)

theorem projectHistory_keyed {file : HistoryFile} {store : ProjectedStore (List String)}
    {flushed : Flushed (List String)} (keyed : Keyed lib store.articles)
    (stable : ∀ url ∈ (WriterCall.flushHistory "" file).stored lib, Stable lib url)
    (h : projectHistory lib file store = some flushed) : Keyed lib flushed.store.articles := by
  cases file with
  | unparsable =>
    rw [← Option.some.inj h]
    exact keyed
  | other => cases h
  | rows rows =>
    have ⟨r, pass, finished⟩ := Option.map_eq_some_iff.1 h
    rw [← finished]
    apply foldlM_invariant (I := fun r : HistoryProjection.HistoryReduction =>
      Keyed lib r.tx.articles) pass keyed
    intro r entry r' hmem keyed hstep
    apply projectHistoryRow_keyed keyed _ hstep
    intro url hurl
    exact stable url (List.mem_flatMap.2 ⟨entry, hmem, hurl⟩)

theorem projectDrafts_keyed {rows : List (Option DraftRow)} {store : ProjectedStore StatusCursor}
    {flushed : Flushed StatusCursor} (keyed : Keyed lib store.articles)
    (stable : ∀ url ∈ (WriterCall.flushDrafts "" rows).stored lib, Stable lib url)
    (h : projectDrafts lib rows store = some flushed) : Keyed lib flushed.store.articles := by
  have ⟨r, pass, finished⟩ := Option.map_eq_some_iff.1 h
  rw [← finished]
  apply foldlM_invariant (I := fun r : DraftsProjection.DraftsReduction => Keyed lib r.tx.articles)
    pass keyed
  intro r entry r' hmem keyed hstep
  apply projectDraftRow_keyed keyed _ hstep
  intro url hurl
  exact stable url (List.mem_flatMap.2 ⟨entry, hmem, hurl⟩)

theorem writePublishResult_keyed {C : Type} {entry : HistoryEntry} {store store' : ProjectedStore C}
    {result : Option ℕ} (keyed : Keyed lib store.articles)
    (stable : ∀ url ∈ (WriterCall.writePublishResult entry).stored lib, Stable lib url)
    (h : writePublishResult lib entry store = (result, store')) : Keyed lib store'.articles := by
  have ⟨_, effect⟩ := writePublishResult_cases h
  rcases effect with same | ⟨_, same⟩ | ⟨kind, payload, articleId, mapped, publishes, _, recorded⟩
  · have articles : store'.articles = store.articles := congrArg Prod.snd same
    rw [articles]
    exact keyed
  · rw [same]
    exact keyed
  · apply keyed.grown _ recorded.articles
    intro url hurl
    apply stable url
    change url ∈ if _ then _ else _
    rw [mapped, if_pos (by simpa using publishes)]
    exact Option.mem_toList.2 hurl

theorem ensureArticle_keyed {C : Type} {liveUrl : String} {targetUrl host platform : Option String}
    {store : ProjectedStore C} (keyed : Keyed lib store.articles)
    (stable : ∀ url ∈ (WriterCall.ensureArticle liveUrl targetUrl host platform).stored lib,
      Stable lib url) :
    Keyed lib (ensureArticle lib liveUrl targetUrl host platform store).2.articles := by
  unfold ensureArticle
  split_ifs
  · exact keyed
  dsimp only
  split
  · rename_i articleId tx registered
    have ⟨canonical, hcanonical, registration⟩ := Option.bind_eq_some_iff.1 registered
    have stored : Stable lib canonical := stable canonical (Option.mem_toList.2 hcanonical)
    apply keyed.grown _ (registerArticle_some registration).2.2
    intro url hurl
    rw [← Option.some.inj hurl]
    exact stored
  · exact keyed

theorem step_keyed {db db' : EventsDb} {call : WriterCall} (keyed : Keyed lib db.articles)
    (canonical : StoresCanonical lib db call) (h : step lib db call = some db') :
    Keyed lib db'.articles := by
  rw [← Option.some.inj h]
  cases call with
  | writePublishResult entry => exact writePublishResult_keyed keyed canonical rfl
  | flushCheckpoint path file =>
    have here : Keyed lib (withCursor db (db.cursor.checkpoint path)).articles := keyed
    change Keyed lib (flush (projectCheckpoint lib file) (withCursor db (db.cursor.checkpoint path))).articles
    apply flush_keyed here
    intro flushed
    exact projectCheckpoint_keyed here canonical
  | flushHistory path file =>
    have here : Keyed lib (withCursor db (db.cursor.history path)).articles := keyed
    change Keyed lib (flush (projectHistory lib file) (withCursor db (db.cursor.history path))).articles
    apply flush_keyed here
    intro flushed
    exact projectHistory_keyed here canonical
  | flushDrafts path rows =>
    have here : Keyed lib (withCursor db (db.cursor.drafts path)).articles := keyed
    change Keyed lib (flush (projectDrafts lib rows) (withCursor db (db.cursor.drafts path))).articles
    apply flush_keyed here
    intro flushed
    exact projectDrafts_keyed here canonical
  | ensureArticle liveUrl targetUrl host platform => exact ensureArticle_keyed keyed canonical

theorem reaches_keyed {db : EventsDb} (run : Reaches (step lib) (StoresCanonical lib) emptyDb db) :
    Keyed lib db.articles := by
  have start : Keyed lib emptyDb.articles :=
    ⟨List.Pairwise.nil, fun _ hmem => absurd hmem List.not_mem_nil⟩
  apply run.invariant start
  intro db call db' keyed canonical hstep
  exact step_keyed keyed canonical hstep

end Runs

/-! ## Publishes -/

/-- A publish that returns an id has added one event of its kind for an article of its live
URL, and no link has two articles. -/
def PublishConsistent (lib : Helpers) (db : EventsDb) (entry : HistoryEntry) : Prop :=
  ∀ kind payload articleId db', mapHistoryEntry entry = some (kind, payload) →
    kind ≠ .publishFailed → entry.articleUrls ≠ [] →
    writePublishResult lib entry db = (some articleId, db') →
    (∃ event, db'.events = db.events ++ [event] ∧ event.kind = kind ∧
      event.articleId = some articleId) ∧
    (∃ article ∈ db'.articles, article.articleId = articleId ∧
      article.columns.liveUrl = entry.liveUrl) ∧
    OneArticlePerLink lib db'.articles

section Publishes
variable {lib : Helpers} {entry : HistoryEntry}

theorem publish_consistent_of_keyed {db : EventsDb} (keyed : Keyed lib db.articles)
    (canonical : StoresCanonical lib db (.writePublishResult entry)) :
    PublishConsistent lib db entry := by
  intro kind payload articleId db' mapped publishes _ h
  have recorded := writePublishResult_recorded mapped publishes h
  have after : Keyed lib db'.articles := writePublishResult_keyed keyed canonical h
  exact ⟨recorded.event, recorded.article, after.oneArticlePerLink⟩

/-- After the keep-alive chain has registered the same URL, a publish that stores it raw gives
the link a second article. -/
theorem raw_url_splits {kind : EventKind} {payload : Payload} {url canonical : String}
    (mapped : mapHistoryEntry entry = some (kind, payload)) (publishes : kind ≠ .publishFailed)
    (own : entry.liveUrl = some url) (target : entry.eventTarget.bindable = true)
    (filled : url ≠ "") (form : lib.canonicalizeUrl url = some canonical)
    (raw : canonical ≠ url) (fixed : lib.canonicalizeUrl canonical = some canonical) :
    ¬ PublishConsistent lib ((WriterCall.ensureArticle url none none none).run lib emptyDb)
      entry := by
  intro consistent
  let db := (WriterCall.ensureArticle url none none none).run lib emptyDb
  have urls : db.articles.map (·.columns.liveUrl) = [some canonical] := by
    simp [db, WriterCall.run, ensureArticle, filled, form, registerArticle, Tx.addArticle,
      ProjectedStore.begin, emptyDb, commit, articlePayload, Value.bindable]
  obtain ⟨articleId, db', h⟩ := writePublishResult_isSome lib db mapped publishes target
  have listed : entry.articleUrls ≠ [] := by
    intro empty
    rw [HistoryEntry.liveUrl, empty] at own
    cases own
  obtain ⟨_, _, single⟩ := consistent kind payload articleId db' mapped publishes listed h
  have recorded := writePublishResult_recorded mapped publishes h
  rcases recorded.articles with same | ⟨grown, _⟩
  · obtain ⟨article, hmem, _, hlive⟩ := recorded.article
    have same : db'.articles = db.articles := same
    have known : some url ∈ db.articles.map (·.columns.liveUrl) := by
      rw [← own, ← hlive, ← same]
      exact List.mem_map_of_mem hmem
    rw [urls, List.mem_singleton] at known
    exact raw (Option.some.inj known).symm
  · have grown : db'.articles = db.articles ++ [⟨articleId, entry.article⟩] := grown
    obtain ⟨article, hmem, hlive⟩ := List.mem_map.1 (urls.symm ▸ List.mem_cons_self :
      some canonical ∈ db.articles.map (·.columns.liveUrl))
    rw [grown, OneArticlePerLink, List.pairwise_append] at single
    exact single.2.2 article hmem _ List.mem_cons_self canonical url canonical hlive own fixed form

end Publishes

/-- In every run whose calls store canonical URLs only, no link has two articles and every
publish of a canonical URL is consistent; any other publish gives its link a second article
where the keep-alive chain was first. -/
theorem publishes_consistent (lib : Helpers) :
    (∀ db, Reaches (step lib) (StoresCanonical lib) emptyDb db →
      OneArticlePerLink lib db.articles ∧
        ∀ entry, StoresCanonical lib db (.writePublishResult entry) →
          PublishConsistent lib db entry) ∧
    ∀ entry kind payload url canonical, mapHistoryEntry entry = some (kind, payload) →
      kind ≠ .publishFailed → entry.liveUrl = some url → entry.eventTarget.bindable = true →
      url ≠ "" → lib.canonicalizeUrl url = some canonical → canonical ≠ url →
      lib.canonicalizeUrl canonical = some canonical →
      ¬ PublishConsistent lib ((WriterCall.ensureArticle url none none none).run lib emptyDb)
        entry := by
  constructor
  · intro db run
    have keyed := reaches_keyed run
    exact ⟨keyed.oneArticlePerLink, fun entry => publish_consistent_of_keyed keyed⟩
  · intro entry kind payload url canonical mapped publishes own target filled form raw fixed
    exact raw_url_splits mapped publishes own target filled form raw fixed

/-! ## A link under two spellings -/

/-- URLs whose canonical form only lacks a trailing slash. -/
def slashHelpers : Helpers :=
  { plainHelpers with
    canonicalizeUrl := fun url =>
      some (if url.toList.getLast? = some '/' then String.ofList url.toList.dropLast else url) }

def publishedAt (url : String) : HistoryEntry where
  status := "published"
  articleUrls := [url]
  targetUrl := some (.text "https://site.example/a")
  platform := some "velog"

theorem stable_of_fixed {lib : Helpers} {url : String} (fixed : lib.canonicalizeUrl url = some url) :
    Stable lib url := by
  intro canonical hcanonical
  rw [fixed] at hcanonical
  exact (Option.some.inj hcanonical).symm

theorem publishes_consistent_canonical :
    OneArticlePerLink slashHelpers
      ((WriterCall.writePublishResult (publishedAt "https://blog.example/p")).run slashHelpers
        emptyDb).articles := by
  have canonical : StoresCanonical slashHelpers emptyDb
      (.writePublishResult (publishedAt "https://blog.example/p")) := by
    intro url hurl
    have stored : url ∈ ["https://blog.example/p"] := hurl
    rw [List.mem_singleton.1 stored]
    exact stable_of_fixed (by decide)
  exact ((publishes_consistent slashHelpers).1 _
    (Relation.ReflTransGen.single ⟨_, canonical, rfl⟩)).1

/-- The two writers of one URL text leave two articles. -/
theorem link_with_two_articles :
    ¬ ∀ db, Reaches (step slashHelpers) (fun _ _ => True) emptyDb db →
      ∀ entry, PublishConsistent slashHelpers db entry := by
  intro consistent
  have run : Reaches (step slashHelpers) (fun _ _ => True) emptyDb _ :=
    Relation.ReflTransGen.single
      ⟨WriterCall.ensureArticle "https://blog.example/p/" none none none, trivial, rfl⟩
  have form : slashHelpers.canonicalizeUrl "https://blog.example/p/" =
      some "https://blog.example/p" := by decide
  have fixed : slashHelpers.canonicalizeUrl "https://blog.example/p" =
      some "https://blog.example/p" := by decide
  have splits : ¬ PublishConsistent slashHelpers
      ((WriterCall.ensureArticle "https://blog.example/p/" none none none).run slashHelpers emptyDb)
      (publishedAt "https://blog.example/p/") :=
    raw_url_splits rfl (by decide) rfl rfl (by decide) form (by decide) fixed
  exact splits (consistent _ run _)

end BacklinkPublisher.ArticleWriters
