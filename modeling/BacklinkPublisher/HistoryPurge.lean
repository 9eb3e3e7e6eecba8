import BacklinkPublisher.OwnEvents

set_option autoImplicit false

/-!
# The purge of failures

`purge_failed_from_db` of `events/_history_mutations.py`, and what `list_history` shows after it.
-/
namespace BacklinkPublisher.HistoryPurge
open EventPayloads EventStore HistoryItems OwnEvents SortedLists

variable {τ : Type}

/-- The event of greatest id among those of an article. -/
def latestEvent (events : List (EventRow τ)) (articleId : ℕ) : Option (EventRow τ) :=
  (events.filter fun event => event.articleId = some articleId).argmax EventRow.id

def failedArticle (events : List (EventRow τ)) (article : ArticleRow τ) : Bool :=
  (latestEvent events article.articleId).any fun event => event.kind = kindFailed

/-- Whether an event has one of some articles. -/
def ofArticles (articleIds : List ℕ) (event : EventRow τ) : Bool :=
  event.articleId.any articleIds.contains

def failedArticleIds (store : HistoryStore τ) : List ℕ :=
  (store.articles.filter (failedArticle store.events)).map ArticleRow.articleId

/-- The articles that have failed, with their events. -/
def deleteArticles (articleIds : List ℕ) (store : HistoryStore τ) : HistoryStore τ where
  articles := store.articles.filter fun article => !articleIds.contains article.articleId
  events := store.events.filter fun event => !ofArticles articleIds event
  articleIds := store.articleIds.sublist (List.filter_sublist.map _)
  eventIds := store.eventIds.sublist (List.filter_sublist.map _)

def deleteFailedOrphans (store : HistoryStore τ) : HistoryStore τ where
  articles := store.articles
  events := store.events.filter fun event =>
    !(decide (event.kind = kindFailed) && store.isOrphan event)
  articleIds := store.articleIds
  eventIds := store.eventIds.sublist (List.filter_sublist.map _)

/-- The number of articles and orphans that are removed, and the store without them. -/
def purgeFailedFromDb (store : HistoryStore τ) : ℕ × HistoryStore τ :=
  let cleared := deleteArticles (failedArticleIds store) store
  let purged := deleteFailedOrphans cleared
  ((store.articles.length - cleared.articles.length) +
    (cleared.events.length - purged.events.length), purged)

/-- A row that the purge removes. -/
def purges (store : HistoryStore τ) : Entry τ → Bool
  | .article row _ => failedArticle store.events row
  | .orphan event => event.kind = kindFailed

/-- A row whose item says `failed`: its publish event is a failure, or carries that status for the
interface. -/
def shownFailed (loads : String → JsonOutcome) (entry : Entry τ) : Bool :=
  entry.event.any fun event =>
    decide (event.kind = kindFailed) ||
      (decide (event.kind = kindUnverified) &&
        decide (payloadField ((entry.payload loads).getD []) "ui_status" = .text "failed"))

/-! ## The tables after the purge -/

section Tables
variable {store : HistoryStore τ}

theorem mem_failedArticleIds {article : ArticleRow τ} (h : article ∈ store.articles) :
    article.articleId ∈ failedArticleIds store ↔ failedArticle store.events article = true := by
  unfold failedArticleIds
  rw [List.mem_map]
  constructor
  · rintro ⟨other, hother, same⟩
    have ⟨member, failed⟩ := List.mem_filter.1 hother
    rw [← List.inj_on_of_nodup_map store.articleIds member h same]
    exact failed
  · intro failed
    exact ⟨article, List.mem_filter.2 ⟨h, failed⟩, rfl⟩

theorem purged_articles :
    (purgeFailedFromDb store).2.articles =
      store.articles.filter fun article => !failedArticle store.events article := by
  apply List.filter_congr
  intro article h
  rw [Bool.not_inj_iff, Bool.eq_iff_iff, List.contains_iff_mem]
  exact mem_failedArticleIds h

theorem articleKnown_iff {articleId : ℕ} :
    store.articleKnown articleId = true ↔
      ∃ article ∈ store.articles, article.articleId = articleId := by
  unfold HistoryStore.articleKnown
  rw [List.contains_iff_mem, List.mem_map]

theorem failedArticleIds_known {articleId : ℕ} (h : articleId ∈ failedArticleIds store) :
    store.articleKnown articleId = true := by
  have ⟨article, harticle, same⟩ := List.mem_map.1 h
  exact articleKnown_iff.2 ⟨article, (List.mem_filter.1 harticle).1, same⟩

theorem cleared_known {articleIds : List ℕ} {articleId : ℕ} :
    (deleteArticles articleIds store).articleKnown articleId =
      (store.articleKnown articleId && !articleIds.contains articleId) := by
  rw [Bool.eq_iff_iff, Bool.and_eq_true, articleKnown_iff, articleKnown_iff]
  constructor
  · rintro ⟨article, member, rfl⟩
    have ⟨known, left_⟩ := List.mem_filter.1 member
    exact ⟨⟨article, known, rfl⟩, left_⟩
  · rintro ⟨⟨article, known, rfl⟩, left_⟩
    exact ⟨article, List.mem_filter.2 ⟨known, left_⟩, rfl⟩

/-- An event that is left with its article, or without one, is an orphan if it was. -/
theorem cleared_orphan {event : EventRow τ}
    (left_ : ofArticles (failedArticleIds store) event = false) :
    (deleteArticles (failedArticleIds store) store).isOrphan event = store.isOrphan event := by
  unfold HistoryStore.isOrphan
  cases own : event.articleId with
  | none => rfl
  | some articleId =>
    unfold ofArticles at left_
    rw [own, Option.any_some] at left_
    rw [Option.all_some, Option.all_some, cleared_known, left_, Bool.not_false, Bool.and_true]

theorem isOrphan_cleared {event : EventRow τ}
    (cleared : ofArticles (failedArticleIds store) event = true) :
    store.isOrphan event = false := by
  unfold ofArticles at cleared
  have ⟨articleId, own, failed⟩ := (Option.any_eq_true _ _).1 cleared
  unfold HistoryStore.isOrphan
  rw [own, Option.all_some, failedArticleIds_known (List.contains_iff_mem.1 failed)]
  rfl

/-- The events that the purge leaves. -/
def keeps (store : HistoryStore τ) (event : EventRow τ) : Bool :=
  !(decide (event.kind = kindFailed) && store.isOrphan event) &&
    !ofArticles (failedArticleIds store) event

theorem purged_events :
    (purgeFailedFromDb store).2.events = store.events.filter (keeps store) := by
  change List.filter _ (List.filter _ store.events) = _
  rw [List.filter_filter]
  apply List.filter_congr
  intro event _
  unfold keeps
  cases left_ : ofArticles (failedArticleIds store) event with
  | true => rw [Bool.not_true, Bool.and_false, Bool.and_false]
  | false => rw [cleared_orphan left_]

/-- An article that is left keeps all of its events. -/
theorem keeps_of_article {event : EventRow τ} {articleId : ℕ}
    (own : event.articleId = some articleId) (known : store.articleKnown articleId = true)
    (left_ : articleId ∉ failedArticleIds store) : keeps store event = true := by
  have notContained : (failedArticleIds store).contains articleId = false := by
    rw [Bool.eq_false_iff, ne_eq, List.contains_iff_mem]
    exact left_
  unfold keeps HistoryStore.isOrphan ofArticles
  rw [own, Option.all_some, Option.any_some, known, notContained, Bool.not_true, Bool.and_false]
  rfl

theorem latestPublish_kept {articleId : ℕ} (known : store.articleKnown articleId = true)
    (left_ : articleId ∉ failedArticleIds store) :
    latestPublish (purgeFailedFromDb store).2.events articleId =
      latestPublish store.events articleId := by
  unfold latestPublish
  rw [purged_events, List.filter_filter]
  congr 1
  apply List.filter_congr
  intro event _
  by_cases own : event.articleId = some articleId
  · rw [keeps_of_article own known left_, Bool.and_true]
  · simp [own]

theorem keeps_recheck {event : EventRow τ} (kind : event.kind = kindRechecked) :
    keeps store event = !ofArticles (failedArticleIds store) event := by
  have other : decide (event.kind = kindFailed) = false := by
    rw [kind]
    rfl
  unfold keeps
  rw [other, Bool.false_and, Bool.not_false, Bool.true_and]

/-- Rechecks leave with their article. -/
theorem latestRechecks_kept :
    latestRechecks (purgeFailedFromDb store).2.events =
      (latestRechecks store.events).filter fun event =>
        !ofArticles (failedArticleIds store) event := by
  unfold latestRechecks
  rw [purged_events, List.filter_filter, List.filter_filter]
  apply List.filter_congr
  intro event _
  rw [Bool.eq_iff_iff, Bool.and_eq_true, Bool.and_eq_true, decide_eq_true_eq, decide_eq_true_eq]
  constructor
  · rintro ⟨⟨kind, own, greatest⟩, kept⟩
    rw [keeps_recheck kind] at kept
    refine ⟨kept, kind, own, fun other hother hkind same => ?_⟩
    apply greatest other (List.mem_filter.2 ⟨hother, ?_⟩) hkind same
    rw [keeps_recheck hkind]
    unfold ofArticles at kept ⊢
    rw [same]
    exact kept
  · rintro ⟨kept, kind, own, greatest⟩
    refine ⟨⟨kind, own, fun other hother => ?_⟩, (keeps_recheck kind).trans kept⟩
    exact greatest other (List.mem_filter.1 hother).1

theorem ownEvents_kept {articleId : ℕ} (known : store.articleKnown articleId = true)
    (left_ : articleId ∉ failedArticleIds store) :
    ownEvents (purgeFailedFromDb store).2.events articleId = ownEvents store.events articleId := by
  unfold ownEvents
  rw [purged_events, List.filter_filter]
  apply List.filter_congr
  intro event _
  by_cases own : event.articleId = some articleId
  · rw [keeps_of_article own known left_, Bool.and_true]
  · rw [decide_eq_false own, Bool.false_and]

/-- Verdicts that can be read can be read after the purge. -/
theorem latestVerdicts_kept {loads : String → JsonOutcome} {verdicts : List HistoryItems.Verdict}
    (known : latestVerdicts loads store.events = some verdicts) :
    ∃ verdicts', latestVerdicts loads (purgeFailedFromDb store).2.events = some verdicts' := by
  have ⟨read, reads, _, _⟩ := latestVerdicts_read known
  refine ⟨(latestRechecks (purgeFailedFromDb store).2.events).map read, ?_⟩
  apply OptionFolds.mapM_of_forall
  intro event hevent
  rw [latestRechecks_kept] at hevent
  exact reads event (List.mem_filter.1 hevent).1

end Tables

/-! ## The rows and items after the purge -/

section Items
variable [LinearOrder τ] {loads : String → JsonOutcome} {store : HistoryStore τ} {view : View τ}

theorem entries_purged :
    entries (purgeFailedFromDb store).2 view =
      (entries store view).filter fun entry => !purges store entry := by
  have articles : (articlesShown (purgeFailedFromDb store).2 view).map
        (entryOf (purgeFailedFromDb store).2) =
      ((articlesShown store view).map (entryOf store)).filter fun entry =>
        !purges store entry := by
    have shown_ : articlesShown (purgeFailedFromDb store).2 view =
        (articlesShown store view).filter fun article => !failedArticle store.events article := by
      unfold articlesShown
      rw [purged_articles, List.filter_filter, List.filter_filter]
      simp only [Bool.and_comm]
    rw [shown_, List.filter_map]
    apply List.map_congr_left
    intro article harticle
    have ⟨here, left_⟩ := List.mem_filter.1 harticle
    have member : article ∈ store.articles := (List.mem_filter.1 here).1
    unfold entryOf
    rw [latestPublish_kept (articleKnown_iff.2 ⟨article, member, rfl⟩)]
    rw [mem_failedArticleIds member, Bool.not_eq_true]
    exact Bool.not_eq_true' _ ▸ left_
  have orphans : (orphansShown (purgeFailedFromDb store).2 view).map Entry.orphan =
      ((orphansShown store view).map Entry.orphan).filter fun entry => !purges store entry := by
    rw [List.filter_map]
    congr 1
    unfold orphansShown
    rw [purged_events, List.filter_filter, List.filter_filter]
    apply List.filter_congr
    intro event _
    change ((deleteArticles (failedArticleIds store) store).isOrphan event && _ && _ && _) = _
    unfold keeps
    cases cleared : ofArticles (failedArticleIds store) event with
    | true => rw [isOrphan_cleared cleared]; simp
    | false =>
      rw [cleared_orphan cleared]
      simp only [purges, Function.comp_apply]
      cases store.isOrphan event <;> simp [Bool.and_comm]
  unfold entries
  rw [articles, orphans, List.filter_append]

omit [LinearOrder τ] in
theorem eventFields_failed_iff {event : EventRow τ} {payload : Payload} {item : HistoryItem τ} :
    (eventFields event payload item).status = .text "failed" ↔
      event.kind = kindFailed ∨
        event.kind = kindUnverified ∧ payloadField payload "ui_status" = .text "failed" := by
  have labelled : ((shown (payloadField payload "ui_status")).getD (.text "published_unverified")) =
      .text "failed" ↔ payloadField payload "ui_status" = .text "failed" := by
    unfold shown
    split_ifs with truthy
    · rfl
    · constructor
      · intro same
        exact absurd same (by decide)
      · intro same
        rw [same] at truthy
        exact absurd rfl truthy
  unfold eventFields
  by_cases failed : event.kind = kindFailed
  · rw [if_pos failed]
    exact iff_of_true rfl (Or.inl failed)
  · rw [if_neg failed, or_iff_right failed]
    by_cases unverified : event.kind = kindUnverified
    · rw [if_pos unverified, and_iff_right unverified]
      exact labelled
    · rw [if_neg unverified]
      apply iff_of_false _ fun h => unverified h.1
      by_cases confirmed : event.kind = kindConfirmed
      · rw [if_pos confirmed]
        change ¬ Value.text "published" = .text "failed"
        decide
      · rw [if_neg confirmed]
        change ¬ Value.text "unknown" = .text "failed"
        decide

omit [LinearOrder τ] in
theorem item_failed_iff {verdicts : List HistoryItems.Verdict} {entry : Entry τ} :
    (itemOf loads verdicts view entry).status = .text "failed" ↔
      shownFailed loads entry = true := by
  have blank : (entry.blank verdicts).status = .text "unknown" := by cases entry <;> rfl
  unfold itemOf Entry.item shownFailed
  cases entry.event with
  | none =>
    rw [Option.any_none]
    apply iff_of_false _ Bool.false_ne_true
    change ¬ (entry.blank verdicts).status = _
    rw [blank]
    decide
  | some event =>
    rw [Option.any_some, Bool.or_eq_true, Bool.and_eq_true, decide_eq_true_iff, decide_eq_true_iff,
      decide_eq_true_iff]
    exact eventFields_failed_iff

/-- The item of a row that is left stays. -/
theorem itemOf_kept {verdicts verdicts' : List HistoryItems.Verdict}
    (known : latestVerdicts loads store.events = some verdicts)
    (known' : latestVerdicts loads (purgeFailedFromDb store).2.events = some verdicts')
    {entry : Entry τ} (h : entry ∈ entries store view) (stays : purges store entry = false) :
    itemOf loads verdicts' view entry = itemOf loads verdicts view entry := by
  rcases List.mem_append.1 h with h | h
  · have ⟨row, shown_, made⟩ := List.mem_map.1 h
    have member : row ∈ store.articles := (List.mem_filter.1 shown_).1
    have there : store.articleKnown row.articleId = true := articleKnown_iff.2 ⟨row, member, rfl⟩
    have left_ : row.articleId ∉ failedArticleIds store := by
      rw [mem_failedArticleIds member, Bool.not_eq_true]
      rw [← made] at stays
      exact stays
    have same : entryOf (purgeFailedFromDb store).2 row = entryOf store row := by
      unfold entryOf
      rw [latestPublish_kept there left_]
    have item : itemOf loads verdicts view (entryOf store row) =
        itemOf loads verdicts' view (entryOf (purgeFailedFromDb store).2 row) :=
      itemOf_same known known' (SameEvents.of_eq (ownEvents_kept there left_).symm)
    rw [same, made] at item
    exact item.symm
  · have ⟨event, _, made⟩ := List.mem_map.1 h
    rw [← made]
    rfl

/-- The list after the purge, where there is one before. -/
theorem listHistory_purged {limit : ℕ}
    (large : store.articles.length + store.events.length ≤ limit)
    {verdicts : List HistoryItems.Verdict}
    (known : latestVerdicts loads store.events = some verdicts)
    (legible : Legible loads (entries store view)) :
    listHistory loads (purgeFailedFromDb store).2 limit view =
      some (sortedBy itemKey (((entries store view).filter fun entry => !purges store entry).map
        (itemOf loads verdicts view))) := by
  have ⟨verdicts', known'⟩ := latestVerdicts_kept known
  have fewer : (purgeFailedFromDb store).2.articles.length +
      (purgeFailedFromDb store).2.events.length ≤ limit := by
    have articles := List.length_filter_le
      (fun article => !failedArticle store.events article) store.articles
    have events := List.length_filter_le (keeps store) store.events
    rw [← purged_articles] at articles
    rw [← purged_events] at events
    omega
  apply (listHistory_whole fewer).2
  rw [entries_purged]
  refine ⟨verdicts', known', fun entry h => legible entry (List.mem_filter.1 h).1, ?_⟩
  congr 1
  apply List.map_congr_left
  intro entry h
  have ⟨member, stays⟩ := List.mem_filter.1 h
  rw [Bool.not_eq_true'] at stays
  exact (itemOf_kept known known' member stays).symm

/-- The list of a view after the purge is the list before it without the items that a test picks,
where there is one, if and only if the purge removes the rows of those items. -/
theorem purged_list_iff (loads : String → JsonOutcome) (view : View τ) {limit : ℕ}
    (large : store.articles.length + store.events.length ≤ limit) (gone : HistoryItem τ → Bool)
    (picks : Entry τ → Bool)
    (picked : ∀ verdicts entry, gone (itemOf loads verdicts view entry) = picks entry) :
    (∀ items, listHistory loads store limit view = some items →
      listHistory loads (purgeFailedFromDb store).2 limit view =
        some (items.filter fun item => !gone item)) ↔
      ((latestVerdicts loads store.events).isSome → Legible loads (entries store view) →
        ∀ entry ∈ entries store view, purges store entry = picks entry) := by
  have selected : ∀ verdicts,
      (sortedBy itemKey ((entries store view).map (itemOf loads verdicts view))).filter
          (fun item => !gone item) =
        sortedBy itemKey (((entries store view).filter fun entry => !picks entry).map
          (itemOf loads verdicts view)) := by
    intro verdicts
    rw [← sortedBy_filter (distinct_items (entries_nodup store view)), List.filter_map]
    have same : (fun item => !gone item) ∘ itemOf loads verdicts view =
        fun entry => !picks entry := by
      funext entry
      exact congrArg Bool.not (picked verdicts entry)
    rw [same]
  have agree : ∀ verdicts,
      sortedBy itemKey (((entries store view).filter fun entry => !purges store entry).map
          (itemOf loads verdicts view)) =
        sortedBy itemKey (((entries store view).filter fun entry => !picks entry).map
          (itemOf loads verdicts view)) ↔
      ∀ entry ∈ entries store view, purges store entry = picks entry := by
    intro verdicts
    have distinct : DistinctKeys (fun entry => itemKey (itemOf loads verdicts view entry))
        (entries store view) := by
      have distinct : DistinctKeys itemKey
          ((entries store view).map (itemOf loads verdicts view)) :=
        distinct_items (entries_nodup store view)
      unfold DistinctKeys at distinct
      rw [List.map_map] at distinct
      exact distinct
    rw [sorted_selections_iff distinct]
    simp only [Bool.not_inj_iff]
  constructor
  · intro exact_ readable legible
    have ⟨verdicts, known⟩ := Option.isSome_iff_exists.1 readable
    have after := exact_ _ ((listHistory_whole large).2 ⟨verdicts, known, legible, rfl⟩)
    rw [listHistory_purged large known legible, selected] at after
    exact (agree verdicts).1 (Option.some.inj after)
  · intro same items listed
    have ⟨verdicts, known, legible, made⟩ := (listHistory_whole large).1 listed
    rw [made, listHistory_purged large known legible, selected, (agree verdicts).2]
    exact same (by rw [known]; rfl) legible

/-- The purge takes the items that say `failed` from the list, and nothing from the rows that can be
brought back. -/
structure PurgeExact (loads : String → JsonOutcome) (store : HistoryStore τ) (limit : ℕ)
    (articleCutoff orphanCutoff : τ) : Prop where
  removed : ∀ items, listHistory loads store limit .live = some items →
    listHistory loads (purgeFailedFromDb store).2 limit .live =
      some (items.filter fun item => item.status ≠ .text "failed")
  undoable : ∀ items,
    listHistory loads store limit (.window articleCutoff orphanCutoff) = some items →
      listHistory loads (purgeFailedFromDb store).2 limit (.window articleCutoff orphanCutoff) =
        some items

/-- The purge is exact if and only if, where the lists can be made, each live row goes by its last
event as it shows by its last publish event, and no row that can be brought back has failed. -/
theorem purge_exact_iff (loads : String → JsonOutcome) (store : HistoryStore τ) {limit : ℕ}
    (large : store.articles.length + store.events.length ≤ limit) (articleCutoff orphanCutoff : τ) :
    PurgeExact loads store limit articleCutoff orphanCutoff ↔
      ((latestVerdicts loads store.events).isSome →
        (Legible loads (entries store .live) →
          ∀ entry ∈ entries store .live, purges store entry = shownFailed loads entry) ∧
        (Legible loads (entries store (.window articleCutoff orphanCutoff)) →
          ∀ entry ∈ entries store (.window articleCutoff orphanCutoff),
            purges store entry = false)) := by
  have failed : ∀ verdicts (entry : Entry τ),
      decide ((itemOf loads verdicts .live entry).status = .text "failed") =
        shownFailed loads entry := by
    intro verdicts entry
    rw [Bool.eq_iff_iff, decide_eq_true_iff]
    exact item_failed_iff
  have removed := purged_list_iff loads .live large
    (fun item => decide (item.status = .text "failed")) (shownFailed loads) failed
  have undoable := purged_list_iff loads (.window articleCutoff orphanCutoff) large
    (fun _ => false) (fun _ => false) fun _ _ => rfl
  simp only [Bool.not_false, List.filter_true] at undoable
  simp only [← decide_not] at removed
  constructor
  · intro exact_ readable
    exact ⟨removed.1 exact_.removed readable, undoable.1 exact_.undoable readable⟩
  · intro agree
    exact ⟨removed.2 fun readable => (agree readable).1,
      undoable.2 fun readable => (agree readable).2⟩

end Items

/-! ## An article that was rechecked after it failed -/

def failedEvent : EventRow ℕ where
  id := 1
  tsUtc := "2026-01-02"
  kind := kindFailed
  articleId := some 1
  payloadJson := ""

def recheckedEvent : EventRow ℕ where
  id := 2
  tsUtc := "2026-01-03"
  kind := kindRechecked
  articleId := some 1
  payloadJson := ""

def failedStore : HistoryStore ℕ where
  articles := [{ articleId := 1 }]
  events := [failedEvent]
  articleIds := by decide
  eventIds := by decide

def recheckedStore : HistoryStore ℕ where
  articles := [{ articleId := 1 }]
  events := [failedEvent, recheckedEvent]
  articleIds := by decide
  eventIds := by decide

theorem purge_exact_failed : PurgeExact (fun _ => .other) failedStore 2 0 0 := by
  apply (purge_exact_iff (fun _ => .other) failedStore (by decide) 0 0).2
  intro _
  exact ⟨fun _ => by decide +kernel, fun _ => by decide +kernel⟩

/-- The list shows it as failed, and the purge keeps it. -/
theorem purge_keeps_failed :
    ¬ ∀ (loads : String → JsonOutcome) (store : HistoryStore ℕ) (limit : ℕ)
      (articleCutoff orphanCutoff : ℕ),
      store.articles.length + store.events.length ≤ limit →
        PurgeExact loads store limit articleCutoff orphanCutoff := by
  intro exact_
  have before : (listHistory (fun _ => .other) recheckedStore 3 .live).map
      (List.map HistoryItem.status) = some [.text "failed"] := by decide +kernel
  have after : (listHistory (fun _ => .other) (purgeFailedFromDb recheckedStore).2 3 .live).map
      List.length = some 1 := by decide +kernel
  have ⟨items, listed, statuses⟩ := Option.map_eq_some_iff.1 before
  rw [(exact_ _ recheckedStore 3 0 0 (by decide)).removed items listed, Option.map_some] at after
  have ⟨item, one, status⟩ := List.map_eq_singleton_iff.1 statuses
  rw [one, List.filter_singleton, status] at after
  cases after

end BacklinkPublisher.HistoryPurge
