import BacklinkPublisher.HistoryPurge

set_option autoImplicit false

/-!
# Deletions that can be undone

`delete_from_db`, `bulk_delete_from_db` and `undelete_from_db` of `events/_history_mutations.py`,
with the purge of expired rows that each of them makes. Times are instants in microseconds: the
texts of the column sort as the instants they stand for.
-/
namespace BacklinkPublisher.SoftDeletes
open HistoryItems HistoryPurge OwnEvents

def second : ℤ := 1000000
def clientUndoWindowSeconds : ℤ := 15
def purgeWindowSeconds : ℤ := clientUndoWindowSeconds * 2

def cutoff (now : ℤ) : ℤ := now - purgeWindowSeconds * second

/-! ## Ids -/

inductive ItemId where
  | article (articleId : ℕ)
  | orphan (eventId : ℕ)
  deriving DecidableEq, Repr

/-- `int` of a plain decimal. It takes a sign, blanks and underscores too, and no listed id has
them. -/
def parseInt (text : List Char) : Option ℕ :=
  if text.all Char.isDigit && !text.isEmpty then some (Nat.ofDigitChars 10 text 0) else none

def parseId (id : String) : Option ItemId :=
  if "evt-".toList.isPrefixOf id.toList then (parseInt (id.toList.drop 4)).map .orphan
  else (parseInt id.toList).map .article

theorem parseInt_digits (n : ℕ) : parseInt (Nat.toDigits 10 n) = some n := by
  have digits : (Nat.toDigits 10 n).all Char.isDigit = true := by
    rw [List.all_eq_true]
    exact fun c hc => Nat.isDigit_of_mem_toDigits (by decide) (by decide) hc
  have some_ : (Nat.toDigits 10 n).isEmpty = false := by
    rw [List.isEmpty_eq_false_iff]
    exact Nat.toDigits_ne_nil
  unfold parseInt
  rw [digits, some_, Nat.ofDigitChars_ten_toDigits]
  rfl

def ItemId.text : ItemId → String
  | .article articleId => toString articleId
  | .orphan eventId => orphanId eventId

theorem parseId_article (n : ℕ) : parseId (toString n) = some (.article n) := by
  have plain : ("evt-".toList.isPrefixOf (toString n).toList) = false := by
    rw [Bool.eq_false_iff]
    intro starts
    have ⟨rest, split_⟩ := List.isPrefixOf_iff_prefix.1 starts
    have first : 'e' ∈ Nat.toDigits 10 n := by
      rw [← Nat.toList_repr]
      exact split_ ▸ List.mem_cons_self
    exact absurd (Nat.isDigit_of_mem_toDigits (by decide) (by decide) first) (by decide)
  unfold parseId
  rw [plain, if_neg Bool.false_ne_true]
  change (parseInt n.repr.toList).map _ = _
  rw [Nat.toList_repr, parseInt_digits]
  rfl

theorem parseId_orphan (n : ℕ) : parseId (orphanId n) = some (.orphan n) := by
  have text : (orphanId n).toList = "evt-".toList ++ Nat.toDigits 10 n := by
    unfold orphanId
    rw [String.toList_append, ← Nat.toList_repr]
    rfl
  have starts : "evt-".toList.isPrefixOf ("evt-".toList ++ Nat.toDigits 10 n) = true :=
    List.isPrefixOf_iff_prefix.2 ⟨_, rfl⟩
  have rest : ("evt-".toList ++ Nat.toDigits 10 n).drop 4 = Nat.toDigits 10 n := rfl
  unfold parseId
  rw [text, if_pos starts, rest, parseInt_digits]
  rfl

/-- The ids of items are read back. -/
theorem parseId_text (item : ItemId) : parseId item.text = some item := by
  cases item with
  | article articleId => exact parseId_article articleId
  | orphan eventId => exact parseId_orphan eventId

/-! ## The purge of expired rows -/

def expired (cutoff : ℤ) (deletedAt : Option ℤ) : Bool := deletedAt.any fun time => time < cutoff

def expiredIds (cutoff : ℤ) (store : HistoryStore ℤ) : List ℕ :=
  (store.articles.filter fun row => expired cutoff row.deletedAt).map ArticleRow.articleId

def deleteExpiredOrphans (cutoff : ℤ) (store : HistoryStore ℤ) : HistoryStore ℤ where
  articles := store.articles
  events := store.events.filter fun event =>
    !(expired cutoff event.deletedAt && event.articleId.isNone)
  articleIds := store.articleIds
  eventIds := store.eventIds.sublist (List.filter_sublist.map _)

/-- The number of articles and orphans that are removed, and the store without them. -/
def purgeExpiredRows (now : ℤ) (store : HistoryStore ℤ) : ℕ × HistoryStore ℤ :=
  let cleared := deleteArticles (expiredIds (cutoff now) store) store
  let purged := deleteExpiredOrphans (cutoff now) cleared
  ((store.articles.length - cleared.articles.length) +
    (cleared.events.length - purged.events.length), purged)

/-! ## Marks -/

def markEvent (hit : EventRow ℤ → Bool) (deletedAt : Option ℤ) (event : EventRow ℤ) : EventRow ℤ :=
  if hit event then { event with deletedAt := deletedAt } else event

def markArticle (hit : ArticleRow ℤ → Bool) (deletedAt : Option ℤ) (row : ArticleRow ℤ) :
    ArticleRow ℤ :=
  if hit row then { row with deletedAt := deletedAt } else row

theorem unmarked_markEvent (hit : EventRow ℤ → Bool) (deletedAt : Option ℤ)
    (event : EventRow ℤ) : unmarked (markEvent hit deletedAt event) = unmarked event := by
  unfold markEvent
  split_ifs <;> rfl

/-- A mark that is cleared where there is one. -/
theorem markEvent_clear {hit : EventRow ℤ → Bool} {event : EventRow ℤ}
    (marked : event.deletedAt.isSome = true → hit event = true) :
    markEvent hit none event = unmarked event := by
  unfold markEvent unmarked
  split_ifs with h
  · rfl
  · have none_ : event.deletedAt = none := by
      rw [← Option.not_isSome_iff_eq_none]
      exact fun some_ => h (marked some_)
    rw [← none_]

theorem articleId_of_unmarked {event source : EventRow ℤ}
    (same : unmarked event = unmarked source) : event.articleId = source.articleId := by
  have fields := congrArg EventRow.articleId same
  exact fields

theorem id_of_unmarked {event source : EventRow ℤ} (same : unmarked event = unmarked source) :
    event.id = source.id := by
  have fields := congrArg EventRow.id same
  exact fields

theorem kind_of_unmarked {event source : EventRow ℤ} (same : unmarked event = unmarked source) :
    event.kind = source.kind := by
  have fields := congrArg EventRow.kind same
  exact fields

theorem markArticle_articleId (hit : ArticleRow ℤ → Bool) (deletedAt : Option ℤ)
    (row : ArticleRow ℤ) : (markArticle hit deletedAt row).articleId = row.articleId := by
  unfold markArticle
  split_ifs <;> rfl

/-- `UPDATE events SET deleted_at = ...` of the rows that are hit. -/
def markEvents (hit : EventRow ℤ → Bool) (deletedAt : Option ℤ) (store : HistoryStore ℤ) :
    HistoryStore ℤ where
  articles := store.articles
  events := store.events.map (markEvent hit deletedAt)
  articleIds := store.articleIds
  eventIds := by
    rw [List.map_map]
    convert store.eventIds using 2
    funext event
    exact id_of_unmarked (unmarked_markEvent hit deletedAt event)

/-- `UPDATE articles SET deleted_at = ...` of the rows that are hit. -/
def markArticles (hit : ArticleRow ℤ → Bool) (deletedAt : Option ℤ) (store : HistoryStore ℤ) :
    HistoryStore ℤ where
  articles := store.articles.map (markArticle hit deletedAt)
  events := store.events
  articleIds := by
    rw [List.map_map]
    convert store.articleIds using 2
    funext row
    exact markArticle_articleId hit deletedAt row
  eventIds := store.eventIds

/-- The rows of some ids that are not deleted. -/
def liveArticle (articleIds : List ℕ) (row : ArticleRow ℤ) : Bool :=
  articleIds.contains row.articleId && row.deletedAt.isNone

def liveOfArticles (articleIds : List ℕ) (event : EventRow ℤ) : Bool :=
  ofArticles articleIds event && event.deletedAt.isNone

def liveEvent (eventIds : List ℕ) (event : EventRow ℤ) : Bool :=
  eventIds.contains event.id && event.deletedAt.isNone

/-! ## The calls -/

/-- `now` is read before the transaction and `swept` by the purge in it. -/
def deleteFromDb (now swept : ℤ) (id : String) (store : HistoryStore ℤ) :
    Bool × HistoryStore ℤ :=
  match parseId id with
  | some (.orphan eventId) =>
    let marked := markEvents (liveEvent [eventId]) (some now) store
    (0 < store.events.countP (liveEvent [eventId]), (purgeExpiredRows swept marked).2)
  | some (.article articleId) =>
    let withEvents := markEvents (liveOfArticles [articleId]) (some now) store
    let marked := markArticles (liveArticle [articleId]) (some now) withEvents
    (0 < store.articles.countP (liveArticle [articleId]), (purgeExpiredRows swept marked).2)
  | none => (false, store)

structure Counts where
  deleted : ℕ
  skipped : ℕ
  deriving DecidableEq, Repr

def articleIdsOf (ids : List String) : List ℕ :=
  ids.filterMap fun id =>
    match parseId id with
    | some (.article articleId) => some articleId
    | _ => none

def eventIdsOf (ids : List String) : List ℕ :=
  ids.filterMap fun id =>
    match parseId id with
    | some (.orphan eventId) => some eventId
    | _ => none

def bulkDeleteFromDb (now swept : ℤ) (ids : List String) (store : HistoryStore ℤ) :
    Counts × HistoryStore ℤ :=
  let articleIds := articleIdsOf ids
  let eventIds := eventIdsOf ids
  let malformed := ids.countP fun id => (parseId id).isNone
  if articleIds = [] ∧ eventIds = [] then (⟨0, malformed⟩, store)
  else
    let withEvents := markEvents (liveOfArticles articleIds) (some now) store
    let withArticles := markArticles (liveArticle articleIds) (some now) withEvents
    let marked := markEvents (liveEvent eventIds) (some now) withArticles
    let articles := store.articles.countP (liveArticle articleIds)
    let events := withArticles.events.countP (liveEvent eventIds)
    (⟨articles + events, malformed + (articleIds.length - articles) + (eventIds.length - events)⟩,
      (purgeExpiredRows swept marked).2)

def restoreOrphan (eventId : ℕ) (store : HistoryStore ℤ) : Bool × HistoryStore ℤ :=
  let hit (event : EventRow ℤ) : Bool := event.id = eventId && event.deletedAt.isSome
  (0 < store.events.countP hit, markEvents hit none store)

def restoreArticle (articleId : ℕ) (store : HistoryStore ℤ) : Bool × HistoryStore ℤ :=
  let hit (row : ArticleRow ℤ) : Bool := row.articleId = articleId && row.deletedAt.isSome
  let ofArticle (event : EventRow ℤ) : Bool :=
    event.articleId = some articleId && event.deletedAt.isSome
  (0 < store.articles.countP hit, markEvents ofArticle none (markArticles hit none store))

/-- The purge comes first. -/
def undeleteFromDb (swept : ℤ) (id : String) (store : HistoryStore ℤ) : Bool × HistoryStore ℤ :=
  match parseId id with
  | some (.orphan eventId) => restoreOrphan eventId (purgeExpiredRows swept store).2
  | some (.article articleId) => restoreArticle articleId (purgeExpiredRows swept store).2
  | none => (false, store)

/-! ## What a call does to the tables -/

/-- The marks that a deletion sets on the rows of some ids. -/
def softMark (now : ℤ) (hit : Bool) (deletedAt : Option ℤ) : Option ℤ :=
  if hit && deletedAt.isNone then some now else deletedAt

def softMarks (now : ℤ) (articleIds eventIds : List ℕ) (store : HistoryStore ℤ) :
    HistoryStore ℤ :=
  markEvents (liveEvent eventIds) (some now)
    (markArticles (liveArticle articleIds) (some now)
      (markEvents (liveOfArticles articleIds) (some now) store))

section Tables
variable {store : HistoryStore ℤ} {now swept : ℤ} {articleIds eventIds : List ℕ}

theorem softMarks_articles :
    (softMarks now articleIds eventIds store).articles = store.articles.map fun row =>
      { row with deletedAt := softMark now (articleIds.contains row.articleId) row.deletedAt } := by
  apply List.map_congr_left
  intro row _
  unfold liveArticle softMark markArticle
  split_ifs <;> rfl

theorem softMarks_events :
    (softMarks now articleIds eventIds store).events = store.events.map fun event =>
      { event with
        deletedAt := softMark now (ofArticles articleIds event || eventIds.contains event.id)
          event.deletedAt } := by
  change List.map _ (List.map _ store.events) = _
  rw [List.map_map]
  apply List.map_congr_left
  intro event _
  have ⟨id, _, _, _, _, articleId, _, deletedAt⟩ := event
  unfold Function.comp liveOfArticles liveEvent softMark ofArticles markEvent
  cases deletedAt with
  | some time => simp
  | none =>
    by_cases named : id ∈ eventIds <;> cases own : articleId.any articleIds.contains <;>
      simp [own, named]

theorem mem_purged_events {event : EventRow ℤ} :
    event ∈ (purgeExpiredRows swept store).2.events ↔
      event ∈ store.events ∧ ofArticles (expiredIds (cutoff swept) store) event = false ∧
        ¬ (expired (cutoff swept) event.deletedAt = true ∧ event.articleId = none) := by
  change event ∈ List.filter _ (List.filter _ store.events) ↔ _
  rw [List.mem_filter, List.mem_filter, Bool.not_eq_true', Bool.not_eq_true', Bool.and_eq_false_iff,
    and_assoc]
  apply and_congr_right
  intro _
  apply and_congr_right
  intro _
  rw [not_and, ← Option.isNone_iff_eq_none, Bool.not_eq_true]
  cases expired (cutoff swept) event.deletedAt <;> simp

theorem mem_expiredIds {row : ArticleRow ℤ} (member : row ∈ store.articles) {cutoff : ℤ} :
    row.articleId ∈ expiredIds cutoff store ↔ expired cutoff row.deletedAt = true := by
  unfold expiredIds
  rw [List.mem_map]
  constructor
  · rintro ⟨other, hother, same⟩
    have ⟨member', gone⟩ := List.mem_filter.1 hother
    rw [← List.inj_on_of_nodup_map store.articleIds member' member same]
    exact gone
  · intro gone
    exact ⟨row, List.mem_filter.2 ⟨member, gone⟩, rfl⟩

theorem mem_purged_articles {row : ArticleRow ℤ} :
    row ∈ (purgeExpiredRows swept store).2.articles ↔
      row ∈ store.articles ∧ expired (cutoff swept) row.deletedAt = false := by
  change row ∈ List.filter _ store.articles ↔ _
  rw [List.mem_filter]
  apply and_congr_right
  intro member
  rw [Bool.not_eq_true', Bool.eq_false_iff, Bool.eq_false_iff, ne_eq, ne_eq, not_iff_not,
    List.contains_iff_mem]
  exact mem_expiredIds member

end Tables

/-! ## No call adds a row -/

/-- Every row comes from one that was there, whatever has become of its mark, and an article that
has gone has taken its events along. -/
structure Within (after before : HistoryStore ℤ) : Prop where
  known : ∀ articleId, after.articleKnown articleId = true → before.articleKnown articleId = true
  events : ∀ event ∈ after.events, ∃ source ∈ before.events, unmarked event = unmarked source
  gone : ∀ articleId, before.articleKnown articleId = true →
    after.articleKnown articleId = false → ∀ event ∈ after.events, event.articleId ≠ some articleId

theorem Within.refl (store : HistoryStore ℤ) : Within store store where
  known _ h := h
  events event h := ⟨event, h, rfl⟩
  gone _ known gone := by rw [known] at gone; cases gone

theorem Within.trans {after mid before : HistoryStore ℤ} (late : Within after mid)
    (early : Within mid before) : Within after before where
  known articleId h := early.known articleId (late.known articleId h)
  events event h := by
    have ⟨source, hsource, same⟩ := late.events event h
    have ⟨first, hfirst, same'⟩ := early.events source hsource
    exact ⟨first, hfirst, same.trans same'⟩
  gone articleId known gone event h := by
    cases there : mid.articleKnown articleId with
    | true => exact late.gone articleId there gone event h
    | false =>
      have ⟨source, hsource, same⟩ := late.events event h
      rw [articleId_of_unmarked same]
      exact early.gone articleId known there source hsource

theorem within_markEvents (hit : EventRow ℤ → Bool) (deletedAt : Option ℤ)
    (store : HistoryStore ℤ) : Within (markEvents hit deletedAt store) store where
  known _ h := h
  events event h := by
    have ⟨source, hsource, made⟩ := List.mem_map.1 h
    refine ⟨source, hsource, ?_⟩
    rw [← made]
    exact unmarked_markEvent hit deletedAt source
  gone _ known gone := by
    change store.articleKnown _ = false at gone
    rw [known] at gone
    cases gone

theorem markArticles_known (hit : ArticleRow ℤ → Bool) (deletedAt : Option ℤ)
    (store : HistoryStore ℤ) (articleId : ℕ) :
    (markArticles hit deletedAt store).articleKnown articleId = store.articleKnown articleId := by
  have ids : (markArticles hit deletedAt store).articles.map ArticleRow.articleId =
      store.articles.map ArticleRow.articleId := by
    unfold markArticles
    rw [List.map_map]
    apply List.map_congr_left
    intro row _
    exact markArticle_articleId hit deletedAt row
  unfold HistoryStore.articleKnown
  rw [ids]

theorem within_markArticles (hit : ArticleRow ℤ → Bool) (deletedAt : Option ℤ)
    (store : HistoryStore ℤ) : Within (markArticles hit deletedAt store) store where
  known articleId h := by
    rw [markArticles_known] at h
    exact h
  events event h := ⟨event, h, rfl⟩
  gone articleId known gone := by
    rw [markArticles_known, known] at gone
    cases gone

theorem within_purged (swept : ℤ) (store : HistoryStore ℤ) :
    Within (purgeExpiredRows swept store).2 store where
  known articleId h := by
    have ⟨row, hrow, same⟩ := articleKnown_iff.1 h
    exact articleKnown_iff.2 ⟨row, (mem_purged_articles.1 hrow).1, same⟩
  events event h := ⟨event, (mem_purged_events.1 h).1, rfl⟩
  gone articleId known gone event h own := by
    have ⟨row, hrow, same⟩ := articleKnown_iff.1 known
    have expired_ : expired (cutoff swept) row.deletedAt = true := by
      rw [← Bool.not_eq_false]
      intro left_
      rw [articleKnown_iff.2 ⟨row, mem_purged_articles.2 ⟨hrow, left_⟩, same⟩] at gone
      cases gone
    have away := (mem_purged_events.1 h).2.1
    unfold ofArticles at away
    rw [own, Option.any_some, ← same, List.contains_iff_mem.2 ((mem_expiredIds hrow).2 expired_)]
      at away
    cases away

theorem Within.orphan {after before : HistoryStore ℤ} (within : Within after before)
    {event source : EventRow ℤ} (same : unmarked event = unmarked source)
    (orphan : before.isOrphan source = true) : after.isOrphan event = true := by
  unfold HistoryStore.isOrphan at orphan ⊢
  rw [articleId_of_unmarked same]
  rw [Option.all_eq_true] at orphan ⊢
  intro articleId own
  have unknown := orphan articleId own
  rw [Bool.not_eq_true'] at unknown ⊢
  rw [Bool.eq_false_iff]
  intro known
  rw [within.known articleId known] at unknown
  cases unknown

end BacklinkPublisher.SoftDeletes
