import BacklinkPublisher.UndoWindow

set_option autoImplicit false

/-!
# What an undo promises

A deletion that is undone within the window leaves no trace in the list, and only what was deleted
longer ago than the window is removed.
-/
namespace BacklinkPublisher.UndoPromises
open EventPayloads HistoryItems HistoryPurge OwnEvents SoftDeletes SortedLists TransitionSystems
open UndoWindow

/-! ## What is promised -/

def visible (store : HistoryStore ℤ) : List String := (entries store .live).map Entry.id

/-- The events of an item. -/
def itemEvents (store : HistoryStore ℤ) (id : String) : List (EventRow ℤ) :=
  match parseId id with
  | some (.article articleId) => ownEvents store.events articleId
  | some (.orphan eventId) => store.events.filter fun event => event.id = eventId
  | none => []

/-- An item is listed as before, and its events are what `kept` makes of those before. -/
structure Restored (kept : EventRow ℤ → EventRow ℤ) (id : String)
    (before after : HistoryStore ℤ) : Prop where
  visible : id ∈ visible after
  item : ∀ loads limit items items', before.articles.length + before.events.length ≤ limit →
    after.articles.length + after.events.length ≤ limit →
    listHistory loads before limit .live = some items →
    listHistory loads after limit .live = some items' →
    ∀ item, item.id = id → (item ∈ items ↔ item ∈ items')
  events : itemEvents after id = (itemEvents before id).map kept

/-- The mark that a row has, or gets from the call, is older than the window at the purge. -/
def Aged (call : Call) (hit : Bool) (deletedAt : Option ℤ) : Prop :=
  ∃ time, softMark call.now hit deletedAt = some time ∧
    purgeWindowSeconds * second < call.swept - time

structure Safe (kept : EventRow ℤ → EventRow ℤ) (session : Session) : Prop where
  undo : ∀ (call : Call) (id : String) (later : Session) (swept : ℤ), Admissible session call →
    id ∈ call.request.deleted → id ∈ visible session.store →
    Reaches step (fun s other => Admissible s other ∧ other.request ≠ .undelete id)
      (session.after call) later →
    later.clock ≤ swept → swept - call.now < purgeWindowSeconds * second →
      (undeleteFromDb swept id later.store).1 = true ∧
        Restored kept id session.store (undeleteFromDb swept id later.store).2
  articles : ∀ call, Admissible session call → ∀ row ∈ session.store.articles,
    (call.run session.store).articleKnown row.articleId = false →
      Aged call ((articleIdsOf call.request.deleted).contains row.articleId) row.deletedAt
  events : ∀ call, Admissible session call → ∀ event ∈ session.store.events,
    (∀ other ∈ (call.run session.store).events, other.id ≠ event.id) →
      (∃ row ∈ session.store.articles, event.articleId = some row.articleId ∧
        Aged call ((articleIdsOf call.request.deleted).contains row.articleId) row.deletedAt) ∨
      event.articleId = none ∧
        Aged call ((eventIdsOf call.request.deleted).contains event.id) event.deletedAt
  counted : ∀ call ids, Admissible session call → call.request = .bulkDelete ids →
    (bulkDeleteFromDb call.now call.swept ids session.store).1.deleted =
      ((visible session.store).filter fun id => id ∉ visible (call.run session.store)).length

/-! ## Undoing -/

/-- The item of a row in a whole list. -/
theorem mem_items_iff {loads : String → JsonOutcome} {store : HistoryStore ℤ} {limit : ℕ}
    {items : List (HistoryItem ℤ)} {verdicts : List HistoryItems.Verdict}
    (large : store.articles.length + store.events.length ≤ limit)
    (known : latestVerdicts loads store.events = some verdicts)
    (listed : listHistory loads store limit .live = some items) {entry : Entry ℤ}
    (shown_ : entry ∈ entries store .live) {item : HistoryItem ℤ} (named : item.id = entry.id) :
    item ∈ items ↔ item = itemOf loads verdicts .live entry := by
  have ⟨verdicts', known', _, made⟩ := (listHistory_whole large).1 listed
  rw [known] at known'
  rw [made, mem_sortedBy itemKey, List.mem_map, ← Option.some.inj known']
  constructor
  · rintro ⟨other, hother, rfl⟩
    have ids : other.id = entry.id := (item_id _ _ other _).symm.trans named
    rw [List.inj_on_of_nodup_map (entries_nodup store .live) hother shown_ ids]
  · rintro rfl
    exact ⟨entry, shown_, rfl⟩

theorem visible_article {store : HistoryStore ℤ} {row : ArticleRow ℤ} (h : row ∈ store.articles)
    (live : row.deletedAt = none) : entryOf store row ∈ entries store .live := by
  refine List.mem_append_left _ (List.mem_map.2 ⟨row, List.mem_filter.2 ⟨h, ?_⟩, rfl⟩)
  change row.deletedAt.isNone = true
  rw [live]
  rfl

theorem visible_orphan {store : HistoryStore ℤ} {event : EventRow ℤ} (h : event ∈ store.events)
    (orphan : store.isOrphan event = true) (kind : event.kind ∈ publishKinds)
    (live : event.deletedAt = none) : Entry.orphan event ∈ entries store .live := by
  refine List.mem_append_right _ (List.mem_map.2 ⟨event, List.mem_filter.2 ⟨h, ?_⟩, rfl⟩)
  rw [orphan, decide_eq_true kind]
  change event.deletedAt.isNone = true
  rw [live]
  rfl

/-- The visible ids are those of rows that are not deleted. -/
theorem mem_visible {store : HistoryStore ℤ} {id : String} :
    id ∈ visible store ↔
      (∃ row ∈ store.articles, row.deletedAt = none ∧ id = toString row.articleId) ∨
      ∃ event ∈ store.events, store.isOrphan event = true ∧ event.kind ∈ publishKinds ∧
        event.deletedAt = none ∧ id = orphanId event.id := by
  unfold visible
  rw [List.mem_map]
  constructor
  · rintro ⟨entry, h, rfl⟩
    rcases List.mem_append.1 h with h | h
    · have ⟨row, hrow, made⟩ := List.mem_map.1 h
      have ⟨member, live⟩ := List.mem_filter.1 hrow
      exact Or.inl ⟨row, member, Option.isNone_iff_eq_none.1 live, by rw [← made]; rfl⟩
    · have ⟨event, hevent, made⟩ := List.mem_map.1 h
      have ⟨member, passes⟩ := List.mem_filter.1 hevent
      rw [Bool.and_eq_true, Bool.and_eq_true, decide_eq_true_iff] at passes
      exact Or.inr ⟨event, member, passes.1.1, passes.1.2, Option.isNone_iff_eq_none.1 passes.2,
        by rw [← made]; rfl⟩
  · rintro (⟨row, h, live, rfl⟩ | ⟨event, h, orphan, kind, live, rfl⟩)
    · exact ⟨entryOf store row, visible_article h live, rfl⟩
    · exact ⟨.orphan event, visible_orphan h orphan kind live, rfl⟩

/-- What calls keep up to a time holds as long as the clock has not passed it. -/
theorem held_later {P : HistoryStore ℤ → Prop} {id : String} {swept : ℤ}
    {session later : Session} (inv : Invariant session)
    (run : Reaches step (fun s other => Admissible s other ∧ other.request ≠ .undelete id)
      session later)
    (start : session.clock ≤ swept → P session.store)
    (keeps : ∀ s call, Invariant s → Admissible s call → call.request ≠ .undelete id →
      call.swept ≤ swept → P s.store → P (call.run s.store))
    (late : later.clock ≤ swept) : Invariant later ∧ P later.store := by
  have both : Invariant later ∧ (later.clock ≤ swept → P later.store) := by
    apply Reaches.invariant (I := fun s => Invariant s ∧ (s.clock ≤ swept → P s.store)) run
      ⟨inv, start⟩
    rintro s call t ⟨here, held⟩ ⟨admissible, other⟩ made
    rw [← Option.some.inj made]
    refine ⟨invariant_after here admissible, fun soon => ?_⟩
    have before : s.clock ≤ swept := admissible.2.trans (call.le.trans soon)
    exact keeps s call here admissible other soon (held before)
  exact ⟨both.1, both.2 late⟩

theorem undo_article {session later : Session} {call : Call} {row : ArticleRow ℤ} {swept : ℤ}
    (inv : Invariant session) (admissible : Admissible session call)
    (member : row ∈ session.store.articles) (live : row.deletedAt = none)
    (named : (ItemId.article row.articleId).text ∈ call.request.deleted)
    (run : Reaches step (fun s other => Admissible s other ∧
      other.request ≠ .undelete (ItemId.article row.articleId).text) (session.after call) later)
    (late : later.clock ≤ swept) (recent : swept - call.now ≤ purgeWindowSeconds * second) :
    (undeleteFromDb swept (ItemId.article row.articleId).text later.store).1 = true ∧
      Restored unmarked (ItemId.article row.articleId).text session.store
        (undeleteFromDb swept (ItemId.article row.articleId).text later.store).2 := by
  have parsed := admissible.parsed inv
  let own := (ownEvents session.store.events row.articleId).map unmarked
  have ⟨_, held⟩ : Invariant later ∧ HeldArticle row own call.now later.store := by
    refine held_later (invariant_after inv admissible) run ?_ ?_ late
    · intro soon
      change HeldArticle row own call.now (call.run session.store)
      rw [run_deletes parsed named]
      apply held_softDelete member live
      · exact mem_articleIdsOf.2 ⟨_, named, parseId_text _⟩
      · have soon : call.swept ≤ swept := soon
        omega
    · intro s other here allowed different soon held
      exact held.run (allowed.parsed here) different (by omega)
  have ⟨answer, there, events⟩ := (held.purged recent).restored live
  rw [undelete_text]
  refine ⟨answer, mem_visible.2 (Or.inl ⟨row, there, live, rfl⟩), ?_, ?_⟩
  · intro loads limit items items' large large' listed listed' item id
    have ⟨verdicts, known, _⟩ := (listHistory_whole large).1 listed
    have ⟨verdicts', known', _⟩ := (listHistory_whole large').1 listed'
    have shown_ := visible_article member live
    have shown' := visible_article there live
    rw [mem_items_iff large known listed shown_ id, mem_items_iff large' known' listed' shown' id]
    have same : SameEvents session.store.events
        (restoreArticle row.articleId (purgeExpiredRows swept later.store).2).2.events
        row.articleId := by
      unfold SameEvents
      rw [events, List.map_map]
      rfl
    have made : itemOf loads verdicts .live (entryOf session.store row) =
        itemOf loads verdicts' .live
          (entryOf (restoreArticle row.articleId (purgeExpiredRows swept later.store).2).2 row) :=
      itemOf_same known known' same
    rw [made]
  · unfold itemEvents
    rw [parseId_text]
    exact events

theorem filter_id {store : HistoryStore ℤ} {event : EventRow ℤ} (h : event ∈ store.events) :
    (store.events.filter fun other => other.id = event.id) = [event] := by
  have nodup : store.events.Nodup := List.Nodup.of_map EventRow.id store.eventIds
  have same : (store.events.filter fun other => other.id = event.id) =
      store.events.filter fun other => other == event := by
    apply List.filter_congr
    intro other hother
    rw [Bool.eq_iff_iff, decide_eq_true_iff, beq_iff_eq]
    exact ⟨List.inj_on_of_nodup_map store.eventIds hother h, congrArg EventRow.id⟩
  rw [same, List.filter_beq, List.count_eq_one_of_mem nodup h]
  rfl

theorem undo_orphan {session later : Session} {call : Call} {event : EventRow ℤ} {swept : ℤ}
    (inv : Invariant session) (admissible : Admissible session call)
    (member : event ∈ session.store.events) (orphan : session.store.isOrphan event = true)
    (kind : event.kind ∈ publishKinds) (live : event.deletedAt = none)
    (named : (ItemId.orphan event.id).text ∈ call.request.deleted)
    (run : Reaches step (fun s other => Admissible s other ∧
      other.request ≠ .undelete (ItemId.orphan event.id).text) (session.after call) later)
    (late : later.clock ≤ swept) (recent : swept - call.now ≤ purgeWindowSeconds * second) :
    (undeleteFromDb swept (ItemId.orphan event.id).text later.store).1 = true ∧
      Restored unmarked (ItemId.orphan event.id).text session.store
        (undeleteFromDb swept (ItemId.orphan event.id).text later.store).2 := by
  have ⟨_, held⟩ : Invariant later ∧ HeldOrphan event call.now later.store := by
    refine held_later (invariant_after inv admissible) run ?_ ?_ late
    · intro soon
      change HeldOrphan event call.now (call.run session.store)
      rw [run_deletes (admissible.parsed inv) named]
      apply held_softDelete_orphan member orphan live
      · exact mem_eventIdsOf.2 ⟨_, named, parseId_text _⟩
      · have soon : call.swept ≤ swept := soon
        omega
    · intro s other here allowed different soon held
      exact held.run (allowed.sound here) different (by omega)
  have ⟨answer, there, orphan'⟩ := (held.purged recent).restored live
  rw [undelete_text]
  refine ⟨answer, mem_visible.2 (Or.inr ⟨event, there, orphan', kind, live, rfl⟩), ?_, ?_⟩
  · intro loads limit items items' large large' listed listed' item id
    have ⟨verdicts, known, _⟩ := (listHistory_whole large).1 listed
    have ⟨verdicts', known', _⟩ := (listHistory_whole large').1 listed'
    have shown_ := visible_orphan member orphan kind live
    have shown' := visible_orphan there orphan' kind live
    rw [mem_items_iff large known listed shown_ id, mem_items_iff large' known' listed' shown' id]
    rfl
  · unfold itemEvents
    rw [parseId_text]
    change List.filter _ (restoreOrphan event.id (purgeExpiredRows swept later.store).2).2.events =
      (session.store.events.filter fun other => other.id = event.id).map unmarked
    rw [filter_id there, filter_id member, List.map_singleton]
    unfold unmarked
    rw [← live]

/-! ## Removals -/

theorem aged_of_expired {call : Call} {hit : Bool} {deletedAt : Option ℤ}
    (gone : expired (cutoff call.swept) (softMark call.now hit deletedAt) = true) :
    Aged call hit deletedAt := by
  unfold expired cutoff at gone
  have ⟨time, mark, late⟩ := (Option.any_eq_true _ _).1 gone
  rw [decide_eq_true_iff] at late
  exact ⟨time, mark, by omega⟩

theorem softMark_missed (now : ℤ) (deletedAt : Option ℤ) :
    softMark now false deletedAt = deletedAt := rfl

theorem removed_article {store : HistoryStore ℤ} {swept : ℤ} {row : ArticleRow ℤ}
    (h : row ∈ store.articles)
    (gone : (purgeExpiredRows swept store).2.articleKnown row.articleId = false) :
    expired (cutoff swept) row.deletedAt = true := by
  rw [← Bool.not_eq_false]
  intro stays
  rw [articleKnown_iff.2 ⟨row, mem_purged_articles.2 ⟨h, stays⟩, rfl⟩] at gone
  cases gone

theorem removed_event {store : HistoryStore ℤ} {swept : ℤ} {event : EventRow ℤ}
    (h : event ∈ store.events) (gone : event ∉ (purgeExpiredRows swept store).2.events) :
    (∃ row ∈ store.articles, event.articleId = some row.articleId ∧
        expired (cutoff swept) row.deletedAt = true) ∨
      event.articleId = none ∧ expired (cutoff swept) event.deletedAt = true := by
  rw [mem_purged_events] at gone
  cases cleared : ofArticles (expiredIds (cutoff swept) store) event with
  | true =>
    unfold ofArticles at cleared
    have ⟨articleId, own, named⟩ := (Option.any_eq_true _ _).1 cleared
    have ⟨row, hrow, same⟩ := List.mem_map.1 (List.contains_iff_mem.1 named)
    have ⟨member, expired_⟩ := List.mem_filter.1 hrow
    exact Or.inl ⟨row, member, by rw [own, same], expired_⟩
  | false =>
    have orphan : expired (cutoff swept) event.deletedAt = true ∧ event.articleId = none := by
      by_contra stays
      exact gone ⟨h, cleared, stays⟩
    exact Or.inr ⟨orphan.2, orphan.1⟩

theorem restore_known (swept : ℤ) (item : ItemId) (store : HistoryStore ℤ) (articleId : ℕ) :
    (restore swept item store).2.articleKnown articleId =
      (purgeExpiredRows swept store).2.articleKnown articleId := by
  cases item with
  | orphan eventId => rfl
  | article other => exact markArticles_known _ none (purgeExpiredRows swept store).2 articleId

theorem restore_ids (swept : ℤ) (item : ItemId) (store : HistoryStore ℤ) {event : EventRow ℤ}
    (h : event ∈ (purgeExpiredRows swept store).2.events) :
    ∃ other ∈ (restore swept item store).2.events, other.id = event.id := by
  cases item with
  | orphan eventId =>
    exact ⟨_, List.mem_map_of_mem h, id_of_unmarked (unmarked_markEvent _ none event)⟩
  | article articleId =>
    exact ⟨_, List.mem_map_of_mem h, id_of_unmarked (unmarked_markEvent _ none event)⟩

/-- An article goes where its mark is older than the window. -/
theorem articles_aged {session : Session} (inv : Invariant session) {call : Call}
    (admissible : Admissible session call) {row : ArticleRow ℤ}
    (h : row ∈ session.store.articles)
    (gone : (call.run session.store).articleKnown row.articleId = false) :
    Aged call ((articleIdsOf call.request.deleted).contains row.articleId) row.deletedAt := by
  rcases run_cases call session.store (admissible.parsed inv) with
    run | ⟨_, run⟩ | ⟨item, request, run⟩
  · rw [run] at gone
    apply aged_of_expired
    let marked : ArticleRow ℤ := { row with
      deletedAt := softMark call.now
        ((articleIdsOf call.request.deleted).contains row.articleId) row.deletedAt }
    have there : marked ∈ (softMarks call.now (articleIdsOf call.request.deleted)
        (eventIdsOf call.request.deleted) session.store).articles := by
      rw [softMarks_articles]
      exact List.mem_map.2 ⟨row, h, rfl⟩
    exact removed_article there gone
  · rw [run, articleKnown_iff.2 ⟨row, h, rfl⟩] at gone
    cases gone
  · rw [run, restore_known] at gone
    rw [request]
    exact aged_of_expired (removed_article h gone)

/-- An event goes with its article, or as an orphan whose mark is older than the window. -/
theorem events_aged {session : Session} (inv : Invariant session) {call : Call}
    (admissible : Admissible session call) {event : EventRow ℤ}
    (h : event ∈ session.store.events)
    (gone : ∀ other ∈ (call.run session.store).events, other.id ≠ event.id) :
    (∃ row ∈ session.store.articles, event.articleId = some row.articleId ∧
      Aged call ((articleIdsOf call.request.deleted).contains row.articleId) row.deletedAt) ∨
    event.articleId = none ∧
      Aged call ((eventIdsOf call.request.deleted).contains event.id) event.deletedAt := by
  rcases run_cases call session.store (admissible.parsed inv) with
    run | ⟨_, run⟩ | ⟨item, request, run⟩
  · rw [run] at gone
    let mark (event : EventRow ℤ) : EventRow ℤ := { event with
      deletedAt := softMark call.now (ofArticles (articleIdsOf call.request.deleted) event ||
        (eventIdsOf call.request.deleted).contains event.id) event.deletedAt }
    have there : mark event ∈ (softMarks call.now (articleIdsOf call.request.deleted)
        (eventIdsOf call.request.deleted) session.store).events := by
      rw [softMarks_events]
      exact List.mem_map_of_mem h
    have away : mark event ∉ (softDelete call.now call.swept (articleIdsOf call.request.deleted)
        (eventIdsOf call.request.deleted) session.store).events := fun stays => gone _ stays rfl
    rcases removed_event there away with ⟨marked, hmarked, own, expired_⟩ | ⟨orphan, expired_⟩
    · rw [softMarks_articles] at hmarked
      have ⟨row, hrow, made⟩ := List.mem_map.1 hmarked
      rw [← made] at own expired_
      exact Or.inl ⟨row, hrow, own, aged_of_expired expired_⟩
    · have orphan : event.articleId = none := orphan
      have alone : ofArticles (articleIdsOf call.request.deleted) event = false := by
        unfold ofArticles
        rw [orphan]
        rfl
      have expired_ : expired (cutoff call.swept) (softMark call.now
          (ofArticles (articleIdsOf call.request.deleted) event ||
            (eventIdsOf call.request.deleted).contains event.id) event.deletedAt) = true := expired_
      rw [alone, Bool.false_or] at expired_
      exact Or.inr ⟨orphan, aged_of_expired expired_⟩
  · rw [run] at gone
    exact absurd rfl (gone event h)
  · rw [run] at gone
    rw [request]
    have away : event ∉ (purgeExpiredRows call.swept session.store).2.events := by
      intro stays
      have ⟨other, hother, same⟩ := restore_ids call.swept item session.store stays
      exact gone other hother same
    rcases removed_event h away with ⟨row, hrow, own, expired_⟩ | ⟨orphan, expired_⟩
    · exact Or.inl ⟨row, hrow, own, aged_of_expired expired_⟩
    · exact Or.inr ⟨orphan, aged_of_expired expired_⟩

/-! ## Counts -/

section Counts
variable {store : HistoryStore ℤ} {now swept : ℤ} {articleIds eventIds : List ℕ}

theorem expired_none (cutoff : ℤ) : expired cutoff none = false := rfl

theorem visible_softDelete_article {row : ArticleRow ℤ} (h : row ∈ store.articles)
    (live : row.deletedAt = none) :
    toString row.articleId ∈ visible (softDelete now swept articleIds eventIds store) ↔
      row.articleId ∉ articleIds := by
  rw [mem_visible]
  constructor
  · rintro (⟨marked, hmarked, unmarked_, text⟩ | ⟨event, _, _, _, _, text⟩)
    · intro named
      have there := (mem_purged_articles.1 hmarked).1
      rw [softMarks_articles] at there
      have ⟨source, hsource, made⟩ := List.mem_map.1 there
      have ids : source.articleId = row.articleId := by
        rw [toString_injective text, ← made]
      rw [List.inj_on_of_nodup_map store.articleIds hsource h ids] at made
      rw [← made, live, List.contains_iff_mem.2 named] at unmarked_
      cases unmarked_
    · exact absurd text (toString_ne_orphanId _ _)
  · intro away
    refine Or.inl ⟨row, mem_purged_articles.2 ⟨?_, ?_⟩, live, rfl⟩
    · have missed : articleIds.contains row.articleId = false := by
        rw [Bool.eq_false_iff, ne_eq, List.contains_iff_mem]
        exact away
      rw [softMarks_articles]
      refine List.mem_map.2 ⟨row, h, ?_⟩
      rw [missed, softMark_missed]
    · rw [live, expired_none]

theorem visible_softDelete_orphan {event : EventRow ℤ} (h : event ∈ store.events)
    (orphan : store.isOrphan event = true) (kind : event.kind ∈ publishKinds)
    (live : event.deletedAt = none) (alone : ofArticles articleIds event = false) :
    orphanId event.id ∈ visible (softDelete now swept articleIds eventIds store) ↔
      event.id ∉ eventIds := by
  rw [mem_visible]
  constructor
  · rintro (⟨row, _, _, text⟩ | ⟨marked, hmarked, _, _, unmarked_, text⟩)
    · exact absurd text.symm (toString_ne_orphanId _ _)
    · intro named
      have there := (mem_purged_events.1 hmarked).1
      rw [softMarks_events] at there
      have ⟨source, hsource, made⟩ := List.mem_map.1 there
      have ids : source.id = event.id := by
        rw [orphanId_injective text, ← made]
      rw [List.inj_on_of_nodup_map store.eventIds hsource h ids] at made
      rw [← made, live, List.contains_iff_mem.2 named, Bool.or_true] at unmarked_
      cases unmarked_
  · intro away
    have missed : eventIds.contains event.id = false := by
      rw [Bool.eq_false_iff, ne_eq, List.contains_iff_mem]
      exact away
    have within := within_softDelete now swept articleIds eventIds store
    refine Or.inr ⟨event, mem_purged_events.2 ⟨?_, ?_, ?_⟩, within.orphan rfl orphan, kind, live,
      rfl⟩
    · rw [softMarks_events]
      refine List.mem_map.2 ⟨event, h, ?_⟩
      rw [alone, missed, Bool.or_false, softMark_missed]
    · apply orphan_not_ofArticles expiredIds_known
      exact (within_softMarks now articleIds eventIds store).orphan rfl orphan
    · rw [live, expired_none]
      exact fun gone => Bool.false_ne_true gone.1

end Counts

/-- The orphans that a call names are events of no article that it names. -/
theorem named_orphan {store : HistoryStore ℤ} {ids : List String}
    (sound : ∀ id ∈ ids, ∃ item : ItemId, id = item.text ∧ Sound store item) :
    (∀ event ∈ store.events, event.id ∈ eventIdsOf ids →
      store.isOrphan event = true ∧ event.kind ∈ publishKinds) ∧
    ∀ event ∈ store.events, store.isOrphan event = true →
      ofArticles (articleIdsOf ids) event = false := by
  have read : ∀ id ∈ ids, ∀ item, parseId id = some item → Sound store item := by
    intro id h item reads
    have ⟨other, text, sound_⟩ := sound id h
    rw [text, parseId_text] at reads
    rw [← Option.some.inj reads]
    exact sound_
  constructor
  · intro event h named
    have ⟨id, hid, reads⟩ := mem_eventIdsOf.1 named
    exact read id hid _ reads event h rfl
  · intro event h orphan
    rw [Bool.eq_false_iff]
    intro own
    unfold ofArticles at own
    have ⟨articleId, own, named⟩ := (Option.any_eq_true _ _).1 own
    have ⟨id, hid, reads⟩ := mem_articleIdsOf.1 (List.contains_iff_mem.1 named)
    rcases read id hid _ reads with known | away
    · unfold HistoryStore.isOrphan at orphan
      rw [own, Option.all_some, known] at orphan
      cases orphan
    · exact away event h own

theorem bulk_deleted (now swept : ℤ) (ids : List String) (store : HistoryStore ℤ) :
    (bulkDeleteFromDb now swept ids store).1.deleted =
      store.articles.countP (liveArticle (articleIdsOf ids)) +
        (markEvents (liveOfArticles (articleIdsOf ids)) (some now) store).events.countP
          (liveEvent (eventIdsOf ids)) := by
  unfold bulkDeleteFromDb
  by_cases nothing : articleIdsOf ids = [] ∧ eventIdsOf ids = []
  · rw [if_pos nothing, nothing.1, nothing.2]
    symm
    rw [Nat.add_eq_zero_iff, List.countP_eq_zero, List.countP_eq_zero]
    exact ⟨fun _ _ => Bool.false_ne_true, fun _ _ => Bool.false_ne_true⟩
  · rw [if_neg nothing]
    rfl

theorem countP_visible (store : HistoryStore ℤ) (p : String → Bool) :
    (visible store).countP p =
      store.articles.countP (fun row => p (toString row.articleId) && row.deletedAt.isNone) +
        store.events.countP fun event => p (orphanId event.id) &&
          (store.isOrphan event && decide (event.kind ∈ publishKinds) &&
            event.deletedAt.isNone) := by
  unfold visible entries articlesShown orphansShown
  rw [List.map_append, List.countP_append, List.map_map, List.map_map, List.countP_map,
    List.countP_map, List.countP_filter, List.countP_filter]
  rfl

/-- The marks on the events of the articles are on none that the ids name. -/
theorem liveEvent_markEvents {store : HistoryStore ℤ} {ids : List String} {event : EventRow ℤ}
    (now : ℤ) (orphans : event.id ∈ eventIdsOf ids → store.isOrphan event = true)
    (alone : store.isOrphan event = true → ofArticles (articleIdsOf ids) event = false) :
    liveEvent (eventIdsOf ids) (markEvent (liveOfArticles (articleIdsOf ids)) (some now) event) =
      liveEvent (eventIdsOf ids) event := by
  have same : (markEvent (liveOfArticles (articleIdsOf ids)) (some now) event).id = event.id :=
    id_of_unmarked (unmarked_markEvent _ _ event)
  by_cases named : event.id ∈ eventIdsOf ids
  · have missed : liveOfArticles (articleIdsOf ids) event = false := by
      unfold liveOfArticles
      rw [alone (orphans named), Bool.false_and]
    unfold markEvent
    rw [missed, if_neg Bool.false_ne_true]
  · have away : (eventIdsOf ids).contains event.id = false := by
      rw [Bool.eq_false_iff, ne_eq, List.contains_iff_mem]
      exact named
    unfold liveEvent
    rw [same, away, Bool.false_and, Bool.false_and]

/-- The count of a bulk deletion. -/
theorem bulk_counted {session : Session} (inv : Invariant session) {call : Call}
    {ids : List String} (admissible : Admissible session call)
    (request : call.request = .bulkDelete ids) :
    (bulkDeleteFromDb call.now call.swept ids session.store).1.deleted =
      ((visible session.store).filter fun id => id ∉ visible (call.run session.store)).length := by
  have sound : ∀ id ∈ ids, ∃ item : ItemId, id = item.text ∧ Sound session.store item := by
    have sound := admissible.sound inv
    rw [request] at sound
    exact sound
  have ⟨orphans, alone⟩ := named_orphan sound
  rcases run_cases call session.store (admissible.parsed inv) with
    run | ⟨nothing, run⟩ | ⟨item, other, _⟩
  · rw [request] at run
    have run : call.run session.store =
      softDelete call.now call.swept (articleIdsOf ids) (eventIdsOf ids) session.store := run
    have events : (markEvents (liveOfArticles (articleIdsOf ids)) (some call.now)
        session.store).events.countP (liveEvent (eventIdsOf ids)) =
        session.store.events.countP (liveEvent (eventIdsOf ids)) := by
      change (session.store.events.map _).countP _ = _
      rw [List.countP_map]
      apply List.countP_congr
      intro event h
      change liveEvent _ (markEvent _ _ event) = true ↔ _
      rw [liveEvent_markEvents _ (fun named => (orphans event h named).1) (alone event h)]
    rw [bulk_deleted, events, run, ← List.countP_eq_length_filter, countP_visible]
    congr 1
    · apply List.countP_congr
      intro row h
      unfold liveArticle
      rw [Bool.and_eq_true, Bool.and_eq_true, List.contains_iff_mem, decide_eq_true_iff]
      apply and_congr_left
      intro live
      rw [visible_softDelete_article h (Option.isNone_iff_eq_none.1 live), not_not]
    · apply List.countP_congr
      intro event h
      unfold liveEvent
      rw [Bool.and_eq_true, Bool.and_eq_true, Bool.and_eq_true, Bool.and_eq_true,
        List.contains_iff_mem, decide_eq_true_iff, decide_eq_true_iff]
      constructor
      · rintro ⟨named, live⟩
        have ⟨orphan, kind⟩ := orphans event h named
        rw [visible_softDelete_orphan h orphan kind (Option.isNone_iff_eq_none.1 live)
          (alone event h orphan), not_not]
        exact ⟨named, ⟨orphan, kind⟩, live⟩
      · rintro ⟨gone, ⟨orphan, kind⟩, live⟩
        rw [visible_softDelete_orphan h orphan kind (Option.isNone_iff_eq_none.1 live)
          (alone event h orphan), not_not] at gone
        exact ⟨gone, live⟩
  · have none_ : ids = [] := by
      rw [request] at nothing
      exact nothing
    rw [run, none_]
    symm
    rw [← List.countP_eq_length_filter]
    change _ = 0
    rw [List.countP_eq_zero]
    intro id h gone
    exact of_decide_eq_true gone h
  · rw [request] at other
    cases other

/-! ## The promise -/

/-- In every session a deletion can be undone within the window, only what was deleted longer ago is
removed, and bulk deletions count what they hide. The events of an item that is brought back have no
marks. -/
theorem soft_delete_safe {session : Session} (reachable : Reachable session) :
    Safe unmarked session where
  undo call id later swept admissible named shown_ run late recent := by
    have inv := reachable.invariant
    rcases mem_visible.1 shown_ with
      ⟨row, h, live, rfl⟩ | ⟨event, h, orphan, kind, live, rfl⟩
    · exact undo_article inv admissible h live named run late (le_of_lt recent)
    · exact undo_orphan inv admissible h orphan kind live named run late (le_of_lt recent)
  articles _ admissible _ h gone := articles_aged reachable.invariant admissible h gone
  events _ admissible _ h gone := events_aged reachable.invariant admissible h gone
  counted _ _ admissible request := bulk_counted reachable.invariant admissible request

/-! ## An event that was marked before its article -/

def confirmedEvent (deletedAt : Option ℤ) : EventRow ℤ where
  id := 1
  tsUtc := "2026-01-02"
  kind := kindConfirmed
  articleId := some 1
  payloadJson := ""
  deletedAt := deletedAt

def oneArticle (deletedAt : Option ℤ) : HistoryStore ℤ where
  articles := [{ articleId := 1 }]
  events := [confirmedEvent deletedAt]
  articleIds := List.nodup_singleton _
  eventIds := List.nodup_singleton _

def deletion : Call := ⟨.delete "1", 10, 10, le_rfl⟩

theorem deletion_admissible (deletedAt : Option ℤ) :
    Admissible (opened (oneArticle deletedAt) 0) deletion := by
  refine ⟨fun id h => ?_, Int.natCast_nonneg 10⟩
  rw [List.mem_singleton.1 h]
  exact ⟨.live, .article { articleId := 1 } (some (confirmedEvent deletedAt)),
    List.mem_cons_self, rfl⟩

theorem soft_delete_safe_after :
    Safe unmarked ((opened (oneArticle none) 0).after deletion) :=
  soft_delete_safe ⟨oneArticle none, 0, .single ⟨deletion, deletion_admissible none, rfl⟩⟩

/-- Undoing the deletion clears the mark. -/
theorem undo_clears_mark : ¬ ∀ session, Reachable session → Safe id session := by
  intro safe
  have promise := (safe (opened (oneArticle (some 5)) 0) ⟨oneArticle (some 5), 0, .refl⟩).undo
    deletion "1" _ 20 (deletion_admissible _) List.mem_cons_self (by decide +kernel) .refl
    (by decide) (by decide)
  have marks := congrArg (List.map EventRow.deletedAt) promise.2.events
  exact absurd marks (by decide +kernel)

end BacklinkPublisher.UndoPromises
