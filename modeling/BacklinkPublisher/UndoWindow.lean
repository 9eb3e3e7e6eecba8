import BacklinkPublisher.SoftDeletes
import BacklinkPublisher.TransitionSystems

set_option autoImplicit false

/-!
# The undo window

Sessions of `delete_from_db`, `bulk_delete_from_db` and `undelete_from_db` calls on ids that
`list_history` has shown, at times that do not decrease.
-/
namespace BacklinkPublisher.UndoWindow
open EventPayloads HistoryItems HistoryPurge OwnEvents SoftDeletes TransitionSystems

/-! ## Calls -/

inductive Request where
  | delete (id : String)
  | bulkDelete (ids : List String)
  | undelete (id : String)
  deriving DecidableEq, Repr

def Request.ids : Request → List String
  | .delete id => [id]
  | .bulkDelete ids => ids
  | .undelete id => [id]

/-- The ids that a request deletes. -/
def Request.deleted : Request → List String
  | .delete id => [id]
  | .bulkDelete ids => ids
  | .undelete _ => []

/-- A request with the times that it reads: `now` first, and `swept` in its purge. -/
structure Call where
  request : Request
  now : ℤ
  swept : ℤ
  le : now ≤ swept

def Call.run (call : Call) (store : HistoryStore ℤ) : HistoryStore ℤ :=
  match call.request with
  | .delete id => (deleteFromDb call.now call.swept id store).2
  | .bulkDelete ids => (bulkDeleteFromDb call.now call.swept ids store).2
  | .undelete id => (undeleteFromDb call.swept id store).2

/-- The ids that a list of the store can show. -/
def showable (store : HistoryStore ℤ) : Set String :=
  {id | ∃ view, ∃ entry ∈ entries store view, entry.id = id}

/-- A store, the ids that have been shown and the last time that was read. -/
structure Session where
  store : HistoryStore ℤ
  shown : Set String
  clock : ℤ

def Session.after (session : Session) (call : Call) : Session where
  store := call.run session.store
  shown := session.shown ∪ showable (call.run session.store)
  clock := call.swept

def opened (store : HistoryStore ℤ) (clock : ℤ) : Session := ⟨store, showable store, clock⟩

def step (session : Session) (call : Call) : Option Session := some (session.after call)

/-- The ids have been shown, and time has not gone back. -/
def Admissible (session : Session) (call : Call) : Prop :=
  (∀ id ∈ call.request.ids, id ∈ session.shown) ∧ session.clock ≤ call.now

def Reachable (session : Session) : Prop :=
  ∃ store clock, Reaches step Admissible (opened store clock) session

/-! ## The forms of a call -/

def softDelete (now swept : ℤ) (articleIds eventIds : List ℕ) (store : HistoryStore ℤ) :
    HistoryStore ℤ :=
  (purgeExpiredRows swept (softMarks now articleIds eventIds store)).2

def restore (swept : ℤ) (item : ItemId) (store : HistoryStore ℤ) : Bool × HistoryStore ℤ :=
  match item with
  | .orphan eventId => restoreOrphan eventId (purgeExpiredRows swept store).2
  | .article articleId => restoreArticle articleId (purgeExpiredRows swept store).2

theorem undelete_text (swept : ℤ) (item : ItemId) (store : HistoryStore ℤ) :
    undeleteFromDb swept item.text store = restore swept item store := by
  unfold undeleteFromDb restore
  rw [parseId_text]
  cases item <;> rfl

theorem markEvents_none {hit : EventRow ℤ → Bool} (none_ : ∀ event, hit event = false)
    (deletedAt : Option ℤ) (store : HistoryStore ℤ) : markEvents hit deletedAt store = store := by
  have same : store.events.map (markEvent hit deletedAt) = store.events := by
    apply List.map_id''
    intro event
    unfold markEvent
    rw [none_ event, if_neg Bool.false_ne_true]
  cases store
  unfold markEvents
  congr 1

theorem markArticles_none {hit : ArticleRow ℤ → Bool} (none_ : ∀ row, hit row = false)
    (deletedAt : Option ℤ) (store : HistoryStore ℤ) : markArticles hit deletedAt store = store := by
  have same : store.articles.map (markArticle hit deletedAt) = store.articles := by
    apply List.map_id''
    intro row
    unfold markArticle
    rw [none_ row, if_neg Bool.false_ne_true]
  cases store
  unfold markArticles
  congr 1

theorem mem_articleIdsOf {ids : List String} {articleId : ℕ} :
    articleId ∈ articleIdsOf ids ↔ ∃ id ∈ ids, parseId id = some (.article articleId) := by
  unfold articleIdsOf
  rw [List.mem_filterMap]
  apply exists_congr
  intro id
  apply and_congr_right
  intro _
  cases parseId id with
  | none => simp
  | some item => cases item <;> simp

theorem mem_eventIdsOf {ids : List String} {eventId : ℕ} :
    eventId ∈ eventIdsOf ids ↔ ∃ id ∈ ids, parseId id = some (.orphan eventId) := by
  unfold eventIdsOf
  rw [List.mem_filterMap]
  apply exists_congr
  intro id
  apply and_congr_right
  intro _
  cases parseId id with
  | none => simp
  | some item => cases item <;> simp

theorem deleteFromDb_text (now swept : ℤ) (item : ItemId) (store : HistoryStore ℤ) :
    (deleteFromDb now swept item.text store).2 =
      softDelete now swept (articleIdsOf [item.text]) (eventIdsOf [item.text]) store := by
  have noArticle : ∀ event, liveOfArticles [] event = false := by
    intro event
    unfold liveOfArticles ofArticles
    cases event.articleId <;> rfl
  have noEvent : ∀ event, liveEvent [] event = false := fun event => rfl
  have noRow : ∀ row, liveArticle [] row = false := fun row => rfl
  unfold deleteFromDb articleIdsOf eventIdsOf
  rw [List.filterMap_cons, List.filterMap_cons, parseId_text]
  cases item with
  | article articleId =>
    change (purgeExpiredRows swept (markArticles (liveArticle [articleId]) (some now)
      (markEvents (liveOfArticles [articleId]) (some now) store))).2 =
      softDelete now swept [articleId] [] store
    unfold softDelete softMarks
    rw [markEvents_none noEvent]
  | orphan eventId =>
    change (purgeExpiredRows swept (markEvents (liveEvent [eventId]) (some now) store)).2 =
      softDelete now swept [] [eventId] store
    unfold softDelete softMarks
    rw [markEvents_none noArticle, markArticles_none noRow]

/-- A call on ids of items deletes items, or none, or restores one. -/
theorem run_cases (call : Call) (store : HistoryStore ℤ)
    (parsed : ∀ id ∈ call.request.ids, ∃ item : ItemId, id = item.text) :
    call.run store = softDelete call.now call.swept (articleIdsOf call.request.deleted)
        (eventIdsOf call.request.deleted) store ∨
      (call.request.deleted = [] ∧ call.run store = store) ∨
      ∃ item : ItemId, call.request = .undelete item.text ∧
        call.run store = (restore call.swept item store).2 := by
  unfold Call.run
  cases request : call.request with
  | delete id =>
    rw [request] at parsed
    have ⟨item, text⟩ := parsed id List.mem_cons_self
    rw [text]
    exact Or.inl (deleteFromDb_text call.now call.swept item store)
  | bulkDelete ids =>
    rw [request] at parsed
    change (bulkDeleteFromDb call.now call.swept ids store).2 = softDelete call.now call.swept
      (articleIdsOf ids) (eventIdsOf ids) store ∨
      (ids = [] ∧ (bulkDeleteFromDb call.now call.swept ids store).2 = store) ∨ _
    unfold bulkDeleteFromDb
    by_cases nothing : articleIdsOf ids = [] ∧ eventIdsOf ids = []
    · refine Or.inr (Or.inl ⟨?_, by rw [if_pos nothing]⟩)
      rw [List.eq_nil_iff_forall_not_mem]
      intro id member
      have ⟨item, text⟩ := parsed id member
      have reads : parseId id = some item := text ▸ parseId_text item
      cases item with
      | article articleId =>
        exact List.ne_nil_of_mem (mem_articleIdsOf.2 ⟨id, member, reads⟩) nothing.1
      | orphan eventId =>
        exact List.ne_nil_of_mem (mem_eventIdsOf.2 ⟨id, member, reads⟩) nothing.2
    · rw [if_neg nothing]
      exact Or.inl rfl
  | undelete id =>
    rw [request] at parsed
    have ⟨item, text⟩ := parsed id List.mem_cons_self
    refine Or.inr (Or.inr ⟨item, by rw [text], ?_⟩)
    rw [text]
    exact congrArg Prod.snd (undelete_text call.swept item store)

/-- A call that deletes something deletes all that it names. -/
theorem run_deletes {call : Call} {store : HistoryStore ℤ}
    (parsed : ∀ id ∈ call.request.ids, ∃ item : ItemId, id = item.text) {id : String}
    (named : id ∈ call.request.deleted) :
    call.run store = softDelete call.now call.swept (articleIdsOf call.request.deleted)
      (eventIdsOf call.request.deleted) store := by
  rcases run_cases call store parsed with run | ⟨none_, _⟩ | ⟨item, request, _⟩
  · exact run
  · rw [none_] at named
    cases named
  · rw [request] at named
    cases named

/-! ## The ids that have been shown -/

/-- What stays true of an item that has been shown: its article is there, or has gone with all of
its events; its event, where it is there, is an orphan that publishes. -/
def Sound (store : HistoryStore ℤ) : ItemId → Prop
  | .article articleId =>
    store.articleKnown articleId = true ∨ ∀ event ∈ store.events, event.articleId ≠ some articleId
  | .orphan eventId =>
    ∀ event ∈ store.events, event.id = eventId →
      store.isOrphan event = true ∧ event.kind ∈ publishKinds

def ShownSound (shown : Set String) (store : HistoryStore ℤ) : Prop :=
  ∀ id ∈ shown, ∃ item : ItemId, id = item.text ∧ Sound store item

theorem Sound.within {after before : HistoryStore ℤ} (within : Within after before) {item : ItemId}
    (sound : Sound before item) : Sound after item := by
  cases item with
  | article articleId =>
    cases known : after.articleKnown articleId with
    | true => exact Or.inl known
    | false =>
      refine Or.inr ?_
      rcases sound with there | away
      · exact within.gone articleId there known
      · intro event h
        have ⟨source, hsource, same⟩ := within.events event h
        rw [articleId_of_unmarked same]
        exact away source hsource
  | orphan eventId =>
    intro event h named
    have ⟨source, hsource, same⟩ := within.events event h
    have ⟨orphan, kind⟩ := sound source hsource ((id_of_unmarked same).symm.trans named)
    exact ⟨within.orphan same orphan, (kind_of_unmarked same) ▸ kind⟩

theorem showable_sound (store : HistoryStore ℤ) : ShownSound (showable store) store := by
  rintro id ⟨view, entry, shown_, rfl⟩
  rcases List.mem_append.1 shown_ with h | h
  · have ⟨row, hrow, made⟩ := List.mem_map.1 h
    refine ⟨.article row.articleId, by rw [← made]; rfl, Or.inl ?_⟩
    exact articleKnown_iff.2 ⟨row, (List.mem_filter.1 hrow).1, rfl⟩
  · have ⟨event, hevent, made⟩ := List.mem_map.1 h
    have ⟨member, passes⟩ := List.mem_filter.1 hevent
    rw [Bool.and_eq_true, Bool.and_eq_true, decide_eq_true_iff] at passes
    refine ⟨.orphan event.id, by rw [← made]; rfl, fun other hother same => ?_⟩
    rw [List.inj_on_of_nodup_map store.eventIds hother member same]
    exact passes.1

theorem within_softMarks (now : ℤ) (articleIds eventIds : List ℕ) (store : HistoryStore ℤ) :
    Within (softMarks now articleIds eventIds store) store :=
  (within_markEvents _ _ _).trans
    ((within_markArticles _ _ _).trans (within_markEvents _ _ _))

theorem within_softDelete (now swept : ℤ) (articleIds eventIds : List ℕ) (store : HistoryStore ℤ) :
    Within (softDelete now swept articleIds eventIds store) store :=
  (within_purged _ _).trans (within_softMarks now articleIds eventIds store)

theorem within_restore (swept : ℤ) (item : ItemId) (store : HistoryStore ℤ) :
    Within (restore swept item store).2 store := by
  cases item with
  | article articleId =>
    exact (within_markEvents _ _ _).trans
      ((within_markArticles _ _ _).trans (within_purged swept store))
  | orphan eventId => exact (within_markEvents _ _ _).trans (within_purged swept store)

theorem within_run (call : Call) {store : HistoryStore ℤ}
    (parsed : ∀ id ∈ call.request.ids, ∃ item : ItemId, id = item.text) :
    Within (call.run store) store := by
  rcases run_cases call store parsed with run | ⟨_, run⟩ | ⟨item, _, run⟩
  · rw [run]
    exact within_softDelete _ _ _ _ _
  · rw [run]
    exact Within.refl store
  · rw [run]
    exact within_restore _ _ _

def Invariant (session : Session) : Prop := ShownSound session.shown session.store

theorem Admissible.parsed {session : Session} {call : Call} (inv : Invariant session)
    (admissible : Admissible session call) :
    ∀ id ∈ call.request.ids, ∃ item : ItemId, id = item.text := by
  intro id h
  have ⟨item, text, _⟩ := inv id (admissible.1 id h)
  exact ⟨item, text⟩

theorem Admissible.sound {session : Session} {call : Call} (inv : Invariant session)
    (admissible : Admissible session call) :
    ∀ id ∈ call.request.ids, ∃ item : ItemId, id = item.text ∧ Sound session.store item :=
  fun id h => inv id (admissible.1 id h)

theorem invariant_after {session : Session} {call : Call} (inv : Invariant session)
    (admissible : Admissible session call) : Invariant (session.after call) := by
  rintro id (before | fresh)
  · have ⟨item, text, sound⟩ := inv id before
    exact ⟨item, text, sound.within (within_run call (admissible.parsed inv))⟩
  · exact showable_sound _ id fresh

theorem invariant_reaches {session later : Session} {ok : Session → Call → Prop}
    (inv : Invariant session) (allowed : ∀ s call, ok s call → Admissible s call)
    (run : Reaches step ok session later) : Invariant later := by
  apply Reaches.invariant run inv
  intro s call t here admissible made
  rw [← Option.some.inj made]
  exact invariant_after here (allowed s call admissible)

theorem Reachable.invariant {session : Session} (reachable : Reachable session) :
    Invariant session := by
  have ⟨store, clock, run⟩ := reachable
  have start : Invariant (opened store clock) := showable_sound store
  exact invariant_reaches start (fun _ _ h => h) run

/-! ## A deleted article -/

theorem not_expired {now swept : ℤ} (recent : swept - now ≤ purgeWindowSeconds * second) :
    expired (cutoff swept) (some now) = false := by
  have late : ¬ now < cutoff swept := by
    unfold cutoff
    omega
  unfold expired
  rw [Option.any_some, decide_eq_false late]

/-- The row of a deleted article with its mark, and its events apart from theirs. -/
structure HeldArticle (row : ArticleRow ℤ) (own : List (EventRow ℤ)) (now : ℤ)
    (store : HistoryStore ℤ) : Prop where
  stays : { row with deletedAt := some now } ∈ store.articles
  own : (ownEvents store.events row.articleId).map unmarked = own

section HeldArticle
variable {row : ArticleRow ℤ} {own : List (EventRow ℤ)} {now swept : ℤ} {store : HistoryStore ℤ}

/-- Marks do not change which events an article has. -/
theorem ownEvents_markEvents (hit : EventRow ℤ → Bool) (deletedAt : Option ℤ) (articleId : ℕ) :
    ownEvents (markEvents hit deletedAt store).events articleId =
      (ownEvents store.events articleId).map (markEvent hit deletedAt) := by
  unfold ownEvents markEvents
  rw [List.filter_map]
  congr 1
  apply List.filter_congr
  intro event _
  change decide ((markEvent hit deletedAt event).articleId = some articleId) = _
  rw [articleId_of_unmarked (unmarked_markEvent hit deletedAt event)]

theorem ownEvents_marked (hit : EventRow ℤ → Bool) (deletedAt : Option ℤ) (articleId : ℕ) :
    (ownEvents (markEvents hit deletedAt store).events articleId).map unmarked =
      (ownEvents store.events articleId).map unmarked := by
  rw [ownEvents_markEvents, List.map_map]
  apply List.map_congr_left
  intro event _
  exact unmarked_markEvent hit deletedAt event

theorem HeldArticle.markEvents (held : HeldArticle row own now store) (hit : EventRow ℤ → Bool)
    (deletedAt : Option ℤ) : HeldArticle row own now (markEvents hit deletedAt store) where
  stays := held.stays
  own := (ownEvents_marked hit deletedAt row.articleId).trans held.own

theorem HeldArticle.markArticles (held : HeldArticle row own now store)
    {hit : ArticleRow ℤ → Bool} (spared : hit { row with deletedAt := some now } = false)
    (deletedAt : Option ℤ) : HeldArticle row own now (markArticles hit deletedAt store) where
  stays := by
    refine List.mem_map.2 ⟨_, held.stays, ?_⟩
    unfold markArticle
    rw [spared, if_neg Bool.false_ne_true]
  own := held.own

theorem HeldArticle.purged (held : HeldArticle row own now store)
    (recent : swept - now ≤ purgeWindowSeconds * second) :
    HeldArticle row own now (purgeExpiredRows swept store).2 where
  stays := mem_purged_articles.2 ⟨held.stays, not_expired recent⟩
  own := by
    have left_ : row.articleId ∉ expiredIds (cutoff swept) store := by
      intro gone
      have gone := (mem_expiredIds held.stays).1 gone
      rw [not_expired recent] at gone
      cases gone
    have same : ownEvents (purgeExpiredRows swept store).2.events row.articleId =
        ownEvents store.events row.articleId := by
      change List.filter _ (List.filter _ (List.filter _ store.events)) = List.filter _ _
      rw [List.filter_filter, List.filter_filter]
      apply List.filter_congr
      intro event _
      by_cases mine : event.articleId = some row.articleId
      · unfold ofArticles
        rw [mine]
        simp [left_]
      · simp [mine]
    rw [same]
    exact held.own

theorem held_softDelete {articleIds eventIds : List ℕ} (member : row ∈ store.articles)
    (live : row.deletedAt = none) (named : row.articleId ∈ articleIds)
    (recent : swept - now ≤ purgeWindowSeconds * second) :
    HeldArticle row ((ownEvents store.events row.articleId).map unmarked) now
      (softDelete now swept articleIds eventIds store) := by
  refine HeldArticle.purged ⟨?_, ?_⟩ recent
  · rw [softMarks_articles]
    refine List.mem_map.2 ⟨row, member, ?_⟩
    unfold softMark
    rw [live, List.contains_iff_mem.2 named]
    rfl
  · unfold softMarks
    rw [ownEvents_marked]
    exact ownEvents_marked (liveOfArticles articleIds) (some now) row.articleId

/-- A deleted article is held as long as nobody brings it back and the window is open. -/
theorem HeldArticle.run (held : HeldArticle row own now store) {call : Call}
    (parsed : ∀ id ∈ call.request.ids, ∃ item : ItemId, id = item.text)
    (other : call.request ≠ .undelete (ItemId.article row.articleId).text)
    (recent : call.swept - now ≤ purgeWindowSeconds * second) :
    HeldArticle row own now (call.run store) := by
  rcases run_cases call store parsed with run | ⟨_, run⟩ | ⟨item, request, run⟩
  · rw [run]
    apply HeldArticle.purged _ recent
    exact ((held.markEvents _ _).markArticles (Bool.and_false _) _).markEvents _ _
  · rw [run]
    exact held
  · rw [run]
    have purged := held.purged recent
    cases item with
    | orphan eventId => exact purged.markEvents _ _
    | article articleId =>
      refine (purged.markArticles ?_ _).markEvents _ _
      have distinct : row.articleId ≠ articleId := by
        rintro rfl
        exact other request
      change (decide (row.articleId = articleId) && true) = false
      rw [decide_eq_false distinct]
      rfl

/-- Bringing it back. -/
theorem HeldArticle.restored (held : HeldArticle row own now store)
    (live : row.deletedAt = none) :
    (restoreArticle row.articleId store).1 = true ∧
      row ∈ (restoreArticle row.articleId store).2.articles ∧
      ownEvents (restoreArticle row.articleId store).2.events row.articleId = own := by
  refine ⟨?_, ?_, ?_⟩
  · change decide (0 < store.articles.countP _) = true
    rw [decide_eq_true_iff, List.countP_pos_iff]
    refine ⟨_, held.stays, ?_⟩
    change (decide (row.articleId = row.articleId) && true) = true
    rw [decide_eq_true rfl]
    rfl
  · refine List.mem_map.2 ⟨_, held.stays, ?_⟩
    unfold markArticle
    rw [if_pos]
    · rw [← live]
    · change (decide (row.articleId = row.articleId) && true) = true
      rw [decide_eq_true rfl]
      rfl
  · rw [← held.own]
    unfold restoreArticle
    rw [ownEvents_markEvents]
    apply List.map_congr_left
    intro event h
    have mine := (List.mem_filter.1 h).2
    apply markEvent_clear
    intro marked
    rw [mine, marked]
    rfl

end HeldArticle

/-! ## A deleted orphan -/

/-- A deleted orphan with its mark. -/
structure HeldOrphan (event : EventRow ℤ) (now : ℤ) (store : HistoryStore ℤ) : Prop where
  stays : { event with deletedAt := some now } ∈ store.events
  orphan : store.isOrphan event = true

section HeldOrphan
variable {event : EventRow ℤ} {now swept : ℤ} {store : HistoryStore ℤ}

theorem HeldOrphan.markEvents (held : HeldOrphan event now store) {hit : EventRow ℤ → Bool}
    (spared : hit { event with deletedAt := some now } = false) (deletedAt : Option ℤ) :
    HeldOrphan event now (markEvents hit deletedAt store) where
  stays := by
    refine List.mem_map.2 ⟨_, held.stays, ?_⟩
    unfold markEvent
    rw [spared, if_neg Bool.false_ne_true]
  orphan := (within_markEvents hit deletedAt store).orphan rfl held.orphan

theorem HeldOrphan.markArticles (held : HeldOrphan event now store) (hit : ArticleRow ℤ → Bool)
    (deletedAt : Option ℤ) : HeldOrphan event now (markArticles hit deletedAt store) where
  stays := held.stays
  orphan := (within_markArticles hit deletedAt store).orphan rfl held.orphan

theorem orphan_not_ofArticles {articleIds : List ℕ}
    (known : ∀ articleId ∈ articleIds, store.articleKnown articleId = true)
    (orphan : store.isOrphan event = true) : ofArticles articleIds event = false := by
  unfold HistoryStore.isOrphan at orphan
  unfold ofArticles
  rw [Option.all_eq_true] at orphan
  rw [Option.any_eq_false]
  intro articleId own
  have unknown := orphan articleId own
  rw [Bool.not_eq_true'] at unknown
  rw [Bool.eq_false_iff, ne_eq, List.contains_iff_mem]
  intro named
  rw [known articleId named] at unknown
  cases unknown

theorem expiredIds_known {cutoff : ℤ} : ∀ articleId ∈ expiredIds cutoff store,
    store.articleKnown articleId = true := by
  intro articleId h
  have ⟨row, hrow, same⟩ := List.mem_map.1 h
  exact articleKnown_iff.2 ⟨row, (List.mem_filter.1 hrow).1, same⟩

theorem HeldOrphan.purged (held : HeldOrphan event now store)
    (recent : swept - now ≤ purgeWindowSeconds * second) :
    HeldOrphan event now (purgeExpiredRows swept store).2 where
  stays := by
    refine mem_purged_events.2 ⟨held.stays, ?_, fun gone => ?_⟩
    · exact orphan_not_ofArticles expiredIds_known held.orphan
    · have recent_ : expired (cutoff swept) (some now) = true := gone.1
      rw [not_expired recent] at recent_
      cases recent_
  orphan := (within_purged swept store).orphan rfl held.orphan

theorem held_softDelete_orphan {articleIds eventIds : List ℕ} (member : event ∈ store.events)
    (orphan : store.isOrphan event = true) (live : event.deletedAt = none)
    (named : event.id ∈ eventIds) (recent : swept - now ≤ purgeWindowSeconds * second) :
    HeldOrphan event now (softDelete now swept articleIds eventIds store) := by
  refine HeldOrphan.purged ⟨?_, ?_⟩ recent
  · rw [softMarks_events]
    refine List.mem_map.2 ⟨event, member, ?_⟩
    unfold softMark
    rw [live, List.contains_iff_mem.2 named, Bool.or_true]
    rfl
  · exact (within_softMarks now articleIds eventIds store).orphan rfl orphan

/-- A deleted orphan is held as long as nobody brings it back and the window is open. -/
theorem HeldOrphan.run (held : HeldOrphan event now store) {call : Call}
    (sound : ∀ id ∈ call.request.ids, ∃ item : ItemId, id = item.text ∧ Sound store item)
    (other : call.request ≠ .undelete (ItemId.orphan event.id).text)
    (recent : call.swept - now ≤ purgeWindowSeconds * second) :
    HeldOrphan event now (call.run store) := by
  have parsed : ∀ id ∈ call.request.ids, ∃ item : ItemId, id = item.text := fun id h =>
    (sound id h).imp fun _ h => h.1
  rcases run_cases call store parsed with run | ⟨_, run⟩ | ⟨item, request, run⟩
  · rw [run]
    apply HeldOrphan.purged _ recent
    exact ((held.markEvents (Bool.and_false _) _).markArticles _ _).markEvents (Bool.and_false _) _
  · rw [run]
    exact held
  · rw [run]
    have purged := held.purged recent
    cases item with
    | orphan eventId =>
      apply purged.markEvents
      have distinct : event.id ≠ eventId := by
        rintro rfl
        exact other request
      change (decide (event.id = eventId) && true) = false
      rw [decide_eq_false distinct]
      rfl
    | article articleId =>
      apply (purged.markArticles _ _).markEvents
      have distinct : event.articleId ≠ some articleId := by
        intro own
        rw [request] at sound
        have ⟨item, text, sound⟩ := sound _ List.mem_cons_self
        have same : item = .article articleId := by
          apply Option.some.inj
          rw [← parseId_text item, ← parseId_text (.article articleId), text]
        rw [same] at sound
        have orphan := held.orphan
        unfold HistoryStore.isOrphan at orphan
        rw [own, Option.all_some] at orphan
        rcases sound with known | away
        · rw [known] at orphan
          cases orphan
        · exact away _ held.stays own
      change (decide (event.articleId = some articleId) && true) = false
      rw [decide_eq_false distinct]
      rfl

/-- Bringing it back. -/
theorem HeldOrphan.restored (held : HeldOrphan event now store) (live : event.deletedAt = none) :
    (restoreOrphan event.id store).1 = true ∧ event ∈ (restoreOrphan event.id store).2.events ∧
      (restoreOrphan event.id store).2.isOrphan event = true := by
  have hit : (decide (event.id = event.id) && true) = true := by
    rw [decide_eq_true rfl]
    rfl
  refine ⟨?_, ?_, (within_markEvents _ none store).orphan rfl held.orphan⟩
  · change decide (0 < store.events.countP _) = true
    rw [decide_eq_true_iff, List.countP_pos_iff]
    exact ⟨_, held.stays, hit⟩
  · refine List.mem_map.2 ⟨_, held.stays, ?_⟩
    unfold markEvent
    rw [if_pos]
    · rw [← live]
    · exact hit

end HeldOrphan

end BacklinkPublisher.UndoWindow
