import BacklinkPublisher.HistoryItems
import BacklinkPublisher.KeyedMaxima

set_option autoImplicit false

/-!
# The events of an article

The item of an article is made of its row and of its own events, whatever their marks.
-/
namespace BacklinkPublisher.OwnEvents
open EventPayloads EventStore HistoryItems KeyedMaxima OptionFolds

variable {τ : Type}

/-- An event apart from its mark. -/
def unmarked (event : EventRow τ) : EventRow τ := { event with deletedAt := none }

def ownEvents (events : List (EventRow τ)) (articleId : ℕ) : List (EventRow τ) :=
  events.filter fun event => event.articleId = some articleId

/-- The same events of an article, apart from their marks. -/
def SameEvents (events events' : List (EventRow τ)) (articleId : ℕ) : Prop :=
  (ownEvents events articleId).map unmarked = (ownEvents events' articleId).map unmarked

theorem SameEvents.of_eq {events events' : List (EventRow τ)} {articleId : ℕ}
    (same : ownEvents events articleId = ownEvents events' articleId) :
    SameEvents events events' articleId := congrArg (List.map unmarked) same

/-! ## The publish event -/

theorem latestPublish_unmarked (events : List (EventRow τ)) (articleId : ℕ) :
    (latestPublish events articleId).map unmarked =
      (((ownEvents events articleId).map unmarked).filter fun event =>
        event.kind ∈ publishKinds).argmax EventRow.id := by
  have own : (events.filter fun event =>
      event.articleId = some articleId ∧ event.kind ∈ publishKinds) =
      (ownEvents events articleId).filter fun event => event.kind ∈ publishKinds := by
    unfold ownEvents
    rw [List.filter_filter]
    apply List.filter_congr
    intro event _
    rw [Bool.and_comm, Bool.decide_and]
  unfold latestPublish
  rw [own, List.filter_map, argmax_map]
  rfl

/-! ## The verdict -/

theorem latestRechecks_own (events : List (EventRow τ)) (articleId : ℕ) :
    (latestRechecks events).filter (fun event => event.articleId = some articleId) =
      latestRechecks (ownEvents events articleId) := by
  unfold latestRechecks ownEvents
  rw [List.filter_filter, List.filter_filter]
  apply List.filter_congr
  intro event _
  rw [Bool.eq_iff_iff, Bool.and_eq_true, Bool.and_eq_true, decide_eq_true_iff, decide_eq_true_iff,
    decide_eq_true_iff, and_comm]
  apply and_congr_left
  intro mine
  apply and_congr_right
  intro _
  apply and_congr_right
  intro _
  constructor
  · intro greatest other hother
    exact greatest other (List.mem_filter.1 hother).1
  · intro greatest other hother kind same
    exact greatest other (List.mem_filter.2 ⟨hother, decide_eq_true (same.trans mine)⟩) kind same

theorem latestRechecks_unmarked (events : List (EventRow τ)) :
    latestRechecks (events.map unmarked) = (latestRechecks events).map unmarked := by
  unfold latestRechecks
  rw [List.filter_map]
  congr 1
  apply List.filter_congr
  intro event _
  simp only [Function.comp_apply, List.forall_mem_map]
  rfl

/-- Verdicts are read event by event. -/
theorem latestVerdicts_read {loads : String → JsonOutcome} {events : List (EventRow τ)}
    {verdicts : List HistoryItems.Verdict}
    (known : latestVerdicts loads events = some verdicts) :
    ∃ read : EventRow τ → HistoryItems.Verdict,
      (∀ event ∈ latestRechecks events, verdictOf loads event = some (read event)) ∧
      (∀ event, (read event).articleId = event.articleId) ∧
      verdicts = (latestRechecks events).map read := by
  let read (event : EventRow τ) : HistoryItems.Verdict :=
    (verdictOf loads event).getD ⟨event.articleId, .null, false⟩
  have reads : ∀ event ∈ latestRechecks events, verdictOf loads event = some (read event) := by
    intro event hevent
    have ⟨verdict, some_⟩ := Option.isSome_iff_exists.1 (isSome_of_mapM known event hevent)
    change _ = some ((verdictOf loads event).getD _)
    rw [some_]
    rfl
  refine ⟨read, reads, ?_, ?_⟩
  · intro event
    change ((verdictOf loads event).getD _).articleId = _
    unfold verdictOf
    cases payloadOf loads (some event.payloadJson) <;> rfl
  · apply Option.some.inj
    rw [← known]
    exact mapM_of_forall reads

theorem find_verdict {loads : String → JsonOutcome} {events : List (EventRow τ)}
    {verdicts : List HistoryItems.Verdict}
    (known : latestVerdicts loads events = some verdicts) (articleId : ℕ) :
    verdicts.find? (fun verdict => verdict.articleId = some articleId) =
      (latestRechecks ((ownEvents events articleId).map unmarked)).head?.bind
        (verdictOf loads) := by
  have ⟨read, reads, own, all⟩ := latestVerdicts_read known
  have mine : (fun verdict : HistoryItems.Verdict => decide (verdict.articleId = some articleId)) ∘
      read = fun event => decide (event.articleId = some articleId) := by
    funext event
    exact congrArg (fun id : Option ℕ => decide (id = some articleId)) (own event)
  rw [all, List.find?_map, mine, latestRechecks_unmarked, ← latestRechecks_own, List.head?_map,
    List.head?_filter]
  cases first : (latestRechecks events).find? fun event => event.articleId = some articleId with
  | none => rfl
  | some event => exact (reads event (List.mem_of_find?_eq_some first)).symm

/-! ## The item -/

theorem targetDofollow_same {loads : String → JsonOutcome} {events events' : List (EventRow τ)}
    {verdicts verdicts' : List HistoryItems.Verdict} {articleId : ℕ}
    (known : latestVerdicts loads events = some verdicts)
    (known' : latestVerdicts loads events' = some verdicts')
    (same : SameEvents events events' articleId) :
    targetDofollow verdicts articleId = targetDofollow verdicts' articleId := by
  unfold targetDofollow
  rw [find_verdict known, find_verdict known', same]

theorem itemOf_unmarked (loads : String → JsonOutcome) (verdicts : List HistoryItems.Verdict)
    (view : View τ) (row : ArticleRow τ) (event : Option (EventRow τ)) :
    itemOf loads verdicts view (.article row event) =
      itemOf loads verdicts view (.article row (event.map unmarked)) := by
  cases event <;> rfl

/-- Two stores with the same events of an article make the same item of it. -/
theorem itemOf_same {loads : String → JsonOutcome} {store store' : HistoryStore τ}
    {verdicts verdicts' : List HistoryItems.Verdict} {row : ArticleRow τ} {view : View τ}
    (known : latestVerdicts loads store.events = some verdicts)
    (known' : latestVerdicts loads store'.events = some verdicts')
    (same : SameEvents store.events store'.events row.articleId) :
    itemOf loads verdicts view (entryOf store row) =
      itemOf loads verdicts' view (entryOf store' row) := by
  have target := targetDofollow_same known known' same
  have published : (latestPublish store.events row.articleId).map unmarked =
      (latestPublish store'.events row.articleId).map unmarked := by
    rw [latestPublish_unmarked, latestPublish_unmarked, same]
  have blank : ∀ event, (Entry.article row event).blank verdicts =
      (Entry.article row event).blank verdicts' := by
    intro event
    change articleFields verdicts row = articleFields verdicts' row
    unfold articleFields
    rw [target]
  have verdicts_ : ∀ event, itemOf loads verdicts view (.article row event) =
      itemOf loads verdicts' view (.article row event) := by
    intro event
    unfold itemOf Entry.item
    rw [blank]
  unfold entryOf
  rw [itemOf_unmarked, published, ← itemOf_unmarked]
  exact verdicts_ _

end BacklinkPublisher.OwnEvents
