import BacklinkPublisher.HistoryItems
import BacklinkPublisher.MergedPages

set_option autoImplicit false

/-!
# Pages of the history

`list_history` of `events/history_query.py` with a shorter and a longer limit. Articles are cut in
the order of their time of publication, orphans in that of their ids, and the items of both are
sorted by the time they show.
-/
namespace BacklinkPublisher.HistoryPages
open EventPayloads HistoryItems MergedPages SortedLists

variable {τ : Type}

/-- The time that the item of a row shows. -/
def createdAt : Entry τ → String
  | .article row event => textOr row.publishedAtUtc ((event.map EventRow.tsUtc).getD "")
  | .orphan event => event.tsUtc

/-- Latest first, and among equals the greatest id. -/
def rowKey (entry : Entry τ) : (String ×ₗ String)ᵒᵈ :=
  OrderDual.toDual (toLex (createdAt entry, entry.id))

theorem item_createdAt (verdicts : List HistoryItems.Verdict) (windowed : Bool) (entry : Entry τ)
    (payload : EventStore.Payload) :
    (entry.item verdicts windowed payload).createdAt = createdAt entry := by
  have later : ∀ (event : EventRow τ) (item : HistoryItem τ),
      (eventFields event payload item).createdAt =
        if item.createdAt = "" then event.tsUtc else item.createdAt := by
    intro event item
    unfold eventFields failedFields publishedFields
    split_ifs <;> rfl
  cases entry with
  | orphan event => exact later event _
  | article row event =>
    cases event with
    | none => rfl
    | some event =>
      refine (later event _).trans ?_
      unfold createdAt
      change (if textOr row.publishedAtUtc "" = "" then event.tsUtc
        else textOr row.publishedAtUtc "") = textOr row.publishedAtUtc event.tsUtc
      unfold textOr
      by_cases empty : row.publishedAtUtc.getD "" = "" <;> simp [empty]

section Pages
variable [LinearOrder τ] (loads : String → JsonOutcome) (store : HistoryStore τ) (view : View τ)

/-- The articles in the order of the first query. -/
def articleOrder : List (Entry τ) :=
  (sortedBy publishedDesc (articlesShown store view)).map (entryOf store)

/-- The orphans in the order of the second query. -/
def orphanOrder : List (Entry τ) := (sortedBy idDesc (orphansShown store view)).map .orphan

theorem cutEntries_eq (limit : ℕ) :
    cutEntries store view limit = cut (articleOrder store view) (orphanOrder store view) limit := by
  unfold cutEntries articleEntries orphanEntries cut articleOrder orphanOrder
  rw [List.map_take, List.map_take]

variable {loads store view}

omit [LinearOrder τ] in
theorem itemKey_itemOf (verdicts : List HistoryItems.Verdict) (entry : Entry τ) :
    itemKey (itemOf loads verdicts view entry) = rowKey entry := by
  unfold itemKey itemOf rowKey
  rw [item_createdAt, item_id]

/-- The list is the items of a page of rows. -/
theorem listHistory_page {limit : ℕ} {items : List (HistoryItem τ)} :
    listHistory loads store limit view = some items ↔
      ∃ verdicts, latestVerdicts loads store.events = some verdicts ∧
        Legible loads (cutEntries store view limit) ∧
        items = (page rowKey (articleOrder store view) (orphanOrder store view) limit).map
          (itemOf loads verdicts view) := by
  rw [listHistory_iff]
  apply exists_congr
  intro verdicts
  apply and_congr_right
  intro _
  apply and_congr_right
  intro _
  have keys : (fun entry => itemKey (itemOf loads verdicts view entry)) = rowKey := by
    funext entry
    exact itemKey_itemOf verdicts entry
  unfold page
  rw [← map_sortedBy, keys, cutEntries_eq, List.map_take]

theorem distinct_rows (store : HistoryStore τ) (view : View τ) :
    DistinctKeys Entry.id (articleOrder store view ++ orphanOrder store view) := by
  have perm : (articleOrder store view ++ orphanOrder store view).Perm (entries store view) :=
    ((sortedBy_perm publishedDesc _).map _).append ((sortedBy_perm idDesc _).map _)
  exact DistinctKeys.perm (entries_nodup store view) perm

theorem page_subset (k : ℕ) :
    page rowKey (articleOrder store view) (orphanOrder store view) k ⊆
      articleOrder store view ++ orphanOrder store view := by
  intro row taken
  have sorted := List.mem_of_mem_take taken
  exact (cut_sublist_all k).subset ((mem_sortedBy rowKey).1 sorted)

/-- A list is sorted by the times that its items show, latest first. -/
theorem createdAt_nonincreasing {limit : ℕ} {items : List (HistoryItem τ)}
    (listed : listHistory loads store limit view = some items) :
    items.Pairwise fun a b => b.createdAt ≤ a.createdAt := by
  have ⟨_, _, _, made⟩ := listHistory_iff.1 listed
  rw [made]
  apply List.Pairwise.sublist (List.take_sublist _ _)
  apply (sortedBy_pairwise _).imp
  intro a b le
  exact (Prod.Lex.toLex_le_toLex'.1 (OrderDual.toDual_le_toDual.1 le)).1

theorem distinct_rowKeys (store : HistoryStore τ) (view : View τ) :
    DistinctKeys rowKey (articleOrder store view ++ orphanOrder store view) := by
  unfold DistinctKeys
  apply List.Nodup.of_map fun key => (ofLex (OrderDual.ofDual key)).2
  rw [List.map_map]
  exact distinct_rows store view

/-- Pages of rows differ where their items do. -/
theorem page_eq_of_items {verdicts : List HistoryItems.Verdict} {k n : ℕ}
    (same : (page rowKey (articleOrder store view) (orphanOrder store view) k).map
        (itemOf loads verdicts view) =
      ((page rowKey (articleOrder store view) (orphanOrder store view) n).take k).map
        (itemOf loads verdicts view)) :
    page rowKey (articleOrder store view) (orphanOrder store view) k =
      (page rowKey (articleOrder store view) (orphanOrder store view) n).take k := by
  have ids : HistoryItem.id ∘ itemOf loads verdicts view = Entry.id := by
    funext entry
    exact item_id verdicts view.windowed entry _
  have same := congrArg (List.map HistoryItem.id) same
  rw [List.map_map, List.map_map, ids] at same
  exact (distinct_rows store view).eq_of_map_eq (page_subset k)
    (fun row taken => page_subset n (List.mem_of_mem_take taken)) same

/-- A shorter page begins a longer one: it has the first `k` of its items, in the order of the
times they show. -/
def PagesNest (loads : String → JsonOutcome) (store : HistoryStore τ) (view : View τ) (k n : ℕ) :
    Prop :=
  (∀ items, listHistory loads store n view = some items →
    listHistory loads store k view = some (items.take k)) ∧
  ∀ items, listHistory loads store k view = some items →
    items.Pairwise fun a b => b.createdAt ≤ a.createdAt

/-- The page of `k` begins the page of `n`, where this one can be made, if and only if each row that
the queries cut at `k` and not at `n` has `k` rows ahead of it by time and id. -/
theorem pages_nest_iff (loads : String → JsonOutcome) (store : HistoryStore τ) (view : View τ)
    {k n : ℕ} (le : k ≤ n) :
    PagesNest loads store view k n ↔
      ((latestVerdicts loads store.events).isSome → Legible loads (cutEntries store view n) →
        ∀ row ∈ cutEntries store view n, row ∉ cutEntries store view k →
          k ≤ ahead rowKey (cutEntries store view n) (rowKey row)) := by
  have begins := page_begins_iff (distinct_rowKeys store view) le
  rw [← cutEntries_eq, ← cutEntries_eq] at begins
  rw [← begins]
  constructor
  · rintro ⟨nest, _⟩ readable legible
    have ⟨verdicts, known⟩ := Option.isSome_iff_exists.1 readable
    have shorter := nest _ (listHistory_page.2 ⟨verdicts, known, legible, rfl⟩)
    have ⟨verdicts', known', _, same⟩ := listHistory_page.1 shorter
    rw [known] at known'
    rw [← Option.some.inj known', ← List.map_take] at same
    exact page_eq_of_items same.symm
  · intro nest
    refine ⟨fun items listed => ?_, fun items listed => createdAt_nonincreasing listed⟩
    have ⟨verdicts, known, legible, made⟩ := listHistory_page.1 listed
    have fewer : Legible loads (cutEntries store view k) := by
      intro row hrow
      rw [cutEntries_eq] at hrow
      apply legible row
      rw [cutEntries_eq]
      exact (cut_sublist le).subset hrow
    apply listHistory_page.2
    refine ⟨verdicts, known, fewer, ?_⟩
    rw [made, nest (by rw [known]; rfl) legible, List.map_take]

end Pages

/-! ## Two articles -/

def firstArticle : ArticleRow ℕ := { articleId := 1, publishedAtUtc := some "2026-01-02" }

/-- It has no time of its own, and its event is later. -/
def untimedArticle : ArticleRow ℕ := { articleId := 2 }

def confirmedEvent (articleId : ℕ) (tsUtc : String) : EventRow ℕ where
  id := articleId
  tsUtc := tsUtc
  kind := kindConfirmed
  articleId := some articleId
  payloadJson := ""

def twoArticles : HistoryStore ℕ where
  articles := [firstArticle, untimedArticle]
  events := [confirmedEvent 2 "2026-03-04"]
  articleIds := by decide
  eventIds := by decide

/-- Both articles have a time of their own. -/
def timedArticles : HistoryStore ℕ where
  articles := [firstArticle, { untimedArticle with publishedAtUtc := some "2026-03-04" }]
  events := []
  articleIds := by decide
  eventIds := by decide

theorem pages_nest_timed : PagesNest (fun _ => .other) timedArticles .live 1 2 := by
  apply (pages_nest_iff (fun _ => .other) timedArticles .live (by decide)).2
  intro _ _
  decide +kernel

/-- The page of one has the article that the page of two has last. -/
theorem pages_disagree :
    ¬ ∀ (loads : String → JsonOutcome) (store : HistoryStore ℕ) (view : View ℕ) (k n : ℕ), k ≤ n →
      PagesNest loads store view k n := by
  intro nest
  have two : (listHistory (fun _ => .other) twoArticles 2 .live).map (List.map HistoryItem.id) =
      some ["2", "1"] := by decide +kernel
  have one : (listHistory (fun _ => .other) twoArticles 1 .live).map (List.map HistoryItem.id) =
      some ["1"] := by decide +kernel
  have ⟨items, listed, ids⟩ := Option.map_eq_some_iff.1 two
  rw [(nest _ twoArticles .live 1 2 (by decide)).1 items listed, Option.map_some, List.map_take,
    ids] at one
  exact absurd one (by decide)

end BacklinkPublisher.HistoryPages
