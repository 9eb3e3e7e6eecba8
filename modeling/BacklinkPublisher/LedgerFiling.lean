import BacklinkPublisher.LedgerJoin

set_option autoImplicit false

/-!
# Where the ledger files a link

What the passes of the join keep, and when every link is filed once.
-/
namespace BacklinkPublisher.LedgerFiling
open Checkpoints OrderedDicts LedgerJoin

/-! ## Passes -/

/-- What every pass keeps: the index knows every link, and knows it where it is. -/
structure Indexed (join : Join) : Prop where
  keyed : WellKeyed join.buckets
  index : ∀ live target, join.liveIndex live = some target → Holds join.buckets target live
  known : ∀ live target, Holds join.buckets target live → join.liveIndex live ≠ none

/-- Every link is filed under one target only. -/
def Single (join : Join) : Prop :=
  ∀ live target, Holds join.buckets target live → join.liveIndex live = some target

/-- The links and the targets that are there stay. -/
structure Grows (join join' : Join) : Prop where
  holds : ∀ target live, Holds join.buckets target live → Holds join'.buckets target live
  targets : ∀ target, target ∈ join.buckets.map TargetBucket.targetUrl →
    target ∈ join'.buckets.map TargetBucket.targetUrl

theorem Grows.refl (join : Join) : Grows join join :=
  ⟨fun _ _ h => h, fun _ h => h⟩

theorem Grows.trans {join join' join'' : Join} (first : Grows join join')
    (second : Grows join' join'') : Grows join join'' :=
  ⟨fun target live h => second.holds target live (first.holds target live h),
    fun target h => second.targets target (first.targets target h)⟩

section Passes
variable {join : Join} {target live : String} {f : LinkRecord → LinkRecord}

theorem Indexed.attach (indexed : Indexed join) (kept : ∀ link, (f link).liveUrl = link.liveUrl) :
    Indexed (join.attach target live f) where
  keyed := wellKeyed_attach indexed.keyed kept
  index := by
    intro l t h
    rw [holds_attach kept]
    by_cases same : l = live
    · rw [same] at h ⊢
      have here : (join.attach target live f).liveIndex live = some target := Function.update_self ..
      rw [here] at h
      exact .inr ⟨(Option.some.inj h).symm, rfl⟩
    · have elsewhere : (join.attach target live f).liveIndex l = join.liveIndex l :=
        Function.update_of_ne same ..
      rw [elsewhere] at h
      exact .inl (indexed.index l t h)
  known := by
    intro l t holds
    by_cases same : l = live
    · rw [same]
      have here : (join.attach target live f).liveIndex live = some target := Function.update_self ..
      rw [here]
      exact Option.some_ne_none target
    · have elsewhere : (join.attach target live f).liveIndex l = join.liveIndex l :=
        Function.update_of_ne same ..
      rw [elsewhere]
      rcases (holds_attach kept).1 holds with holds | ⟨-, here⟩
      · exact indexed.known l t holds
      · exact absurd here same

theorem Single.attach (single : Single join) (kept : ∀ link, (f link).liveUrl = link.liveUrl)
    (free : ∀ t, join.liveIndex live = some t → t = target) :
    Single (join.attach target live f) := by
  intro l t holds
  by_cases same : l = live
  · have here : (join.attach target live f).liveIndex live = some target := Function.update_self ..
    rw [same] at holds ⊢
    rw [here]
    rcases (holds_attach kept).1 holds with holds | ⟨rfl, -⟩
    · rw [free t (single live t holds)]
    · rfl
  · have elsewhere : (join.attach target live f).liveIndex l = join.liveIndex l :=
      Function.update_of_ne same ..
    rw [elsewhere]
    rcases (holds_attach kept).1 holds with holds | ⟨-, here⟩
    · exact single l t holds
    · exact absurd here same

/-- A pass that only adds targets or changes what is not a key. -/
theorem Indexed.of_same (indexed : Indexed join) {buckets : List TargetBucket}
    (keyed : WellKeyed buckets)
    (same : ∀ t l, Holds buckets t l ↔ Holds join.buckets t l) :
    Indexed { join with buckets } where
  keyed := keyed
  index := fun l t h => (same t l).2 (indexed.index l t h)
  known := fun l t h => indexed.known l t ((same t l).1 h)

theorem Single.of_same (single : Single join) {buckets : List TargetBucket}
    (same : ∀ t l, Holds buckets t l ↔ Holds join.buckets t l) : Single { join with buckets } :=
  fun l t h => single l t ((same t l).1 h)

end Passes

/-- The article is a link from `live` to `target`. -/
def Filed (canonicalizeUrl : String → Option String) (row : ArticleRow) (target live : String) :
    Prop :=
  canon canonicalizeUrl row.targetUrls.head? = target ∧ canon canonicalizeUrl row.liveUrl = live ∧
    target ≠ "" ∧ live ≠ ""

/-- No two articles of one canonical live URL have different targets. -/
def Agree (canonicalizeUrl : String → Option String) (articles : List ArticleRow) : Prop :=
  ∀ row ∈ articles, ∀ row' ∈ articles, ∀ target target' live,
    Filed canonicalizeUrl row target live → Filed canonicalizeUrl row' target' live →
      target = target'

/-- The canonical live URL occurs in an article with a target or in the history. -/
def Occurs (canonicalizeUrl : String → Option String) (stores : LedgerStores) (live : String) :
    Prop :=
  live ≠ "" ∧ ((∃ row ∈ stores.articles, ∃ target, Filed canonicalizeUrl row target live) ∨
    ∃ item ∈ stores.history, ∃ rawUrl ∈ item.articleUrls,
      canon canonicalizeUrl (some rawUrl) = live)

section Steps
variable {canonicalizeUrl : String → Option String} {join : Join}

theorem articleStep_cases (join : Join) (row : ArticleRow) :
    (articleStep canonicalizeUrl join row = join ∧
      ∀ target live, ¬ Filed canonicalizeUrl row target live) ∨
    ∃ target live f, Filed canonicalizeUrl row target live ∧
      (∀ link : LinkRecord, (f link).liveUrl = link.liveUrl) ∧
      articleStep canonicalizeUrl join row = join.attach target live f := by
  by_cases empty : canon canonicalizeUrl row.targetUrls.head? = "" ∨
      canon canonicalizeUrl row.liveUrl = ""
  · refine .inl ⟨by simp [articleStep, empty], ?_⟩
    intro target live ⟨htarget, hlive, target_ne, live_ne⟩
    rcases empty with empty | empty
    · exact target_ne (htarget.symm.trans empty)
    · exact live_ne (hlive.symm.trans empty)
  · refine .inr ⟨_, _, _, ⟨rfl, rfl, fun h => empty (.inl h), fun h => empty (.inr h)⟩, ?_,
      if_neg empty⟩
    intro link
    cases truthy row.platform <;> rfl

theorem Indexed.articleStep (indexed : Indexed join) (row : ArticleRow) :
    Indexed (articleStep canonicalizeUrl join row) := by
  rcases articleStep_cases join row with ⟨same, -⟩ | ⟨target, live, f, -, kept, step⟩
  · rw [same]
    exact indexed
  · rw [step]
    exact indexed.attach kept

/-- The articles read so far put every link where one of them says. -/
def FiledBy (canonicalizeUrl : String → Option String) (articles : List ArticleRow) (join : Join) :
    Prop :=
  ∀ live target, join.liveIndex live = some target →
    ∃ row ∈ articles, Filed canonicalizeUrl row target live

theorem Single.articleStep {articles : List ArticleRow} (agree : Agree canonicalizeUrl articles)
    {row : ArticleRow} (hrow : row ∈ articles) (single : Single join)
    (filed : FiledBy canonicalizeUrl articles join) :
    Single (articleStep canonicalizeUrl join row) ∧
      FiledBy canonicalizeUrl articles (articleStep canonicalizeUrl join row) := by
  rcases articleStep_cases join row with ⟨same, -⟩ | ⟨target, live, f, here, kept, step⟩
  · rw [same]
    exact ⟨single, filed⟩
  · rw [step]
    constructor
    · apply single.attach kept
      intro t ht
      obtain ⟨row', hrow', there⟩ := filed live t ht
      exact agree row' hrow' row hrow t target live there here
    · intro l t h
      by_cases same : l = live
      · have indexed : (join.attach target live f).liveIndex live = some target :=
          Function.update_self ..
        rw [same, indexed] at h
        rw [same, ← Option.some.inj h]
        exact ⟨row, hrow, here⟩
      · have elsewhere : (join.attach target live f).liveIndex l = join.liveIndex l :=
          Function.update_of_ne same ..
        rw [elsewhere] at h
        exact filed l t h

theorem attemptedStep_same (row : EventRow) (t l : String) :
    Holds (attemptedStep canonicalizeUrl join row).buckets t l ↔ Holds join.buckets t l := by
  unfold attemptedStep
  dsimp only
  split_ifs
  · exact holds_bucketFor
  · exact Iff.rfl

theorem attemptedStep_index (row : EventRow) :
    attemptedStep canonicalizeUrl join row =
      { join with buckets := (attemptedStep canonicalizeUrl join row).buckets } := by
  unfold attemptedStep
  dsimp only
  split_ifs <;> rfl

theorem wellKeyed_attemptedStep (keyed : WellKeyed join.buckets) (row : EventRow) :
    WellKeyed (attemptedStep canonicalizeUrl join row).buckets := by
  unfold attemptedStep
  dsimp only
  split_ifs
  · exact keyed.bucketFor
  · exact keyed

theorem historyLinkStep_cases (item : HistoryItem) (join : Join) (rawUrl : String) :
    (canon canonicalizeUrl (some rawUrl) = "" ∧
      historyLinkStep canonicalizeUrl item join rawUrl = join) ∨
    (∃ target, join.liveIndex (canon canonicalizeUrl (some rawUrl)) = some target ∧
      historyLinkStep canonicalizeUrl item join rawUrl =
        join.revise target (canon canonicalizeUrl (some rawUrl)) item.mark) ∨
    (∃ target, join.liveIndex (canon canonicalizeUrl (some rawUrl)) = none ∧
      historyLinkStep canonicalizeUrl item join rawUrl =
        join.attach target (canon canonicalizeUrl (some rawUrl)) item.mark) := by
  unfold historyLinkStep
  dsimp only
  by_cases empty : canon canonicalizeUrl (some rawUrl) = ""
  · exact .inl ⟨empty, if_pos empty⟩
  · rw [if_neg empty]
    cases found : join.liveIndex (canon canonicalizeUrl (some rawUrl)) with
    | some target => exact .inr (.inl ⟨target, rfl, rfl⟩)
    | none => exact .inr (.inr ⟨_, rfl, rfl⟩)

theorem mark_liveUrl (item : HistoryItem) (link : LinkRecord) :
    (item.mark link).liveUrl = link.liveUrl := rfl

theorem Indexed.historyLinkStep (indexed : Indexed join) (item : HistoryItem) (rawUrl : String) :
    Indexed (historyLinkStep canonicalizeUrl item join rawUrl) := by
  rcases historyLinkStep_cases item join rawUrl with ⟨-, step⟩ | ⟨target, -, step⟩ | ⟨target, -, step⟩
  · rw [step]
    exact indexed
  · rw [step]
    exact indexed.of_same (wellKeyed_revise indexed.keyed (mark_liveUrl item))
      fun t l => holds_revise (mark_liveUrl item)
  · rw [step]
    exact indexed.attach (mark_liveUrl item)

theorem Single.historyLinkStep (single : Single join) (item : HistoryItem) (rawUrl : String) :
    Single (historyLinkStep canonicalizeUrl item join rawUrl) := by
  rcases historyLinkStep_cases item join rawUrl with ⟨-, step⟩ | ⟨target, -, step⟩ | ⟨target, free, step⟩
  · rw [step]
    exact single
  · rw [step]
    exact single.of_same fun t l => holds_revise (mark_liveUrl item)
  · rw [step]
    apply single.attach (mark_liveUrl item)
    intro t ht
    rw [free] at ht
    cases ht

theorem profileStep_same (rawTarget t l : String) :
    Holds (profileStep canonicalizeUrl join rawTarget).buckets t l ↔ Holds join.buckets t l := by
  unfold profileStep
  split_ifs
  · exact Iff.rfl
  · exact holds_adjust (fun _ => rfl) (fun _ => rfl)

theorem profileStep_index (rawTarget : String) :
    profileStep canonicalizeUrl join rawTarget =
      { join with buckets := (profileStep canonicalizeUrl join rawTarget).buckets } := by
  unfold profileStep
  split_ifs <;> rfl

theorem wellKeyed_profileStep (keyed : WellKeyed join.buckets) (rawTarget : String) :
    WellKeyed (profileStep canonicalizeUrl join rawTarget).buckets := by
  unfold profileStep
  split_ifs
  · exact keyed
  · exact keyed.adjust (fun _ => rfl) fun _ nodup => nodup

theorem Indexed.historyStep (indexed : Indexed join) (item : HistoryItem) :
    Indexed (historyStep canonicalizeUrl join item) :=
  List.foldlRecOn item.articleUrls _ indexed
    fun _ indexed rawUrl _ => indexed.historyLinkStep item rawUrl

theorem Single.historyStep (single : Single join) (item : HistoryItem) :
    Single (historyStep canonicalizeUrl join item) :=
  List.foldlRecOn item.articleUrls _ single
    fun _ single rawUrl _ => single.historyLinkStep item rawUrl

theorem Indexed.attemptedStep (indexed : Indexed join) (row : EventRow) :
    Indexed (attemptedStep canonicalizeUrl join row) := by
  rw [attemptedStep_index]
  exact indexed.of_same (wellKeyed_attemptedStep indexed.keyed row) (attemptedStep_same row)

theorem Single.attemptedStep (single : Single join) (row : EventRow) :
    Single (attemptedStep canonicalizeUrl join row) := by
  rw [attemptedStep_index]
  exact single.of_same (attemptedStep_same row)

theorem Indexed.profileStep (indexed : Indexed join) (rawTarget : String) :
    Indexed (profileStep canonicalizeUrl join rawTarget) := by
  rw [profileStep_index]
  exact indexed.of_same (wellKeyed_profileStep indexed.keyed rawTarget) (profileStep_same rawTarget)

theorem Single.profileStep (single : Single join) (rawTarget : String) :
    Single (profileStep canonicalizeUrl join rawTarget) := by
  rw [profileStep_index]
  exact single.of_same (profileStep_same rawTarget)

end Steps

/-! ## The whole join -/

section Whole
variable (canonicalizeUrl : String → Option String) (stores : LedgerStores)

def joinAttempted : Join :=
  stores.events.foldl (attemptedStep canonicalizeUrl) (joinArticles canonicalizeUrl stores)

def joinHistory : Join :=
  stores.history.foldl (historyStep canonicalizeUrl) (joinAttempted canonicalizeUrl stores)

theorem joinStores_eq : joinStores canonicalizeUrl stores =
    stores.profileTargets.foldl (profileStep canonicalizeUrl) (joinHistory canonicalizeUrl stores) :=
  rfl

theorem indexed_start : Indexed {} where
  keyed := ⟨List.nodup_nil, by intro bucket hmem; cases hmem⟩
  index := by intro live target h; cases h
  known := by intro live target ⟨bucket, hmem, _⟩; cases hmem

theorem joinArticles_indexed : Indexed (joinArticles canonicalizeUrl stores) :=
  List.foldlRecOn stores.articles _ indexed_start fun _ indexed row _ => indexed.articleStep row

theorem joinAttempted_indexed : Indexed (joinAttempted canonicalizeUrl stores) :=
  List.foldlRecOn stores.events _ (joinArticles_indexed canonicalizeUrl stores)
    fun _ indexed row _ => indexed.attemptedStep row

theorem joinHistory_indexed : Indexed (joinHistory canonicalizeUrl stores) :=
  List.foldlRecOn stores.history _ (joinAttempted_indexed canonicalizeUrl stores)
    fun _ indexed item _ => indexed.historyStep item

theorem joinStores_indexed : Indexed (joinStores canonicalizeUrl stores) := by
  rw [joinStores_eq]
  exact List.foldlRecOn stores.profileTargets _ (joinHistory_indexed canonicalizeUrl stores)
    fun _ indexed rawTarget _ => indexed.profileStep rawTarget

variable {canonicalizeUrl stores}

end Whole

end BacklinkPublisher.LedgerFiling
