import BacklinkPublisher.Scorecard

set_option autoImplicit false

/-!
# The platform of a link

What the join of the ledger makes of the platforms that articles and history record, and what the
index of the scorecard makes of those of the publish events.
-/
namespace BacklinkPublisher.LinkPlatforms
open Checkpoints OrderedDicts LedgerJoin LedgerFiling Ledger Scorecard

/-! ## The link under a target -/

def linkAt (buckets : List TargetBucket) (target live : String) : Option LinkRecord :=
  (lookup TargetBucket.targetUrl target buckets).bind fun bucket =>
    lookup LinkRecord.liveUrl live bucket.links

/-- The outer `none` is no link. -/
def platformAt (buckets : List TargetBucket) (target live : String) : Option (Option String) :=
  (linkAt buckets target live).map LinkRecord.platform

theorem linkAt_iff {buckets : List TargetBucket} (keyed : WellKeyed buckets)
    {target live : String} {link : LinkRecord} :
    linkAt buckets target live = some link ↔
      ∃ bucket ∈ buckets, bucket.targetUrl = target ∧
        link ∈ bucket.links ∧ link.liveUrl = live := by
  unfold linkAt
  rw [Option.bind_eq_some_iff]
  constructor
  · intro ⟨bucket, found, held⟩
    rw [lookup_eq_some keyed.targets] at found
    rw [lookup_eq_some (keyed.lives bucket found.1)] at held
    exact ⟨bucket, found.1, found.2, held⟩
  · intro ⟨bucket, hmem, named, held⟩
    exact ⟨bucket, (lookup_eq_some keyed.targets).2 ⟨hmem, named⟩,
      (lookup_eq_some (keyed.lives bucket hmem)).2 held⟩

theorem platformAt_iff {buckets : List TargetBucket} (keyed : WellKeyed buckets)
    {target live : String} {platform : Option String} :
    platformAt buckets target live = some platform ↔
      ∃ bucket ∈ buckets, bucket.targetUrl = target ∧
        ∃ link ∈ bucket.links, link.liveUrl = live ∧ link.platform = platform := by
  unfold platformAt
  rw [Option.map_eq_some_iff]
  constructor
  · intro ⟨link, held, named⟩
    have ⟨bucket, hmem, target_eq, hlink, live_eq⟩ := (linkAt_iff keyed).1 held
    exact ⟨bucket, hmem, target_eq, link, hlink, live_eq, named⟩
  · intro ⟨bucket, hmem, target_eq, link, hlink, live_eq, named⟩
    exact ⟨link, (linkAt_iff keyed).2 ⟨bucket, hmem, target_eq, hlink, live_eq⟩, named⟩

section Buckets
variable {buckets : List TargetBucket} {join : Join} {target live : String}
  {f : LinkRecord → LinkRecord}

theorem linkAt_bucketFor (t l : String) :
    linkAt (bucketFor target buckets) t l = linkAt buckets t l := by
  unfold linkAt bucketFor
  rw [lookup_ensure]
  cases lookup TargetBucket.targetUrl t buckets with
  | some bucket => rfl
  | none => split_ifs <;> rfl

theorem linkAt_revise (kept : ∀ link, (f link).liveUrl = link.liveUrl) (t l : String) :
    linkAt (join.revise target live f).buckets t l =
      (linkAt join.buckets t l).map fun link =>
        if t = target ∧ l = live then f link else link := by
  have target_kept (bucket : TargetBucket) :
      (bucket.setLink live f).targetUrl = bucket.targetUrl := rfl
  unfold linkAt Join.revise
  dsimp only
  rw [lookup_adjust target_kept]
  cases lookup TargetBucket.targetUrl t join.buckets with
  | none => rfl
  | some bucket =>
    rw [Option.map_some, Option.bind_some, Option.bind_some]
    by_cases here : t = target
    · rw [if_pos here]
      unfold TargetBucket.setLink
      dsimp only
      rw [lookup_adjust kept]
      simp only [here, true_and]
    · rw [if_neg here]
      simp [here]

theorem linkAt_attach (kept : ∀ link, (f link).liveUrl = link.liveUrl) (t l : String) :
    linkAt (join.attach target live f).buckets t l =
      if t = target ∧ l = live then
        some (f ((linkAt join.buckets t l).getD { liveUrl := live }))
      else linkAt join.buckets t l := by
  have target_kept (bucket : TargetBucket) :
      ((bucket.linkFor live).setLink live f).targetUrl = bucket.targetUrl := rfl
  unfold linkAt Join.attach bucketFor
  dsimp only
  rw [lookup_adjust target_kept, lookup_ensure]
  by_cases here : t = target
  · have bucket : ∃ bucket : TargetBucket,
        (lookup TargetBucket.targetUrl t join.buckets).or (some { targetUrl := target }) =
          some bucket ∧
        (lookup TargetBucket.targetUrl t join.buckets).bind
          (fun bucket => lookup LinkRecord.liveUrl l bucket.links) =
            lookup LinkRecord.liveUrl l bucket.links := by
      cases lookup TargetBucket.targetUrl t join.buckets with
      | none => exact ⟨_, rfl, rfl⟩
      | some bucket => exact ⟨bucket, rfl, rfl⟩
    have ⟨bucket, made, same⟩ := bucket
    rw [if_pos here, made, same, Option.map_some, Option.bind_some, if_pos here]
    unfold TargetBucket.setLink TargetBucket.linkFor
    dsimp only
    rw [lookup_adjust kept, lookup_ensure]
    by_cases same : l = live
    · rw [if_pos same, if_pos ⟨here, same⟩]
      cases lookup LinkRecord.liveUrl l bucket.links with
      | none => simp [same]
      | some link => simp [same]
    · simp [same]
  · simp [here]

theorem platformAt_attach (kept : ∀ link, (f link).liveUrl = link.liveUrl) (t l : String) :
    platformAt (join.attach target live f).buckets t l =
      if t = target ∧ l = live then
        some (f ((linkAt join.buckets t l).getD { liveUrl := live })).platform
      else platformAt join.buckets t l := by
  unfold platformAt
  rw [linkAt_attach kept]
  split_ifs <;> rfl

end Buckets

/-! ## The articles -/

section Articles
variable (canonicalizeUrl : String → Option String)

instance (row : ArticleRow) (target live : String) :
    Decidable (Filed canonicalizeUrl row target live) :=
  inferInstanceAs (Decidable (_ ∧ _ ∧ _ ∧ _))

/-- The target under which an article files the link. -/
def fileTarget (live : String) (row : ArticleRow) : Option String :=
  let target := canon canonicalizeUrl row.targetUrls.head?
  if Filed canonicalizeUrl row target live then some target else none

/-- The target under which the last article files the link. -/
def filedTarget (articles : List ArticleRow) (live : String) : Option String :=
  articles.reverse.findSome? (fileTarget canonicalizeUrl live)

/-- The platform of the last article that files the link under the target and names one; the outer
`none` is no such article. -/
def filedPlatform (articles : List ArticleRow) (target live : String) : Option (Option String) :=
  let filed := articles.filter fun row => Filed canonicalizeUrl row target live
  if filed = [] then none
  else some ((filed.reverse.findSome? fun row => truthy row.platform).bind fun platform =>
    canonicalPlatform (some platform))

end Articles

def articleMark (row : ArticleRow) (link : LinkRecord) : LinkRecord :=
  match truthy row.platform with
  | none => link
  | some platform => { link with platform := canonicalPlatform (some platform) }

theorem articleMark_liveUrl (row : ArticleRow) (link : LinkRecord) :
    (articleMark row link).liveUrl = link.liveUrl := by
  unfold articleMark
  cases truthy row.platform <;> rfl

section ArticleSteps
variable {canonicalizeUrl : String → Option String} {join : Join} {row : ArticleRow}

theorem articleStep_filed {target live : String} (filed : Filed canonicalizeUrl row target live) :
    articleStep canonicalizeUrl join row = join.attach target live (articleMark row) := by
  have ⟨target_eq, live_eq, target_ne, live_ne⟩ := filed
  unfold articleStep
  dsimp only
  rw [target_eq, live_eq, if_neg (not_or.2 ⟨target_ne, live_ne⟩)]
  rfl

theorem articleStep_unfiled (unfiled : ∀ target live, ¬ Filed canonicalizeUrl row target live) :
    articleStep canonicalizeUrl join row = join := by
  rcases articleStep_cases join row with ⟨same, _⟩ | ⟨target, live, _, filed, _⟩
  · exact same
  · exact absurd filed (unfiled target live)

theorem filed_unique {target live t l : String} (filed : Filed canonicalizeUrl row target live)
    (filed' : Filed canonicalizeUrl row t l) : t = target ∧ l = live :=
  ⟨filed'.1.symm.trans filed.1, filed'.2.1.symm.trans filed.2.1⟩

theorem articleStep_platform (t l : String) :
    platformAt (articleStep canonicalizeUrl join row).buckets t l =
      if Filed canonicalizeUrl row t l then
        some (((truthy row.platform).map fun platform => canonicalPlatform (some platform)).getD
          (platformAt join.buckets t l).join)
      else platformAt join.buckets t l := by
  by_cases filed : ∃ target live, Filed canonicalizeUrl row target live
  · have ⟨target, live, filed⟩ := filed
    rw [articleStep_filed filed, platformAt_attach (articleMark_liveUrl row)]
    by_cases here : Filed canonicalizeUrl row t l
    · rw [if_pos (filed_unique filed here), if_pos here]
      unfold articleMark platformAt
      cases truthy row.platform with
      | some platform => rfl
      | none => cases linkAt join.buckets t l <;> rfl
    · have elsewhere : ¬ (t = target ∧ l = live) := by
        rintro ⟨rfl, rfl⟩
        exact here filed
      rw [if_neg elsewhere, if_neg here]
  · rw [articleStep_unfiled fun target live h => filed ⟨target, live, h⟩,
      if_neg fun here => filed ⟨t, l, here⟩]

theorem articleStep_index (l : String) :
    (articleStep canonicalizeUrl join row).liveIndex l =
      (fileTarget canonicalizeUrl l row).or (join.liveIndex l) := by
  unfold fileTarget
  dsimp only
  by_cases here : Filed canonicalizeUrl row (canon canonicalizeUrl row.targetUrls.head?) l
  · rw [if_pos here, articleStep_filed here]
    exact Function.update_self ..
  · rw [if_neg here, Option.none_or]
    rcases articleStep_cases join row with ⟨same, _⟩ | ⟨target, live, f, filed, _, step⟩
    · rw [same]
    · have other : l ≠ live := by
        rintro rfl
        rw [filed.1] at here
        exact here filed
      rw [step]
      exact Function.update_of_ne other ..

theorem articles_platform (articles : List ArticleRow) (t l : String) :
    platformAt (articles.foldl (articleStep canonicalizeUrl) {}).buckets t l =
      filedPlatform canonicalizeUrl articles t l := by
  induction articles using List.reverseRecOn with
  | nil => rfl
  | append_singleton articles row ih =>
    rw [List.foldl_append, List.foldl_cons, List.foldl_nil, articleStep_platform, ih]
    unfold filedPlatform
    dsimp only
    rw [List.filter_append]
    by_cases here : Filed canonicalizeUrl row t l
    · have kept : [row].filter (fun row => Filed canonicalizeUrl row t l) = [row] := by
        rw [List.filter_singleton, decide_eq_true here, cond_true]
      rw [if_pos here, kept, if_neg (List.append_ne_nil_of_right_ne_nil _ (List.cons_ne_nil _ _)),
        List.reverse_append, List.reverse_singleton, List.singleton_append, List.findSome?_cons]
      cases truthy row.platform with
      | some platform => rfl
      | none =>
        dsimp only
        split_ifs with empty
        · rw [empty]
          rfl
        · rfl
    · have left : [row].filter (fun row => Filed canonicalizeUrl row t l) = [] := by
        rw [List.filter_singleton, decide_eq_false here, cond_false]
      rw [if_neg here, left, List.append_nil]

theorem articles_index (articles : List ArticleRow) (l : String) :
    (articles.foldl (articleStep canonicalizeUrl) {}).liveIndex l =
      filedTarget canonicalizeUrl articles l := by
  induction articles using List.reverseRecOn with
  | nil => rfl
  | append_singleton articles row ih =>
    unfold filedTarget at ih ⊢
    rw [List.foldl_append, List.foldl_cons, List.foldl_nil, articleStep_index, ih,
      List.reverse_append, List.reverse_singleton, List.singleton_append, List.findSome?_cons]
    cases fileTarget canonicalizeUrl l row <;> rfl

end ArticleSteps

/-! ## The history -/

section History
variable (canonicalizeUrl : String → Option String)

def Names (live rawUrl : String) : Prop :=
  canon canonicalizeUrl (some rawUrl) = live ∧ live ≠ ""

instance (live rawUrl : String) : Decidable (Names canonicalizeUrl live rawUrl) :=
  inferInstanceAs (Decidable (_ ∧ _))

/-- The items of the history that name the link, once for each time. -/
def mentions (history : List HistoryItem) (live : String) : List HistoryItem :=
  history.flatMap fun item =>
    (item.articleUrls.filter fun rawUrl => Names canonicalizeUrl live rawUrl).map fun _ => item

/-- The target of an item, for a link that no article has. -/
def itemTarget (live : String) (item : HistoryItem) : String :=
  let target := canon canonicalizeUrl item.targetUrl
  if target ≠ "" then target else live

/-- The target whose link the history changes. -/
def indexedTarget (stores : LedgerStores) (live : String) : Option String :=
  (filedTarget canonicalizeUrl stores.articles live).or
    ((mentions canonicalizeUrl stores.history live).head?.map (itemTarget canonicalizeUrl live))

/-- The platform that articles and history record for the link of the target; the outer `none` is
no such link. -/
def recordedPlatform (stores : LedgerStores) (target live : String) : Option (Option String) :=
  match (mentions canonicalizeUrl stores.history live).getLast? with
  | none => filedPlatform canonicalizeUrl stores.articles target live
  | some item =>
    if indexedTarget canonicalizeUrl stores live = some target then
      some (canonicalPlatform item.platform)
    else filedPlatform canonicalizeUrl stores.articles target live

end History

section HistorySteps
variable {canonicalizeUrl : String → Option String} {join : Join}

theorem historyLinkStep_elsewhere (join : Join) (item : HistoryItem) {rawUrl l : String}
    (other : ¬ Names canonicalizeUrl l rawUrl) :
    (historyLinkStep canonicalizeUrl item join rawUrl).liveIndex l = join.liveIndex l ∧
      ∀ t, platformAt (historyLinkStep canonicalizeUrl item join rawUrl).buckets t l =
        platformAt join.buckets t l := by
  by_cases empty : canon canonicalizeUrl (some rawUrl) = ""
  · unfold historyLinkStep
    dsimp only
    rw [if_pos empty]
    exact ⟨rfl, fun _ => rfl⟩
  · have other : l ≠ canon canonicalizeUrl (some rawUrl) := by
      rintro rfl
      exact other ⟨rfl, empty⟩
    rcases historyLinkStep_cases item join rawUrl with
      ⟨blank, _⟩ | ⟨target, _, step⟩ | ⟨target, _, step⟩
    · exact absurd blank empty
    · rw [step]
      refine ⟨rfl, fun t => ?_⟩
      unfold platformAt
      rw [linkAt_revise (mark_liveUrl item)]
      cases linkAt join.buckets t l with
      | none => rfl
      | some link =>
        rw [Option.map_some, if_neg fun here => other here.2]
    · rw [step]
      refine ⟨Function.update_of_ne other .., fun t => ?_⟩
      rw [platformAt_attach (mark_liveUrl item), if_neg fun here => other here.2]

theorem historyLinkStep_here (indexed : Indexed join) (item : HistoryItem) {rawUrl l : String}
    (here : Names canonicalizeUrl l rawUrl) :
    ∃ target, (join.liveIndex l).or (some (itemTarget canonicalizeUrl l item)) = some target ∧
      (historyLinkStep canonicalizeUrl item join rawUrl).liveIndex l = some target ∧
      ∀ t, platformAt (historyLinkStep canonicalizeUrl item join rawUrl).buckets t l =
        if t = target then some (canonicalPlatform item.platform)
        else platformAt join.buckets t l := by
  unfold historyLinkStep
  dsimp only
  rw [here.1, if_neg here.2]
  cases found : join.liveIndex l with
  | some target =>
    refine ⟨target, rfl, found, fun t => ?_⟩
    have held := indexed.index l target found
    have ⟨bucket, hmem, named, hlive⟩ := held
    have ⟨link, hlink, live_eq⟩ := List.mem_map.1 hlive
    have linked := (linkAt_iff indexed.keyed).2 ⟨bucket, hmem, named, hlink, live_eq⟩
    unfold platformAt
    dsimp only
    rw [linkAt_revise (mark_liveUrl item)]
    by_cases here : t = target
    · rw [if_pos here, here, linked, Option.map_some, if_pos ⟨rfl, rfl⟩]
      rfl
    · rw [if_neg here]
      cases linkAt join.buckets t l with
      | none => rfl
      | some link => rw [Option.map_some, if_neg fun both => here both.1]
  | none =>
    refine ⟨_, rfl, Function.update_self .., fun t => ?_⟩
    dsimp only
    rw [platformAt_attach (mark_liveUrl item)]
    simp only [and_true]
    rfl

/-- The item and the URL of every step of the third pass. -/
def historyLinks (history : List HistoryItem) : List (HistoryItem × String) :=
  history.flatMap fun item => item.articleUrls.map (item, ·)

theorem history_links (history : List HistoryItem) :
    history.foldl (historyStep canonicalizeUrl) join =
      (historyLinks history).foldl
        (fun join step => historyLinkStep canonicalizeUrl step.1 join step.2) join := by
  unfold historyLinks
  rw [List.foldl_flatMap]
  congr 1
  funext join item
  rw [List.foldl_map]
  rfl

theorem mentions_links (history : List HistoryItem) (l : String) :
    mentions canonicalizeUrl history l =
      ((historyLinks history).filter fun step => Names canonicalizeUrl l step.2).map Prod.fst := by
  unfold mentions historyLinks
  rw [List.filter_flatMap, List.map_flatMap]
  congr 1
  funext item
  rw [List.filter_map, List.map_map]
  rfl

/-- What the third pass leaves at a link, from the index and the platforms before it. -/
structure Marked (canonicalizeUrl : String → Option String) (before : Join) (l : String)
    (named : List HistoryItem) (join : Join) : Prop where
  indexed : Indexed join
  index : join.liveIndex l =
    (before.liveIndex l).or (named.head?.map (itemTarget canonicalizeUrl l))
  platform : ∀ t, platformAt join.buckets t l =
    match named.getLast? with
    | none => platformAt before.buckets t l
    | some item =>
      if join.liveIndex l = some t then some (canonicalPlatform item.platform)
      else platformAt before.buckets t l

theorem Marked.step {before : Join} {l : String} {named : List HistoryItem}
    (marked : Marked canonicalizeUrl before l named join) (item : HistoryItem) {rawUrl : String}
    (here : Names canonicalizeUrl l rawUrl) :
    Marked canonicalizeUrl before l (named ++ [item])
      (historyLinkStep canonicalizeUrl item join rawUrl) := by
  have ⟨target, home, index, platform⟩ := historyLinkStep_here marked.indexed item here
  refine ⟨marked.indexed.historyLinkStep item rawUrl, ?_, fun t => ?_⟩
  · rw [index, ← home, marked.index]
    cases before.liveIndex l with
    | some _ => rfl
    | none => cases named <;> rfl
  · rw [List.getLast?_concat, platform, index, marked.platform]
    simp only [Option.some.injEq, @eq_comm _ target t]
    by_cases here : t = target
    · rw [if_pos here, if_pos here]
    · rw [if_neg here, if_neg here]
      cases final : named.getLast? with
      | none => rfl
      | some last =>
        dsimp only
        have held : join.liveIndex l = some target := by
          cases known : join.liveIndex l with
          | some _ =>
            rw [known] at home
            exact home
          | none =>
            have index := marked.index
            rw [known] at index
            cases named with
            | nil => cases final
            | cons first named =>
              cases earlier : before.liveIndex l with
              | some _ =>
                rw [earlier] at index
                cases index
              | none =>
                rw [earlier] at index
                cases index
        rw [held, if_neg fun same => here (Option.some.inj same).symm]

theorem history_marked (indexed : Indexed join) (l : String) (history : List HistoryItem) :
    Marked canonicalizeUrl join l (mentions canonicalizeUrl history l)
      (history.foldl (historyStep canonicalizeUrl) join) := by
  rw [history_links, mentions_links]
  induction historyLinks history using List.reverseRecOn with
  | nil => exact ⟨indexed, (Option.or_none ..).symm, fun _ => rfl⟩
  | append_singleton links link ih =>
    rw [List.foldl_append, List.foldl_cons, List.foldl_nil, List.filter_append, List.map_append,
      List.filter_singleton]
    by_cases here : Names canonicalizeUrl l link.2
    · rw [decide_eq_true here, cond_true]
      exact ih.step link.1 here
    · rw [decide_eq_false here, cond_false, List.map_nil, List.append_nil]
      have ⟨index, platform⟩ := historyLinkStep_elsewhere (links.foldl (fun join step =>
        historyLinkStep canonicalizeUrl step.1 join step.2) join) link.1 here
      refine ⟨ih.indexed.historyLinkStep link.1 link.2, ?_, fun t => ?_⟩
      · rw [index, ih.index]
      · rw [platform, index, ih.platform]

end HistorySteps

/-! ## The whole join -/

section Whole
variable {canonicalizeUrl : String → Option String} {stores : LedgerStores}

theorem attempted_platform (join : Join) (events : List EventRow) (t l : String) :
    platformAt (events.foldl (attemptedStep canonicalizeUrl) join).buckets t l =
      platformAt join.buckets t l ∧
    (events.foldl (attemptedStep canonicalizeUrl) join).liveIndex = join.liveIndex := by
  induction events generalizing join with
  | nil => exact ⟨rfl, rfl⟩
  | cons row events ih =>
    rw [List.foldl_cons, (ih _).1, (ih _).2]
    unfold attemptedStep
    dsimp only
    split_ifs
    · unfold platformAt
      dsimp only
      rw [linkAt_bucketFor]
      exact ⟨rfl, rfl⟩
    · exact ⟨rfl, rfl⟩

theorem profiles_platform (join : Join) (targets : List String) (t l : String) :
    platformAt (targets.foldl (profileStep canonicalizeUrl) join).buckets t l =
      platformAt join.buckets t l := by
  induction targets generalizing join with
  | nil => rfl
  | cons target targets ih =>
    rw [List.foldl_cons, ih]
    unfold profileStep
    split_ifs
    · rfl
    · have target_kept (bucket : TargetBucket) :
          ({ bucket with hasAnchorData := true } : TargetBucket).targetUrl = bucket.targetUrl := rfl
      unfold platformAt linkAt
      dsimp only
      rw [lookup_adjust target_kept]
      cases lookup TargetBucket.targetUrl t join.buckets with
      | none => rfl
      | some bucket =>
        rw [Option.map_some, Option.bind_some, Option.bind_some]
        split_ifs <;> rfl

/-- The join files a link with the platform that articles and history record. -/
theorem joinStores_platform (target live : String) :
    platformAt (joinStores canonicalizeUrl stores).buckets target live =
      recordedPlatform canonicalizeUrl stores target live := by
  have start : Indexed (joinAttempted canonicalizeUrl stores) :=
    joinAttempted_indexed canonicalizeUrl stores
  have marked : Marked canonicalizeUrl (joinAttempted canonicalizeUrl stores) live
      (mentions canonicalizeUrl stores.history live) (joinHistory canonicalizeUrl stores) :=
    history_marked start live stores.history
  have same : platformAt (joinAttempted canonicalizeUrl stores).buckets target live =
      platformAt (joinArticles canonicalizeUrl stores).buckets target live ∧
        (joinAttempted canonicalizeUrl stores).liveIndex =
          (joinArticles canonicalizeUrl stores).liveIndex :=
    attempted_platform (joinArticles canonicalizeUrl stores) stores.events target live
  rw [joinStores_eq, profiles_platform, marked.platform, marked.index, same.1, same.2]
  unfold joinArticles
  rw [articles_platform, articles_index]
  rfl

/-- The links of the buckets are those that articles and history record. -/
theorem recordedPlatform_iff {target live : String} {platform : Option String} :
    recordedPlatform canonicalizeUrl stores target live = some platform ↔
      ∃ bucket ∈ (joinStores canonicalizeUrl stores).buckets, bucket.targetUrl = target ∧
        ∃ link ∈ bucket.links, link.liveUrl = live ∧ link.platform = platform := by
  rw [← joinStores_platform target live]
  exact platformAt_iff (joinStores_indexed canonicalizeUrl stores).keyed

end Whole

/-! ## The index of the scorecard -/

section Index
variable (host : Host) (stores : LedgerStores)

/-- The platform that a publish event names for the live URL of its article. -/
def namedPlatform (articles : List ArticleRow) (live : String) (row : EventRow) : Option String :=
  if row.kind ∉ confirmedKinds then none
  else
    let article := row.articleId.bind fun articleId => articles.find? (·.articleId = articleId)
    match article.bind (·.liveUrl), truthy row.payload.platform with
    | some liveUrl, some platform =>
      if Names host.canonicalizeUrl live liveUrl then some platform else none
    | _, _ => none

/-- The platform of the first publish event that names one for the live URL. -/
def publishedPlatform (live : String) : Option String :=
  stores.events.findSome? (namedPlatform host stores.articles live)

theorem platformStep_at (articles : List ArticleRow) (index : String → Option String)
    (row : EventRow) (live : String) :
    platformStep host articles index row live =
      (index live).or (namedPlatform host articles live row) := by
  unfold platformStep namedPlatform
  dsimp only
  by_cases kind : row.kind ∉ confirmedKinds
  · rw [if_pos kind, if_pos kind, Option.or_none]
  · rw [if_neg kind, if_neg kind]
    cases (row.articleId.bind fun id => articles.find? (·.articleId = id)).bind (·.liveUrl) with
    | none => exact (Option.or_none ..).symm
    | some liveUrl =>
      cases truthy row.payload.platform with
      | none => exact (Option.or_none ..).symm
      | some platform =>
        dsimp only
        by_cases here : Names host.canonicalizeUrl live liveUrl
        · rw [if_pos here, here.1]
          cases known : index live with
          | some old => simp [known]
          | none => simp [here.2]
        · rw [if_neg here, Option.or_none]
          split_ifs with blank
          · rfl
          · have other : live ≠ canon host.canonicalizeUrl (some liveUrl) := by
              rintro rfl
              exact here ⟨rfl, fun empty => blank (.inl empty)⟩
            exact Function.update_of_ne other ..

theorem platformByLiveUrl_eq (live : String) :
    platformByLiveUrl host stores live = publishedPlatform host stores live := by
  have folded : ∀ (events : List EventRow) (index : String → Option String),
      events.foldl (platformStep host stores.articles) index live =
        (index live).or (events.findSome? (namedPlatform host stores.articles live)) := by
    intro events
    induction events with
    | nil => exact fun index => (Option.or_none ..).symm
    | cons row events ih =>
      intro index
      rw [List.foldl_cons, ih, platformStep_at, List.findSome?_cons]
      cases index live <;> cases namedPlatform host stores.articles live row <;> rfl
  exact folded stores.events fun _ => none

theorem publishedPlatform_blank : publishedPlatform host stores "" = none := by
  apply List.findSome?_eq_none_iff.2
  intro row _
  unfold namedPlatform
  dsimp only
  by_cases kind : row.kind ∉ confirmedKinds
  · exact if_pos kind
  · rw [if_neg kind]
    split
    · exact if_neg fun names => names.2 rfl
    · rfl

end Index

end BacklinkPublisher.LinkPlatforms
