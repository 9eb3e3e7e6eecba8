import BacklinkPublisher.OrderedDicts
import BacklinkPublisher.RecentPerKey

set_option autoImplicit false

/-!
# The sliding window of an anchor profile

A profile is a flat list of links. Each main link starts an article, and the window keeps whole
articles: the last ones of every target.
-/
namespace BacklinkPublisher.ProfileTrim
open OrderedDicts RecentPerKey

structure ProfileEntry where
  ts : String
  linkRole : String
  urlCategory : String
  anchorType : String
  anchorText : String
  degraded : Bool := false
  targetUrl : String := ""
  deriving DecidableEq, Repr

def maxArticlesPerTarget : ℕ := 100

/-- The loop's state is the finished articles and the one being gathered. -/
def groupStep (state : List (List ProfileEntry) × List ProfileEntry) (entry : ProfileEntry) :
    List (List ProfileEntry) × List ProfileEntry :=
  let (articles, current) := state
  if entry.linkRole = "main" then
    (if current ≠ [] then articles ++ [current] else articles, [entry])
  else if current ≠ [] then (articles, current ++ [entry])
  else (articles, current)

def finishGroups (state : List (List ProfileEntry) × List ProfileEntry) :
    List (List ProfileEntry) :=
  if state.2 ≠ [] then state.1 ++ [state.2] else state.1

def groupIntoArticles (entries : List ProfileEntry) : List (List ProfileEntry) :=
  finishGroups (entries.foldl groupStep ([], []))

/-- `target_map.setdefault(e.target_url, []).append(i)`. -/
def addIndex (i : ℕ) (targetUrl : String) (targetMap : List (String × List ℕ)) :
    List (String × List ℕ) :=
  adjust Prod.fst targetUrl (fun indices => (indices.1, indices.2 ++ [i]))
    (ensure Prod.fst (targetUrl, []) targetMap)

/-- One link of the first loop; the second component is `seen_targets`. -/
def mapEntry (i : ℕ) (state : List (String × List ℕ) × List String) (entry : ProfileEntry) :
    List (String × List ℕ) × List String :=
  if entry.targetUrl ∉ state.2 then
    (addIndex i entry.targetUrl state.1, entry.targetUrl :: state.2)
  else state

def mapArticle (targetMap : List (String × List ℕ)) (article : List ProfileEntry × ℕ) :
    List (String × List ℕ) :=
  (article.1.foldl (mapEntry article.2) (targetMap, [])).1

def targetMap (articles : List (List ProfileEntry)) : List (String × List ℕ) :=
  articles.zipIdx.foldl mapArticle []

/-- `indices[-count:]`, which is the whole list for a `count` of zero. -/
def lastIndices (count : ℕ) (indices : List ℕ) : List ℕ :=
  if count = 0 then indices else indices.drop (indices.length - count)

def keepIndices (maxArticlesPerTarget : ℕ) (articles : List (List ProfileEntry)) : List ℕ :=
  (targetMap articles).flatMap fun indices => lastIndices maxArticlesPerTarget indices.2

def trimByTarget (entries : List ProfileEntry) (maxArticlesPerTarget : ℕ) : List ProfileEntry :=
  if entries = [] then entries
  else
    let articles := groupIntoArticles entries
    if articles = [] then []
    else
      let keep := keepIndices maxArticlesPerTarget articles
      (articles.zipIdx.filter fun article => decide (article.2 ∈ keep)).flatMap Prod.fst

/-- The entries in the file after `record_article`, where every write succeeds: no file is written
for no entries. -/
def recordArticle (existing newEntries : List ProfileEntry) : List ProfileEntry :=
  if newEntries = [] then existing
  else trimByTarget (existing ++ newEntries) maxArticlesPerTarget

/-! ## Articles -/

def targets (article : List ProfileEntry) : List String := article.map ProfileEntry.targetUrl

/-- A main link with the links that follow it, none of them main. -/
structure IsArticle (article : List ProfileEntry) : Prop where
  main : ∃ entry ∈ article.head?, entry.linkRole = "main"
  others : ∀ entry ∈ article.tail, entry.linkRole ≠ "main"

theorem IsArticle.ne_nil {article : List ProfileEntry} (whole : IsArticle article) :
    article ≠ [] := by
  rintro rfl
  have ⟨_, absent, _⟩ := whole.main
  cases absent

theorem IsArticle.targets_ne_nil {article : List ProfileEntry} (whole : IsArticle article) :
    targets article ≠ [] := by
  intro empty
  exact whole.ne_nil (List.map_eq_nil_iff.1 empty)

theorem groupStep_main {entry : ProfileEntry} (isMain : entry.linkRole = "main")
    (state : List (List ProfileEntry) × List ProfileEntry) :
    groupStep state entry = (finishGroups state, [entry]) := by
  unfold groupStep finishGroups
  simp only [isMain, if_true]

theorem groupStep_other {entry : ProfileEntry} (other : entry.linkRole ≠ "main")
    {state : List (List ProfileEntry) × List ProfileEntry} (gathering : state.2 ≠ []) :
    groupStep state entry = (state.1, state.2 ++ [entry]) := by
  unfold groupStep
  simp only [other, gathering, if_false, ne_eq, not_false_eq_true, if_true]

theorem groupStep_orphan {entry : ProfileEntry} (other : entry.linkRole ≠ "main")
    {state : List (List ProfileEntry) × List ProfileEntry} (waiting : state.2 = []) :
    groupStep state entry = state := by
  unfold groupStep
  simp only [other, waiting, if_false, ne_eq, not_true]
  rw [← waiting]

theorem finishGroups_of_gathering {state : List (List ProfileEntry) × List ProfileEntry}
    (gathering : state.2 ≠ []) : finishGroups state = state.1 ++ [state.2] := if_pos gathering

theorem finishGroups_of_waiting {state : List (List ProfileEntry) × List ProfileEntry}
    (waiting : state.2 = []) : finishGroups state = state.1 := if_neg (not_not.2 waiting)

/-- What the loop has read is links before the first main one, then whole articles. -/
structure Groups (entries : List ProfileEntry)
    (state : List (List ProfileEntry) × List ProfileEntry) : Prop where
  whole : ∀ article ∈ finishGroups state, IsArticle article
  started : state.2 = [] → state.1 = []
  read : ∃ orphans, (∀ entry ∈ orphans, entry.linkRole ≠ "main") ∧
    entries = orphans ++ (finishGroups state).flatten

theorem IsArticle.concat {article : List ProfileEntry} (whole : IsArticle article)
    {entry : ProfileEntry} (other : entry.linkRole ≠ "main") : IsArticle (article ++ [entry]) := by
  have ⟨⟨first, leads, role⟩, others⟩ := whole
  refine ⟨⟨first, ?_, role⟩, ?_⟩
  · rw [List.head?_append_of_ne_nil _ whole.ne_nil]
    exact leads
  · intro last held
    rw [List.tail_append_of_ne_nil whole.ne_nil] at held
    rcases List.mem_append.1 held with held | held
    · exact others last held
    · rw [List.mem_singleton.1 held]
      exact other

theorem Groups.step {entries : List ProfileEntry}
    {state : List (List ProfileEntry) × List ProfileEntry} (groups : Groups entries state)
    (entry : ProfileEntry) : Groups (entries ++ [entry]) (groupStep state entry) := by
  have ⟨orphans, nonmain, read⟩ := groups.read
  by_cases isMain : entry.linkRole = "main"
  · have fresh : IsArticle [entry] := ⟨⟨entry, rfl, isMain⟩, fun _ h => by cases h⟩
    have finish : finishGroups (finishGroups state, [entry]) = finishGroups state ++ [[entry]] :=
      finishGroups_of_gathering (by simp)
    rw [groupStep_main isMain]
    refine ⟨?_, nofun, orphans, nonmain, ?_⟩
    · intro article held
      rw [finish] at held
      rcases List.mem_append.1 held with held | held
      · exact groups.whole article held
      · rw [List.mem_singleton.1 held]
        exact fresh
    · rw [finish, read, List.flatten_append, List.append_assoc]
      rfl
  · by_cases waiting : state.2 = []
    · have none_yet : finishGroups state = [] := by
        rw [finishGroups_of_waiting waiting, groups.started waiting]
      rw [groupStep_orphan isMain waiting]
      refine ⟨groups.whole, groups.started, orphans ++ [entry], ?_, ?_⟩
      · intro other held
        rcases List.mem_append.1 held with held | held
        · exact nonmain other held
        · rw [List.mem_singleton.1 held]
          exact isMain
      · rw [read, none_yet]
        simp
    · have finish : finishGroups (state.1, state.2 ++ [entry]) =
          state.1 ++ [state.2 ++ [entry]] := finishGroups_of_gathering (by simp)
      have before := finishGroups_of_gathering waiting
      rw [groupStep_other isMain waiting]
      refine ⟨?_, fun empty => by simp at empty, orphans, nonmain, ?_⟩
      · intro article held
        rw [finish] at held
        rcases List.mem_append.1 held with held | held
        · exact groups.whole article (before ▸ List.mem_append_left _ held)
        · rw [List.mem_singleton.1 held]
          exact (groups.whole state.2 (before ▸ List.mem_concat_self)).concat isMain
      · rw [finish, read, before]
        simp

theorem groups_foldl (entries : List ProfileEntry) :
    Groups entries (entries.foldl groupStep ([], [])) := by
  induction entries using List.reverseRecOn with
  | nil => exact ⟨nofun, fun _ => rfl, [], nofun, rfl⟩
  | append_singleton entries entry ih =>
    rw [List.foldl_concat]
    exact ih.step entry

/-- The articles hold, in order, all links but those before the first main one. -/
theorem flatten_groupIntoArticles (entries : List ProfileEntry) :
    ∃ orphans, (∀ entry ∈ orphans, entry.linkRole ≠ "main") ∧
      entries = orphans ++ (groupIntoArticles entries).flatten :=
  (groups_foldl entries).read

theorem isArticle_of_mem_groupIntoArticles {entries : List ProfileEntry}
    {article : List ProfileEntry} (held : article ∈ groupIntoArticles entries) :
    IsArticle article :=
  (groups_foldl entries).whole article held

theorem foldl_groupStep_others {others : List ProfileEntry} {articles : List (List ProfileEntry)}
    {current : List ProfileEntry} (gathering : current ≠ [])
    (nonmain : ∀ entry ∈ others, entry.linkRole ≠ "main") :
    others.foldl groupStep (articles, current) = (articles, current ++ others) := by
  induction others generalizing current with
  | nil => rw [List.append_nil]; rfl
  | cons entry others ih =>
    have step := groupStep_other (nonmain entry List.mem_cons_self)
      (by exact gathering : (articles, current).2 ≠ [])
    rw [List.foldl_cons, step, ih (by simp) fun other held =>
      nonmain other (List.mem_cons_of_mem _ held), List.append_assoc, List.singleton_append]

theorem foldl_groupStep_article {article : List ProfileEntry} (whole : IsArticle article)
    (state : List (List ProfileEntry) × List ProfileEntry) :
    article.foldl groupStep state = (finishGroups state, article) := by
  have ⟨⟨main, leads, role⟩, nonmain⟩ := whole
  cases article with
  | nil => cases leads
  | cons first others =>
    have first_eq : first = main := Option.some.inj leads
    rw [List.foldl_cons, groupStep_main (first_eq ▸ role)]
    exact foldl_groupStep_others (by simp) nonmain

/-- Whole articles written one after another are read back as they are. -/
theorem groupIntoArticles_flatten {articles : List (List ProfileEntry)}
    (whole : ∀ article ∈ articles, IsArticle article) :
    groupIntoArticles articles.flatten = articles := by
  unfold groupIntoArticles
  induction articles using List.reverseRecOn with
  | nil => rfl
  | append_singleton articles article ih =>
    have last := whole article (by simp)
    rw [List.flatten_append, List.flatten_singleton, List.foldl_append,
      foldl_groupStep_article last, ih fun other held => whole other (by simp [held])]
    exact if_pos last.ne_nil

/-- Articles finished before take no part in reading on. -/
theorem finishGroups_append (before articles : List (List ProfileEntry))
    (current : List ProfileEntry) :
    finishGroups (before ++ articles, current) = before ++ finishGroups (articles, current) := by
  unfold finishGroups
  split_ifs
  · rw [List.append_assoc]
  · rfl

theorem foldl_groupStep_append (entries : List ProfileEntry)
    (before articles : List (List ProfileEntry)) (current : List ProfileEntry) :
    finishGroups (entries.foldl groupStep (before ++ articles, current)) =
      before ++ finishGroups (entries.foldl groupStep (articles, current)) := by
  induction entries generalizing articles current with
  | nil => exact finishGroups_append before articles current
  | cons entry entries ih =>
    rw [List.foldl_cons, List.foldl_cons]
    by_cases isMain : entry.linkRole = "main"
    · rw [groupStep_main isMain, groupStep_main isMain, finishGroups_append]
      exact ih _ _
    · by_cases waiting : current = []
      · rw [groupStep_orphan isMain waiting, groupStep_orphan isMain waiting]
        exact ih _ _
      · rw [groupStep_other isMain waiting, groupStep_other isMain waiting]
        exact ih _ _

theorem sharing_groupStep (key : String) (state : List (List ProfileEntry) × List ProfileEntry)
    (entry : ProfileEntry) :
    sharing targets key (finishGroups state) ≤
      sharing targets key (finishGroups (groupStep state entry)) := by
  by_cases isMain : entry.linkRole = "main"
  · have finish : finishGroups (finishGroups state, [entry]) = finishGroups state ++ [[entry]] :=
      finishGroups_of_gathering (by simp)
    rw [groupStep_main isMain, finish, sharing_append]
    exact Nat.le_add_right _ _
  · by_cases waiting : state.2 = []
    · rw [groupStep_orphan isMain waiting]
    · have more : key ∈ targets state.2 → key ∈ targets (state.2 ++ [entry]) := by
        intro has
        unfold targets at has ⊢
        rw [List.map_append]
        exact List.mem_append_left _ has
      have finish : finishGroups (state.1, state.2 ++ [entry]) =
          state.1 ++ [state.2 ++ [entry]] := finishGroups_of_gathering (by simp)
      rw [groupStep_other isMain waiting, finishGroups_of_gathering waiting, finish,
        sharing_append, sharing_append, sharing_cons, sharing_cons]
      by_cases has : key ∈ targets state.2
      · rw [if_pos has, if_pos (more has)]
      · rw [if_neg has]
        omega

theorem sharing_foldl_groupStep (key : String) (entries : List ProfileEntry)
    (state : List (List ProfileEntry) × List ProfileEntry) :
    sharing targets key (finishGroups state) ≤
      sharing targets key (finishGroups (entries.foldl groupStep state)) := by
  induction entries generalizing state with
  | nil => rfl
  | cons entry entries ih => exact (sharing_groupStep key state entry).trans (ih _)

/-! ## The indices kept are those of the recent articles -/

def indicesAt (key : String) (targetMap : List (String × List ℕ)) : List ℕ :=
  ((lookup Prod.fst key targetMap).map Prod.snd).getD []

theorem indicesAt_addIndex (key : String) (i : ℕ) (targetUrl : String)
    (targetMap : List (String × List ℕ)) :
    indicesAt key (addIndex i targetUrl targetMap) =
      if key = targetUrl then indicesAt key targetMap ++ [i] else indicesAt key targetMap := by
  unfold indicesAt addIndex
  rw [lookup_adjust (by intro _; rfl), lookup_ensure]
  by_cases same : key = targetUrl
  · cases lookup Prod.fst key targetMap <;> simp [same]
  · cases lookup Prod.fst key targetMap <;> simp [same]

theorem nodup_keys_addIndex {targetMap : List (String × List ℕ)}
    (nodup : (targetMap.map Prod.fst).Nodup) (i : ℕ) (targetUrl : String) :
    ((addIndex i targetUrl targetMap).map Prod.fst).Nodup := by
  unfold addIndex
  rw [keys_adjust (by intro _; rfl)]
  exact nodup_keys_ensure nodup

theorem indicesAt_foldl_mapEntry (key : String) (i : ℕ) (article : List ProfileEntry)
    (state : List (String × List ℕ) × List String) :
    indicesAt key (article.foldl (mapEntry i) state).1 =
      if key ∈ targets article ∧ key ∉ state.2 then indicesAt key state.1 ++ [i]
      else indicesAt key state.1 := by
  induction article generalizing state with
  | nil => simp [targets]
  | cons entry article ih =>
    rw [List.foldl_cons, ih]
    unfold mapEntry targets
    by_cases seen : entry.targetUrl ∈ state.2
    · rw [if_neg (not_not.2 seen)]
      have same : (key ∈ article.map ProfileEntry.targetUrl ∧ key ∉ state.2) ↔
          (key ∈ (entry :: article).map ProfileEntry.targetUrl ∧ key ∉ state.2) := by
        rw [List.map_cons, List.mem_cons]
        constructor
        · rintro ⟨has, fresh⟩
          exact ⟨.inr has, fresh⟩
        · rintro ⟨rfl | has, fresh⟩
          · exact absurd seen fresh
          · exact ⟨has, fresh⟩
      simp only [same]
    · rw [if_pos seen, indicesAt_addIndex]
      by_cases same : key = entry.targetUrl
      · simp [same, seen]
      · simp [same]

theorem nodup_keys_foldl_mapEntry (i : ℕ) (article : List ProfileEntry)
    {state : List (String × List ℕ) × List String} (nodup : (state.1.map Prod.fst).Nodup) :
    ((article.foldl (mapEntry i) state).1.map Prod.fst).Nodup := by
  induction article generalizing state with
  | nil => exact nodup
  | cons entry article ih =>
    rw [List.foldl_cons]
    apply ih
    unfold mapEntry
    split_ifs
    · exact nodup
    · exact nodup_keys_addIndex nodup i entry.targetUrl

/-- The indices, from `first` on, of the articles with a link to the target. -/
def indicesOf (key : String) (articles : List (List ProfileEntry)) (first : ℕ) : List ℕ :=
  ((articles.zipIdx first).filter fun article => decide (key ∈ targets article.1)).map Prod.snd

theorem foldl_mapArticle (key : String) (articles : List (List ProfileEntry)) (first : ℕ)
    (targetMap : List (String × List ℕ)) :
    indicesAt key ((articles.zipIdx first).foldl mapArticle targetMap) =
      indicesAt key targetMap ++ indicesOf key articles first := by
  unfold indicesOf
  induction articles generalizing first targetMap with
  | nil => simp
  | cons article articles ih =>
    rw [List.zipIdx_cons, List.foldl_cons, ih]
    have here : indicesAt key (mapArticle targetMap (article, first)) = _ :=
      indicesAt_foldl_mapEntry key first article (targetMap, [])
    rw [here]
    by_cases has : key ∈ targets article
    · simp [has]
    · simp [has]

theorem nodup_keys_foldl_mapArticle (articles : List (List ProfileEntry × ℕ))
    {targetMap : List (String × List ℕ)} (nodup : (targetMap.map Prod.fst).Nodup) :
    ((articles.foldl mapArticle targetMap).map Prod.fst).Nodup := by
  induction articles generalizing targetMap with
  | nil => exact nodup
  | cons article articles ih =>
    rw [List.foldl_cons]
    exact ih (nodup_keys_foldl_mapEntry article.2 article.1 nodup)

theorem mem_keepIndices {k i : ℕ} {articles : List (List ProfileEntry)} :
    i ∈ keepIndices k articles ↔ ∃ key, i ∈ lastIndices k (indicesOf key articles 0) := by
  have at_key : ∀ key, indicesAt key (targetMap articles) = indicesOf key articles 0 := by
    intro key
    exact foldl_mapArticle key articles 0 []
  have nodup : ((targetMap articles).map Prod.fst).Nodup :=
    nodup_keys_foldl_mapArticle articles.zipIdx List.nodup_nil
  unfold keepIndices
  rw [List.mem_flatMap]
  constructor
  · rintro ⟨indices, held, last⟩
    refine ⟨indices.1, ?_⟩
    rw [← at_key]
    unfold indicesAt
    rw [lookup_of_mem nodup held]
    exact last
  · rintro ⟨key, last⟩
    rw [← at_key] at last
    unfold indicesAt at last
    cases found : lookup Prod.fst key (targetMap articles) with
    | none =>
      rw [found] at last
      unfold lastIndices at last
      simp at last
    | some indices =>
      rw [found] at last
      exact ⟨indices, ((lookup_eq_some nodup).1 found).1, last⟩

theorem mem_lastIndices_cons {k : ℕ} (positive : 0 < k) (i first : ℕ) (indices : List ℕ) :
    i ∈ lastIndices k (first :: indices) ↔
      (i = first ∧ indices.length < k) ∨ i ∈ lastIndices k indices := by
  have nonzero : k ≠ 0 := by omega
  unfold lastIndices
  rw [if_neg nonzero, if_neg nonzero, List.length_cons]
  by_cases few : indices.length < k
  · have all : indices.length - k = 0 := by omega
    have all' : indices.length + 1 - k = 0 := by omega
    rw [all, all', List.drop_zero, List.drop_zero, List.mem_cons]
    simp [few]
  · have one_more : indices.length + 1 - k = indices.length - k + 1 := by omega
    rw [one_more, List.drop_succ_cons]
    simp [few]

theorem length_indicesOf (key : String) (articles : List (List ProfileEntry)) (first : ℕ) :
    (indicesOf key articles first).length = sharing targets key articles := by
  induction articles generalizing first with
  | nil => rfl
  | cons article articles ih =>
    have later := ih (first + 1)
    unfold indicesOf at later ⊢
    rw [List.zipIdx_cons, sharing_cons, ← later]
    by_cases has : key ∈ targets article
    · simp [has]
    · simp [has]

/-- An index is among the last of a target exactly when its article has the target and fewer than
`k` later ones have. -/
theorem mem_lastIndices_indicesOf {k : ℕ} (positive : 0 < k) (key : String) (i : ℕ)
    (articles : List (List ProfileEntry)) (first : ℕ) :
    i ∈ lastIndices k (indicesOf key articles first) ↔
      ∃ j article, i = first + j ∧ articles[j]? = some article ∧ key ∈ targets article ∧
        sharing targets key (articles.drop (j + 1)) < k := by
  induction articles generalizing first with
  | nil =>
    unfold indicesOf lastIndices
    simp
  | cons article articles ih =>
    have split : i ∈ lastIndices k (indicesOf key (article :: articles) first) ↔
        (i = first ∧ key ∈ targets article ∧ sharing targets key articles < k) ∨
          i ∈ lastIndices k (indicesOf key articles (first + 1)) := by
      have length := length_indicesOf key articles (first + 1)
      unfold indicesOf at length ⊢
      rw [List.zipIdx_cons]
      by_cases has : key ∈ targets article
      · rw [List.filter_cons_of_pos (by simpa using has), List.map_cons,
          mem_lastIndices_cons positive, length]
        simp [has]
      · rw [List.filter_cons_of_neg (by simpa using has)]
        simp [has]
    rw [split, ih]
    constructor
    · rintro (⟨rfl, has, few⟩ | ⟨j, later, rfl, found, has, few⟩)
      · exact ⟨0, article, rfl, rfl, has, few⟩
      · exact ⟨j + 1, later, by omega, found, has, few⟩
    · rintro ⟨j, found_article, rfl, found, has, few⟩
      cases j with
      | zero =>
        cases found
        exact .inl ⟨rfl, has, few⟩
      | succ j => exact .inr ⟨j, found_article, by omega, found, has, few⟩

theorem filter_zipIdx_eq_retain {k : ℕ} (articles : List (List ProfileEntry)) (first : ℕ)
    (keep : List ℕ) (kept : ∀ j article, articles[j]? = some article →
      (first + j ∈ keep ↔ Recent targets k article (articles.drop (j + 1)))) :
    ((articles.zipIdx first).filter fun article => decide (article.2 ∈ keep)).map Prod.fst =
      retain targets k articles := by
  unfold retain
  induction articles generalizing first with
  | nil => rfl
  | cons article articles ih =>
    have later := ih (first + 1) fun j other found => by
      have := kept (j + 1) other found
      rw [Nat.add_comm j 1, ← Nat.add_assoc] at this
      rw [this, Nat.add_comm 1 j]
      rfl
    have here := kept 0 article rfl
    rw [Nat.add_zero, Nat.zero_add, List.drop_one, List.tail_cons] at here
    rw [List.zipIdx_cons]
    by_cases recent : Recent targets k article articles
    · rw [List.filter_cons_of_pos (by simpa using here.2 recent), List.map_cons, later,
        retainBefore_cons_of_recent (by simpa using recent)]
    · rw [List.filter_cons_of_neg (by simpa using fun held => recent (here.1 held)), later,
        retainBefore_cons_of_not_recent (by simpa using recent)]

/-- The window is the recent articles, one after another. -/
theorem trimByTarget_eq {k : ℕ} (positive : 0 < k) (entries : List ProfileEntry) :
    trimByTarget entries k = (retain targets k (groupIntoArticles entries)).flatten := by
  have kept : ∀ j article, (groupIntoArticles entries)[j]? = some article →
      (0 + j ∈ keepIndices k (groupIntoArticles entries) ↔
        Recent targets k article ((groupIntoArticles entries).drop (j + 1))) := by
    intro j article found
    rw [mem_keepIndices]
    simp only [mem_lastIndices_indicesOf positive, Nat.zero_add]
    constructor
    · rintro ⟨key, _, other, rfl, found', has, few⟩
      cases found.symm.trans found'
      exact ⟨key, has, few⟩
    · rintro ⟨key, has, few⟩
      exact ⟨key, j, article, rfl, found, has, few⟩
  unfold trimByTarget
  by_cases no_entries : entries = []
  · rw [if_pos no_entries, no_entries]
    rfl
  · rw [if_neg no_entries]
    by_cases no_articles : groupIntoArticles entries = []
    · dsimp only
      rw [if_pos no_articles, no_articles]
      rfl
    · dsimp only
      rw [if_neg no_articles, List.flatMap_def, filter_zipIdx_eq_retain _ 0 _ kept]

/-! ## Trimming and appending -/

theorem groupIntoArticles_trimByTarget {k : ℕ} (positive : 0 < k) (entries : List ProfileEntry) :
    groupIntoArticles (trimByTarget entries k) = retain targets k (groupIntoArticles entries) := by
  rw [trimByTarget_eq positive]
  apply groupIntoArticles_flatten
  intro article held
  exact isArticle_of_mem_groupIntoArticles ((retain_sublist _).subset held)

/-- The article being read when the split falls is kept, being the last one of its targets, and
reading on from the trimmed window finds the same articles after it. -/
theorem trimByTarget_append {k : ℕ} (positive : 0 < k) (xs ys : List ProfileEntry) :
    trimByTarget (trimByTarget xs k ++ ys) k = trimByTarget (xs ++ ys) k := by
  have whole := (groups_foldl xs).whole
  have started := (groups_foldl xs).started
  rw [trimByTarget_eq positive xs, trimByTarget_eq positive, trimByTarget_eq positive (xs ++ ys)]
  apply congrArg
  unfold groupIntoArticles
  rw [List.foldl_append, List.foldl_append]
  generalize xs.foldl groupStep ([], []) = state at whole started ⊢
  obtain ⟨articles, current⟩ := state
  by_cases waiting : current = []
  · have none_yet : articles = [] := started waiting
    subst waiting none_yet
    rfl
  · have finish : finishGroups (articles, current) = articles ++ [current] :=
      finishGroups_of_gathering waiting
    rw [finish] at whole
    have last := whole current List.mem_concat_self
    have kept : retain targets k (articles ++ [current]) =
        retainBefore targets k articles [current] ++ [current] := by
      rw [retain_append, retain_singleton positive last.targets_ne_nil]
    have reread : groupIntoArticles (retainBefore targets k articles [current]).flatten =
        retainBefore targets k articles [current] := groupIntoArticles_flatten fun article held =>
      whole article (List.mem_append_left _ ((retainBefore_sublist _ _).subset held))
    unfold groupIntoArticles at reread
    rw [finish, kept, List.flatten_append, List.flatten_singleton, List.foldl_append,
      foldl_groupStep_article last, reread]
    have resumed := foldl_groupStep_append ys (retainBefore targets k articles [current]) [] current
    have resumed' := foldl_groupStep_append ys articles [] current
    rw [List.append_nil] at resumed resumed'
    rw [resumed, resumed', retain_append, retain_append, retainBefore_retainBefore]
    intro key
    have grows := sharing_foldl_groupStep key ys ([], current)
    have alone : finishGroups ([], current) = [current] := finishGroups_of_gathering waiting
    rw [alone] at grows
    exact grows

/-- Recording batch after batch keeps what one trim of everything recorded would. -/
theorem foldl_recordArticle (history : List ProfileEntry) (batches : List (List ProfileEntry)) :
    batches.foldl recordArticle (trimByTarget history maxArticlesPerTarget) =
      trimByTarget (history ++ batches.flatten) maxArticlesPerTarget := by
  induction batches generalizing history with
  | nil => rw [List.foldl_nil, List.flatten_nil, List.append_nil]
  | cons batch batches ih =>
    have step : recordArticle (trimByTarget history maxArticlesPerTarget) batch =
        trimByTarget (history ++ batch) maxArticlesPerTarget := by
      unfold recordArticle
      by_cases empty : batch = []
      · rw [if_pos empty, empty, List.append_nil]
      · rw [if_neg empty]
        exact trimByTarget_append (by decide) history batch
    rw [List.foldl_cons, step, ih, List.flatten_cons, List.append_assoc]

theorem trimByTarget_sublist {k : ℕ} (positive : 0 < k) (entries : List ProfileEntry) :
    (trimByTarget entries k).Sublist entries := by
  have ⟨orphans, _, read⟩ := flatten_groupIntoArticles entries
  rw [trimByTarget_eq positive]
  conv_rhs => rw [read]
  exact (List.Sublist.flatten (retain_sublist _)).trans (List.sublist_append_right _ _)

/-- The window of `k` articles a target: appending before or after a trim is the same; the window
is a subsequence of the links made of whole articles; and for every target it ends in the last
`k` articles that have it. -/
theorem trim_window (k : ℕ) (positive : 1 ≤ k) :
    (∀ xs ys, trimByTarget (trimByTarget xs k ++ ys) k = trimByTarget (xs ++ ys) k) ∧
    (∀ entries, (trimByTarget entries k).Sublist entries ∧
      (∃ orphans, (∀ entry ∈ orphans, entry.linkRole ≠ "main") ∧
        entries = orphans ++ (groupIntoArticles entries).flatten) ∧
      (∀ article ∈ groupIntoArticles entries, IsArticle article) ∧
      (groupIntoArticles (trimByTarget entries k)).Sublist (groupIntoArticles entries) ∧
      trimByTarget entries k = (groupIntoArticles (trimByTarget entries k)).flatten ∧
      ∀ targetUrl, (having targets targetUrl (groupIntoArticles entries)).drop
          ((having targets targetUrl (groupIntoArticles entries)).length - k) <:+
        having targets targetUrl (groupIntoArticles (trimByTarget entries k))) ∧
    (∀ (history : List ProfileEntry) (batches : List (List ProfileEntry)),
      batches.foldl recordArticle (trimByTarget history maxArticlesPerTarget) =
        trimByTarget (history ++ batches.flatten) maxArticlesPerTarget) := by
  refine ⟨trimByTarget_append positive, ?_, foldl_recordArticle⟩
  intro entries
  rw [groupIntoArticles_trimByTarget positive]
  refine ⟨trimByTarget_sublist positive entries, flatten_groupIntoArticles entries,
    fun _ => isArticle_of_mem_groupIntoArticles, retain_sublist _,
    trimByTarget_eq positive entries, ?_⟩
  intro targetUrl
  have length : (having targets targetUrl (groupIntoArticles entries)).length =
      sharing targets targetUrl (groupIntoArticles entries) := List.countP_eq_length_filter.symm
  rw [length]
  exact recent_suffix_retain targetUrl (groupIntoArticles entries)

/-- A link by itself is an article, and the later of two to one target is the last. -/
theorem trim_window_one :
    let link (ts : String) : ProfileEntry :=
      ⟨ts, "main", "home", "branded", "Example", false, "https://example.com/"⟩
    trimByTarget (trimByTarget [link "1"] 1 ++ [link "2"]) 1 = [link "2"] := by
  intro link
  rw [(trim_window 1 (by decide)).1]
  decide

end BacklinkPublisher.ProfileTrim
