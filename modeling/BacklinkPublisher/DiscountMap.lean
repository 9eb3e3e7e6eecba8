import BacklinkPublisher.LatestVerdicts

set_option autoImplicit false

/-!
# Discounts by target

`build_discount_map` of `recheck/overlay.py`: the latest verdicts of the links, summed up for each
canonical target.
-/
namespace BacklinkPublisher.DiscountMap
open EventPayloads EventStore KeyedMaxima LatestVerdicts OrderedDicts

structure ArticleRow where
  articleId : ℤ
  targetUrlsJson : String
  deriving DecidableEq, Repr

structure TargetDiscount where
  target : String
  deadCount : ℕ := 0
  dofollowLostCount : ℕ := 0
  deadPlatforms : Finset String := ∅
  deriving DecidableEq

def TargetDiscount.total (discount : TargetDiscount) : ℕ :=
  discount.deadCount + discount.dofollowLostCount

structure AlivePlatforms where
  target : String
  platforms : Finset String := ∅
  deriving DecidableEq

structure DiscountTally where
  discounted : ℕ := 0
  deadSeen : ℕ := 0
  nullOrBlankTarget : ℕ := 0
  unknownVerdict : ℕ := 0
  unkeyable : ℕ := 0
  deriving DecidableEq, Repr

structure DiscountResult where
  byTarget : List TargetDiscount := []
  alivePlatforms : List AlivePlatforms := []
  tally : DiscountTally := {}
  deriving DecidableEq

inductive DiscountError where
  | payload (error : PayloadError)
  | unindexable
  | recursion
  | unhashable
  deriving DecidableEq, Repr

def discountVerdicts : List Value := dofollowLost :: deterministicDead

section Building
variable (R : Readers)

def columnTarget (entry : LatestVerdict) : Option String :=
  canonTarget R (Value.ofOption entry.targetUrl)

def needRecovery (latest : List LatestVerdict) : List ℤ :=
  latest.filterMap fun entry =>
    if columnTarget R entry = none then entry.articleId else none

/-- `targets[0] if targets`. -/
def firstTarget (targetUrlsJson : String) : Except DiscountError (Option Value) :=
  if targetUrlsJson = "" then .ok none
  else
    match R.loadsTargets targetUrlsJson with
    | .list items => .ok items.head?
    | .text s => .ok (s.toList.head?.map fun c => .text (String.ofList [c]))
    | .blank => .ok none
    | .unindexable => .error .unindexable
    | .valueError => .ok none
    | .recursionError => .error .recursion

def recoverFrom (ids : List ℤ) (recovered : List (ℤ × String)) :
    List ArticleRow → Except DiscountError (List (ℤ × String))
  | [] => .ok recovered
  | article :: articles =>
    if article.articleId ∈ ids then
      match firstTarget R article.targetUrlsJson with
      | .error error => .error error
      | .ok first =>
        match first.bind (canonTarget R) with
        | none => recoverFrom ids recovered articles
        | some canon => recoverFrom ids ((article.articleId, canon) :: recovered) articles
    else recoverFrom ids recovered articles

def articlesTargets (ids : List ℤ) (articles : List ArticleRow) :
    Except DiscountError (List (ℤ × String)) :=
  if ids = [] then .ok [] else recoverFrom R ids [] articles

/-- The canonical target of a link, by its column or by its article. -/
def linkTarget (recovered : List (ℤ × String)) (entry : LatestVerdict) : Option String :=
  (columnTarget R entry).or (entry.articleId.bind fun aid => recovered.lookup aid)

def verdictOf (entry : LatestVerdict) : Value := field entry.payload "verdict"

/-- The platform that a verdict names. -/
def platformOf (entry : LatestVerdict) : Option String :=
  match field entry.payload "platform" with
  | .text platform => if platform ≠ "" then some platform else none
  | _ => none

def TargetDiscount.add (verdict : Value) (platform : Option String) (discount : TargetDiscount) :
    TargetDiscount :=
  let counted :=
    if verdict ∈ deterministicDead then { discount with deadCount := discount.deadCount + 1 }
    else { discount with dofollowLostCount := discount.dofollowLostCount + 1 }
  match platform with
  | some platform => { counted with deadPlatforms := insert platform counted.deadPlatforms }
  | none => counted

def AlivePlatforms.add (platform : String) (entry : AlivePlatforms) : AlivePlatforms :=
  { entry with platforms := insert platform entry.platforms }

def DiscountResult.addAlive (target platform : String) (result : DiscountResult) :
    DiscountResult :=
  { result with
    alivePlatforms := adjust AlivePlatforms.target target (AlivePlatforms.add platform)
      (ensure AlivePlatforms.target { target } result.alivePlatforms) }

def DiscountTally.count (verdict : Value) (tally : DiscountTally) : DiscountTally :=
  { tally with
    discounted := tally.discounted + 1
    deadSeen := if verdict ∈ deterministicDead then tally.deadSeen + 1 else tally.deadSeen }

def DiscountResult.addDead (target : String) (verdict : Value) (platform : Option String)
    (result : DiscountResult) : DiscountResult :=
  { result with
    byTarget := adjust TargetDiscount.target target (TargetDiscount.add verdict platform)
      (ensure TargetDiscount.target { target } result.byTarget)
    tally := result.tally.count verdict }

def isCompound : Value → Bool
  | .compound _ _ => true
  | _ => false

/-- The body of the loop over the latest verdicts. -/
def discountStep (recovered : List (ℤ × String)) (result : DiscountResult)
    (entry : LatestVerdict) : Except DiscountError DiscountResult :=
  let verdict := verdictOf entry
  let canon := linkTarget R recovered entry
  if verdict = probeError then .ok result
  else if verdict = alive then
    match canon, platformOf entry with
    | some target, some platform => .ok (result.addAlive target platform)
    | _, _ => .ok result
  else if isCompound verdict then .error .unhashable
  else if verdict ∉ discountVerdicts then
    .ok { result with
      tally := { result.tally with unknownVerdict := result.tally.unknownVerdict + 1 } }
  else
    match canon with
    | none =>
      .ok { result with
        tally := { result.tally with nullOrBlankTarget := result.tally.nullOrBlankTarget + 1 } }
    | some target => .ok (result.addDead target verdict (platformOf entry))

def discountFrom (recovered : List (ℤ × String)) (result : DiscountResult) :
    List LatestVerdict → Except DiscountError DiscountResult
  | [] => .ok result
  | entry :: latest =>
    match discountStep R recovered result entry with
    | .error error => .error error
    | .ok next => discountFrom recovered next latest

def buildDiscountMap (rows : List RecheckRow) (articles : List ArticleRow) :
    Except DiscountError DiscountResult :=
  match latestLinkVerdicts R rows with
  | .error error => .error (.payload error)
  | .ok (latest, unkeyable) =>
    match articlesTargets R (needRecovery R latest) articles with
    | .error error => .error error
    | .ok recovered => discountFrom R recovered { tally := { unkeyable } } latest

end Building

/-! ## Where it returns -/

section Returns
variable {R : Readers}

/-- What an article's list of targets may be: a list, a text, empty, or no JSON. -/
def Indexable (R : Readers) (targetUrlsJson : String) : Prop :=
  targetUrlsJson = "" ∨ (R.loadsTargets targetUrlsJson ≠ .unindexable ∧
    R.loadsTargets targetUrlsJson ≠ .recursionError)

theorem firstTarget_ok {targetUrlsJson : String} :
    (∃ first, firstTarget R targetUrlsJson = .ok first) ↔ Indexable R targetUrlsJson := by
  unfold firstTarget Indexable
  by_cases empty : targetUrlsJson = ""
  · rw [if_pos empty]
    exact iff_of_true ⟨none, rfl⟩ (.inl empty)
  · rw [if_neg empty]
    cases R.loadsTargets targetUrlsJson <;> simp [empty]

theorem recoverFrom_ok {ids : List ℤ} {articles : List ArticleRow}
    (recovered : List (ℤ × String)) :
    (∃ out, recoverFrom R ids recovered articles = .ok out) ↔
      ∀ article ∈ articles, article.articleId ∈ ids → Indexable R article.targetUrlsJson := by
  induction articles generalizing recovered with
  | nil => exact iff_of_true ⟨recovered, rfl⟩ fun _ h => absurd h List.not_mem_nil
  | cons article articles ih =>
    rw [recoverFrom, List.forall_mem_cons]
    by_cases needed : article.articleId ∈ ids
    · rw [if_pos needed, ← firstTarget_ok]
      cases first : firstTarget R article.targetUrlsJson with
      | error error => simp [needed]
      | ok value =>
        dsimp only
        cases value.bind (canonTarget R) with
        | none => simp [needed, ih]
        | some canon => simp [needed, ih]
    · rw [if_neg needed, ih]
      simp [needed]

theorem articlesTargets_ok {ids : List ℤ} {articles : List ArticleRow} :
    (∃ out, articlesTargets R ids articles = .ok out) ↔
      ∀ article ∈ articles, article.articleId ∈ ids → Indexable R article.targetUrlsJson := by
  unfold articlesTargets
  split_ifs with empty
  · rw [empty]
    exact iff_of_true ⟨[], rfl⟩ fun _ _ h => absurd h List.not_mem_nil
  · exact recoverFrom_ok []

theorem discountStep_ok {recovered : List (ℤ × String)} {result : DiscountResult}
    {entry : LatestVerdict} :
    (∃ next, discountStep R recovered result entry = .ok next) ↔
      isCompound (verdictOf entry) = false := by
  unfold discountStep
  dsimp only
  split_ifs with probe live compound known
  · rw [probe]
    exact iff_of_true ⟨result, rfl⟩ rfl
  · rw [live]
    refine iff_of_true ?_ rfl
    split
    · exact ⟨_, rfl⟩
    · exact ⟨_, rfl⟩
  · rw [compound]
    simp
  · refine iff_of_true ?_ (Bool.eq_false_iff.2 compound)
    split
    · exact ⟨_, rfl⟩
    · exact ⟨_, rfl⟩
  · exact iff_of_true ⟨_, rfl⟩ (Bool.eq_false_iff.2 compound)

theorem discountFrom_ok {recovered : List (ℤ × String)} {latest : List LatestVerdict}
    (result : DiscountResult) :
    (∃ out, discountFrom R recovered result latest = .ok out) ↔
      ∀ entry ∈ latest, isCompound (verdictOf entry) = false := by
  induction latest generalizing result with
  | nil => exact iff_of_true ⟨result, rfl⟩ fun _ h => absurd h List.not_mem_nil
  | cons entry latest ih =>
    rw [discountFrom, List.forall_mem_cons, ← @discountStep_ok R recovered result entry]
    cases step : discountStep R recovered result entry with
    | error error => simp
    | ok next => simp [ih]

end Returns

/-! ## The tally -/

section Tallies
variable {R : Readers}

def DiscountTally.judged (tally : DiscountTally) : ℕ :=
  tally.unknownVerdict + tally.nullOrBlankTarget + tally.discounted

def isQuiet (entry : LatestVerdict) : Bool :=
  verdictOf entry = probeError ∨ verdictOf entry = alive

theorem discountStep_judged {recovered : List (ℤ × String)} {result next : DiscountResult}
    {entry : LatestVerdict} (step : discountStep R recovered result entry = .ok next) :
    next.tally.judged = result.tally.judged + if isQuiet entry then 0 else 1 := by
  unfold isQuiet
  unfold discountStep at step
  dsimp only at step
  split_ifs at step with probe live compound known
  · cases step
    simp [probe]
  · have same : next.tally = result.tally := by
      split at step
      · cases step
        rfl
      · cases step
        rfl
    rw [same]
    simp [live]
  · rw [if_neg (by simp [probe, live])]
    unfold DiscountTally.judged
    split at step
    · cases step
      dsimp only
      omega
    · cases step
      change result.tally.unknownVerdict + result.tally.nullOrBlankTarget +
        (result.tally.discounted + 1) = _
      omega
  · rw [if_neg (by simp [probe, live])]
    cases step
    unfold DiscountTally.judged
    dsimp only
    omega

theorem discountFrom_judged {recovered : List (ℤ × String)} {latest : List LatestVerdict}
    {result out : DiscountResult} (h : discountFrom R recovered result latest = .ok out) :
    out.tally.judged + latest.countP isQuiet = result.tally.judged + latest.length := by
  induction latest generalizing result with
  | nil =>
    cases h
    rfl
  | cons entry latest ih =>
    rw [discountFrom] at h
    cases step : discountStep R recovered result entry with
    | error error =>
      rw [step] at h
      cases h
    | ok next =>
      rw [step] at h
      have later := ih h
      have here := discountStep_judged step
      rw [List.countP_cons, List.length_cons]
      split_ifs at here ⊢ with quiet
      · omega
      · omega

def countVerdict (verdict : Value) (latest : List LatestVerdict) : ℕ :=
  latest.countP fun entry => verdictOf entry = verdict

theorem countP_isQuiet (latest : List LatestVerdict) :
    latest.countP isQuiet = countVerdict probeError latest + countVerdict alive latest := by
  have apart : probeError ≠ alive := by decide
  unfold countVerdict
  induction latest with
  | nil => rfl
  | cons entry latest ih =>
    rw [List.countP_cons, List.countP_cons, List.countP_cons, ih]
    unfold isQuiet
    by_cases probe : verdictOf entry = probeError
    · simp [probe, apart]
      omega
    · by_cases live : verdictOf entry = alive
      · simp [live, apart.symm]
        omega
      · simp [probe, live]

end Tallies

/-! ## Order -/

section Order
variable {R : Readers}

/-- What both readers make of the rows in one order: the latest verdict of each link, the number of
rows without one, and a tally that is the number of links. -/
structure ReadsLatest (R : Readers) (rows : List RecheckRow) (articles : List ArticleRow)
    (winners : String → Option LatestVerdict) (order : List RecheckRow)
    (latest : List LatestVerdict) (result : DiscountResult) : Prop where
  read : latestLinkVerdicts R order = .ok (latest, unkeyedRows R rows)
  keys : (latest.map LatestVerdict.key).Nodup
  agree : ∀ key, lookup LatestVerdict.key key latest = winners key
  discounts : buildDiscountMap R order articles = .ok result
  tally : latest.length = countVerdict probeError latest + countVerdict alive latest +
    result.tally.unknownVerdict + result.tally.nullOrBlankTarget + result.tally.discounted

/-- The readers agree in every order of the rows on the latest verdicts, and miss no link. -/
def OrderIndependent (R : Readers) (rows : List RecheckRow) (articles : List ArticleRow) : Prop :=
  ∃ winners : String → Option LatestVerdict,
    (∀ key entry, winners key = some entry ↔ IsLatest R rows key entry) ∧
    (∀ row ∈ rows, ∀ entry, rowEntry R row = some entry → (winners entry.key).isSome = true) ∧
    ∀ order : List RecheckRow, order.Perm rows →
      ∃ latest result, ReadsLatest R rows articles winners order latest result

/-- Payloads that are objects, latest verdicts that can be hashed, and targets that can be indexed
where they are needed. -/
structure WellFormed (R : Readers) (rows : List RecheckRow) (articles : List ArticleRow) :
    Prop where
  readable : ∀ row ∈ rows, Readable R.loads (some row.payloadJson)
  hashable : ∀ key entry, IsLatest R rows key entry → isCompound (verdictOf entry) = false
  indexable : ∀ key entry, IsLatest R rows key entry → columnTarget R entry = none →
    ∀ article ∈ articles, entry.articleId = some article.articleId →
      Indexable R article.targetUrlsJson

theorem mem_needRecovery {latest : List LatestVerdict} {aid : ℤ} :
    aid ∈ needRecovery R latest ↔
      ∃ entry ∈ latest, columnTarget R entry = none ∧ entry.articleId = some aid := by
  unfold needRecovery
  rw [List.mem_filterMap]
  apply exists_congr
  intro entry
  apply and_congr_right
  intro _
  by_cases missing : columnTarget R entry = none
  · rw [if_pos missing]
    simp [missing]
  · rw [if_neg missing]
    simp [missing]

/-- The entries that the reader keeps are the latest ones. -/
theorem mem_latest {rows order : List RecheckRow} (ids : (rows.map RecheckRow.id).Nodup)
    (perm : order.Perm rows) {latest : List LatestVerdict}
    (max : Maxima LatestVerdict.key rank (order.filterMap (rowEntry R)) latest)
    {entry : LatestVerdict} : entry ∈ latest ↔ IsLatest R rows entry.key entry := by
  rw [← lookup_latest ids perm max, lookup_eq_some max.nodup]
  simp

theorem latestLinkVerdicts_spec {rows order : List RecheckRow}
    (readable : ∀ row ∈ rows, Readable R.loads (some row.payloadJson))
    (perm : order.Perm rows) :
    ∃ latest, latestLinkVerdicts R order = .ok (latest, unkeyedRows R rows) ∧
      Maxima LatestVerdict.key rank (order.filterMap (rowEntry R)) latest := by
  have ⟨latest, read, max⟩ := latestFrom_spec
    (fun row hrow => readable row (perm.mem_iff.1 hrow)) (maxima_nil LatestVerdict.key rank) 0
  rw [List.nil_append] at max
  have counted : unkeyedRows R order = unkeyedRows R rows := perm.countP_eq _
  rw [counted, Nat.zero_add] at read
  exact ⟨latest, read, max⟩

/-- What is summed up once the log is read. -/
theorem buildDiscountMap_eq_ok {order : List RecheckRow} {articles : List ArticleRow}
    {latest : List LatestVerdict} {unkeyable : ℕ} {result : DiscountResult}
    (read : latestLinkVerdicts R order = .ok (latest, unkeyable)) :
    buildDiscountMap R order articles = .ok result ↔
      ∃ recovered, articlesTargets R (needRecovery R latest) articles = .ok recovered ∧
        discountFrom R recovered { tally := { unkeyable } } latest = .ok result := by
  unfold buildDiscountMap
  rw [read]
  dsimp only
  cases articlesTargets R (needRecovery R latest) articles with
  | error error =>
    constructor
    · intro built
      cases built
    · rintro ⟨recovered, recover, _⟩
      cases recover
  | ok recovered =>
    constructor
    · intro built
      exact ⟨recovered, rfl, built⟩
    · rintro ⟨recovered', recover, built⟩
      cases recover
      exact built

/-- What the reader returns for one order can be summed up if and only if it is well formed. -/
theorem buildDiscountMap_ok {rows order : List RecheckRow} {articles : List ArticleRow}
    (ids : (rows.map RecheckRow.id).Nodup) (perm : order.Perm rows) :
    (∃ result, buildDiscountMap R order articles = .ok result) ↔ WellFormed R rows articles := by
  constructor
  · rintro ⟨result, built⟩
    cases read : latestLinkVerdicts R order with
    | error error =>
      unfold buildDiscountMap at built
      rw [read] at built
      cases built
    | ok found =>
      have readable : ∀ row ∈ rows, Readable R.loads (some row.payloadJson) := by
        intro row hrow
        exact readable_of_latestFrom read row (perm.mem_iff.2 hrow)
      have ⟨latest, read', max⟩ := latestLinkVerdicts_spec readable perm
      rw [read'] at read
      cases read
      have ⟨recovered, recover, summed⟩ := (buildDiscountMap_eq_ok read').1 built
      have entries := (discountFrom_ok _).1 ⟨result, summed⟩
      have targets := articlesTargets_ok.1 ⟨recovered, recover⟩
      have held : ∀ key entry, IsLatest R rows key entry → entry ∈ latest := by
        intro key entry last
        apply (mem_latest ids perm max).2
        rw [last.2.1]
        exact last
      refine ⟨readable, fun key entry last => entries entry (held key entry last), ?_⟩
      intro key entry last missing article harticle own
      apply targets article harticle
      exact mem_needRecovery.2 ⟨entry, held key entry last, missing, own⟩
  · intro formed
    have ⟨latest, read, max⟩ := latestLinkVerdicts_spec formed.readable perm
    have targets : ∃ recovered, articlesTargets R (needRecovery R latest) articles =
        .ok recovered := by
      apply articlesTargets_ok.2
      intro article harticle needed
      have ⟨entry, hentry, missing, own⟩ := mem_needRecovery.1 needed
      exact formed.indexable entry.key entry ((mem_latest ids perm max).1 hentry) missing
        article harticle own
    have ⟨recovered, recover⟩ := targets
    have hashable : ∀ entry ∈ latest, isCompound (verdictOf entry) = false := by
      intro entry hentry
      exact formed.hashable entry.key entry ((mem_latest ids perm max).1 hentry)
    have sums : ∃ result, discountFrom R recovered
        { tally := { unkeyable := unkeyedRows R rows } } latest = .ok result :=
      (discountFrom_ok _).2 hashable
    have ⟨result, summed⟩ := sums
    exact ⟨result, (buildDiscountMap_eq_ok read).2 ⟨recovered, recover, summed⟩⟩

theorem buildDiscountMap_tally {order : List RecheckRow} {articles : List ArticleRow}
    {latest : List LatestVerdict} {unkeyable : ℕ} {result : DiscountResult}
    (read : latestLinkVerdicts R order = .ok (latest, unkeyable))
    (built : buildDiscountMap R order articles = .ok result) :
    latest.length = countVerdict probeError latest + countVerdict alive latest +
      result.tally.unknownVerdict + result.tally.nullOrBlankTarget + result.tally.discounted := by
  have ⟨recovered, _, summed⟩ := (buildDiscountMap_eq_ok read).1 built
  have judged := discountFrom_judged summed
  have quiet := countP_isQuiet latest
  unfold DiscountTally.judged at judged
  dsimp only at judged
  omega

/-- **Order of the rows.** For rows of distinct ids both readers return, in every order, the latest
verdict of each link and a tally that adds up to the links, if and only if every payload is an
object, no JSON or empty, the latest verdicts can be hashed, and the targets of the articles that
are needed can be indexed. -/
theorem order_independent_iff {R : Readers} {rows : List RecheckRow} {articles : List ArticleRow}
    (ids : (rows.map RecheckRow.id).Nodup) :
    OrderIndependent R rows articles ↔ WellFormed R rows articles := by
  constructor
  · rintro ⟨winners, _, _, reads⟩
    have ⟨latest, result, own⟩ := reads rows (List.Perm.refl rows)
    exact (buildDiscountMap_ok ids (List.Perm.refl rows)).1 ⟨result, own.discounts⟩
  · intro formed
    have ⟨latest, read, max⟩ := latestLinkVerdicts_spec formed.readable (List.Perm.refl rows)
    have same : ∀ key entry, lookup LatestVerdict.key key latest = some entry ↔
        IsLatest R rows key entry := fun key entry => lookup_latest ids (List.Perm.refl rows) max
    refine ⟨fun key => lookup LatestVerdict.key key latest, same, ?_, ?_⟩
    · intro row hrow entry keyed
      have reached := max.reached entry (List.mem_filterMap.2 ⟨row, hrow, keyed⟩)
      cases found : lookup LatestVerdict.key entry.key latest with
      | none => exact absurd reached (not_mem_keys_of_lookup found)
      | some value => exact Option.isSome_iff_exists.2 ⟨value, found⟩
    · intro order perm
      have ⟨latest', read', max'⟩ := latestLinkVerdicts_spec formed.readable perm
      have ⟨result, built⟩ := (buildDiscountMap_ok ids perm).2 formed
      refine ⟨latest', result, read', max'.nodup, fun key => ?_, built,
        buildDiscountMap_tally read' built⟩
      cases found : lookup LatestVerdict.key key latest with
      | none =>
        cases found' : lookup LatestVerdict.key key latest' with
        | none => rfl
        | some entry =>
          have last := (lookup_latest ids perm max').1 found'
          rw [(same key entry).2 last] at found
          cases found
      | some entry => exact (lookup_latest ids perm max').2 ((same key entry).1 found)

section Rows

/-- Texts of two verdicts, a list that some producer has stored, and no JSON at all. -/
def sampleLoads (text : String) : JsonOutcome :=
  if text = "dead" then
    .object [("live_url", .text "https://blog.example/1"), ("verdict", .text "host_gone"),
      ("platform", .text "medium")]
  else if text = "alive" then
    .object [("live_url", .text "https://blog.example/1"), ("verdict", .text "alive"),
      ("platform", .text "medium")]
  else if text = "[]" then .other
  else .valueError

def sampleReaders : Readers where
  loads := sampleLoads
  loadsTargets _ := .blank
  fromIso _ := none
  unicode := UrlSplit.asciiData

def recheck (id : ℕ) (payloadJson : String) : RecheckRow :=
  ⟨id, "2026-05-29T00:00:00Z", none, some "https://site.example/", payloadJson⟩

/-- Two verdicts for one link, in one second. -/
theorem order_independent_recheck :
    OrderIndependent sampleReaders [recheck 1 "dead", recheck 2 "alive"] [] := by
  have ids : ([recheck 1 "dead", recheck 2 "alive"].map RecheckRow.id).Nodup := by decide
  apply (order_independent_iff ids).2
  refine ⟨?_, ?_, fun _ _ _ _ _ h => absurd h List.not_mem_nil⟩
  · intro row hrow text same _
    simp only [List.mem_cons, List.not_mem_nil, or_false] at hrow
    rcases hrow with rfl | rfl <;> cases same <;> exact .inr ⟨_, rfl⟩
  · rintro key entry ⟨⟨row, hrow, made⟩, _⟩
    simp only [List.mem_cons, List.not_mem_nil, or_false] at hrow
    have ⟨url, _, same⟩ := Option.map_eq_some_iff.1 made
    rw [← same]
    rcases hrow with rfl | rfl <;> rfl

/-- A list for a payload ends the reader in every order. -/
theorem list_payload_raises : ¬ OrderIndependent sampleReaders [recheck 1 "[]"] [] := by
  rintro ⟨winners, _, _, reads⟩
  have ⟨latest, result, own⟩ := reads _ (List.Perm.refl _)
  have raises : buildDiscountMap sampleReaders [recheck 1 "[]"] [] = .error (.payload .noGet) := rfl
  have built := own.discounts
  rw [raises] at built
  cases built

end Rows

end Order
end BacklinkPublisher.DiscountMap
