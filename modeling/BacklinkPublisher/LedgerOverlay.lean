import BacklinkPublisher.DiscountMap
import BacklinkPublisher.OptionFolds

set_option autoImplicit false

/-!
# The ledger under the overlay

`apply_discounts` of `recheck/overlay.py` over the discounts of the latest verdicts: what each row
loses, and which platforms.
-/
namespace BacklinkPublisher.LedgerOverlay
open DiscountMap EventStore KeyedMaxima LatestVerdicts OptionFolds OrderedDicts

universe u

/-- `live_dofollow`; everything that is no `int` counts as zero. -/
inductive LiveCount where
  | int (n : ℤ)
  | other (value : Value)
  deriving DecidableEq, Repr

def LiveCount.value : LiveCount → ℤ
  | .int n => n
  | .other _ => 0

inductive LivePlatforms where
  | list (items : List Value)
  | other (value : Value)
  deriving DecidableEq, Repr

/-- A row of the ledger; `rest` are its other fields. -/
structure LedgerRow (ρ : Type u) where
  targetUrl : Value
  liveDofollow : LiveCount
  livePlatforms : LivePlatforms
  rest : ρ
  deriving DecidableEq, Repr

structure TransformTally where
  targetsReduced : ℕ := 0
  unmatchedDiscount : ℕ := 0
  deriving DecidableEq, Repr

section Applying
variable {ρ : Type u} (R : Readers)

/-- `discounts.alive_platforms.get(canon, set())`. -/
def aliveOn (discounts : DiscountResult) (target : String) : Finset String :=
  ((lookup AlivePlatforms.target target discounts.alivePlatforms).map
    AlivePlatforms.platforms).getD ∅

/-- The canonical target of a row, with its discount. -/
def discountOf (discounts : DiscountResult) (row : LedgerRow ρ) :
    Option (String × TargetDiscount) :=
  match canonTarget R row.targetUrl with
  | none => none
  | some canon =>
    match lookup TargetDiscount.target canon discounts.byTarget with
    | none => none
    | some discount => if discount.total = 0 then none else some (canon, discount)

def inSet (platforms : Finset String) : Value → Bool
  | .text s => s ∈ platforms
  | _ => false

def prunePlatforms (prune : Finset String) : LivePlatforms → Except DiscountError LivePlatforms
  | .list items =>
    if prune = ∅ then .ok (.list items)
    else if items.any isCompound then .error .unhashable
    else .ok (.list (items.filter fun p => !inSet prune p))
  | .other value => .ok (.other value)

def applyFrom (discounts : DiscountResult) (out : List (LedgerRow ρ)) (matched : Finset String)
    (reduced : ℕ) : List (LedgerRow ρ) → Except DiscountError (List (LedgerRow ρ) × TransformTally)
  | [] => .ok (out, ⟨reduced, discounts.byTarget.countP fun td => td.target ∉ matched⟩)
  | row :: rows =>
    match discountOf R discounts row with
    | none => applyFrom discounts (out ++ [row]) matched reduced rows
    | some (canon, td) =>
      match prunePlatforms (td.deadPlatforms \ aliveOn discounts canon) row.livePlatforms with
      | .error error => .error error
      | .ok platforms =>
        let row' := { row with
          liveDofollow := .int (max 0 (row.liveDofollow.value - td.total))
          livePlatforms := platforms }
        applyFrom discounts (out ++ [row']) (insert canon matched) (reduced + 1) rows

def applyDiscounts (ledger : List (LedgerRow ρ)) (discounts : DiscountResult) :
    Except DiscountError (List (LedgerRow ρ) × TransformTally) :=
  applyFrom R discounts [] ∅ 0 ledger

end Applying

/-! ## Dead and live links of a target -/

section Links
variable (T : LatestVerdict → Option String)

def isDeadLink (target : String) (entry : LatestVerdict) : Bool :=
  verdictOf entry ∈ discountVerdicts ∧ T entry = some target

def deadLinks (latest : List LatestVerdict) (target : String) : ℕ :=
  latest.countP (isDeadLink T target)

/-- One of the verdicts in `L` names the platform for a dead link of the target. -/
def namesDead (L : LatestVerdict → Prop) (target platform : String) : Prop :=
  ∃ entry, L entry ∧ isDeadLink T target entry = true ∧ platformOf entry = some platform

def namesAlive (L : LatestVerdict → Prop) (target platform : String) : Prop :=
  ∃ entry, L entry ∧ (verdictOf entry = alive ∧ T entry = some target) ∧
    platformOf entry = some platform

end Links

section Discounts
variable {R : Readers}

def totalOn (discounts : DiscountResult) (target : String) : ℕ :=
  ((lookup TargetDiscount.target target discounts.byTarget).map TargetDiscount.total).getD 0

def deadOn (discounts : DiscountResult) (target : String) : Finset String :=
  ((lookup TargetDiscount.target target discounts.byTarget).map
    TargetDiscount.deadPlatforms).getD ∅

theorem add_target (verdict : Value) (platform : Option String) (discount : TargetDiscount) :
    (discount.add verdict platform).target = discount.target := by
  unfold TargetDiscount.add
  dsimp only
  split <;> split_ifs <;> rfl

theorem add_total (verdict : Value) (platform : Option String) (discount : TargetDiscount) :
    (discount.add verdict platform).total = discount.total + 1 := by
  unfold TargetDiscount.add TargetDiscount.total
  dsimp only
  split <;> split_ifs <;> dsimp only <;> omega

theorem mem_add_platforms {verdict : Value} {platform : Option String}
    {discount : TargetDiscount} {p : String} :
    p ∈ (discount.add verdict platform).deadPlatforms ↔
      p ∈ discount.deadPlatforms ∨ platform = some p := by
  unfold TargetDiscount.add
  dsimp only
  cases platform with
  | none => split_ifs <;> simp
  | some named => split_ifs <;> simp [eq_comm, or_comm]

theorem lookup_addDead (target t : String) (verdict : Value) (platform : Option String)
    (result : DiscountResult) :
    lookup TargetDiscount.target t (result.addDead target verdict platform).byTarget =
      ((lookup TargetDiscount.target t result.byTarget).or
        (if t = target then some { target } else none)).map fun td =>
          if t = target then td.add verdict platform else td := by
  unfold DiscountResult.addDead
  rw [lookup_adjust (add_target verdict platform), lookup_ensure]

theorem alive_add_target (platform : String) (entry : AlivePlatforms) :
    (entry.add platform).target = entry.target := rfl

theorem total_fresh (target : String) : TargetDiscount.total { target } = 0 := rfl

theorem aliveOn_addAlive (target t platform p : String) (result : DiscountResult) :
    p ∈ aliveOn (result.addAlive target platform) t ↔
      p ∈ aliveOn result t ∨ (target = t ∧ platform = p) := by
  unfold aliveOn DiscountResult.addAlive
  rw [lookup_adjust (alive_add_target platform), lookup_ensure]
  by_cases own : t = target
  · subst own
    cases lookup AlivePlatforms.target t result.alivePlatforms with
    | none => simp [AlivePlatforms.add, eq_comm]
    | some entry => simp [AlivePlatforms.add, eq_comm, or_comm]
  · have foreign : target ≠ t := fun same => own same.symm
    cases lookup AlivePlatforms.target t result.alivePlatforms with
    | none => simp [own, foreign]
    | some entry => simp [own, foreign]

/-- What an iteration of the loop adds to the discounts of a target. -/
structure StepFacts (R : Readers) (recovered : List (ℤ × String)) (result next : DiscountResult)
    (entry : LatestVerdict) : Prop where
  total : ∀ t, totalOn next t =
    totalOn result t + if isDeadLink (linkTarget R recovered) t entry then 1 else 0
  dead : ∀ t p, p ∈ deadOn next t ↔ p ∈ deadOn result t ∨
    (isDeadLink (linkTarget R recovered) t entry = true ∧ platformOf entry = some p)
  alive : ∀ t p, p ∈ aliveOn next t ↔ p ∈ aliveOn result t ∨
    ((verdictOf entry = alive ∧ linkTarget R recovered entry = some t) ∧
      platformOf entry = some p)
  keys : ∀ t, t ∈ next.byTarget.map TargetDiscount.target ↔
    t ∈ result.byTarget.map TargetDiscount.target ∨
      isDeadLink (linkTarget R recovered) t entry = true
  nodup : (result.byTarget.map TargetDiscount.target).Nodup →
    (next.byTarget.map TargetDiscount.target).Nodup

/-- An iteration that changes no target. -/
theorem StepFacts.idle {recovered : List (ℤ × String)} {result next : DiscountResult}
    {entry : LatestVerdict} (targets : next.byTarget = result.byTarget)
    (lives : next.alivePlatforms = result.alivePlatforms)
    (undead : ∀ t, isDeadLink (linkTarget R recovered) t entry = false)
    (unalive : ∀ t p, ¬ ((verdictOf entry = LatestVerdicts.alive ∧
      linkTarget R recovered entry = some t) ∧ platformOf entry = some p)) :
    StepFacts R recovered result next entry where
  total t := by
    unfold totalOn
    rw [targets, undead t]
    simp
  dead t p := by
    unfold deadOn
    rw [targets, undead t]
    simp
  alive t p := by
    unfold aliveOn
    rw [lives]
    simp [unalive t p]
  keys t := by
    rw [targets, undead t]
    simp
  nodup h := by
    rw [targets]
    exact h

theorem StepFacts.addDead {recovered : List (ℤ × String)} {result : DiscountResult}
    {entry : LatestVerdict} {target : String} (dead : verdictOf entry ∈ discountVerdicts)
    (own : linkTarget R recovered entry = some target) :
    StepFacts R recovered result
      (result.addDead target (verdictOf entry) (platformOf entry)) entry := by
  have link : ∀ t, isDeadLink (linkTarget R recovered) t entry = decide (t = target) := by
    intro t
    unfold isDeadLink
    rw [own]
    simp [dead, eq_comm]
  have unalive : verdictOf entry ≠ LatestVerdicts.alive := by
    intro live
    rw [live] at dead
    exact absurd dead (by decide)
  constructor
  case total =>
    intro t
    unfold totalOn
    rw [lookup_addDead, link t]
    by_cases same : t = target
    · subst same
      cases lookup TargetDiscount.target t result.byTarget with
      | none => simp [add_total, total_fresh]
      | some td => simp [add_total]
    · cases lookup TargetDiscount.target t result.byTarget with
      | none => simp [same]
      | some td => simp [same]
  case dead =>
    intro t p
    unfold deadOn
    rw [lookup_addDead, link t]
    by_cases same : t = target
    · subst same
      cases lookup TargetDiscount.target t result.byTarget with
      | none => simp [mem_add_platforms]
      | some td => simp [mem_add_platforms]
    · cases lookup TargetDiscount.target t result.byTarget with
      | none => simp [same]
      | some td => simp [same]
  case alive =>
    intro t p
    have kept : aliveOn (result.addDead target (verdictOf entry) (platformOf entry)) t =
        aliveOn result t := rfl
    rw [kept]
    simp [unalive]
  case keys =>
    intro t
    rw [link t, decide_eq_true_eq]
    unfold DiscountResult.addDead
    rw [keys_adjust (add_target _ _), mem_keys_ensure]
  case nodup =>
    intro h
    unfold DiscountResult.addDead
    rw [keys_adjust (add_target _ _)]
    exact nodup_keys_ensure h

theorem discountStep_facts {recovered : List (ℤ × String)} {result next : DiscountResult}
    {entry : LatestVerdict} (step : discountStep R recovered result entry = .ok next) :
    StepFacts R recovered result next entry := by
  have undead : verdictOf entry ∉ discountVerdicts →
      ∀ t, isDeadLink (linkTarget R recovered) t entry = false := by
    intro other t
    unfold isDeadLink
    simp [other]
  unfold discountStep at step
  dsimp only at step
  split_ifs at step with probe live compound known
  · cases step
    refine .idle rfl rfl (undead ?_) ?_
    · rw [probe]
      decide
    · rw [probe]
      exact fun _ _ h => absurd h.1.1 (by decide)
  · have quiet := undead (by rw [live]; decide)
    cases canon : linkTarget R recovered entry with
    | none =>
      rw [canon] at step
      cases step
      exact .idle rfl rfl quiet fun t p h => by cases canon.symm.trans h.1.2
    | some target =>
      rw [canon] at step
      cases named : platformOf entry with
      | none =>
        rw [named] at step
        cases step
        exact .idle rfl rfl quiet fun t p h => by cases named.symm.trans h.2
      | some platform =>
        rw [named] at step
        cases step
        constructor
        case total => intro t; rw [quiet t]; rfl
        case dead => intro t p; rw [quiet t]; simp [DiscountResult.addAlive, deadOn]
        case alive =>
          intro t p
          rw [aliveOn_addAlive, canon, named]
          simp [live]
        case keys => intro t; rw [quiet t]; simp [DiscountResult.addAlive]
        case nodup => exact fun h => h
  · cases canon : linkTarget R recovered entry with
    | none =>
      rw [canon] at step
      cases step
      refine .idle rfl rfl ?_ fun t p h => live h.1.1
      intro t
      unfold isDeadLink
      rw [canon]
      simp
    | some target =>
      rw [canon] at step
      cases step
      exact .addDead known canon
  · cases step
    exact .idle rfl rfl (undead known) fun t p h => live h.1.1

/-- The discounts are those of the links seen so far. -/
structure DiscountsOf (T : LatestVerdict → Option String) (seen : List LatestVerdict)
    (result : DiscountResult) : Prop where
  total : ∀ t, totalOn result t = deadLinks T seen t
  dead : ∀ t p, p ∈ deadOn result t ↔ namesDead T (· ∈ seen) t p
  alive : ∀ t p, p ∈ aliveOn result t ↔ namesAlive T (· ∈ seen) t p
  keys : ∀ t, t ∈ result.byTarget.map TargetDiscount.target ↔ 0 < deadLinks T seen t
  nodup : (result.byTarget.map TargetDiscount.target).Nodup

theorem exists_mem_concat {P : LatestVerdict → Prop} {seen : List LatestVerdict}
    {entry : LatestVerdict} :
    (∃ e ∈ seen ++ [entry], P e) ↔ (∃ e ∈ seen, P e) ∨ P entry := by
  simp [or_and_right, exists_or]

theorem DiscountsOf.step {recovered : List (ℤ × String)} {seen : List LatestVerdict}
    {result next : DiscountResult} {entry : LatestVerdict}
    (known : DiscountsOf (linkTarget R recovered) seen result)
    (facts : StepFacts R recovered result next entry) :
    DiscountsOf (linkTarget R recovered) (seen ++ [entry]) next := by
  have counted : ∀ t, deadLinks (linkTarget R recovered) (seen ++ [entry]) t =
      deadLinks (linkTarget R recovered) seen t +
        if isDeadLink (linkTarget R recovered) t entry then 1 else 0 := by
    intro t
    unfold deadLinks
    rw [List.countP_append, List.countP_singleton]
  constructor
  case total => intro t; rw [facts.total, known.total, counted]
  case dead =>
    intro t p
    rw [facts.dead, known.dead]
    exact exists_mem_concat.symm
  case alive =>
    intro t p
    rw [facts.alive, known.alive]
    exact exists_mem_concat.symm
  case keys =>
    intro t
    rw [facts.keys, known.keys, counted]
    split_ifs with dead
    · simp [dead]
    · simp [dead]
  case nodup => exact facts.nodup known.nodup

theorem discountFrom_discounts {recovered : List (ℤ × String)}
    {seen latest : List LatestVerdict} {result out : DiscountResult}
    (known : DiscountsOf (linkTarget R recovered) seen result)
    (h : discountFrom R recovered result latest = .ok out) :
    DiscountsOf (linkTarget R recovered) (seen ++ latest) out := by
  induction latest generalizing seen result with
  | nil =>
    cases h
    rw [List.append_nil]
    exact known
  | cons entry latest ih =>
    rw [discountFrom] at h
    cases step : discountStep R recovered result entry with
    | error error =>
      rw [step] at h
      cases h
    | ok next =>
      rw [step] at h
      rw [List.append_cons]
      exact ih (known.step (discountStep_facts step)) h

end Discounts

/-! ## The target of a link -/

section Targets
variable {R : Readers}

def targetOfArticle (R : Readers) (article : ArticleRow) : Option String :=
  match firstTarget R article.targetUrlsJson with
  | .ok first => first.bind (canonTarget R)
  | .error _ => none

/-- The canonical first target of an article; of several rows the last one counts. -/
def articleTarget (R : Readers) (articles : List ArticleRow) (aid : ℤ) : Option String :=
  articles.reverse.findSome? fun article =>
    if article.articleId = aid then targetOfArticle R article else none

/-- The canonical target of a link: that of its column, else that of its article. -/
def entryTarget (R : Readers) (articles : List ArticleRow) (entry : LatestVerdict) :
    Option String :=
  (columnTarget R entry).or (entry.articleId.bind (articleTarget R articles))

theorem articleTarget_cons (article : ArticleRow) (articles : List ArticleRow) (aid : ℤ) :
    articleTarget R (article :: articles) aid = (articleTarget R articles aid).or
      (if article.articleId = aid then targetOfArticle R article else none) := by
  unfold articleTarget
  rw [List.reverse_cons, List.findSome?_append]
  congr 1
  rw [List.findSome?_cons]
  split <;> rename_i found <;> rw [found]
  rfl

theorem recoverFrom_lookup {ids : List ℤ} {articles : List ArticleRow}
    {recovered out : List (ℤ × String)} (h : recoverFrom R ids recovered articles = .ok out)
    {aid : ℤ} (needed : aid ∈ ids) :
    out.lookup aid = (articleTarget R articles aid).or (recovered.lookup aid) := by
  induction articles generalizing recovered with
  | nil =>
    cases h
    rfl
  | cons article articles ih =>
    rw [recoverFrom] at h
    rw [articleTarget_cons, Option.or_assoc]
    by_cases held : article.articleId ∈ ids
    · rw [if_pos held] at h
      unfold targetOfArticle
      cases first : firstTarget R article.targetUrlsJson with
      | error error =>
        rw [first] at h
        cases h
      | ok value =>
        rw [first] at h
        dsimp only at h ⊢
        cases canon : value.bind (canonTarget R) with
        | none =>
          rw [canon] at h
          rw [ih h]
          split_ifs <;> rfl
        | some target =>
          rw [canon] at h
          rw [ih h, List.lookup_cons]
          by_cases own : article.articleId = aid
          · rw [if_pos own, own, beq_self_eq_true]
            rfl
          · rw [if_neg own, beq_false_of_ne (Ne.symm own)]
            rfl
    · rw [if_neg held] at h
      have other : article.articleId ≠ aid := fun own => held (own ▸ needed)
      rw [ih h, if_neg other]
      rfl

/-- The recovered targets are those of the articles. -/
theorem linkTarget_eq {latest : List LatestVerdict} {articles : List ArticleRow}
    {recovered : List (ℤ × String)}
    (h : articlesTargets R (needRecovery R latest) articles = .ok recovered)
    {entry : LatestVerdict} (hentry : entry ∈ latest) :
    linkTarget R recovered entry = entryTarget R articles entry := by
  unfold linkTarget entryTarget
  cases column : columnTarget R entry with
  | some target => rfl
  | none =>
    cases own : entry.articleId with
    | none => rfl
    | some aid =>
      have needed : aid ∈ needRecovery R latest := mem_needRecovery.2 ⟨entry, hentry, column, own⟩
      unfold articlesTargets at h
      rw [if_neg (List.ne_nil_of_mem needed)] at h
      have found := recoverFrom_lookup h needed
      change recovered.lookup aid = articleTarget R articles aid
      rw [found, List.lookup_nil, Option.or_none]

theorem DiscountsOf.congr {T T' : LatestVerdict → Option String} {seen : List LatestVerdict}
    {result : DiscountResult} (same : ∀ entry ∈ seen, T entry = T' entry)
    (known : DiscountsOf T seen result) : DiscountsOf T' seen result := by
  have links : ∀ t, ∀ entry ∈ seen, isDeadLink T t entry = isDeadLink T' t entry := by
    intro t entry hentry
    unfold isDeadLink
    rw [same entry hentry]
  have counts : ∀ t, deadLinks T seen t = deadLinks T' seen t := by
    intro t
    apply List.countP_congr
    intro entry hentry
    rw [links t entry hentry]
  constructor
  case total => intro t; rw [known.total, counts]
  case dead =>
    intro t p
    rw [known.dead]
    apply exists_congr
    intro entry
    apply and_congr_right
    intro hentry
    rw [links t entry hentry]
  case alive =>
    intro t p
    rw [known.alive]
    apply exists_congr
    intro entry
    apply and_congr_right
    intro hentry
    rw [same entry hentry]
  case keys => intro t; rw [known.keys, counts]
  case nodup => exact known.nodup

end Targets

/-! ## Rows -/

section Rows
variable {ρ : Type u} {R : Readers}

/-- The dead links of the target of a row. -/
def rowDead (T : LatestVerdict → Option String) (R : Readers) (latest : List LatestVerdict)
    (row : LedgerRow ρ) : ℕ :=
  match canonTarget R row.targetUrl with
  | none => 0
  | some target => deadLinks T latest target

/-- A platform that some dead link of the target names, and no live one. -/
def Pruned (T : LatestVerdict → Option String) (R : Readers) (L : LatestVerdict → Prop)
    (row : LedgerRow ρ) (platform : Value) : Prop :=
  ∃ target s, canonTarget R row.targetUrl = some target ∧ platform = .text s ∧
    namesDead T L target s ∧ ¬ namesAlive T L target s

/-- What the overlay makes of a row. -/
structure RowOverlaid (T : LatestVerdict → Option String) (R : Readers)
    (latest : List LatestVerdict) (row row' : LedgerRow ρ) : Prop where
  target : row'.targetUrl = row.targetUrl
  rest : row'.rest = row.rest
  kept : rowDead T R latest row = 0 → row' = row
  count : 0 < rowDead T R latest row →
    row'.liveDofollow = .int (max 0 (row.liveDofollow.value - rowDead T R latest row))
  platforms : ∀ items, row.livePlatforms = .list items → ∃ keep : Value → Bool,
    (∀ p, keep p = true ↔ ¬ Pruned T R (· ∈ latest) row p) ∧
      row'.livePlatforms = .list (items.filter keep)
  others : ∀ value, row.livePlatforms = .other value → row'.livePlatforms = .other value

/-- The platforms of a row that loses one can be hashed. -/
def PlatformsHashable (T : LatestVerdict → Option String) (R : Readers)
    (L : LatestVerdict → Prop) (row : LedgerRow ρ) : Prop :=
  ∀ items, row.livePlatforms = .list items → (∃ p, Pruned T R L row p) →
    ∀ p ∈ items, isCompound p = false

section Step
variable {T : LatestVerdict → Option String} {latest : List LatestVerdict}
  {discounts : DiscountResult}

theorem discountOf_none (known : DiscountsOf T latest discounts) {row : LedgerRow ρ} :
    discountOf R discounts row = none ↔ rowDead T R latest row = 0 := by
  unfold discountOf rowDead
  cases canonTarget R row.targetUrl with
  | none => simp
  | some target =>
    have total := known.total target
    unfold totalOn at total
    dsimp only
    cases found : lookup TargetDiscount.target target discounts.byTarget with
    | none =>
      rw [found] at total
      exact iff_of_true rfl total.symm
    | some td =>
      rw [found] at total
      change td.total = _ at total
      dsimp only
      split_ifs with zero
      · exact iff_of_true rfl (total.symm.trans zero)
      · exact iff_of_false (fun h => by cases h) fun h => zero (total.trans h)

theorem discountOf_some (known : DiscountsOf T latest discounts) {row : LedgerRow ρ}
    {target : String} {td : TargetDiscount}
    (found : discountOf R discounts row = some (target, td)) :
    canonTarget R row.targetUrl = some target ∧ td.total = rowDead T R latest row ∧
      0 < rowDead T R latest row ∧
      ∀ p, p ∈ td.deadPlatforms \ aliveOn discounts target ↔
        namesDead T (· ∈ latest) target p ∧ ¬ namesAlive T (· ∈ latest) target p := by
  have some_ : rowDead T R latest row ≠ 0 := by
    intro zero
    rw [(discountOf_none known).2 zero] at found
    cases found
  unfold discountOf at found
  unfold rowDead at some_ ⊢
  cases canon : canonTarget R row.targetUrl with
  | none =>
    rw [canon] at found
    cases found
  | some canonical =>
    rw [canon] at found some_
    dsimp only at found some_ ⊢
    have total := known.total canonical
    have dead := known.dead canonical
    unfold totalOn at total
    unfold deadOn at dead
    cases held : lookup TargetDiscount.target canonical discounts.byTarget with
    | none =>
      rw [held] at found
      cases found
    | some td' =>
      rw [held] at found total dead
      dsimp only at found
      split_ifs at found
      cases found
      refine ⟨rfl, total, Nat.pos_of_ne_zero some_, fun p => ?_⟩
      rw [Finset.mem_sdiff, known.alive]
      exact and_congr_left fun _ => dead p

/-- The row that the overlay puts in place of one with dead links. -/
theorem rowOverlaid_reduced (known : DiscountsOf T latest discounts) {row : LedgerRow ρ}
    {target : String} {td : TargetDiscount} {platforms : LivePlatforms}
    (found : discountOf R discounts row = some (target, td))
    (pruned : prunePlatforms (td.deadPlatforms \ aliveOn discounts target) row.livePlatforms =
      .ok platforms) :
    RowOverlaid T R latest row
      { row with
        liveDofollow := .int (max 0 (row.liveDofollow.value - td.total))
        livePlatforms := platforms } := by
  have ⟨canon, total, some_, prune⟩ := discountOf_some known found
  have prunes : ∀ p, Pruned T R (· ∈ latest) row p ↔
      inSet (td.deadPlatforms \ aliveOn discounts target) p = true := by
    intro p
    constructor
    · rintro ⟨target', s, canon', rfl, names⟩
      rw [canon] at canon'
      cases canon'
      exact decide_eq_true ((prune s).2 names)
    · intro held
      cases p with
      | text s => exact ⟨target, s, canon, rfl, (prune s).1 (of_decide_eq_true held)⟩
      | null => cases held
      | scalar code truthy => cases held
      | compound code truthy => cases held
  constructor
  case target => rfl
  case rest => rfl
  case kept => exact fun zero => absurd zero (Nat.pos_iff_ne_zero.1 some_)
  case count =>
    intro _
    rw [total]
  case platforms =>
    intro items listed
    refine ⟨fun p => !inSet (td.deadPlatforms \ aliveOn discounts target) p, fun p => ?_, ?_⟩
    · rw [prunes, Bool.not_eq_true', Bool.not_eq_true]
    · rw [listed] at pruned
      unfold prunePlatforms at pruned
      dsimp only at pruned
      split_ifs at pruned with empty
      · cases pruned
        have whole : items.filter (fun p =>
            !inSet (td.deadPlatforms \ aliveOn discounts target) p) = items := by
          apply List.filter_eq_self.2
          intro p _
          rw [empty]
          cases p <;> rfl
        rw [whole]
      · cases pruned
        rfl
  case others =>
    intro value listed
    rw [listed] at pruned
    cases pruned
    rfl

theorem not_pruned {row : LedgerRow ρ} (zero : rowDead T R latest row = 0) (p : Value) :
    ¬ Pruned T R (· ∈ latest) row p := by
  rintro ⟨target, s, canon, _, ⟨entry, hentry, dead, _⟩, _⟩
  unfold rowDead deadLinks at zero
  rw [canon] at zero
  dsimp only at zero
  rw [List.countP_eq_zero] at zero
  exact zero entry hentry dead

theorem rowOverlaid_kept {row : LedgerRow ρ} (zero : rowDead T R latest row = 0) :
    RowOverlaid T R latest row row := by
  constructor
  case target => rfl
  case rest => rfl
  case kept => exact fun _ => rfl
  case count => exact fun some_ => absurd zero (Nat.pos_iff_ne_zero.1 some_)
  case platforms =>
    intro items listed
    refine ⟨fun _ => true, fun p => iff_of_true rfl (not_pruned zero p), ?_⟩
    rw [listed, List.filter_true]
  case others => exact fun _ listed => listed

theorem prunePlatforms_ok (known : DiscountsOf T latest discounts) {row : LedgerRow ρ}
    {target : String} {td : TargetDiscount}
    (found : discountOf R discounts row = some (target, td)) :
    (∃ platforms, prunePlatforms (td.deadPlatforms \ aliveOn discounts target)
      row.livePlatforms = .ok platforms) ↔ PlatformsHashable T R (· ∈ latest) row := by
  have ⟨canon, _, _, prune⟩ := discountOf_some known found
  have empty_iff : td.deadPlatforms \ aliveOn discounts target = ∅ ↔
      ¬ ∃ p, Pruned T R (· ∈ latest) row p := by
    rw [Finset.eq_empty_iff_forall_notMem]
    constructor
    · rintro none_ ⟨p, target', s, canon', _, names⟩
      rw [canon] at canon'
      cases canon'
      exact none_ s ((prune s).2 names)
    · intro none_ s held
      exact none_ ⟨.text s, target, s, canon, rfl, (prune s).1 held⟩
  unfold PlatformsHashable prunePlatforms
  cases row.livePlatforms with
  | other value => exact iff_of_true ⟨_, rfl⟩ fun _ h => by cases h
  | list items =>
    dsimp only
    split_ifs with empty compound
    · refine iff_of_true ⟨_, rfl⟩ fun _ _ some_ => ?_
      exact absurd some_ (empty_iff.1 empty)
    · refine iff_of_false (fun ⟨_, h⟩ => by cases h) fun hashable => ?_
      have ⟨p, hp, bad⟩ := List.any_eq_true.1 compound
      have some_ : ∃ p, Pruned T R (· ∈ latest) row p := by
        by_contra none_
        exact empty (empty_iff.2 none_)
      have good := hashable items rfl some_ p hp
      rw [bad] at good
      cases good
    · refine iff_of_true ⟨_, rfl⟩ fun items' same _ p hp => ?_
      cases same
      rw [Bool.eq_false_iff]
      exact fun bad => compound (List.any_eq_true.2 ⟨p, hp, bad⟩)

end Step

/-! ## The whole ledger -/

section Ledger
variable {T : LatestVerdict → Option String} {latest : List LatestVerdict}
  {discounts : DiscountResult}

/-- The canonical target of a row that loses links. -/
def reducedTarget (T : LatestVerdict → Option String) (R : Readers)
    (latest : List LatestVerdict) (row : LedgerRow ρ) : Option String :=
  if rowDead T R latest row = 0 then none else canonTarget R row.targetUrl

theorem applyFrom_spec (known : DiscountsOf T latest discounts) {ledger : List (LedgerRow ρ)}
    (hashable : ∀ row ∈ ledger, PlatformsHashable T R (· ∈ latest) row)
    (out : List (LedgerRow ρ)) (matched : Finset String) (reduced : ℕ) :
    ∃ rows, List.Forall₂ (RowOverlaid T R latest) ledger rows ∧
      applyFrom R discounts out matched reduced ledger = .ok (out ++ rows,
        ⟨reduced + (ledger.filterMap (reducedTarget T R latest)).length,
          discounts.byTarget.countP fun td =>
            td.target ∉ matched ∪ (ledger.filterMap (reducedTarget T R latest)).toFinset⟩) := by
  induction ledger generalizing out matched reduced with
  | nil =>
    refine ⟨[], .nil, ?_⟩
    rw [applyFrom]
    simp
  | cons row ledger ih =>
    have later := fun other hother => hashable other (List.mem_cons_of_mem row hother)
    rw [applyFrom]
    cases found : discountOf R discounts row with
    | none =>
      have zero := (discountOf_none known).1 found
      have ⟨rows, overlaid, applied⟩ := ih later (out ++ [row]) matched reduced
      have skipped : reducedTarget T R latest row = none := if_pos zero
      refine ⟨row :: rows, .cons (rowOverlaid_kept zero) overlaid, ?_⟩
      dsimp only
      rw [applied, List.filterMap_cons_none skipped, ← List.append_cons]
    | some found' =>
      obtain ⟨target, td⟩ := found'
      have ⟨canon, _, some_, _⟩ := discountOf_some known found
      have ⟨platforms, pruned⟩ :=
        (prunePlatforms_ok known found).2 (hashable row List.mem_cons_self)
      have reduced_ : reducedTarget T R latest row = some target := by
        unfold reducedTarget
        rw [if_neg (Nat.pos_iff_ne_zero.1 some_), canon]
      have ⟨rows, overlaid, applied⟩ := ih later
        (out ++ [{ row with
          liveDofollow := .int (max 0 (row.liveDofollow.value - td.total))
          livePlatforms := platforms }]) (insert target matched) (reduced + 1)
      refine ⟨_ :: rows, .cons (rowOverlaid_reduced known found pruned) overlaid, ?_⟩
      dsimp only
      rw [pruned]
      dsimp only
      rw [applied, List.filterMap_cons_some reduced_, ← List.append_cons, List.length_cons,
        List.toFinset_cons, Finset.insert_union, Finset.union_insert]
      congr 3
      omega

theorem hashable_of_applyFrom (known : DiscountsOf T latest discounts)
    {ledger out : List (LedgerRow ρ)} {matched : Finset String} {reduced : ℕ}
    {result : List (LedgerRow ρ) × TransformTally}
    (h : applyFrom R discounts out matched reduced ledger = .ok result) :
    ∀ row ∈ ledger, PlatformsHashable T R (· ∈ latest) row := by
  induction ledger generalizing out matched reduced with
  | nil => exact fun _ h => absurd h List.not_mem_nil
  | cons row ledger ih =>
    rw [applyFrom] at h
    rw [List.forall_mem_cons]
    cases found : discountOf R discounts row with
    | none =>
      rw [found] at h
      have zero := (discountOf_none known).1 found
      refine ⟨?_, ih h⟩
      rintro items _ ⟨p, pruned⟩
      exact absurd pruned (not_pruned zero p)
    | some found' =>
      obtain ⟨target, td⟩ := found'
      rw [found] at h
      dsimp only at h
      cases pruned : prunePlatforms (td.deadPlatforms \ aliveOn discounts target)
          row.livePlatforms with
      | error error =>
        rw [pruned] at h
        cases h
      | ok platforms =>
        rw [pruned] at h
        exact ⟨(prunePlatforms_ok known found).1 ⟨platforms, pruned⟩, ih h⟩

/-- The targets that have dead links. -/
def discountedTargets (T : LatestVerdict → Option String) (latest : List LatestVerdict) :
    Finset String :=
  (latest.filterMap fun entry =>
    if verdictOf entry ∈ discountVerdicts then T entry else none).toFinset

theorem mem_discountedTargets {target : String} :
    target ∈ discountedTargets T latest ↔ 0 < deadLinks T latest target := by
  unfold discountedTargets deadLinks
  rw [List.mem_toFinset, List.mem_filterMap, List.countP_pos_iff]
  apply exists_congr
  intro entry
  apply and_congr_right
  intro _
  unfold isDeadLink
  by_cases dead : verdictOf entry ∈ discountVerdicts
  · simp [dead]
  · simp [dead]

theorem reducedTarget_cases (row : LedgerRow ρ) :
    reducedTarget T R latest row = none ∨
      reducedTarget T R latest row = canonTarget R row.targetUrl := by
  unfold reducedTarget
  split_ifs
  · exact .inl rfl
  · exact .inr rfl

theorem deadLinks_of_reduced {row : LedgerRow ρ} {target : String}
    (reduced : reducedTarget T R latest row = some target) : 0 < deadLinks T latest target := by
  unfold reducedTarget at reduced
  split_ifs at reduced with zero
  unfold rowDead at zero
  rw [reduced] at zero
  exact Nat.pos_of_ne_zero zero

/-- Every discounted target is that of a reduced row or counted as unmatched. -/
theorem reduced_add_unmatched (known : DiscountsOf T latest discounts)
    {ledger : List (LedgerRow ρ)}
    (distinct : (ledger.filterMap fun row => canonTarget R row.targetUrl).Nodup) :
    (ledger.filterMap (reducedTarget T R latest)).length +
        discounts.byTarget.countP (fun td =>
          td.target ∉ ∅ ∪ (ledger.filterMap (reducedTarget T R latest)).toFinset) =
      (discountedTargets T latest).card := by
  have targets : discountedTargets T latest =
      (discounts.byTarget.map TargetDiscount.target).toFinset := by
    ext target
    rw [mem_discountedTargets, List.mem_toFinset, known.keys]
  have sub : (ledger.filterMap (reducedTarget T R latest)).Sublist
      (ledger.filterMap fun row => canonTarget R row.targetUrl) :=
    filterMap_sublist reducedTarget_cases ledger
  have matched : (ledger.filterMap (reducedTarget T R latest)).toFinset.card =
      (ledger.filterMap (reducedTarget T R latest)).length :=
    List.toFinset_card_of_nodup (sub.nodup distinct)
  have missed : discounts.byTarget.countP (fun td =>
        td.target ∉ ∅ ∪ (ledger.filterMap (reducedTarget T R latest)).toFinset) =
      (discountedTargets T latest \ (ledger.filterMap (reducedTarget T R latest)).toFinset).card := by
    have names : discounts.byTarget.countP (fun td =>
          td.target ∉ ∅ ∪ (ledger.filterMap (reducedTarget T R latest)).toFinset) =
        ((discounts.byTarget.map TargetDiscount.target).filter fun target =>
          target ∉ (ledger.filterMap (reducedTarget T R latest)).toFinset).length := by
      rw [← List.countP_eq_length_filter, List.countP_map, Finset.empty_union]
      rfl
    rw [names, targets, ← List.toFinset_card_of_nodup (known.nodup.filter _)]
    congr 1
    ext target
    simp
  have subset : (ledger.filterMap (reducedTarget T R latest)).toFinset ⊆
      discountedTargets T latest := by
    intro target htarget
    have ⟨row, _, reduced⟩ := List.mem_filterMap.1 (List.mem_toFinset.1 htarget)
    rw [mem_discountedTargets]
    exact deadLinks_of_reduced reduced
  rw [missed, ← matched, Nat.add_comm]
  exact Finset.card_sdiff_add_card_eq_card subset

/-! ## The overlay -/

/-- The overlay of a ledger by the latest verdicts: each row loses its dead links and the platforms
that have only dead ones, and every discounted target is accounted for. -/
structure Overlaid (R : Readers) (rows : List RecheckRow) (articles : List ArticleRow)
    (ledger : List (LedgerRow ρ)) (latest : List LatestVerdict) (discounts : DiscountResult)
    (out : List (LedgerRow ρ)) (tally : TransformTally) : Prop where
  read : ∃ unkeyable, latestLinkVerdicts R rows = .ok (latest, unkeyable)
  keys : (latest.map LatestVerdict.key).Nodup
  newest : ∀ entry, entry ∈ latest ↔ IsLatest R rows entry.key entry
  built : buildDiscountMap R rows articles = .ok discounts
  applied : applyDiscounts R ledger discounts = .ok (out, tally)
  overlay : List.Forall₂ (RowOverlaid (entryTarget R articles) R latest) ledger out
  counted : tally.targetsReduced + tally.unmatchedDiscount =
    (discountedTargets (entryTarget R articles) latest).card

theorem discounts_of_build {rows : List RecheckRow} {articles : List ArticleRow}
    {unkeyable : ℕ} (read : latestLinkVerdicts R rows = .ok (latest, unkeyable))
    (built : buildDiscountMap R rows articles = .ok discounts) :
    DiscountsOf (entryTarget R articles) latest discounts := by
  have ⟨recovered, recover, summed⟩ := (buildDiscountMap_eq_ok read).1 built
  have start : DiscountsOf (linkTarget R recovered) [] { tally := { unkeyable } } := by
    constructor
    case total => exact fun _ => rfl
    case dead =>
      refine fun t p => iff_of_false (Finset.notMem_empty p) ?_
      rintro ⟨entry, hentry, _⟩
      exact absurd hentry List.not_mem_nil
    case alive =>
      refine fun t p => iff_of_false (Finset.notMem_empty p) ?_
      rintro ⟨entry, hentry, _⟩
      exact absurd hentry List.not_mem_nil
    case keys => exact fun t => iff_of_false List.not_mem_nil (Nat.lt_irrefl 0)
    case nodup => exact List.nodup_nil
  have known := discountFrom_discounts start summed
  rw [List.nil_append] at known
  exact known.congr fun entry hentry => linkTarget_eq recover hentry

/-- **The overlay.** For events of distinct ids and rows of distinct canonical targets, each row
loses exactly its dead links, and the platforms that have only dead ones, if and only if the events
are well formed and the platforms of a row that loses one can be hashed. -/
theorem overlaid_iff {R : Readers} {rows : List RecheckRow} {articles : List ArticleRow}
    {ledger : List (LedgerRow ρ)} (ids : (rows.map RecheckRow.id).Nodup)
    (distinct : (ledger.filterMap fun row => canonTarget R row.targetUrl).Nodup) :
    (∃ latest discounts out tally, Overlaid R rows articles ledger latest discounts out tally) ↔
      WellFormed R rows articles ∧ ∀ row ∈ ledger, PlatformsHashable (entryTarget R articles) R
        (fun entry => IsLatest R rows entry.key entry) row := by
  constructor
  · rintro ⟨latest, discounts, out, tally, overlaid⟩
    have ⟨unkeyable, read⟩ := overlaid.read
    have known := discounts_of_build read overlaid.built
    have hashable := hashable_of_applyFrom known overlaid.applied
    have same : (fun entry => IsLatest R rows entry.key entry) = (· ∈ latest) := by
      funext entry
      exact propext (overlaid.newest entry).symm
    rw [same]
    exact ⟨(buildDiscountMap_ok ids (List.Perm.refl rows)).1 ⟨discounts, overlaid.built⟩, hashable⟩
  · rintro ⟨formed, hashable⟩
    have ⟨latest, read, max⟩ := latestLinkVerdicts_spec formed.readable (List.Perm.refl rows)
    have ⟨discounts, built⟩ := (buildDiscountMap_ok ids (List.Perm.refl rows)).2 formed
    have members : ∀ entry, entry ∈ latest ↔ IsLatest R rows entry.key entry := fun entry =>
      mem_latest ids (List.Perm.refl rows) max
    have same : (fun entry => IsLatest R rows entry.key entry) = (· ∈ latest) := by
      funext entry
      exact propext (members entry).symm
    rw [same] at hashable
    have known := discounts_of_build read built
    have ⟨out, overlaid, applied⟩ := applyFrom_spec known hashable [] ∅ 0
    refine ⟨latest, discounts, _, _, ⟨⟨_, read⟩, max.nodup, members, built, applied, overlaid, ?_⟩⟩
    dsimp only
    rw [Nat.zero_add]
    exact reduced_add_unmatched known distinct

section Runs

def sampleRow (live : ℤ) : LedgerRow Unit :=
  ⟨.text "https://site.example/", .int live, .list [.text "medium", .text "velog"], ()⟩

/-- A dead link of the target, and none that is alive. -/
theorem overlaid_recheck :
    ∃ latest discounts out tally,
      Overlaid sampleReaders [recheck 1 "dead"] [] [sampleRow 2] latest discounts out tally := by
  have ids : ([recheck 1 "dead"].map RecheckRow.id).Nodup := by decide
  have distinct : ([sampleRow 2].filterMap fun row =>
      canonTarget sampleReaders row.targetUrl).Nodup := by decide
  apply (overlaid_iff ids distinct).2
  refine ⟨⟨?_, ?_, fun _ _ _ _ _ h => absurd h List.not_mem_nil⟩, ?_⟩
  · intro row hrow text same _
    rw [List.mem_singleton.1 hrow] at same
    cases same
    exact .inr ⟨_, rfl⟩
  · rintro key entry ⟨⟨row, hrow, made⟩, _⟩
    have ⟨url, _, same⟩ := Option.map_eq_some_iff.1 made
    rw [← same, List.mem_singleton.1 hrow]
    rfl
  · intro row hrow items listed _ p hp
    rw [List.mem_singleton.1 hrow] at listed
    cases listed
    simp only [List.mem_cons, List.not_mem_nil, or_false] at hp
    rcases hp with rfl | rfl <;> rfl

/-- A list for a payload leaves the whole ledger without an overlay. -/
theorem list_payload_stops_overlay :
    ¬ ∃ latest discounts out tally,
      Overlaid sampleReaders [recheck 1 "[]"] [] [sampleRow 2] latest discounts out tally := by
  rintro ⟨latest, discounts, out, tally, overlaid⟩
  have raises : buildDiscountMap sampleReaders [recheck 1 "[]"] [] = .error (.payload .noGet) := rfl
  have built := overlaid.built
  rw [raises] at built
  cases built

end Runs
end Ledger
end Rows
end BacklinkPublisher.LedgerOverlay
