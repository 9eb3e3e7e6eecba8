import Mathlib.Algebra.Order.Ring.Int
import Mathlib.Tactic.Common

set_option autoImplicit false

/-!
# The text of an article

`ArticleScopedCollector` of `html_scope.py` on the tags of a tree. One counter stands for the
elements that are excluded.
-/
namespace BacklinkPublisher.ArticleScope

abbrev Text := List Char

/-- `none` is an attribute without a value. -/
abbrev Attributes := List (String × Option String)

/-- The tags that have no end tag. -/
def voidTags : List String :=
  ["area", "base", "br", "col", "embed", "hr", "img", "input", "link", "meta", "param", "source",
    "track", "wbr"]

abbrev VoidTag := { tag : String // tag ∈ voidTags }

/-- Siblings with what is below them. A void element may be written with a slash. -/
inductive Forest where
  | nil
  | text (data : Text) (rest : Forest)
  | element (tag : String) (attrs : Attributes) (children rest : Forest)
  | void (tag : VoidTag) (attrs : Attributes) (slash : Bool) (rest : Forest)

/-- What `HTMLParser` calls. -/
inductive Event where
  | starttag (tag : String) (attrs : Attributes)
  | endtag (tag : String)
  | data (data : Text)

def events : Forest → List Event
  | .nil => []
  | .text data rest => .data data :: events rest
  | .element tag attrs children rest =>
    .starttag tag attrs :: (events children ++ .endtag tag :: events rest)
  | .void tag attrs slash rest =>
    .starttag tag attrs :: ((if slash then [.endtag tag] else []) ++ events rest)

/-! ## The collector -/

def skipMidarticleRoles : List String :=
  ["complementary", "navigation", "contentinfo", "banner", "region", "article"]

structure Collector where
  articleDepth : ℕ := 0
  inArticle : Bool := false
  closedOnce : Bool := false
  innerDepth : ℕ := 0
  textBuffer : Text := []
  deriving DecidableEq, Repr

/-- `dict(attrs).get(name)`. -/
def attrOf (name : String) (attrs : Attributes) : Option (Option String) :=
  attrs.reverse.lookup name

/-- The role, `hidden` or `aria-hidden` is one that the collector leaves out. -/
def skips (attrs : Attributes) : Bool :=
  (attrOf "role" attrs).any (fun role => role.any (· ∈ skipMidarticleRoles)) ||
    attrOf "hidden" attrs = some (some "hidden") ||
    attrOf "aria-hidden" attrs = some (some "true")

def articleTag : String := "article"

section Collector
variable (maxArticleDepth : ℤ) (collector : Collector)

def handleStarttag (tag : String) (attrs : Attributes) : Collector :=
  if tag = articleTag then
    { collector with
      articleDepth := collector.articleDepth + 1
      inArticle := collector.inArticle || collector.articleDepth = 0 }
  else if maxArticleDepth < collector.articleDepth then collector
  else if collector.closedOnce then collector
  else if collector.inArticle && collector.articleDepth = 1 then
    if skips attrs then { collector with innerDepth := collector.innerDepth + 1 }
    else if 0 < collector.innerDepth then
      { collector with innerDepth := collector.innerDepth + 1 }
    else collector
  else collector

def handleEndtag (tag : String) : Collector :=
  if tag = articleTag then
    if 0 < collector.articleDepth then
      if collector.articleDepth = 1 then
        { collector with articleDepth := 0, inArticle := false, closedOnce := true }
      else { collector with articleDepth := collector.articleDepth - 1 }
    else collector
  else if collector.closedOnce then collector
  else if collector.inArticle && collector.articleDepth = 1 then
    { collector with innerDepth := collector.innerDepth - 1 }
  else collector

def handleData (data : Text) : Collector :=
  if collector.closedOnce then collector
  else if collector.inArticle && collector.articleDepth = 1 && collector.innerDepth = 0 then
    { collector with textBuffer := collector.textBuffer ++ data }
  else collector

def handle : Event → Collector
  | .starttag tag attrs => handleStarttag maxArticleDepth collector tag attrs
  | .endtag tag => handleEndtag collector tag
  | .data data => handleData collector data

def feed (called : List Event) : Collector := called.foldl (handle maxArticleDepth) collector

end Collector

/-- The text that the collector has of a page, before it is stripped. -/
def collected (maxArticleDepth : ℤ) (page : Forest) : Text :=
  (feed maxArticleDepth {} (events page)).textBuffer

/-! ## What is to be collected -/

/-- A role that is left out, `hidden` with whatever value, or `aria-hidden`. -/
def excluded (attrs : Attributes) : Bool :=
  (attrOf "role" attrs).any (fun role => role.any (· ∈ skipMidarticleRoles)) ||
    (attrOf "hidden" attrs).isSome || attrOf "aria-hidden" attrs = some (some "true")

/-- What is below the first article that is in no other. -/
def firstArticle : Forest → Option Forest
  | .nil => none
  | .text _ rest => firstArticle rest
  | .element tag _ children rest =>
    if tag = articleTag then some children else (firstArticle children).or (firstArticle rest)
  | .void _ _ _ rest => firstArticle rest

/-- The texts in an article that are in no other below it, and in nothing that is excluded. -/
def intendedIn : Forest → Text
  | .nil => []
  | .text data rest => data ++ intendedIn rest
  | .element tag attrs children rest =>
    if tag = articleTag ∨ excluded attrs = true then intendedIn rest
    else intendedIn children ++ intendedIn rest
  | .void _ _ _ rest => intendedIn rest

def intended (page : Forest) : Text := (firstArticle page).elim [] intendedIn

/-! ## When it is so -/

/-- The tags without the texts. -/
def tags : Forest → Forest
  | .nil => .nil
  | .text _ rest => tags rest
  | .element tag attrs children rest => .element tag attrs (tags children) (tags rest)
  | .void tag attrs slash rest => .void tag attrs slash (tags rest)

/-- The void elements without a slash that are not in an article of their own. -/
def unclosed : Forest → ℕ
  | .nil => 0
  | .text _ rest => unclosed rest
  | .element tag _ children rest =>
    if tag = articleTag then unclosed rest else unclosed children + unclosed rest
  | .void _ _ slash rest => (if slash then 0 else 1) + unclosed rest

/-- What is excluded the collector leaves out too, and there no void element without a slash is in
it nor is it one. -/
def Faithful (maxArticleDepth : ℤ) : Forest → Prop
  | .nil => True
  | .text _ rest => Faithful maxArticleDepth rest
  | .element tag attrs children rest =>
    (tag = articleTag ∨
      (if 1 ≤ maxArticleDepth ∧ skips attrs = true then unclosed children = 0
        else excluded attrs = false ∧ Faithful maxArticleDepth children)) ∧
      Faithful maxArticleDepth rest
  | .void _ attrs slash rest =>
    (1 ≤ maxArticleDepth → skips attrs = true → slash = true) ∧ Faithful maxArticleDepth rest

/-- Whatever texts stand between the tags of the page. -/
def Sound (maxArticleDepth : ℤ) (page : Forest) : Prop :=
  ∀ page', tags page' = tags page → collected maxArticleDepth page' = intended page'

/-! ## The collector outside of the article -/

section Feed
variable {maxArticleDepth : ℤ} {collector : Collector}

theorem articleTag_ne (tag : VoidTag) : tag.val ≠ articleTag := by
  have all : ∀ t ∈ voidTags, t ≠ articleTag := by decide
  exact all tag.val tag.property

theorem handleStarttag_away {tag : String} {attrs : Attributes} (other : tag ≠ articleTag)
    (away : collector.articleDepth ≠ 1) :
    handleStarttag maxArticleDepth collector tag attrs = collector := by
  simp [handleStarttag, other, away]

theorem handleEndtag_away {tag : String} (other : tag ≠ articleTag)
    (away : collector.articleDepth ≠ 1) : handleEndtag collector tag = collector := by
  simp [handleEndtag, other, away]

theorem handleData_away {data : Text} (away : collector.articleDepth ≠ 1) :
    handleData collector data = collector := by
  simp [handleData, away]

theorem feed_cons (event : Event) (called : List Event) :
    feed maxArticleDepth collector (event :: called) =
      feed maxArticleDepth (handle maxArticleDepth collector event) called := rfl

/-- Once the article has ended, nothing is collected. -/
theorem feed_closed (closed : collector.closedOnce = true) (called : List Event) :
    (feed maxArticleDepth collector called).textBuffer = collector.textBuffer := by
  induction called generalizing collector with
  | nil => rfl
  | cons event called ih =>
    have one : (handle maxArticleDepth collector event).closedOnce = true ∧
        (handle maxArticleDepth collector event).textBuffer = collector.textBuffer := by
      cases event with
      | starttag tag attrs =>
        unfold handle handleStarttag
        dsimp only
        split_ifs <;> exact ⟨closed, rfl⟩
      | endtag tag =>
        unfold handle handleEndtag
        dsimp only
        split_ifs <;> first | exact ⟨closed, rfl⟩ | exact ⟨rfl, rfl⟩
      | data data =>
        unfold handle handleData
        dsimp only
        rw [if_pos closed]
        exact ⟨closed, rfl⟩
    rw [feed_cons, ih one.1, one.2]

theorem handle_article_nested (attrs : Attributes) (nested : 1 < collector.articleDepth) :
    handleStarttag maxArticleDepth collector articleTag attrs =
      { collector with articleDepth := collector.articleDepth + 1 } := by
  have within : collector.articleDepth ≠ 0 := by omega
  simp [handleStarttag, within]

/-- In an article of its own nothing is collected and no element counts. -/
theorem feed_nested (forest : Forest) (later : List Event) (nested : 1 < collector.articleDepth) :
    feed maxArticleDepth collector (events forest ++ later) =
      feed maxArticleDepth collector later := by
  have away : collector.articleDepth ≠ 1 := by omega
  induction forest generalizing collector later with
  | nil => rfl
  | text data rest ih =>
    rw [events, List.cons_append, feed_cons, handle, handleData_away away]
    exact ih later nested away
  | element tag attrs children rest ihc ihr =>
    rw [events, List.cons_append, List.append_assoc, List.cons_append, feed_cons, handle]
    by_cases article : tag = articleTag
    · rw [article, handle_article_nested attrs nested]
      rw [ihc _ (Nat.lt_succ_of_lt nested) (by dsimp only; omega), feed_cons, handle]
      have back : handleEndtag { collector with articleDepth := collector.articleDepth + 1 }
          articleTag = collector := by
        have inner : collector.articleDepth ≠ 0 := by omega
        simp [handleEndtag, inner]
      rw [back]
      exact ihr later nested away
    · rw [handleStarttag_away article away, ihc _ nested away, feed_cons, handle,
        handleEndtag_away article away]
      exact ihr later nested away
  | void tag attrs slash rest ih =>
    have other := articleTag_ne tag
    rw [events, List.cons_append, List.append_assoc, feed_cons, handle,
      handleStarttag_away other away]
    cases slash with
    | false => exact ih later nested away
    | true =>
      rw [if_pos rfl, List.singleton_append, feed_cons, handle, handleEndtag_away other away]
      exact ih later nested away

end Feed

/-! ## The collector in the article -/

/-- The counter after a start tag. -/
def afterStart (maxArticleDepth : ℤ) (attrs : Attributes) (depth : ℕ) : ℕ :=
  if 1 ≤ maxArticleDepth ∧ (skips attrs = true ∨ 0 < depth) then depth + 1 else depth

/-- What is collected of siblings, and the counter after them. -/
def collectedIn (maxArticleDepth : ℤ) : Forest → ℕ → Text × ℕ
  | .nil, depth => ([], depth)
  | .text data rest, depth =>
    ((if depth = 0 then data else []) ++ (collectedIn maxArticleDepth rest depth).1,
      (collectedIn maxArticleDepth rest depth).2)
  | .element tag attrs children rest, depth =>
    if tag = articleTag then collectedIn maxArticleDepth rest depth
    else
      let inner := collectedIn maxArticleDepth children (afterStart maxArticleDepth attrs depth)
      let after := collectedIn maxArticleDepth rest (inner.2 - 1)
      (inner.1 ++ after.1, after.2)
  | .void _ attrs slash rest, depth =>
    let after := afterStart maxArticleDepth attrs depth
    collectedIn maxArticleDepth rest (if slash then after - 1 else after)

/-- The collector within the first article. -/
def inside (depth : ℕ) (textBuffer : Text) : Collector where
  articleDepth := 1
  inArticle := true
  innerDepth := depth
  textBuffer := textBuffer

section Inside
variable {maxArticleDepth : ℤ}

theorem handleStarttag_inside {tag : String} (attrs : Attributes) (depth : ℕ) (buffer : Text)
    (other : tag ≠ articleTag) :
    handleStarttag maxArticleDepth (inside depth buffer) tag attrs =
      inside (afterStart maxArticleDepth attrs depth) buffer := by
  unfold handleStarttag afterStart inside
  rw [if_neg other]
  dsimp only
  by_cases deep : 1 ≤ maxArticleDepth
  · rw [if_neg (by push_cast; omega)]
    by_cases skip : skips attrs = true
    · simp [skip, deep]
    · by_cases within : 0 < depth
      · simp [skip, deep, within]
      · simp [skip, within]
  · rw [if_pos (by push_cast; omega)]
    simp [deep]

theorem handleEndtag_inside {tag : String} (depth : ℕ) (buffer : Text) (other : tag ≠ articleTag) :
    handleEndtag (inside depth buffer) tag = inside (depth - 1) buffer := by
  simp [handleEndtag, inside, other]

theorem handleData_inside (data : Text) (depth : ℕ) (buffer : Text) :
    handleData (inside depth buffer) data =
      inside depth (buffer ++ if depth = 0 then data else []) := by
  by_cases zero : depth = 0
  · simp [handleData, inside, zero]
  · simp [handleData, inside, zero]

theorem feed_inside (forest : Forest) (depth : ℕ) (buffer : Text) (later : List Event) :
    feed maxArticleDepth (inside depth buffer) (events forest ++ later) =
      feed maxArticleDepth (inside (collectedIn maxArticleDepth forest depth).2
        (buffer ++ (collectedIn maxArticleDepth forest depth).1)) later := by
  induction forest generalizing depth buffer later with
  | nil =>
    unfold collectedIn
    rw [List.append_nil]
    rfl
  | text data rest ih =>
    rw [events, List.cons_append, feed_cons, handle, handleData_inside, ih, collectedIn,
      List.append_assoc]
  | element tag attrs children rest ihc ihr =>
    rw [events, List.cons_append, List.append_assoc, List.cons_append, feed_cons, handle,
      collectedIn]
    by_cases article : tag = articleTag
    · have nested : 1 < (handleStarttag maxArticleDepth (inside depth buffer) tag
          attrs).articleDepth := by
        simp [handleStarttag, article, inside]
      have back : handleEndtag (handleStarttag maxArticleDepth (inside depth buffer) tag attrs)
          tag = inside depth buffer := by
        simp [handleStarttag, handleEndtag, article, inside]
      rw [if_pos article, feed_nested children _ nested, feed_cons, handle, back, ihr]
    · rw [if_neg article, handleStarttag_inside _ _ _ article, ihc, feed_cons, handle,
        handleEndtag_inside _ _ article, ihr, List.append_assoc]
  | void tag attrs slash rest ih =>
    have other := articleTag_ne tag
    rw [events, List.cons_append, List.append_assoc, feed_cons, handle,
      handleStarttag_inside _ _ _ other, collectedIn]
    cases slash with
    | false => exact ih _ _ _
    | true =>
      rw [if_pos rfl, List.singleton_append, feed_cons, handle, handleEndtag_inside _ _ other, ih]
      rfl

/-- The collector has what is in the first article. -/
theorem feed_page (page : Forest) (later : List Event) :
    match firstArticle page with
    | none => feed maxArticleDepth {} (events page ++ later) = feed maxArticleDepth {} later
    | some children => (feed maxArticleDepth {} (events page ++ later)).textBuffer =
        (collectedIn maxArticleDepth children 0).1 := by
  induction page generalizing later with
  | nil => rfl
  | text data rest ih =>
    rw [events, List.cons_append, feed_cons, handle, handleData_away (by decide)]
    exact ih later
  | element tag attrs children rest ihc ihr =>
    rw [events, List.cons_append, List.append_assoc, List.cons_append, feed_cons, handle,
      firstArticle]
    by_cases article : tag = articleTag
    · have opened : handleStarttag maxArticleDepth {} tag attrs = inside 0 [] := by
        rw [article]
        rfl
      have closed : ∀ depth buffer, (handleEndtag (inside depth buffer) tag).closedOnce = true ∧
          (handleEndtag (inside depth buffer) tag).textBuffer = buffer := by
        intro depth buffer
        rw [article]
        exact ⟨rfl, rfl⟩
      rw [if_pos article, opened, feed_inside, feed_cons, handle]
      dsimp only
      rw [feed_closed (closed _ _).1, (closed _ _).2, List.nil_append]
    · rw [if_neg article, handleStarttag_away article (by decide)]
      have first := ihc (.endtag tag :: (events rest ++ later))
      cases found : firstArticle children with
      | some inner =>
        rw [found] at first
        exact first
      | none =>
        rw [found] at first
        rw [first, Option.none_or, feed_cons, handle, handleEndtag_away article (by decide)]
        exact ihr later
  | void tag attrs slash rest ih =>
    have other := articleTag_ne tag
    rw [events, List.cons_append, List.append_assoc, feed_cons, handle,
      handleStarttag_away other (by decide)]
    cases slash with
    | false => exact ih later
    | true =>
      rw [if_pos rfl, List.singleton_append, feed_cons, handle,
        handleEndtag_away other (by decide)]
      exact ih later

theorem collected_eq (maxArticleDepth : ℤ) (page : Forest) :
    collected maxArticleDepth page =
      (firstArticle page).elim [] fun children => (collectedIn maxArticleDepth children 0).1 := by
  have whole := @feed_page maxArticleDepth page []
  rw [List.append_nil] at whole
  unfold collected
  cases found : firstArticle page with
  | none =>
    rw [found] at whole
    rw [whole]
    rfl
  | some children =>
    rw [found] at whole
    exact whole

end Inside

/-! ## Markup without texts -/

section Tags
variable {maxArticleDepth : ℤ}

theorem tags_tags (forest : Forest) : tags (tags forest) = tags forest := by
  induction forest with
  | nil => rfl
  | text data rest ih => exact ih
  | element tag attrs children rest ihc ihr => simp only [tags, ihc, ihr]
  | void tag attrs slash rest ih => simp only [tags, ih]

theorem unclosed_tags (forest : Forest) : unclosed (tags forest) = unclosed forest := by
  induction forest with
  | nil => rfl
  | text data rest ih => exact ih
  | element tag attrs children rest ihc ihr => simp only [tags, unclosed, ihc, ihr]
  | void tag attrs slash rest ih => simp only [tags, unclosed, ih]

theorem faithful_tags (forest : Forest) :
    Faithful maxArticleDepth (tags forest) ↔ Faithful maxArticleDepth forest := by
  induction forest with
  | nil => rfl
  | text data rest ih => exact ih
  | element tag attrs children rest ihc ihr =>
    simp only [tags, Faithful, unclosed_tags, ihc, ihr]
  | void tag attrs slash rest ih => simp only [tags, Faithful, ih]

theorem faithful_congr {forest forest' : Forest} (same : tags forest' = tags forest) :
    Faithful maxArticleDepth forest' ↔ Faithful maxArticleDepth forest := by
  rw [← faithful_tags forest', same, faithful_tags]

theorem collectedIn_tags (forest : Forest) (depth : ℕ) :
    (collectedIn maxArticleDepth (tags forest) depth).1 = [] := by
  induction forest generalizing depth with
  | nil => rfl
  | text data rest ih => exact ih depth
  | element tag attrs children rest ihc ihr =>
    unfold tags collectedIn
    split_ifs
    · exact ihr depth
    · dsimp only
      rw [ihc, ihr]
      rfl
  | void tag attrs slash rest ih => exact ih _

theorem intendedIn_tags (forest : Forest) : intendedIn (tags forest) = [] := by
  induction forest with
  | nil => rfl
  | text data rest ih => exact ih
  | element tag attrs children rest ihc ihr =>
    unfold tags intendedIn
    rw [ihc, ihr]
    exact ite_self _
  | void tag attrs slash rest ih => exact ih

end Tags

/-! ## The counter -/

section Counter
variable {maxArticleDepth : ℤ}

theorem excluded_of_skips {attrs : Attributes} (skip : skips attrs = true) :
    excluded attrs = true := by
  unfold skips at skip
  unfold excluded
  rw [Bool.or_eq_true, Bool.or_eq_true, decide_eq_true_eq, decide_eq_true_eq] at skip
  obtain (role | hidden) | aria := skip
  · simp [role]
  · simp [hidden]
  · simp [aria]

theorem afterStart_deep (positive : 1 ≤ maxArticleDepth) (attrs : Attributes) (depth : ℕ) :
    afterStart maxArticleDepth attrs (depth + 1) = depth + 2 :=
  if_pos ⟨positive, .inr (Nat.succ_pos _)⟩

/-- In what is left out nothing is collected, and every void element without a slash is counted
for good. -/
theorem collectedIn_deep (positive : 1 ≤ maxArticleDepth) (forest : Forest) (depth : ℕ) :
    collectedIn maxArticleDepth forest (depth + 1) = ([], depth + 1 + unclosed forest) := by
  induction forest generalizing depth with
  | nil => rfl
  | text data rest ih =>
    unfold collectedIn unclosed
    rw [ih, if_neg (Nat.succ_ne_zero _)]
    rfl
  | element tag attrs children rest ihc ihr =>
    unfold collectedIn unclosed
    split_ifs
    · exact ihr depth
    · dsimp only
      have back : depth + 1 + 1 + unclosed children - 1 = depth + unclosed children + 1 := by omega
      rw [afterStart_deep positive, ihc (depth + 1), back, ihr]
      dsimp only
      rw [List.append_nil]
      exact congrArg (Prod.mk []) (by omega)
  | void tag attrs slash rest ih =>
    unfold collectedIn unclosed
    dsimp only
    rw [afterStart_deep positive]
    cases slash with
    | false =>
      rw [if_neg Bool.false_ne_true, if_neg Bool.false_ne_true, ih (depth + 1)]
      exact congrArg (Prod.mk []) (by omega)
    | true =>
      rw [if_pos rfl, if_pos rfl, Nat.zero_add]
      exact ih depth

theorem afterStart_zero (attrs : Attributes) : afterStart maxArticleDepth attrs 0 =
    if 1 ≤ maxArticleDepth ∧ skips attrs = true then 1 else 0 := by
  simp only [afterStart, lt_self_iff_false, or_false, Nat.zero_add]

/-- After an element that is left out the counter stands at the void elements in it. -/
theorem collectedIn_skipped {tag : String} {attrs : Attributes} (article : tag ≠ articleTag)
    (skip : 1 ≤ maxArticleDepth ∧ skips attrs = true) (children rest : Forest) :
    collectedIn maxArticleDepth (.element tag attrs children rest) 0 =
      collectedIn maxArticleDepth rest (unclosed children) := by
  have back : 0 + 1 + unclosed children - 1 = unclosed children := by omega
  rw [collectedIn, if_neg article, afterStart_zero, if_pos skip, collectedIn_deep skip.1]
  dsimp only
  rw [List.nil_append, back]

theorem collectedIn_entered {tag : String} {attrs : Attributes} (article : tag ≠ articleTag)
    (skip : ¬ (1 ≤ maxArticleDepth ∧ skips attrs = true)) (children rest : Forest) :
    collectedIn maxArticleDepth (.element tag attrs children rest) 0 =
      ((collectedIn maxArticleDepth children 0).1 ++ (collectedIn maxArticleDepth rest
        ((collectedIn maxArticleDepth children 0).2 - 1)).1,
      (collectedIn maxArticleDepth rest ((collectedIn maxArticleDepth children 0).2 - 1)).2) := by
  rw [collectedIn, if_neg article, afterStart_zero, if_neg skip]

theorem intendedIn_excluded {tag : String} {attrs : Attributes} (out : excluded attrs = true)
    (children rest : Forest) : intendedIn (.element tag attrs children rest) = intendedIn rest :=
  if_pos (.inr out)

theorem intendedIn_kept {tag : String} {attrs : Attributes} (article : tag ≠ articleTag)
    (plain : excluded attrs = false) (children rest : Forest) :
    intendedIn (.element tag attrs children rest) = intendedIn children ++ intendedIn rest := by
  rw [intendedIn, plain, if_neg (not_or.2 ⟨article, Bool.false_ne_true⟩)]

/-- The counter is at zero again after everything, and what is collected is what is intended. -/
theorem collectedIn_of_faithful {forest : Forest} (faithful : Faithful maxArticleDepth forest) :
    collectedIn maxArticleDepth forest 0 = (intendedIn forest, 0) := by
  induction forest with
  | nil => rfl
  | text data rest ih =>
    unfold collectedIn intendedIn
    rw [ih faithful, if_pos rfl]
  | element tag attrs children rest ihc ihr =>
    have ⟨own, later⟩ := faithful
    by_cases article : tag = articleTag
    · unfold collectedIn intendedIn
      rw [if_pos article, if_pos (.inl article)]
      exact ihr later
    · have own := own.resolve_left article
      split_ifs at own with skip
      · rw [collectedIn_skipped article skip, own, ihr later,
          intendedIn_excluded (excluded_of_skips skip.2)]
      · rw [collectedIn_entered article skip, ihc own.2, intendedIn_kept article own.1]
        dsimp only
        rw [ihr later]
  | void tag attrs slash rest ih =>
    have ⟨own, later⟩ := faithful
    unfold collectedIn intendedIn
    dsimp only
    rw [afterStart_zero]
    split_ifs with closed skip skip
    · exact ih later
    · exact ih later
    · exact absurd (own skip.1 skip.2) closed
    · exact ih later

/-! ## Where the counter goes wrong -/

/-- A text that shows where it is collected. -/
def mark : Text := ['x']

/-- Whatever texts stand between the tags within the article. -/
def SoundIn (maxArticleDepth : ℤ) (forest : Forest) : Prop :=
  ∀ forest', tags forest' = tags forest →
    (collectedIn maxArticleDepth forest' 0).1 = intendedIn forest'

theorem collectedIn_mark (forest : Forest) (depth : ℕ) :
    (collectedIn maxArticleDepth (.text mark (tags forest)) depth).1 =
      if depth = 0 then mark else [] := by
  unfold collectedIn
  dsimp only
  rw [collectedIn_tags, List.append_nil]

theorem intendedIn_mark (forest : Forest) : intendedIn (.text mark (tags forest)) = mark := by
  unfold intendedIn
  rw [intendedIn_tags, List.append_nil]

theorem faithful_of_sound {forest : Forest} (sound : SoundIn maxArticleDepth forest) :
    Faithful maxArticleDepth forest := by
  induction forest with
  | nil => trivial
  | text data rest ih => exact ih sound
  | element tag attrs children rest ihc ihr =>
    by_cases article : tag = articleTag
    · refine ⟨.inl article, ihr fun rest' same => ?_⟩
      have whole := sound (.element tag attrs children rest') (by simp only [tags, same])
      unfold collectedIn intendedIn at whole
      rw [if_pos article, if_pos (.inl article)] at whole
      exact whole
    · unfold Faithful
      by_cases skip : 1 ≤ maxArticleDepth ∧ skips attrs = true
      · -- a text after the element is collected if the counter is at zero again
        have all : ∀ rest', tags rest' = tags rest →
            (collectedIn maxArticleDepth rest' (unclosed children)).1 = intendedIn rest' := by
          intro rest' same
          have whole := sound (.element tag attrs (tags children) rest')
            (by simp only [tags, tags_tags, same])
          rw [collectedIn_skipped article skip, unclosed_tags,
            intendedIn_excluded (excluded_of_skips skip.2)] at whole
          exact whole
        have zero : unclosed children = 0 := by
          by_contra open_
          have shown := all (.text mark (tags rest)) (by simp only [tags, tags_tags])
          rw [collectedIn_mark, intendedIn_mark, if_neg open_] at shown
          cases shown
        refine ⟨.inr ?_, ihr fun rest' same => ?_⟩
        · rw [if_pos skip]
          exact zero
        · rw [← all rest' same, zero]
      · -- a text in the element is collected
        have plain : excluded attrs = false := by
          by_contra shown
          have whole := sound (.element tag attrs (.text mark (tags children)) (tags rest))
            (by simp only [tags, tags_tags])
          rw [collectedIn_entered article skip, collectedIn_mark, collectedIn_tags,
            intendedIn_excluded (eq_true_of_ne_false shown), intendedIn_tags] at whole
          cases whole
        have within : Faithful maxArticleDepth children := by
          refine ihc fun children' same => ?_
          have whole := sound (.element tag attrs children' (tags rest))
            (by simp only [tags, tags_tags, same])
          rw [collectedIn_entered article skip, intendedIn_kept article plain, collectedIn_tags,
            intendedIn_tags, List.append_nil, List.append_nil] at whole
          exact whole
        refine ⟨.inr ?_, ihr fun rest' same => ?_⟩
        · rw [if_neg skip]
          exact ⟨plain, within⟩
        · have whole := sound (.element tag attrs (tags children) rest')
            (by simp only [tags, tags_tags, same])
          rw [collectedIn_entered article skip, intendedIn_kept article plain,
            collectedIn_of_faithful ((faithful_tags children).2 within)] at whole
          exact List.append_cancel_left whole
  | void tag attrs slash rest ih =>
    have inner : ∀ rest', (collectedIn maxArticleDepth (.void tag attrs slash rest') 0).1 =
        (collectedIn maxArticleDepth rest' (if slash then afterStart maxArticleDepth attrs 0 - 1
          else afterStart maxArticleDepth attrs 0)).1 := fun rest' => rfl
    have closed : 1 ≤ maxArticleDepth → skips attrs = true → slash = true := by
      intro positive skip
      by_contra open_
      have shown := sound (.void tag attrs slash (.text mark (tags rest)))
        (by simp only [tags, tags_tags])
      rw [inner, if_neg open_, afterStart_zero, if_pos ⟨positive, skip⟩, collectedIn_mark,
        intendedIn, intendedIn_mark] at shown
      cases shown
    refine ⟨closed, ih fun rest' same => ?_⟩
    have whole := sound (.void tag attrs slash rest') (by simp only [tags, same])
    have zero : (if slash then afterStart maxArticleDepth attrs 0 - 1
        else afterStart maxArticleDepth attrs 0) = 0 := by
      rw [afterStart_zero]
      split_ifs with closed' skip skip
      · rfl
      · rfl
      · exact absurd (closed skip.1 skip.2) closed'
      · rfl
    rw [inner, zero] at whole
    exact whole

end Counter

/-! ## The page -/

section Page
variable {maxArticleDepth : ℤ}

theorem firstArticle_tags (page : Forest) :
    firstArticle (tags page) = (firstArticle page).map tags := by
  induction page with
  | nil => rfl
  | text data rest ih => exact ih
  | element tag attrs children rest ihc ihr =>
    unfold tags firstArticle
    split_ifs
    · rfl
    · rw [ihc, ihr, Option.map_or]
  | void tag attrs slash rest ih => exact ih

/-- The texts of the first article may be chosen. -/
theorem exists_firstArticle {page children : Forest} (found : firstArticle page = some children)
    {children' : Forest} (same : tags children' = tags children) :
    ∃ page', tags page' = tags page ∧ firstArticle page' = some children' := by
  induction page with
  | nil => cases found
  | text data rest ih => exact ih found
  | element tag attrs inner rest ihc ihr =>
    unfold firstArticle at found
    by_cases article : tag = articleTag
    · rw [if_pos article, Option.some_inj] at found
      refine ⟨.element tag attrs children' rest, ?_, if_pos article⟩
      rw [tags, same, ← found]
      rfl
    · rw [if_neg article] at found
      cases first : firstArticle inner with
      | some below =>
        rw [first] at found
        obtain ⟨inner', kept, found'⟩ := ihc (first.trans found)
        refine ⟨.element tag attrs inner' rest, by simp only [tags, kept], ?_⟩
        rw [firstArticle, if_neg article, found']
        rfl
      | none =>
        rw [first, Option.none_or] at found
        obtain ⟨rest', kept, found'⟩ := ihr found
        refine ⟨.element tag attrs inner rest', by simp only [tags, kept], ?_⟩
        rw [firstArticle, if_neg article, first, Option.none_or, found']
  | void tag attrs slash rest ih =>
    obtain ⟨rest', kept, found'⟩ := ih found
    exact ⟨.void tag attrs slash rest', by simp only [tags, kept], found'⟩

/-- The collector has what is intended, whatever the texts, exactly if in the first article the
counter comes back to zero after everything that is excluded, and all of it is counted. -/
theorem collector_sound_iff (maxArticleDepth : ℤ) (page : Forest) :
    Sound maxArticleDepth page ↔
      ∀ children, firstArticle page = some children → Faithful maxArticleDepth children := by
  constructor
  · intro sound children found
    refine faithful_of_sound fun children' same => ?_
    obtain ⟨page', kept, found'⟩ := exists_firstArticle found same
    have whole := sound page' kept
    rw [collected_eq, intended, found'] at whole
    exact whole
  · intro faithful page' same
    have first : (firstArticle page').map tags = (firstArticle page).map tags := by
      rw [← firstArticle_tags, same, firstArticle_tags]
    rw [collected_eq, intended]
    cases found' : firstArticle page' with
    | none => rfl
    | some children' =>
      rw [found', Option.map_some] at first
      obtain ⟨children, found, kept⟩ := Option.map_eq_some_iff.1 first.symm
      have within := (faithful_congr kept.symm).2 (faithful children found)
      exact congrArg Prod.fst (collectedIn_of_faithful within)

def br : VoidTag := ⟨"br", by decide⟩

/-- `<article><div role="navigation"><br></div>x</article>` -/
def breakInNavigation : Forest :=
  .element "article" [] (.element "div" [("role", some "navigation")] (.void br [] false .nil)
    (.text mark .nil)) .nil

/-- `<article><p hidden>x</p></article>` -/
def hiddenParagraph : Forest :=
  .element "article" [] (.element "p" [("hidden", none)] (.text mark .nil) .nil) .nil

/-- A `br` in the navigation costs the rest of the article, and what is hidden without a value is
collected. -/
theorem break_costs_rest :
    (collected 3 breakInNavigation = [] ∧ intended breakInNavigation = mark) ∧
      collected 3 hiddenParagraph = mark ∧ intended hiddenParagraph = [] := by
  decide

end Page

end BacklinkPublisher.ArticleScope
