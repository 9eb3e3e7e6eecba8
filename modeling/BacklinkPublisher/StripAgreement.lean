import BacklinkPublisher.SortedLists
import BacklinkPublisher.StripCounters

set_option autoImplicit false

/-!
# Where the two counts agree

An article that was rechecked under one target, once at its latest time, counts alike in both.
-/
namespace BacklinkPublisher.StripAgreement
open DiscountMap (isCompound)
open EventPayloads EventStore KeyedMaxima LatestVerdicts OrderedDicts SortedLists StripCounters

/-! ## Recency -/

def stripRank (entry : Stripped) : WithBot ℚ ×ₗ ℕ := toLex (moment entry.ts, entry.rid)

theorem stripNewer_iff (fresh old : Stripped) :
    stripNewer fresh old = true ↔ stripRank old < stripRank fresh :=
  newer_iff ⟨"", fresh.ts, fresh.rid, [], none, none⟩ ⟨"", old.ts, old.rid, [], none, none⟩

theorem decayNewer_iff (fresh old : Decayed) :
    decayNewer fresh old = true ↔ moment old.ts < moment fresh.ts := by
  unfold decayNewer moment
  cases fresh.ts with
  | none =>
    cases old.ts with
    | none => simp
    | some prev => simp
  | some ts =>
    cases old.ts with
    | none => simp
    | some prev =>
      dsimp only
      rw [WithBot.coe_lt_coe, decide_eq_true_iff]

section Entries
variable {R : Readers} {rows rows' : List RecheckRow}

theorem stripEntry_rid {row : RecheckRow} {entry : Stripped}
    (made : stripEntry R row = some entry) : entry.rid = row.id := by
  unfold stripEntry at made
  split_ifs at made
  have ⟨target, _, made⟩ := Option.bind_eq_some_iff.1 made
  have ⟨articleId, _, made⟩ := Option.map_eq_some_iff.1 made
  rw [← made]

theorem distinct_rids (ids : (rows.map RecheckRow.id).Nodup) :
    DistinctKeys Stripped.rid (entries R rows) :=
  DistinctKeys.filterMap ids fun _ _ made => stripEntry_rid made

theorem eq_of_stripRank (ids : (rows.map RecheckRow.id).Nodup) {a b : Stripped}
    (ha : a ∈ entries R rows) (hb : b ∈ entries R rows) (same : stripRank a = stripRank b) :
    a = b :=
  List.inj_on_of_nodup_map (distinct_rids ids) ha hb
    (congrArg (fun r : WithBot ℚ ×ₗ ℕ => (ofLex r).2) same)

theorem mem_entries (perm : rows'.Perm rows) {entry : Stripped} :
    entry ∈ entries R rows' ↔ entry ∈ entries R rows := (perm.filterMap _).mem_iff

/-! ## The latest of each target -/

/-- No recheck of the article under the same target is later. -/
def Newest (R : Readers) (rows : List RecheckRow) (entry : Stripped) : Prop :=
  entry ∈ entries R rows ∧
    ∀ other ∈ entries R rows, other.link = entry.link → stripRank other ≤ stripRank entry

instance (entry : Stripped) : Decidable (Newest R rows entry) := by
  unfold Newest
  infer_instance

/-- The latest of each target, whatever order the rows are read in. -/
theorem mem_stripLatest (ids : (rows.map RecheckRow.id).Nodup) (perm : rows'.Perm rows)
    {entry : Stripped} :
    entry ∈ (entries R rows').foldl
        (fun latest fresh => keepNewer Stripped.link stripNewer fresh latest) [] ↔
      Newest R rows entry := by
  have ids' : (rows'.map RecheckRow.id).Nodup := (perm.map RecheckRow.id).nodup_iff.2 ids
  have maxima : Maxima Stripped.link stripRank (entries R rows') ((entries R rows').foldl
      (fun latest fresh => keepNewer Stripped.link stripNewer fresh latest) []) :=
    maxima_foldl stripNewer_iff _
  have held : lookup Stripped.link entry.link ((entries R rows').foldl
      (fun latest fresh => keepNewer Stripped.link stripNewer fresh latest) []) = some entry ↔ _ :=
    maxima.lookup_iff fun a ha b hb _ same => eq_of_stripRank ids' ha hb same
  rw [lookup_eq_some maxima.nodup] at held
  simp only [mem_entries perm, and_true, true_and] at held
  exact held

/-! ## The latest of each article -/

def ownEntries (R : Readers) (rows : List RecheckRow) (articleId : ℤ) : List Stripped :=
  (entries R rows).filter fun entry => entry.articleId = articleId

/-- Of the rechecks of an article at its latest time, the one that is read first. -/
def firstNewest (R : Readers) (rows : List RecheckRow) (articleId : ℤ) : Option Stripped :=
  (ownEntries R rows articleId).argmax fun entry => moment entry.ts

theorem lookup_decayLatest (articleId : ℤ) :
    lookup Decayed.articleId articleId (((entries R rows).map Stripped.decayed).foldl
        (fun latest fresh => keepNewer Decayed.articleId decayNewer fresh latest) []) =
      (firstNewest R rows articleId).map Stripped.decayed := by
  have found : lookup Decayed.articleId articleId (((entries R rows).map Stripped.decayed).foldl
      (fun latest fresh => keepNewer Decayed.articleId decayNewer fresh latest) []) =
      (((entries R rows).map Stripped.decayed).filter fun entry =>
        entry.articleId = articleId).argmax fun entry => moment entry.ts :=
    lookup_foldl_keepNewer decayNewer_iff _ _
  rw [found, List.filter_map, argmax_map]
  rfl

/-! ## The counts -/

/-- The articles that have been rechecked with a known verdict. -/
def articles (R : Readers) (rows : List RecheckRow) : List ℤ :=
  ((entries R rows).map Stripped.articleId).dedup

theorem mem_articles {entry : Stripped} (h : entry ∈ entries R rows) :
    entry.articleId ∈ articles R rows :=
  List.mem_dedup.2 (List.mem_map_of_mem h)

/-- The targets of an article that are dead or degraded by their latest recheck. -/
def deadCells (R : Readers) (rows : List RecheckRow) (articleId : ℤ) : List Stripped :=
  (entries R rows).filter fun entry =>
    entry.articleId = articleId ∧ entry.verdict ∈ stripVerdicts ∧ Newest R rows entry

def stripsAs (R : Readers) (rows : List RecheckRow) (verdict : Value) (articleId : ℤ) : Prop :=
  ∃ cell ∈ deadCells R rows articleId, cell.verdict = verdict

instance (verdict : Value) (articleId : ℤ) : Decidable (stripsAs R rows verdict articleId) := by
  unfold stripsAs
  infer_instance

def decaysAs (R : Readers) (rows : List RecheckRow) (verdict : Value) (articleId : ℤ) : Prop :=
  ∃ entry ∈ firstNewest R rows articleId, entry.verdict = verdict

instance (verdict : Value) (articleId : ℤ) : Decidable (decaysAs R rows verdict articleId) :=
  decidable_of_iff ((firstNewest R rows articleId).any fun entry => entry.verdict = verdict) (by
    unfold decaysAs
    rw [Option.any_eq_true]
    simp only [decide_eq_true_iff, Option.mem_def])

theorem mem_firstNewest {articleId : ℤ} {entry : Stripped}
    (found : firstNewest R rows articleId = some entry) :
    entry ∈ entries R rows ∧ entry.articleId = articleId ∧
      ∀ other ∈ ownEntries R rows articleId, moment other.ts ≤ moment entry.ts := by
  have member : entry ∈ ownEntries R rows articleId := List.argmax_mem found
  have ⟨h, own⟩ := List.mem_filter.1 member
  refine ⟨h, of_decide_eq_true own, fun other hother => ?_⟩
  exact List.le_of_mem_argmax (f := fun entry : Stripped => moment entry.ts) hother found

theorem decayCount_eq {latest : List Decayed} (placed : ∀ row ∈ rows, Placed R row)
    (made : decayLatest R rows = .ok latest) (verdict : Value) :
    (latest.countP fun entry => entry.verdict = verdict) =
      (articles R rows).countP fun articleId => decaysAs R rows verdict articleId := by
  rw [decayLatest_legible placed (legible_of_decayLatest placed made)] at made
  have made := Except.ok.inj made
  have maxima : Maxima Decayed.articleId (fun entry : Decayed => moment entry.ts)
      ((entries R rows).map Stripped.decayed) latest := made ▸ maxima_foldl decayNewer_iff _
  have seen : ∀ entry ∈ latest, entry.articleId ∈ articles R rows := by
    intro entry h
    have ⟨source, hsource, same⟩ := List.mem_map.1 (maxima.mem entry h)
    rw [← same]
    exact mem_articles hsource
  rw [countP_by_key (List.nodup_dedup _) (maxima.nodup.sublist (List.filter_sublist.map _))
    fun entry h _ => seen entry h]
  apply List.countP_congr
  intro articleId _
  rw [decide_eq_true_iff, decide_eq_true_iff]
  have found : lookup Decayed.articleId articleId latest =
      (firstNewest R rows articleId).map Stripped.decayed := made ▸ lookup_decayLatest articleId
  unfold decaysAs
  constructor
  · rintro ⟨entry, h, rfl, passes⟩
    rw [lookup_of_mem maxima.nodup h] at found
    have ⟨source, hsource, same⟩ := Option.map_eq_some_iff.1 found.symm
    refine ⟨source, hsource, ?_⟩
    rw [decide_eq_true_iff, ← same] at passes
    exact passes
  · rintro ⟨source, hsource, passes⟩
    rw [hsource] at found
    have ⟨h, own⟩ := (lookup_eq_some maxima.nodup).1 found
    exact ⟨_, h, own, decide_eq_true passes⟩

/-! ## The counts by platform -/

theorem countStrips_isOk (out : List StripBucket) (latest : List Stripped) :
    (∃ final, countStrips out latest = .ok final) ↔ ∀ entry ∈ latest,
      entry.verdict ∈ stripVerdicts → isCompound entry.platform = false := by
  induction latest generalizing out with
  | nil => exact iff_of_true ⟨out, rfl⟩ fun _ h => absurd h List.not_mem_nil
  | cons entry rest ih =>
    rw [List.forall_mem_cons, countStrips]
    by_cases dead : entry.verdict ∈ stripVerdicts
    · rw [if_neg (not_not.2 dead)]
      cases compound : isCompound entry.platform with
      | true =>
        rw [if_pos rfl]
        refine iff_of_false ?_ fun both => Bool.noConfusion (both.1 dead)
        rintro ⟨final, made⟩
        cases made
      | false =>
        rw [if_neg Bool.false_ne_true, ih]
        exact (and_iff_right fun _ => rfl).symm
    · rw [if_pos dead, ih]
      exact (and_iff_right fun named => absurd named dead).symm

theorem bump_count {verdict other : Value} (dead : verdict ∈ stripVerdicts)
    (dead' : other ∈ stripVerdicts) (bucket : StripBucket) :
    (bucket.bump other).count verdict =
      bucket.count verdict + if other = verdict then 1 else 0 := by
  unfold stripVerdicts at dead dead'
  simp only [List.mem_cons, List.not_mem_nil, or_false] at dead dead'
  rcases dead with rfl | rfl | rfl <;> rcases dead' with rfl | rfl | rfl <;> rfl

/-- The sums over the platforms count the entries. -/
theorem countStrips_sum {verdict : Value} (dead : verdict ∈ stripVerdicts)
    {out final : List StripBucket} (nodup : (out.map StripBucket.platform).Nodup)
    {latest : List Stripped} (made : countStrips out latest = .ok final) :
    (final.map (StripBucket.count verdict)).sum =
      (out.map (StripBucket.count verdict)).sum +
        latest.countP fun entry => entry.verdict = verdict := by
  induction latest generalizing out with
  | nil =>
    rw [Except.ok.inj made]
    rfl
  | cons entry rest ih =>
    rw [countStrips] at made
    rw [List.countP_cons]
    by_cases mine : entry.verdict ∈ stripVerdicts
    · rw [if_neg (not_not.2 mine)] at made
      cases compound : isCompound entry.platform with
      | true =>
        rw [compound, if_pos rfl] at made
        cases made
      | false =>
        rw [compound, if_neg Bool.false_ne_true] at made
        let fresh : StripBucket := { platform := entry.platform }
        have kept : ∀ bucket : StripBucket,
            (bucket.bump entry.verdict).platform = bucket.platform := by
          intro bucket
          unfold StripBucket.bump
          split_ifs <;> rfl
        have ensured : ((ensure StripBucket.platform fresh out).map StripBucket.platform).Nodup :=
          nodup_keys_ensure nodup
        have present : entry.platform ∈
            (ensure StripBucket.platform fresh out).map StripBucket.platform :=
          mem_keys_ensure.2 (Or.inr rfl)
        have empty : fresh.count verdict = 0 := by
          unfold StripBucket.count
          split_ifs <;> rfl
        have adjusted : ((adjust StripBucket.platform entry.platform
            (StripBucket.bump entry.verdict) (ensure StripBucket.platform fresh out)).map
              StripBucket.platform).Nodup := by
          rw [keys_adjust kept]
          exact ensured
        rw [ih adjusted made, sum_adjust ensured present (StripBucket.count verdict) _
          (bump_count dead mine), sum_ensure (StripBucket.count verdict) empty]
        simp only [decide_eq_true_iff]
        omega
    · rw [if_pos mine] at made
      have other : ¬ entry.verdict = verdict := fun same => mine (same ▸ dead)
      rw [ih nodup made, decide_eq_false other, if_neg Bool.false_ne_true]
      rfl

/-! ## Agreement -/

/-- An article that was rechecked under one target, and once at its latest time. -/
def Plain (R : Readers) (rows : List RecheckRow) (articleId : ℤ) : Prop :=
  ∀ a ∈ ownEntries R rows articleId, ∀ b ∈ ownEntries R rows articleId, a.target = b.target ∧
    ((∀ other ∈ ownEntries R rows articleId, moment other.ts ≤ moment a.ts) →
      (∀ other ∈ ownEntries R rows articleId, moment other.ts ≤ moment b.ts) → a = b)

instance (articleId : ℤ) : Decidable (Plain R rows articleId) := by
  unfold Plain
  infer_instance

theorem mem_ownEntries {articleId : ℤ} {entry : Stripped} :
    entry ∈ ownEntries R rows articleId ↔
      entry ∈ entries R rows ∧ entry.articleId = articleId := by
  unfold ownEntries
  rw [List.mem_filter, decide_eq_true_iff]

theorem mem_deadCells {articleId : ℤ} {entry : Stripped} :
    entry ∈ deadCells R rows articleId ↔
      entry.articleId = articleId ∧ entry.verdict ∈ stripVerdicts ∧ Newest R rows entry := by
  unfold deadCells
  rw [List.mem_filter, decide_eq_true_iff, and_iff_right_iff_imp]
  exact fun h => h.2.2.1

theorem moment_le_of_rank {a b : Stripped} (le : stripRank a ≤ stripRank b) :
    moment a.ts ≤ moment b.ts := by
  rcases Prod.Lex.toLex_le_toLex.1 le with lt | ⟨same, _⟩
  · exact le_of_lt lt
  · exact le_of_eq same

/-- Of a plain article the two readers keep the same recheck. -/
theorem newest_iff_firstNewest {articleId : ℤ} (plain : Plain R rows articleId)
    {entry : Stripped} (own : entry.articleId = articleId) :
    Newest R rows entry ↔ firstNewest R rows articleId = some entry := by
  constructor
  · rintro ⟨h, newest⟩
    have mine : entry ∈ ownEntries R rows articleId := mem_ownEntries.2 ⟨h, own⟩
    have latest : ∀ other ∈ ownEntries R rows articleId, moment other.ts ≤ moment entry.ts := by
      intro other hother
      have ⟨member, own'⟩ := mem_ownEntries.1 hother
      have link : other.link = entry.link :=
        Prod.ext (plain other hother entry mine).1 (own'.trans own.symm)
      exact moment_le_of_rank (newest other member link)
    cases found : firstNewest R rows articleId with
    | none => exact absurd mine (List.argmax_eq_none.1 found ▸ List.not_mem_nil)
    | some first =>
      have ⟨member, own', first_⟩ := mem_firstNewest found
      have same := (plain first (mem_ownEntries.2 ⟨member, own'⟩) entry mine).2 first_ latest
      rw [same]
  · intro found
    have ⟨h, _, latest⟩ := mem_firstNewest found
    have mine : entry ∈ ownEntries R rows articleId := mem_ownEntries.2 ⟨h, own⟩
    refine ⟨h, fun other hother link => ?_⟩
    have own' : other.articleId = articleId := (congrArg Prod.snd link).trans own
    have theirs : other ∈ ownEntries R rows articleId := mem_ownEntries.2 ⟨hother, own'⟩
    rcases lt_or_eq_of_le (latest other theirs) with earlier | same
    · exact Prod.Lex.toLex_le_toLex.2 (Or.inl earlier)
    · have one := (plain other theirs entry mine).2 (fun x hx => same ▸ latest x hx) latest
      rw [one]

theorem stripsAs_iff_decaysAs {articleId : ℤ} (plain : Plain R rows articleId) {verdict : Value}
    (dead : verdict ∈ stripVerdicts) :
    stripsAs R rows verdict articleId ↔ decaysAs R rows verdict articleId := by
  unfold stripsAs decaysAs
  constructor
  · rintro ⟨cell, h, named⟩
    have ⟨own, _, newest⟩ := mem_deadCells.1 h
    exact ⟨cell, (newest_iff_firstNewest plain own).1 newest, named⟩
  · rintro ⟨entry, found, named⟩
    have own := (mem_firstNewest found).2.1
    refine ⟨entry, mem_deadCells.2 ⟨own, named ▸ dead, ?_⟩, named⟩
    exact (newest_iff_firstNewest plain own).2 found

theorem one_cell_of_plain {articleId : ℤ} (plain : Plain R rows articleId) {a b : Stripped}
    (ha : a ∈ deadCells R rows articleId) (hb : b ∈ deadCells R rows articleId) : a = b := by
  have ⟨own, _, newest⟩ := mem_deadCells.1 ha
  have ⟨own', _, newest'⟩ := mem_deadCells.1 hb
  have first := (newest_iff_firstNewest plain own).1 newest
  rw [(newest_iff_firstNewest plain own').1 newest'] at first
  exact (Option.some.inj first).symm

/-! ## The two stories -/

/-- Both counts are made or neither is; the sums over the platforms are the counts; an article has
at most one cell. -/
structure SameStory (R : Readers) (rows rows' : List RecheckRow) : Prop where
  returns : (∃ counts, deriveDecayCounts R rows = .ok counts) ↔
    ∃ out, deriveStripCountsByPlatform R rows' = .ok out
  sums : ∀ counts out, deriveDecayCounts R rows = .ok counts →
    deriveStripCountsByPlatform R rows' = .ok out → ∀ verdict ∈ stripVerdicts,
      counts.lookup verdict = some (out.map (StripBucket.count verdict)).sum
  once : ∀ latest, stripLatest R rows' = .ok latest → ∀ a ∈ latest, ∀ b ∈ latest,
    a.verdict ∈ stripVerdicts → b.verdict ∈ stripVerdicts → a.articleId = b.articleId → a = b

def contested (R : Readers) (rows : List RecheckRow) : List ℤ :=
  (articles R rows).filter fun articleId => ¬ Plain R rows articleId

/-- The platforms of dead links can be hashed, no contested article has two cells, and as many
contested articles have a verdict in the one count as in the other. -/
structure Balanced (R : Readers) (rows : List RecheckRow) : Prop where
  platforms : ∀ entry, Newest R rows entry → entry.verdict ∈ stripVerdicts →
    isCompound entry.platform = false
  once : ∀ articleId, ¬ Plain R rows articleId → ∀ a ∈ deadCells R rows articleId,
    ∀ b ∈ deadCells R rows articleId, a = b
  even : ∀ verdict ∈ stripVerdicts,
    (contested R rows).countP (fun articleId => stripsAs R rows verdict articleId) =
      (contested R rows).countP fun articleId => decaysAs R rows verdict articleId

theorem lookup_counts {count : Value → ℕ} {verdict : Value} (dead : verdict ∈ stripVerdicts) :
    (verdicts.map fun v => (v, count v)).lookup verdict = some (count verdict) := by
  unfold stripVerdicts at dead
  simp only [List.mem_cons, List.not_mem_nil, or_false] at dead
  rcases dead with rfl | rfl | rfl <;> rfl

/-- Where each article has one cell, the cells of a verdict are counted by article. -/
theorem stripCount_eq (ids : (rows.map RecheckRow.id).Nodup) (perm : rows'.Perm rows)
    (once : ∀ articleId, ∀ a ∈ deadCells R rows articleId, ∀ b ∈ deadCells R rows articleId, a = b)
    {verdict : Value} (dead : verdict ∈ stripVerdicts) :
    ((entries R rows').foldl
        (fun latest fresh => keepNewer Stripped.link stripNewer fresh latest) []).countP
          (fun entry => entry.verdict = verdict) =
      (articles R rows).countP fun articleId => stripsAs R rows verdict articleId := by
  have maxima : Maxima Stripped.link stripRank (entries R rows') ((entries R rows').foldl
      (fun latest fresh => keepNewer Stripped.link stripNewer fresh latest) []) :=
    maxima_foldl stripNewer_iff _
  have cell : ∀ entry ∈ (entries R rows').foldl
      (fun latest fresh => keepNewer Stripped.link stripNewer fresh latest) [],
      entry.verdict = verdict → entry ∈ deadCells R rows entry.articleId := by
    intro entry h named
    exact mem_deadCells.2 ⟨rfl, named ▸ dead, (mem_stripLatest ids perm).1 h⟩
  have distinct : (articles R rows).Nodup := List.nodup_dedup _
  have covered : ∀ entry ∈ (entries R rows').foldl
      (fun latest fresh => keepNewer Stripped.link stripNewer fresh latest) [],
      decide (entry.verdict = verdict) = true → entry.articleId ∈ articles R rows :=
    fun entry h _ => mem_articles ((mem_stripLatest ids perm).1 h).1
  refine (countP_by_key distinct ?_ covered).trans ?_
  · apply List.Nodup.map_on _ ((List.Nodup.of_map _ maxima.nodup).filter _)
    intro a ha b hb same
    have ⟨ha, named⟩ := List.mem_filter.1 ha
    have ⟨hb, named'⟩ := List.mem_filter.1 hb
    exact once a.articleId a (cell a ha (of_decide_eq_true named)) b
      (same ▸ cell b hb (of_decide_eq_true named'))
  · apply List.countP_congr
    intro articleId _
    rw [decide_eq_true_iff, decide_eq_true_iff]
    unfold stripsAs
    constructor
    · rintro ⟨entry, h, rfl, named⟩
      exact ⟨entry, cell entry h (of_decide_eq_true named), of_decide_eq_true named⟩
    · rintro ⟨entry, h, named⟩
      have ⟨own, _, newest⟩ := mem_deadCells.1 h
      exact ⟨entry, (mem_stripLatest ids perm).2 newest, own, decide_eq_true named⟩

/-- The articles that are not contested cancel out. -/
theorem counts_iff_even {verdict : Value} (dead : verdict ∈ stripVerdicts) :
    ((articles R rows).countP fun articleId => stripsAs R rows verdict articleId) =
        ((articles R rows).countP fun articleId => decaysAs R rows verdict articleId) ↔
      (contested R rows).countP (fun articleId => stripsAs R rows verdict articleId) =
        (contested R rows).countP fun articleId => decaysAs R rows verdict articleId := by
  have plain : ((articles R rows).filter fun articleId => Plain R rows articleId).countP
        (fun articleId => stripsAs R rows verdict articleId) =
      ((articles R rows).filter fun articleId => Plain R rows articleId).countP
        fun articleId => decaysAs R rows verdict articleId := by
    apply List.countP_congr
    intro articleId h
    rw [decide_eq_true_iff, decide_eq_true_iff]
    exact stripsAs_iff_decaysAs (of_decide_eq_true (List.mem_filter.1 h).2) dead
  have parts : ∀ p : ℤ → Bool, (articles R rows).countP p =
      ((articles R rows).filter fun articleId => Plain R rows articleId).countP p +
        (contested R rows).countP p := by
    intro p
    unfold contested
    rw [List.countP_eq_countP_filter_add _ p fun articleId => Plain R rows articleId]
    simp only [decide_not]
  rw [parts, parts, plain]
  omega

/-- The sum of a verdict is its count by article just where the contested articles are even. -/
theorem sums_iff (ids : (rows.map RecheckRow.id).Nodup) (placed : ∀ row ∈ rows, Placed R row)
    (perm : rows'.Perm rows) (legible : Legible R rows) {table : List (Value × ℕ)}
    (decayed : deriveDecayCounts R rows = .ok table) {out : List StripBucket}
    (stripped : countStrips [] ((entries R rows').foldl
      (fun latest fresh => keepNewer Stripped.link stripNewer fresh latest) []) = .ok out)
    (once : ∀ articleId, ∀ a ∈ deadCells R rows articleId, ∀ b ∈ deadCells R rows articleId, a = b)
    {verdict : Value} (dead : verdict ∈ stripVerdicts) :
    table.lookup verdict = some (out.map (StripBucket.count verdict)).sum ↔
      (contested R rows).countP (fun articleId => stripsAs R rows verdict articleId) =
        (contested R rows).countP fun articleId => decaysAs R rows verdict articleId := by
  have decays := decayLatest_legible placed legible
  have empty : (([] : List StripBucket).map StripBucket.platform).Nodup := List.nodup_nil
  unfold deriveDecayCounts at decayed
  rw [decays] at decayed
  rw [← Except.ok.inj decayed, lookup_counts dead, Option.some.injEq,
    countStrips_sum dead empty stripped, decayCount_eq placed decays,
    stripCount_eq ids perm once dead, ← counts_iff_even dead]
  change _ = 0 + _ ↔ _
  rw [Nat.zero_add]
  exact eq_comm

/-- What the two readers make of rows that can be read. -/
theorem same_story_legible (ids : (rows.map RecheckRow.id).Nodup)
    (placed : ∀ row ∈ rows, Placed R row) (perm : rows'.Perm rows) (legible : Legible R rows) :
    SameStory R rows rows' ↔ Balanced R rows := by
  let held := (entries R rows').foldl
    (fun latest fresh => keepNewer Stripped.link stripNewer fresh latest) []
  have mem : ∀ entry, entry ∈ held ↔ Newest R rows entry := fun _ => mem_stripLatest ids perm
  have strips : stripLatest R rows' = .ok held :=
    stripLatest_legible (fun row h => placed row (perm.mem_iff.1 h))
      fun row h => legible row (perm.mem_iff.1 h)
  have derived : deriveStripCountsByPlatform R rows' = countStrips [] held := by
    unfold deriveStripCountsByPlatform
    rw [strips]
    rfl
  have decays := decayLatest_legible placed legible
  have ⟨table, decayed⟩ : ∃ table, deriveDecayCounts R rows = .ok table := by
    unfold deriveDecayCounts
    rw [decays]
    exact ⟨_, rfl⟩
  constructor
  · intro story
    have ⟨out, stripped⟩ := story.returns.1 ⟨table, decayed⟩
    have equal := story.sums table out decayed stripped
    rw [derived] at stripped
    have once : ∀ articleId, ∀ a ∈ deadCells R rows articleId,
        ∀ b ∈ deadCells R rows articleId, a = b := by
      intro articleId a ha b hb
      have ⟨own, dead, newest⟩ := mem_deadCells.1 ha
      have ⟨own', dead', newest'⟩ := mem_deadCells.1 hb
      exact story.once held strips a ((mem a).2 newest) b ((mem b).2 newest') dead dead'
        (own.trans own'.symm)
    refine ⟨fun entry newest dead => ?_, fun articleId _ => once articleId,
      fun verdict dead => ?_⟩
    · exact (countStrips_isOk [] held).1 ⟨out, stripped⟩ entry ((mem entry).2 newest) dead
    · have even := sums_iff ids placed perm legible decayed stripped once dead
      exact even.1 (equal verdict dead)
  · intro balanced
    have ⟨out, stripped⟩ := (countStrips_isOk [] held).2 fun entry h dead =>
      balanced.platforms entry ((mem entry).1 h) dead
    have once : ∀ articleId, ∀ a ∈ deadCells R rows articleId,
        ∀ b ∈ deadCells R rows articleId, a = b := by
      intro articleId a ha b hb
      by_cases plain : Plain R rows articleId
      · exact one_cell_of_plain plain ha hb
      · exact balanced.once articleId plain a ha b hb
    refine ⟨iff_of_true ⟨table, decayed⟩ ⟨out, derived.trans stripped⟩, ?_, ?_⟩
    · intro table' out' decayed' stripped' verdict dead
      rw [derived] at stripped'
      rw [decayed] at decayed'
      rw [← Except.ok.inj decayed']
      have even := sums_iff ids placed perm legible decayed stripped' once dead
      exact even.2 (balanced.even verdict dead)
    · intro latest made a ha b hb dead dead' same
      rw [strips] at made
      rw [← Except.ok.inj made] at ha hb
      exact once a.articleId a (mem_deadCells.2 ⟨rfl, dead, (mem a).1 ha⟩) b
        (mem_deadCells.2 ⟨same.symm, dead', (mem b).1 hb⟩)

/-- The two counts tell the same story of rows that can be read if and only if the contested
articles are balanced. -/
theorem same_story_iff (R : Readers) {rows rows' : List RecheckRow}
    (ids : (rows.map RecheckRow.id).Nodup) (placed : ∀ row ∈ rows, Placed R row)
    (perm : rows'.Perm rows) :
    SameStory R rows rows' ↔ (Legible R rows → Balanced R rows) := by
  by_cases legible : Legible R rows
  · rw [imp_iff_right legible]
    exact same_story_legible ids placed perm legible
  · have strips : ∀ latest, stripLatest R rows' ≠ .ok latest := by
      intro latest made
      have legible' := legible_of_stripLatest (fun row h => placed row (perm.mem_iff.1 h)) made
      exact legible fun row h => legible' row (perm.mem_iff.2 h)
    have decayed : ∀ table, deriveDecayCounts R rows ≠ .ok table := by
      intro table made
      unfold deriveDecayCounts at made
      cases latest : decayLatest R rows with
      | error error =>
        rw [latest] at made
        cases made
      | ok held => exact legible (legible_of_decayLatest placed latest)
    have derived : ∀ out, deriveStripCountsByPlatform R rows' ≠ .ok out := by
      intro out made
      unfold deriveStripCountsByPlatform at made
      cases latest : stripLatest R rows' with
      | error error =>
        rw [latest] at made
        cases made
      | ok held => exact strips held latest
    refine iff_of_true ⟨?_, ?_, ?_⟩ fun readable => absurd readable legible
    · exact iff_of_false (fun ⟨table, made⟩ => decayed table made)
        fun ⟨out, made⟩ => derived out made
    · exact fun table _ made => absurd made (decayed table)
    · exact fun latest made => absurd made (strips latest)

end Entries

/-! ## An article under two targets -/

/-- Payloads that are a verdict, read by its name, and times that are none. -/
def namedVerdicts : Readers where
  loads text := .object [("verdict", .text text)]
  loadsTargets _ := .blank
  fromIso _ := none
  unicode := UrlSplit.asciiData

def recheck (id : ℕ) (targetUrl verdict : String) : RecheckRow where
  id := id
  tsUtc := ""
  articleId := some 1
  targetUrl := some targetUrl
  payloadJson := verdict

def oneTarget : List RecheckRow := [recheck 1 "https://a.example/" "link_stripped"]

def twoTargets : List RecheckRow :=
  [recheck 1 "https://a.example/" "link_stripped", recheck 2 "https://b.example/" "host_gone"]

theorem placed_rechecks : (∀ row ∈ oneTarget, Placed namedVerdicts row) ∧
    ∀ row ∈ twoTargets, Placed namedVerdicts row := by
  unfold Placed
  decide +kernel

theorem same_story_one_target : SameStory namedVerdicts oneTarget oneTarget := by
  apply (same_story_iff namedVerdicts (by decide) placed_rechecks.1 (List.Perm.refl _)).2
  intro _
  have one : ∀ a ∈ entries namedVerdicts oneTarget, isCompound a.platform = false ∧
      ∀ b ∈ entries namedVerdicts oneTarget, a = b := by decide +kernel
  refine ⟨fun entry newest _ => (one entry newest.1).1, fun _ _ a ha b hb => ?_, ?_⟩
  · exact (one a (List.mem_filter.1 ha).1).2 b (List.mem_filter.1 hb).1
  · decide +kernel

/-- The article counts once in the one and twice in the other. -/
theorem two_targets_two_stories :
    ¬ ∀ (R : Readers) (rows rows' : List RecheckRow), (rows.map RecheckRow.id).Nodup →
      (∀ row ∈ rows, Placed R row) → rows'.Perm rows → SameStory R rows rows' := by
  intro stories
  have story := stories namedVerdicts twoTargets twoTargets (by decide) placed_rechecks.2
    (List.Perm.refl _)
  have none_ : (deriveDecayCounts namedVerdicts twoTargets).toOption.bind
      (fun counts => counts.lookup hostGone) = some 0 := by decide +kernel
  have one : (deriveStripCountsByPlatform namedVerdicts twoTargets).toOption.map
      (fun out => (out.map (StripBucket.count hostGone)).sum) = some 1 := by decide +kernel
  cases decayed : deriveDecayCounts namedVerdicts twoTargets with
  | error error =>
    rw [decayed] at none_
    cases none_
  | ok counts =>
    cases stripped : deriveStripCountsByPlatform namedVerdicts twoTargets with
    | error error =>
      rw [stripped] at one
      cases one
    | ok out =>
      have same := story.sums counts out decayed stripped hostGone (by decide)
      rw [stripped] at one
      rw [decayed] at none_
      change some (out.map (StripBucket.count hostGone)).sum = some 1 at one
      change counts.lookup hostGone = some 0 at none_
      rw [none_, Option.some.inj one] at same
      cases same

end BacklinkPublisher.StripAgreement
