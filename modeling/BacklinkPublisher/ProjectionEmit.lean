import BacklinkPublisher.ProjectionHelpers

set_option autoImplicit false

/-!
# The confirmed rows of history and drafts

The two emitters of `events/_project_emit.py`: one event and one article for each
URL of the row that no article has yet.
-/
namespace BacklinkPublisher.ProjectionEmit
open EventStore OptionFolds ProjectionHelpers

/-- `article_payload` with the arguments that both emitters give. -/
def articlePayload (liveUrl : String) (targetUrl : Value) (host : Option String) (lang : Value)
    (published : Option String × Option String) : ArticleColumns where
  targetUrls := if targetUrl.truthy then [targetUrl] else []
  host := host
  liveUrl := some liveUrl
  lang := nonEmptyText lang
  publishedAtRaw := published.1
  publishedAtUtc := published.2

/-- What an emitter is given of a row. `articleUrls` is `none` where it is not a
list, `rest` is the payload besides `live_url`, and `reportsKnown` says whether a
URL that has an article gets an event that says so. -/
structure ConfirmedRow where
  articleUrls : Option (List Value)
  rest : Payload
  targetUrl : Value
  host : Option String
  language : Value
  ts : Option String × Option String
  reportsKnown : Bool

/-- What an emitter has done so far; the counts are its return value. -/
structure Emission where
  tx : Tx
  events : ℕ := 0
  articles : ℕ := 0
  skipped : ℕ := 0

def ConfirmedRow.payload (row : ConfirmedRow) (liveUrl : Value) : Payload :=
  ("live_url", liveUrl) :: row.rest

/-- The body of the loop over `article_urls`. -/
def emitConfirmedUrl (lib : Helpers) (row : ConfirmedRow) (e : Emission) (url : Value) :
    Option Emission :=
  match nonEmptyText url with
  | none => some e
  | some liveUrl => do
    let host ← lib.hostOf url
    let canonical ← lib.canonicalizeUrl liveUrl
    match e.tx.addArticle (articlePayload canonical row.targetUrl host row.language row.ts) with
    | .error .binding => none
    | .error .integrity =>
      if row.reportsKnown then
        (e.tx.append lib.clock .publishIntentDeduped (row.payload url) none row.targetUrl host none
          row.ts true).map fun tx => { e with tx := tx, skipped := e.skipped + 1 }
      else some { e with skipped := e.skipped + 1 }
    | .ok (articleId, tx) =>
      (tx.append lib.clock .publishConfirmed (row.payload url) none row.targetUrl host
        (some articleId) row.ts true).map fun tx =>
          { e with tx := tx, events := e.events + 1, articles := e.articles + 1 }

/-- Either emitter; the flag is `always_mark`. -/
def emitConfirmedRow (lib : Helpers) (row : ConfirmedRow) (tx : Tx) : Option (Emission × Bool) :=
  match row.articleUrls with
  | none | some [] =>
    (tx.append lib.clock .publishConfirmed (row.payload .null) none row.targetUrl row.host none
      row.ts true).map fun tx => ({ tx := tx, events := 1 }, true)
  | some urls => (urls.foldlM (emitConfirmedUrl lib row) { tx := tx }).map fun e => (e, false)

/-! ## What the loop does -/

/-- An entry of `article_urls` that stands for this article URL. -/
def Canonical (lib : Helpers) (url : Value) (liveUrl : String) : Prop :=
  ∃ s, nonEmptyText url = some s ∧ lib.canonicalizeUrl s = some liveUrl

def HasLink (articles : List Article) (liveUrl : String) : Prop :=
  ∃ article ∈ articles, article.columns.liveUrl = some liveUrl

section Loop
variable {lib : Helpers} {row : ConfirmedRow} {e e' : Emission} {url : Value}

theorem payload_complete {kind : EventKind}
    (hkind : kind = .publishConfirmed ∨ kind = .publishIntentDeduped) :
    missingRequiredFields kind (row.payload url) = [] := by
  rcases hkind with rfl | rfl <;>
    simp [missingRequiredFields, EventKind.requiredFields, ConfirmedRow.payload]

/-- What the loop does to the tables for a URL that stands for `liveUrl`. -/
inductive UrlEffect (row : ConfirmedRow) (liveUrl : String) (tx tx' : Tx) : Prop where
  | known (has : HasLink tx.articles liveUrl) (articles : tx'.articles = tx.articles)
      (grows : tx.events <+: tx'.events)
      (silent : row.reportsKnown = false → tx'.tables = tx.tables)
  | new (lacks : ¬ HasLink tx.articles liveUrl) (article : Article)
      (own : article.columns.liveUrl = some liveUrl)
      (articles : tx'.articles = tx.articles ++ [article]) (grows : tx.events <+: tx'.events)

theorem emitConfirmedUrl_unusable (hurl : nonEmptyText url = none) :
    emitConfirmedUrl lib row e url = some e := by
  simp [emitConfirmedUrl, hurl]

theorem emitConfirmedUrl_effect {s : String} (hurl : nonEmptyText url = some s)
    (h : emitConfirmedUrl lib row e url = some e') :
    e'.events + e'.skipped = e.events + e.skipped + 1 ∧
      ∃ liveUrl, lib.canonicalizeUrl s = some liveUrl ∧ UrlEffect row liveUrl e.tx e'.tx := by
  simp only [emitConfirmedUrl, hurl, Option.bind_eq_bind, Option.bind_eq_some_iff] at h
  obtain ⟨host, -, liveUrl, hcanonical, h⟩ := h
  split at h
  · contradiction
  · rename_i hknown
    obtain ⟨-, url', hsame, article, hmem, hlive⟩ := Tx.addArticle_integrity.1 hknown
    obtain rfl : liveUrl = url' := by simpa [articlePayload] using hsame
    have has : HasLink e.tx.articles liveUrl := ⟨article, hmem, hlive⟩
    split at h
    · rename_i reports
      obtain ⟨tx, happend, rfl⟩ := Option.map_eq_some_iff.1 h
      obtain ⟨_, _, rfl⟩ := Tx.append_some (payload_complete (.inr rfl)) happend
      exact ⟨by simp; omega, liveUrl, hcanonical,
        .known has rfl (List.prefix_append _ _) (by simp [reports])⟩
    · obtain rfl := Option.some.inj h
      exact ⟨by simp; omega, liveUrl, hcanonical, .known has rfl List.prefix_rfl fun _ => rfl⟩
  · rename_i harticle
    have lacks : ¬ HasLink e.tx.articles liveUrl := by
      rintro ⟨article, hmem, hlive⟩
      have conflict : e.tx.addArticle
          (articlePayload liveUrl row.targetUrl host row.language row.ts) = .error .integrity :=
        Tx.addArticle_integrity.2 ⟨rfl, liveUrl, rfl, article, hmem, hlive⟩
      simp [conflict] at harticle
    obtain rfl := Tx.addArticle_ok harticle
    obtain ⟨tx, happend, rfl⟩ := Option.map_eq_some_iff.1 h
    obtain ⟨_, _, rfl⟩ := Tx.append_some (payload_complete (.inl rfl)) happend
    exact ⟨by simp; omega, liveUrl, hcanonical,
      .new lacks _ rfl rfl (List.prefix_append _ _)⟩

theorem UrlEffect.extends {liveUrl : String} {tx tx' : Tx} (h : UrlEffect row liveUrl tx tx') :
    Extends tx.tables tx'.tables := by
  cases h with
  | known has articles grows silent => exact ⟨grows, by simp [Tx.tables, articles]⟩
  | new lacks article own articles grows => exact ⟨grows, by simp [Tx.tables, articles]⟩

theorem emitConfirmedUrl_extends (h : emitConfirmedUrl lib row e url = some e') :
    Extends e.tx.tables e'.tx.tables := by
  cases hurl : nonEmptyText url with
  | none =>
    obtain rfl : e = e' := by simpa [emitConfirmedUrl_unusable hurl] using h
    exact Extends.refl _
  | some s =>
    obtain ⟨-, _, -, effect⟩ := emitConfirmedUrl_effect hurl h
    exact effect.extends

theorem emitConfirmedUrl_links (h : emitConfirmedUrl lib row e url = some e') (liveUrl : String) :
    HasLink e'.tx.articles liveUrl ↔ HasLink e.tx.articles liveUrl ∨ Canonical lib url liveUrl := by
  cases hurl : nonEmptyText url with
  | none =>
    obtain rfl : e = e' := by simpa [emitConfirmedUrl_unusable hurl] using h
    simp [Canonical, hurl]
  | some s =>
    obtain ⟨-, own, hcanonical, effect⟩ := emitConfirmedUrl_effect hurl h
    have canonical : Canonical lib url liveUrl ↔ own = liveUrl := by
      simp [Canonical, hurl, hcanonical]
    rw [canonical]
    cases effect with
    | known has articles grows silent =>
      rw [articles]
      exact ⟨.inl, fun h => h.elim id fun same => same ▸ has⟩
    | new lacks article hown articles grows =>
      simp [HasLink, articles, hown, or_and_right, exists_or]

/-- Where known URLs are passed over in silence, exactly they leave the tables as they are. -/
theorem emitConfirmedUrl_quiet (quiet : row.reportsKnown = false)
    (h : emitConfirmedUrl lib row e url = some e') :
    e'.tx.tables = e.tx.tables ↔
      ∀ liveUrl, Canonical lib url liveUrl → HasLink e.tx.articles liveUrl := by
  cases hurl : nonEmptyText url with
  | none =>
    obtain rfl : e = e' := by simpa [emitConfirmedUrl_unusable hurl] using h
    simp [Canonical, hurl]
  | some s =>
    obtain ⟨-, own, hcanonical, effect⟩ := emitConfirmedUrl_effect hurl h
    have canonical : (∀ liveUrl, Canonical lib url liveUrl → HasLink e.tx.articles liveUrl) ↔
        HasLink e.tx.articles own := by
      simp [Canonical, hurl, hcanonical]
    rw [canonical]
    cases effect with
    | known has articles grows silent => exact iff_of_true (silent quiet) has
    | new lacks article hown articles grows =>
      refine iff_of_false (fun same => ?_) lacks
      have longer := congrArg (fun tables : List Event × List Article => tables.2.length) same
      simp [Tx.tables, articles] at longer

/-! ## Whole rows -/

variable {urls : List Value}

theorem emitConfirmedUrls_extends (h : urls.foldlM (emitConfirmedUrl lib row) e = some e') :
    Extends e.tx.tables e'.tx.tables :=
  foldlM_relates (R := fun e e' : Emission => Extends e.tx.tables e'.tx.tables) h
    (fun _ => Extends.refl _) (fun _ _ _ => Extends.trans) fun _ _ _ => emitConfirmedUrl_extends

theorem emitConfirmedUrls_links (h : urls.foldlM (emitConfirmedUrl lib row) e = some e')
    (liveUrl : String) :
    HasLink e'.tx.articles liveUrl ↔
      HasLink e.tx.articles liveUrl ∨ ∃ url ∈ urls, Canonical lib url liveUrl :=
  foldlM_exists (P := fun e : Emission => HasLink e.tx.articles liveUrl) h
    fun _ _ _ hstep => emitConfirmedUrl_links hstep liveUrl

theorem emitConfirmedUrls_quiet (quiet : row.reportsKnown = false)
    (h : urls.foldlM (emitConfirmedUrl lib row) e = some e') :
    e'.tx.tables = e.tx.tables ↔
      ∀ url ∈ urls, ∀ liveUrl, Canonical lib url liveUrl → HasLink e.tx.articles liveUrl := by
  refine foldlM_unchanged_iff (π := fun e : Emission => e.tx.tables)
    (I := fun now => now.tx.tables = e.tx.tables) (R := Extends) h rfl (fun _ _ _ => Extends.trans)
    Extends.refl (fun _ _ => Extends.antisymm) (fun _ _ _ => emitConfirmedUrl_extends)
    (fun now url next same hstep known => ?_) (fun now url next same hstep new => ?_)
  · have articles : now.tx.articles = e.tx.articles := congrArg Prod.snd same
    have unchanged := (emitConfirmedUrl_quiet quiet hstep).2 (by rwa [articles])
    exact ⟨unchanged.trans same, unchanged⟩
  · have articles : now.tx.articles = e.tx.articles := congrArg Prod.snd same
    rw [ne_eq, emitConfirmedUrl_quiet quiet hstep, articles]
    exact new

theorem unusable_of_no_count (h : urls.foldlM (emitConfirmedUrl lib row) e = some e')
    (none_counted : e'.events + e'.skipped = e.events + e.skipped) :
    ∀ url ∈ urls, nonEmptyText url = none := by
  have step (e e' : Emission) (url : Value) (h : emitConfirmedUrl lib row e url = some e') :
      e.events + e.skipped ≤ e'.events + e'.skipped := by
    cases hurl : nonEmptyText url with
    | none =>
      obtain rfl : e = e' := by simpa [emitConfirmedUrl_unusable hurl] using h
      exact Nat.le_refl _
    | some s => exact (emitConfirmedUrl_effect hurl h).1.symm ▸ Nat.le_succ _
  have loop {urls : List Value} {e e' : Emission}
      (h : urls.foldlM (emitConfirmedUrl lib row) e = some e') :
      e.events + e.skipped ≤ e'.events + e'.skipped :=
    foldlM_relates (R := fun e e' : Emission => e.events + e.skipped ≤ e'.events + e'.skipped) h
      (fun _ => Nat.le_refl _) (fun _ _ _ => Nat.le_trans) fun _ _ _ => step _ _ _
  intro url hmem
  obtain ⟨before, rest, u, v, -, hbefore, hurl, hrest⟩ := foldlM_step_of_mem h hmem
  by_contra usable
  obtain ⟨s, hs⟩ := Option.ne_none_iff_exists'.1 usable
  have counted := (emitConfirmedUrl_effect hs hurl).1
  have first := loop hbefore
  have last := loop hrest
  omega

theorem emitConfirmedUrls_unusable (h : ∀ url ∈ urls, nonEmptyText url = none) :
    urls.foldlM (emitConfirmedUrl lib row) e = some e := by
  induction urls with
  | nil => rfl
  | cons url urls ih =>
    rw [foldlM_cons_some]
    exact ⟨e, emitConfirmedUrl_unusable (h url (by simp)),
      ih fun other hother => h other (by simp [hother])⟩

end Loop

end BacklinkPublisher.ProjectionEmit
