import BacklinkPublisher.ProjectionEmit

set_option autoImplicit false

/-!
# The drafts reducer

`_project_drafts` of `events/_project_reducers.py`. Its cursor is the last status of
each draft.
-/
namespace BacklinkPublisher.DraftsProjection
open EventStore OptionFolds ProjectionHelpers ProjectionEmit

structure DraftRow where
  id : Value
  status : Value
  targetUrl : Value := .null
  publishedAt : Value := .null
  articleUrls : Option (List Value) := none
  language : Value := .null
  deriving DecidableEq, Repr

abbrev StatusCursor := String → Option String

structure DraftsReduction where
  tx : Tx
  next : StatusCursor := fun _ => none
  result : ProjectionResult := {}

/-- `split_local_naive` of a `published_at` that is text; text it does not parse is kept. -/
def publishedTimestamps (lib : Helpers) (publishedAt : Value) : Option String × Option String :=
  match nonEmptyText publishedAt with
  | none => (none, none)
  | some s =>
    match lib.splitLocalNaive s with
    | some (raw, utc) => (some raw, some utc)
    | none => (some s, none)

/-- `_emit_drafts_confirmed`, which has no use for the mark. -/
def emitDraftsConfirmed (lib : Helpers) (draftId : String) (row : DraftRow) (host : Option String)
    (ts : Option String × Option String) (tx : Tx) : Option Emission :=
  (emitConfirmedRow lib {
    articleUrls := row.articleUrls
    rest := [("draft_id", .text draftId)]
    targetUrl := row.targetUrl
    host := host
    language := row.language
    ts := ts
    reportsKnown := false } tx).map Prod.fst

/-- The event of a draft that is scheduled or created; its time is the clock's. -/
def appendDraftEvent (lib : Helpers) (kind : EventKind) (draftId : String) (row : DraftRow)
    (host : Option String) (r : DraftsReduction) : Option DraftsReduction :=
  (r.tx.append lib.clock kind [("draft_id", .text draftId)] none row.targetUrl host none
    (none, none) true).map fun tx =>
      { r with
        tx := tx
        result := { r.result with eventsInserted := r.result.eventsInserted + 1 } }

def considered (entry : Option DraftRow) : Option (String × String) :=
  entry.bind fun row =>
    match row.id, row.status with
    | .text id, .text status => some (id, status)
    | _, _ => none

/-- The handlers of a draft whose status is not the one that the cursor has. -/
def projectChangedDraft (lib : Helpers) (id status : String) (row : DraftRow)
    (prior : Option String) (r : DraftsReduction) : Option DraftsReduction := do
  let r := { r with
    result := { r.result with recordsConsidered := r.result.recordsConsidered + 1 } }
  let host ← hostOfText lib row.targetUrl
  match classify .drafts status with
  | .kind .publishConfirmed =>
    (emitDraftsConfirmed lib id row host (publishedTimestamps lib row.publishedAt) r.tx).map
      fun e =>
        { r with
          tx := e.tx
          result := { r.result with
            eventsInserted := r.result.eventsInserted + e.events
            articlesInserted := r.result.articlesInserted + e.articles
            skippedDueToDedup := r.result.skippedDueToDedup + e.skipped } }
  | .kind .draftScheduled =>
    if prior = some "scheduled" then some r
    else appendDraftEvent lib .draftScheduled id row host r
  | .kind .draftCreated =>
    if prior.isSome then some r
    else appendDraftEvent lib .draftCreated id row host r
  | _ => some r

/-- The body of the loop of `_project_drafts`. -/
def projectDraftRow (lib : Helpers) (prior : StatusCursor) (r : DraftsReduction)
    (entry : Option DraftRow) : Option DraftsReduction :=
  match entry with
  | none => some r
  | some row =>
    match considered entry with
    | none => some r
    | some (id, status) =>
      let r := { r with next := Function.update r.next id (some status) }
      if prior id = some status then some r
      else projectChangedDraft lib id status row (prior id) r

def projectDrafts (lib : Helpers) (rows : List (Option DraftRow))
    (store : ProjectedStore StatusCursor) : Option (Flushed StatusCursor) :=
  (rows.foldlM (projectDraftRow lib store.cursor) { tx := store.begin }).map fun r =>
    finish r.tx r.next r.result

/-! ## What one row does -/

def DraftRow.Names (lib : Helpers) (row : DraftRow) (liveUrl : String) : Prop :=
  ∃ urls, row.articleUrls = some urls ∧ ∃ url ∈ urls, Canonical lib url liveUrl

/-- A changed draft that leaves the tables as they are. -/
structure Quiet (lib : Helpers) (articles : List Article) (prior : Option String) (status : String)
    (row : DraftRow) : Prop where
  unscheduled : status ≠ "scheduled"
  known : status = "drafted" → prior.isSome
  listed : status = "published" → ∃ urls, row.articleUrls = some urls ∧ urls ≠ []
  recorded : status = "published" → ∀ liveUrl, row.Names lib liveUrl → HasLink articles liveUrl

structure ChangeEffect (lib : Helpers) (row : DraftRow) (prior : Option String) (status : String)
    (r r' : DraftsReduction) : Prop where
  next : r'.next = r.next
  grows : Extends r.tx.tables r'.tx.tables
  quiet : r'.tx.tables = r.tx.tables ↔ Quiet lib r.tx.articles prior status row
  links : ∀ liveUrl, HasLink r'.tx.articles liveUrl ↔
    HasLink r.tx.articles liveUrl ∨ status = "published" ∧ row.Names lib liveUrl

section Rows
variable {lib : Helpers} {row : DraftRow} {host : Option String} {id status : String}
  {ts : Option String × Option String} {prior : Option String} {r r' : DraftsReduction}

theorem emitDraftsConfirmed_effect {tx : Tx} {e : Emission}
    (h : emitDraftsConfirmed lib id row host ts tx = some e) :
    Extends tx.tables e.tx.tables ∧
      (e.tx.tables = tx.tables ↔ (∃ urls, row.articleUrls = some urls ∧ urls ≠ []) ∧
        ∀ liveUrl, row.Names lib liveUrl → HasLink tx.articles liveUrl) ∧
      ∀ liveUrl, HasLink e.tx.articles liveUrl ↔
        HasLink tx.articles liveUrl ∨ row.Names lib liveUrl := by
  obtain ⟨⟨_, alwaysMark⟩, hemit, rfl⟩ := Option.map_eq_some_iff.1 h
  have unlisted (hurls : row.articleUrls = none ∨ row.articleUrls = some []) :
      ¬ (∃ urls, row.articleUrls = some urls ∧ urls ≠ []) ∧ ∀ liveUrl, ¬ row.Names lib liveUrl := by
    rcases hurls with hurls | hurls <;> simp [DraftRow.Names, hurls]
  have one_event (hurls : row.articleUrls = none ∨ row.articleUrls = some [])
      {event : Event} {tx' : Tx} (htx : tx' = { tx with events := tx.events ++ [event] }) :
      Extends tx.tables tx'.tables ∧
        (tx'.tables = tx.tables ↔ (∃ urls, row.articleUrls = some urls ∧ urls ≠ []) ∧
          ∀ liveUrl, row.Names lib liveUrl → HasLink tx.articles liveUrl) ∧
        ∀ liveUrl, HasLink tx'.articles liveUrl ↔
          HasLink tx.articles liveUrl ∨ row.Names lib liveUrl := by
    obtain ⟨unlisted, unnamed⟩ := unlisted hurls
    subst htx
    exact ⟨⟨List.prefix_append _ _, List.prefix_rfl⟩,
      iff_of_false (by simp [Tx.tables]) fun h => unlisted h.1, fun liveUrl => by simp [unnamed]⟩
  unfold emitConfirmedRow at hemit
  split at hemit
  · rename_i hurls
    obtain ⟨tx', happend, heq⟩ := Option.map_eq_some_iff.1 hemit
    obtain ⟨rfl, -⟩ := Prod.mk.inj heq
    obtain ⟨_, _, htx⟩ := Tx.append_some (payload_complete (.inl rfl)) happend
    exact one_event (.inl hurls) htx
  · rename_i hurls
    obtain ⟨tx', happend, heq⟩ := Option.map_eq_some_iff.1 hemit
    obtain ⟨rfl, -⟩ := Prod.mk.inj heq
    obtain ⟨_, _, htx⟩ := Tx.append_some (payload_complete (.inl rfl)) happend
    exact one_event (.inr hurls) htx
  · rename_i urls hempty hurls
    replace hurls : row.articleUrls = some urls := hurls
    obtain ⟨_, hloop, heq⟩ := Option.map_eq_some_iff.1 hemit
    obtain ⟨rfl, -⟩ := Prod.mk.inj heq
    have names (liveUrl : String) :
        row.Names lib liveUrl ↔ ∃ url ∈ urls, Canonical lib url liveUrl := by
      simp [DraftRow.Names, hurls]
    have listed : ∃ urls, row.articleUrls = some urls ∧ urls ≠ [] := ⟨urls, hurls, hempty⟩
    refine ⟨emitConfirmedUrls_extends hloop, ?_, fun liveUrl => ?_⟩
    · rw [emitConfirmedUrls_quiet rfl hloop, and_iff_right listed]
      constructor
      · rintro known liveUrl named
        obtain ⟨url, hmem, hcanonical⟩ := (names liveUrl).1 named
        exact known url hmem liveUrl hcanonical
      · exact fun known url hmem liveUrl hcanonical =>
          known liveUrl ((names liveUrl).2 ⟨url, hmem, hcanonical⟩)
    · rw [names]
      exact emitConfirmedUrls_links hloop liveUrl

theorem appendDraftEvent_effect {kind : EventKind}
    (hkind : kind = .draftScheduled ∨ kind = .draftCreated)
    (h : appendDraftEvent lib kind id row host r = some r') :
    ∃ event, r'.tx.tables = (r.tx.events ++ [event], r.tx.articles) ∧ r'.next = r.next := by
  obtain ⟨tx, happend, rfl⟩ := Option.map_eq_some_iff.1 h
  have floor : missingRequiredFields kind [("draft_id", .text id)] = [] := by
    rcases hkind with rfl | rfl <;> rfl
  obtain ⟨_, _, rfl⟩ := Tx.append_some floor happend
  exact ⟨_, rfl, rfl⟩

theorem ChangeEffect.of_event {event : Event} (hpublished : status ≠ "published")
    (noisy : ¬ Quiet lib r.tx.articles prior status row)
    (htx : r'.tx.tables = (r.tx.events ++ [event], r.tx.articles)) (hnext : r'.next = r.next) :
    ChangeEffect lib row prior status r r' where
  next := hnext
  grows := by rw [htx]; exact ⟨List.prefix_append _ _, List.prefix_rfl⟩
  quiet := iff_of_false (by rw [htx]; simp [Tx.tables]) noisy
  links liveUrl := by
    have articles : r'.tx.articles = r.tx.articles := congrArg Prod.snd htx
    simp [articles, hpublished]

theorem ChangeEffect.of_same (hpublished : status ≠ "published")
    (quiet : Quiet lib r.tx.articles prior status row) (htx : r'.tx = r.tx)
    (hnext : r'.next = r.next) : ChangeEffect lib row prior status r r' where
  next := hnext
  grows := by rw [htx]; exact Extends.refl _
  quiet := iff_of_true (by rw [htx]) quiet
  links liveUrl := by simp [htx, hpublished]

theorem projectChangedDraft_effect (changed : prior ≠ some status)
    (h : projectChangedDraft lib id status row prior r = some r') :
    ChangeEffect lib row prior status r r' := by
  simp only [projectChangedDraft, Option.bind_eq_bind, Option.bind_eq_some_iff] at h
  obtain ⟨host, -, h⟩ := h
  by_cases hpublished : status = "published"
  · subst hpublished
    obtain ⟨e, hemit, rfl⟩ := Option.map_eq_some_iff.1 h
    obtain ⟨grows, same, links⟩ := emitDraftsConfirmed_effect hemit
    refine ⟨rfl, grows, same.trans ⟨fun ⟨listed, known⟩ => ?_, fun quiet => ?_⟩, by simpa using links⟩
    · exact ⟨by decide, by simp, fun _ => listed, fun _ => known⟩
    · exact ⟨quiet.listed rfl, quiet.recorded rfl⟩
  by_cases hscheduled : status = "scheduled"
  · subst hscheduled
    simp only [classify, changed, if_true, if_false] at h
    obtain ⟨event, htx, hnext⟩ := appendDraftEvent_effect (.inl rfl) h
    exact .of_event hpublished (fun quiet => quiet.unscheduled rfl) htx hnext
  by_cases hdrafted : status = "drafted"
  · subst hdrafted
    simp only [classify, hpublished, hscheduled, if_true, if_false] at h
    split at h
    · rename_i known
      obtain rfl := Option.some.inj h
      exact .of_same hpublished ⟨hscheduled, fun _ => known, by simp, by simp⟩ rfl rfl
    · rename_i new
      obtain ⟨event, htx, hnext⟩ := appendDraftEvent_effect (.inr rfl) h
      exact .of_event hpublished (fun quiet => new (quiet.known rfl)) htx hnext
  · simp only [classify, hpublished, hscheduled, hdrafted, if_false] at h
    obtain rfl := Option.some.inj h
    exact .of_same hpublished
      ⟨hscheduled, fun h => absurd h hdrafted, fun h => absurd h hpublished,
        fun h => absurd h hpublished⟩ rfl rfl

end Rows

/-! ## What a pass does -/

/-- The flush with this cursor records the article URL for the entry. -/
def Publishes (lib : Helpers) (prior : StatusCursor) (entry : Option DraftRow) (liveUrl : String) :
    Prop :=
  ∃ row id, entry = some row ∧ considered entry = some (id, "published") ∧
    prior id ≠ some "published" ∧ row.Names lib liveUrl

/-- The flush with this cursor does nothing for the entry while `articles` stand. -/
def QuietEntry (lib : Helpers) (prior : StatusCursor) (articles : List Article)
    (entry : Option DraftRow) : Prop :=
  ∀ row id status, entry = some row → considered entry = some (id, status) →
    prior id ≠ some status → Quiet lib articles (prior id) status row

structure RowEffect (lib : Helpers) (prior : StatusCursor) (entry : Option DraftRow)
    (r r' : DraftsReduction) : Prop where
  next : r'.next = note considered r.next entry
  grows : Extends r.tx.tables r'.tx.tables
  quiet : r'.tx.tables = r.tx.tables ↔ QuietEntry lib prior r.tx.articles entry
  links : ∀ liveUrl, HasLink r'.tx.articles liveUrl ↔
    HasLink r.tx.articles liveUrl ∨ Publishes lib prior entry liveUrl

section Passes
variable {lib : Helpers} {prior : StatusCursor} {r r' : DraftsReduction}

theorem RowEffect.of_same {entry : Option DraftRow}
    (hnext : r'.next = note considered r.next entry) (htx : r'.tx = r.tx)
    (same : ∀ id status, considered entry = some (id, status) → prior id = some status) :
    RowEffect lib prior entry r r' where
  next := hnext
  grows := by rw [htx]; exact Extends.refl _
  quiet := iff_of_true (by rw [htx])
    fun row id status _ hentry changed => absurd (same id status hentry) changed
  links liveUrl := by
    have silent : ¬ Publishes lib prior entry liveUrl := by
      rintro ⟨row, id, -, hentry, changed, -⟩
      exact changed (same id "published" hentry)
    simp [htx, silent]

theorem projectDraftRow_effect {entry : Option DraftRow}
    (h : projectDraftRow lib prior r entry = some r') : RowEffect lib prior entry r r' := by
  unfold projectDraftRow at h
  split at h
  · obtain rfl := Option.some.inj h
    exact .of_same rfl rfl fun id status hentry => by simp [considered] at hentry
  rename_i row
  split at h
  · rename_i ignored
    obtain rfl := Option.some.inj h
    exact .of_same (by simp [note, ignored]) rfl fun id status hentry => by simp [ignored] at hentry
  rename_i id status hentry
  have hnext : note considered r.next (some row) = Function.update r.next id (some status) := by
    simp [note, hentry]
  have unique {id' status' : String} (h : considered (some row) = some (id', status')) :
      id' = id ∧ status' = status := by
    obtain ⟨rfl, rfl⟩ := Prod.mk.inj (Option.some.inj (hentry.symm.trans h))
    exact ⟨rfl, rfl⟩
  simp only at h
  split at h
  · rename_i same
    obtain rfl := Option.some.inj h
    refine .of_same hnext.symm rfl fun id' status' hentry' => ?_
    obtain ⟨rfl, rfl⟩ := unique hentry'
    exact same
  · rename_i changed
    have effect := projectChangedDraft_effect changed h
    refine ⟨effect.next.trans hnext.symm, effect.grows, effect.quiet.trans ⟨?_, ?_⟩, fun liveUrl =>
      (effect.links liveUrl).trans (or_congr_right ⟨?_, ?_⟩)⟩
    · rintro quiet row' id' status' hrow hentry' -
      obtain rfl := Option.some.inj hrow
      obtain ⟨rfl, rfl⟩ := unique hentry'
      exact quiet
    · exact fun quiet => quiet row id status rfl hentry changed
    · rintro ⟨rfl, names⟩
      exact ⟨row, id, rfl, hentry, changed, names⟩
    · rintro ⟨row', id', hrow, hentry', -, names⟩
      obtain rfl := Option.some.inj hrow
      exact ⟨(unique hentry').2.symm, names⟩

variable {rows : List (Option DraftRow)}

theorem projectDraftRows_links (h : rows.foldlM (projectDraftRow lib prior) r = some r')
    (liveUrl : String) :
    HasLink r'.tx.articles liveUrl ↔
      HasLink r.tx.articles liveUrl ∨ ∃ entry ∈ rows, Publishes lib prior entry liveUrl :=
  foldlM_exists (P := fun r : DraftsReduction => HasLink r.tx.articles liveUrl) h
    fun _ _ _ hstep => (projectDraftRow_effect hstep).links liveUrl

theorem projectDraftRows_quiet (h : rows.foldlM (projectDraftRow lib prior) r = some r') :
    r'.tx.tables = r.tx.tables ↔ ∀ entry ∈ rows, QuietEntry lib prior r.tx.articles entry := by
  refine foldlM_unchanged_iff (π := fun r : DraftsReduction => r.tx.tables)
    (I := fun now => now.tx.tables = r.tx.tables) (R := Extends) h rfl (fun _ _ _ => Extends.trans)
    Extends.refl (fun _ _ => Extends.antisymm)
    (fun _ _ _ hstep => (projectDraftRow_effect hstep).grows)
    (fun now entry next same hstep quiet => ?_) (fun now entry next same hstep noisy => ?_)
  · have articles : now.tx.articles = r.tx.articles := congrArg Prod.snd same
    have unchanged := (projectDraftRow_effect hstep).quiet.2 (by rwa [articles])
    exact ⟨unchanged.trans same, unchanged⟩
  · have articles : now.tx.articles = r.tx.articles := congrArg Prod.snd same
    rw [ne_eq, (projectDraftRow_effect hstep).quiet, articles]
    exact noisy

end Passes

/-! ## Repeated flushes -/

/-- Every row that the next flush looks at again leaves nothing to record: it is not
scheduled, and if it is published it lists URLs that all have their article, from before
the first flush or through it. -/
def DraftsSettled (lib : Helpers) (rows : List (Option DraftRow))
    (store : ProjectedStore StatusCursor) : Prop :=
  ∀ row id status, some row ∈ rows → considered (some row) = some (id, status) →
    latest considered rows id ≠ some status →
    status ≠ "scheduled" ∧
      (status = "published" → (∃ urls, row.articleUrls = some urls ∧ urls ≠ []) ∧
        ∀ liveUrl, row.Names lib liveUrl → HasLink store.articles liveUrl ∨
          ∃ entry ∈ rows, Publishes lib store.cursor entry liveUrl)

theorem projectDrafts_repeated {lib : Helpers} {rows : List (Option DraftRow)}
    {store : ProjectedStore StatusCursor} {first second : Flushed StatusCursor}
    (h : projectDrafts lib rows store = some first)
    (h' : projectDrafts lib rows first.store = some second) :
    second.store.tables = first.store.tables ↔ DraftsSettled lib rows store := by
  obtain ⟨r, hpass, rfl⟩ := Option.map_eq_some_iff.1 h
  obtain ⟨r', hpass', rfl⟩ := Option.map_eq_some_iff.1 h'
  have cursor : r.next = latest considered rows :=
    foldlM_projects (π := DraftsReduction.next) hpass
      fun _ _ _ hstep => (projectDraftRow_effect hstep).next
  have quiet := projectDraftRows_quiet hpass'
  have links := projectDraftRows_links hpass
  refine quiet.trans ⟨fun quiet row id status hmem hentry hlast => ?_, fun settled => ?_⟩
  · have row_quiet := quiet _ hmem row id status rfl hentry (by simpa [finish, cursor] using hlast)
    exact ⟨row_quiet.unscheduled, fun published =>
      ⟨row_quiet.listed published, fun liveUrl names =>
        (links liveUrl).1 (row_quiet.recorded published liveUrl names)⟩⟩
  · rintro _ hmem row id status rfl hentry hlast
    replace hlast : latest considered rows id ≠ some status := by simpa [finish, cursor] using hlast
    obtain ⟨unscheduled, published⟩ := settled row id status hmem hentry hlast
    have known : (latest considered rows id).isSome := isSome_latest hmem hentry
    exact ⟨unscheduled, fun _ => by simpa [finish, cursor] using known,
      fun hstatus => (published hstatus).1,
      fun hstatus liveUrl names => (links liveUrl).2 ((published hstatus).2 liveUrl names)⟩

end BacklinkPublisher.DraftsProjection
