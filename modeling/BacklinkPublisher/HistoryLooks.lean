import BacklinkPublisher.HistoryProjection

set_option autoImplicit false

/-!
# What the history reducer does with one row

The part of an iteration that does not depend on the other rows of the flush, and the
iteration as a step on what it reads: the tables, the marked ids and the running count
of known URLs.
-/
namespace BacklinkPublisher.HistoryLooks
open EventStore OptionFolds ProjectionHelpers ProjectionEmit HistoryProjection

/-- What looking at a row leaves; `marks` is whether the row is marked whatever came
before it in the flush. -/
structure Look where
  tx : Tx
  marks : Bool
  skipped : ℕ

def lookAt (lib : Helpers) (row : HistoryRow) (tx : Tx) : Option Look := do
  let host ← hostOfText lib row.targetUrl
  let ts ← parseRowTimestamps lib row.createdAt
  match classify .history (row.status.asText.getD "") with
  | .kind .publishConfirmed =>
    (emitConfirmedHistoryRow lib row host ts tx).map fun (e, alwaysMark) =>
      ⟨e.tx, alwaysMark || e.events ≠ 0, e.skipped⟩
  | .kind .publishFailed =>
    (lib.scrubError row.error).bind fun (cleaned, hits) =>
      (tx.append lib.clock .publishFailed (failedPayload row cleaned hits) none row.targetUrl host
        none ts true).map fun tx => ⟨tx, true, 0⟩
  | _ => some ⟨tx, true, 0⟩

/-- What an iteration reads of the reduction. -/
structure Pass where
  tx : Tx
  seenIds : List String
  skipped : ℕ

def passOf (r : HistoryReduction) : Pass := ⟨r.tx, r.seenIds, r.result.skippedDueToDedup⟩

def entryId (entry : Option HistoryRow) : Option String := entry.bind fun row => nonEmptyText row.id

/-- After the look at a row with this id. -/
def Pass.after (p : Pass) (id : String) (look : Look) : Pass where
  tx := look.tx
  seenIds := if look.marks || p.skipped + look.skipped ≠ 0 then p.seenIds ++ [id] else p.seenIds
  skipped := p.skipped + look.skipped

def passRow (lib : Helpers) (p : Pass) (entry : Option HistoryRow) : Option Pass :=
  match entry with
  | none => some p
  | some row =>
    match nonEmptyText row.id with
    | none => some p
    | some id => if id ∈ p.seenIds then some p else (lookAt lib row p.tx).map (p.after id)

theorem projectHistoryRow_pass (lib : Helpers) (r : HistoryReduction) (entry : Option HistoryRow) :
    (projectHistoryRow lib r entry).map passOf = passRow lib (passOf r) entry := by
  unfold projectHistoryRow passRow
  cases entry with
  | none => rfl
  | some row =>
    dsimp only
    cases hid : nonEmptyText row.id with
    | none => rfl
    | some id =>
      dsimp only
      by_cases hseen : id ∈ r.seenIds
      · simp [hseen, passOf]
      simp only [hseen, if_false, passOf, lookAt]
      cases hostOfText lib row.targetUrl with
      | none => rfl
      | some host =>
        cases parseRowTimestamps lib row.createdAt with
        | none => rfl
        | some ts =>
          simp only [Option.bind_eq_bind, Option.bind_some]
          split
          · rename_i hclass
            simp [hclass, Option.map_map, Function.comp_def, passOf, Pass.after]
          · rename_i hclass
            cases lib.scrubError row.error with
            | none => simp [hclass]
            | some scrubbed => simp [hclass, Option.map_map, Function.comp_def, passOf, Pass.after]
          · simp [passOf, Pass.after]

/-! ## The events of a row -/

/-- How many events a look at the row leaves behind, whatever the tables hold. -/
def eventCount (row : HistoryRow) : ℕ :=
  match classify .history (row.status.asText.getD "") with
  | .kind .publishConfirmed =>
    match row.articleUrls with
    | none | some [] => 1
    | some urls => urls.countP fun url => (nonEmptyText url).isSome
  | .kind .publishFailed => 1
  | _ => 0

/-- A published row whose list has the URL. -/
def Lists (lib : Helpers) (row : HistoryRow) (live : String) : Prop :=
  row.status = .text "published" ∧
    ∃ urls, row.articleUrls = some urls ∧ ∃ url ∈ urls, Canonical lib url live

/-- A URL of the list is known when the loop comes to it: `linked` has it, or the list
has it further up. -/
def RepeatsIn (lib : Helpers) (linked : String → Prop) (urls : List Value) : Prop :=
  ∃ before url after live, urls = before ++ url :: after ∧ Canonical lib url live ∧
    (linked live ∨ ∃ other ∈ before, Canonical lib other live)

def Repeats (lib : Helpers) (linked : String → Prop) (row : HistoryRow) : Prop :=
  row.status = .text "published" ∧ ∃ urls, row.articleUrls = some urls ∧ RepeatsIn lib linked urls

section Loop
variable {lib : Helpers} {row : ConfirmedRow} {e e' : Emission} {url : Value} {urls : List Value}

theorem repeatsIn_cons {linked : String → Prop} :
    RepeatsIn lib linked (url :: urls) ↔
      (∃ live, Canonical lib url live ∧ linked live) ∨
        RepeatsIn lib (fun live => linked live ∨ Canonical lib url live) urls := by
  constructor
  · rintro ⟨before, found, after, live, hsplit, hfound, known⟩
    cases before with
    | nil =>
      obtain ⟨rfl, -⟩ := List.cons.inj hsplit
      refine .inl ⟨live, hfound, known.resolve_right ?_⟩
      rintro ⟨other, hother, -⟩
      exact List.not_mem_nil hother
    | cons first before =>
      obtain ⟨rfl, rfl⟩ := List.cons.inj hsplit
      refine .inr ⟨before, found, after, live, rfl, hfound, ?_⟩
      rcases known with known | ⟨other, hother, hcanonical⟩
      · exact .inl (.inl known)
      rcases List.mem_cons.1 hother with rfl | hother
      · exact .inl (.inr hcanonical)
      · exact .inr ⟨other, hother, hcanonical⟩
  · rintro (⟨live, hurl, known⟩ | ⟨before, found, after, live, rfl, hfound, known⟩)
    · exact ⟨[], url, urls, live, rfl, hurl, .inl known⟩
    · refine ⟨url :: before, found, after, live, rfl, hfound, ?_⟩
      rcases known with (known | hurl) | ⟨other, hother, hcanonical⟩
      · exact .inl known
      · exact .inr ⟨url, List.mem_cons_self, hurl⟩
      · exact .inr ⟨other, List.mem_cons_of_mem _ hother, hcanonical⟩

theorem repeatsIn_congr {linked linked' : String → Prop} (h : ∀ live, linked live ↔ linked' live) :
    RepeatsIn lib linked urls ↔ RepeatsIn lib linked' urls := by
  simp only [RepeatsIn, h]

/-- A usable URL leaves one event, and is counted as skipped where its article is known. -/
theorem emitConfirmedUrl_counts {s : String} (hurl : nonEmptyText url = some s)
    (h : emitConfirmedUrl lib row e url = some e') (reports : row.reportsKnown = true) :
    e'.tx.events.length = e.tx.events.length + 1 ∧ e'.tx.pending = e.tx.pending ∧
      e'.events + e'.skipped = e.events + e.skipped + 1 ∧
      e.skipped ≤ e'.skipped ∧
      (e'.skipped ≠ e.skipped ↔ ∃ live, Canonical lib url live ∧ HasLink e.tx.articles live) := by
  simp only [emitConfirmedUrl, hurl, Option.bind_eq_bind, Option.bind_eq_some_iff, reports,
    if_true] at h
  obtain ⟨host, -, live, hcanonical, h⟩ := h
  have only (other : String) : Canonical lib url other ↔ live = other := by
    simp [Canonical, hurl, hcanonical]
  split at h
  · contradiction
  · rename_i hknown
    obtain ⟨-, url', hsame, article, hmem, hlive⟩ := Tx.addArticle_integrity.1 hknown
    obtain rfl : live = url' := by simpa [articlePayload] using hsame
    obtain ⟨tx, happend, rfl⟩ := Option.map_eq_some_iff.1 h
    obtain ⟨_, _, rfl⟩ := Tx.append_some (payload_complete (.inr rfl)) happend
    refine ⟨by simp, rfl, by simp; omega, by simp, iff_of_true (by simp) ?_⟩
    exact ⟨live, (only live).2 rfl, article, hmem, hlive⟩
  · rename_i harticle
    have lacks : ¬ ∃ other, Canonical lib url other ∧ HasLink e.tx.articles other := by
      rintro ⟨other, hother, article, hmem, hlive⟩
      obtain rfl := (only other).1 hother
      have conflict : e.tx.addArticle
          (articlePayload live row.targetUrl host row.language row.ts) = .error .integrity :=
        Tx.addArticle_integrity.2 ⟨rfl, live, rfl, article, hmem, hlive⟩
      simp [conflict] at harticle
    obtain rfl := Tx.addArticle_ok harticle
    obtain ⟨tx, happend, rfl⟩ := Option.map_eq_some_iff.1 h
    obtain ⟨_, _, rfl⟩ := Tx.append_some (payload_complete (.inl rfl)) happend
    exact ⟨by simp, rfl, by simp; omega, by simp, iff_of_false (by simp) lacks⟩

/-- What the loop over the URLs of a row does to the tables and the counts. -/
structure LoopCounts (lib : Helpers) (e e' : Emission) (urls : List Value) : Prop where
  events : e'.tx.events.length =
    e.tx.events.length + urls.countP fun url => (nonEmptyText url).isSome
  pending : e'.tx.pending = e.tx.pending
  counted : e'.events + e'.skipped =
    e.events + e.skipped + urls.countP fun url => (nonEmptyText url).isSome
  grows : e.skipped ≤ e'.skipped
  skipped : e'.skipped ≠ e.skipped ↔ RepeatsIn lib (HasLink e.tx.articles) urls

theorem emitConfirmedUrls_counts (reports : row.reportsKnown = true)
    (h : urls.foldlM (emitConfirmedUrl lib row) e = some e') : LoopCounts lib e e' urls := by
  induction urls generalizing e with
  | nil =>
    obtain rfl : e = e' := by simpa using h
    refine ⟨rfl, rfl, rfl, Nat.le_refl _, iff_of_false (fun differs => differs rfl) ?_⟩
    rintro ⟨before, url, after, live, hsplit, -⟩
    simp at hsplit
  | cons url urls ih =>
    obtain ⟨now, hurl, hrest⟩ := foldlM_cons_some.1 h
    have rest := ih hrest
    have links := emitConfirmedUrl_links hurl
    have later : RepeatsIn lib (HasLink now.tx.articles) urls ↔
        RepeatsIn lib (fun live => HasLink e.tx.articles live ∨ Canonical lib url live) urls :=
      repeatsIn_congr links
    cases htext : nonEmptyText url with
    | none =>
      obtain rfl : e = now := by simpa [emitConfirmedUrl_unusable htext] using hurl
      have unusable : ¬ ∃ live, Canonical lib url live ∧ HasLink e.tx.articles live := by
        simp [Canonical, htext]
      refine ⟨?_, rest.pending, ?_, rest.grows, ?_⟩
      · rw [rest.events, List.countP_cons_of_neg (by simp [htext])]
      · rw [rest.counted, List.countP_cons_of_neg (by simp [htext])]
      · rw [rest.skipped, repeatsIn_cons, or_iff_right unusable, later]
    | some s =>
      obtain ⟨hevents, hpending, hcounted, hgrows, hskipped⟩ :=
        emitConfirmedUrl_counts htext hurl reports
      have hcount : (url :: urls).countP (fun url => (nonEmptyText url).isSome) =
          urls.countP (fun url => (nonEmptyText url).isSome) + 1 :=
        List.countP_cons_of_pos (by simp [htext])
      have first := rest.grows
      refine ⟨?_, rest.pending.trans hpending, ?_, by omega, ?_⟩
      · rw [rest.events, hevents, hcount]
        omega
      · rw [rest.counted, hcounted, hcount]
        omega
      · rw [repeatsIn_cons, ← hskipped, ← later, ← rest.skipped]
        omega

end Loop

/-! ## A look -/

section Looks
variable {lib : Helpers} {row : HistoryRow} {tx : Tx} {look : Look}

theorem unmarked_iff : row.Unmarked ↔ row.status = .text "published" ∧ eventCount row = 0 := by
  refine and_congr_right fun published => ?_
  have hclass := classify_history_published.2 published
  unfold eventCount
  rw [hclass]
  match row.articleUrls with
  | none => simp
  | some [] => simp
  | some (url :: urls) =>
    simp only [Option.some.injEq, exists_eq_left', ne_eq, reduceCtorEq, not_false_eq_true, true_and,
      List.countP_eq_zero, Option.not_isSome_iff_eq_none]

/-- What a look does, in terms of the row and of the URLs that have an article. -/
structure LookEffect (lib : Helpers) (row : HistoryRow) (tx : Tx) (look : Look) : Prop where
  events : look.tx.events.length = tx.events.length + eventCount row
  pending : look.tx.pending = tx.pending
  links : ∀ live, HasLink look.tx.articles live ↔ HasLink tx.articles live ∨ Lists lib row live
  skipped : look.skipped ≠ 0 ↔ Repeats lib (HasLink tx.articles) row
  marks : (look.marks = false ∧ look.skipped = 0) ↔ row.Unmarked

/-- A published row without URLs, which leaves one bare confirmation. -/
theorem emitBare_effect {host : Option String} {ts : Option String × Option String} {e : Emission}
    {alwaysMark : Bool} (published : row.status = .text "published")
    (hurls : row.articleUrls.getD [] = [])
    (h : (tx.append lib.clock .publishConfirmed
      [("live_url", .null), ("target_url", row.targetUrl), ("platform", row.platform)] none
      row.targetUrl host none ts true).map (fun tx => (({ tx := tx, events := 1 } : Emission), true)) =
        some (e, alwaysMark)) :
    LookEffect lib row tx ⟨e.tx, alwaysMark || e.events ≠ 0, e.skipped⟩ := by
  have hclass := classify_history_published.2 published
  obtain ⟨tx', happend, heq⟩ := Option.map_eq_some_iff.1 h
  obtain ⟨rfl, rfl⟩ := Prod.mk.inj heq
  obtain ⟨_, _, rfl⟩ := Tx.append_some rfl happend
  have count : eventCount row = 1 := by
    unfold eventCount
    rw [hclass]
    match hrow : row.articleUrls with
    | none => rfl
    | some [] => rfl
    | some (url :: urls) => simp [hrow] at hurls
  have unlisted (live : String) : ¬ Lists lib row live := by
    rintro ⟨-, urls, hrow, url, hmem, -⟩
    obtain rfl : urls = [] := by simpa [hrow] using hurls
    exact List.not_mem_nil hmem
  have unrepeated : ¬ Repeats lib (HasLink tx.articles) row := by
    rintro ⟨-, urls, hrow, before, url, after, -, hsplit, -⟩
    obtain rfl : urls = [] := by simpa [hrow] using hurls
    simp at hsplit
  refine ⟨by simp [count], rfl, fun live => (or_iff_left (unlisted live)).symm,
    iff_of_false (by simp) unrepeated, ?_⟩
  rw [unmarked_iff, count]
  simp

theorem emitConfirmedHistoryRow_effect {host : Option String} {ts : Option String × Option String}
    {e : Emission} {alwaysMark : Bool} (published : row.status = .text "published")
    (h : emitConfirmedHistoryRow lib row host ts tx = some (e, alwaysMark)) :
    LookEffect lib row tx ⟨e.tx, alwaysMark || e.events ≠ 0, e.skipped⟩ := by
  have hclass := classify_history_published.2 published
  unfold emitConfirmedHistoryRow emitConfirmedRow at h
  split at h
  · rename_i hurls
    have hurls : row.articleUrls = none := hurls
    exact emitBare_effect published (by rw [hurls]; rfl) h
  · rename_i hurls
    have hurls : row.articleUrls = some [] := hurls
    exact emitBare_effect published (by rw [hurls]; rfl) h
  · rename_i urls nonempty hurls
    have hurls : row.articleUrls = some urls := hurls
    obtain ⟨e', hloop, heq⟩ := Option.map_eq_some_iff.1 h
    obtain ⟨rfl, rfl⟩ := Prod.mk.inj heq
    have counts := emitConfirmedUrls_counts rfl hloop
    have links := emitConfirmedUrls_links hloop
    have count : eventCount row = urls.countP fun url => (nonEmptyText url).isSome := by
      unfold eventCount
      rw [hclass, hurls]
      cases urls with
      | nil => exact absurd rfl nonempty
      | cons url urls => rfl
    refine ⟨by rw [count]; exact counts.events, counts.pending, fun live => ?_, ?_, ?_⟩
    · rw [links, Lists]
      simp [published, hurls]
    · rw [Repeats]
      simp only [published, hurls, true_and, Option.some.injEq, exists_eq_left']
      exact counts.skipped
    · rw [unmarked_iff, count]
      have counted := counts.counted
      simp only [Nat.zero_add] at counted
      simp only [published, true_and, Bool.or_eq_false_iff, decide_eq_false_iff_not, ne_eq, not_not,
        ← counted]
      omega

theorem lookAt_effect (h : lookAt lib row tx = some look) : LookEffect lib row tx look := by
  unfold lookAt at h
  simp only [Option.bind_eq_bind, Option.bind_eq_some_iff] at h
  obtain ⟨host, -, ts, -, h⟩ := h
  split at h
  · rename_i hclass
    obtain ⟨⟨e, alwaysMark⟩, hemit, rfl⟩ := Option.map_eq_some_iff.1 h
    exact emitConfirmedHistoryRow_effect (classify_history_published.1 hclass) hemit
  · rename_i hclass
    have unpublished : row.status ≠ .text "published" := fun published => by
      rw [classify_history_published.2 published] at hclass
      cases hclass
    obtain ⟨⟨cleaned, hits⟩, -, h⟩ := Option.bind_eq_some_iff.1 h
    obtain ⟨tx', happend, rfl⟩ := Option.map_eq_some_iff.1 h
    obtain ⟨_, _, rfl⟩ := Tx.append_some rfl happend
    refine ⟨by simp [eventCount, hclass], rfl, fun live => ?_, ?_, ?_⟩
    · simp [Lists, unpublished]
    · simp [Repeats, unpublished]
    · simp [HistoryRow.Unmarked, unpublished]
  · rename_i hconfirmed hfailed
    have unpublished : row.status ≠ .text "published" := fun published =>
      hconfirmed (classify_history_published.2 published)
    obtain rfl := Option.some.inj h
    refine ⟨?_, rfl, fun live => ?_, ?_, ?_⟩
    · unfold eventCount
      split
      · rename_i hclass
        exact absurd hclass hconfirmed
      · rename_i hclass
        exact absurd hclass hfailed
      · rfl
    · simp [Lists, unpublished]
    · simp [Repeats, unpublished]
    · simp [HistoryRow.Unmarked, unpublished]

/-- The host and the time of the row can be read. -/
def Readable (lib : Helpers) (row : HistoryRow) : Prop :=
  (hostOfText lib row.targetUrl).isSome ∧ (parseRowTimestamps lib row.createdAt).isSome

theorem lookAt_readable (h : lookAt lib row tx = some look) : Readable lib row := by
  unfold lookAt at h
  simp only [Option.bind_eq_bind, Option.bind_eq_some_iff] at h
  obtain ⟨host, hhost, ts, hts, -⟩ := h
  exact ⟨Option.isSome_of_eq_some hhost, Option.isSome_of_eq_some hts⟩

/-- A readable row without events leaves the tables alone. -/
theorem lookAt_silent (tx : Tx) (readable : Readable lib row) (silent : eventCount row = 0) :
    ∃ marks, lookAt lib row tx = some ⟨tx, marks, 0⟩ := by
  obtain ⟨host, hhost⟩ := Option.isSome_iff_exists.1 readable.1
  obtain ⟨ts, hts⟩ := Option.isSome_iff_exists.1 readable.2
  unfold lookAt
  simp only [hhost, hts, Option.bind_eq_bind, Option.bind_some]
  split
  · rename_i hclass
    have published := classify_history_published.1 hclass
    rw [emitConfirmedHistoryRow_silent (unmarked_iff.2 ⟨published, silent⟩)]
    exact ⟨_, rfl⟩
  · rename_i hclass
    simp [eventCount, hclass] at silent
  · exact ⟨true, rfl⟩

/-! ## Whether a row can be projected -/

theorem append_isSome {clock : ℕ → String} {kind : EventKind} {payload : Payload}
    {targetUrl : Value} {host : Option String} {articleId : Option ℕ}
    {ts : Option String × Option String} (floor : missingRequiredFields kind payload = []) :
    (tx.append clock kind payload none targetUrl host articleId ts true).isSome =
      targetUrl.bindable := by
  simp only [Tx.append, floor]
  cases targetUrl.bindable with
  | true => rfl
  | false => rfl

theorem addArticle_bindable {columns : ArticleColumns} (bindable : columns.body.bindable = true) :
    tx.addArticle columns ≠ .error .binding := by
  unfold Tx.addArticle
  simp only [bindable, Bool.not_true, Bool.false_eq_true, if_false]
  split
  · exact fun h => nomatch Except.error.inj h
  · exact fun h => nomatch h

def urlReadable (lib : Helpers) (targetUrl url : Value) : Bool :=
  match nonEmptyText url with
  | none => true
  | some s => (lib.hostOf url).isSome && (lib.canonicalizeUrl s).isSome && targetUrl.bindable

theorem emitConfirmedUrl_isSome {confirmed : ConfirmedRow} {e : Emission} {url : Value}
    (reports : confirmed.reportsKnown = true) :
    (emitConfirmedUrl lib confirmed e url).isSome = urlReadable lib confirmed.targetUrl url := by
  unfold urlReadable
  cases htext : nonEmptyText url with
  | none => rw [emitConfirmedUrl_unusable htext]; rfl
  | some s =>
    simp only [emitConfirmedUrl, htext, Option.bind_eq_bind, reports, if_true]
    cases lib.hostOf url with
    | none => rfl
    | some host =>
      cases lib.canonicalizeUrl s with
      | none => rfl
      | some live =>
        have known : missingRequiredFields .publishIntentDeduped (confirmed.payload url) = [] :=
          payload_complete (.inr rfl)
        have new : missingRequiredFields .publishConfirmed (confirmed.payload url) = [] :=
          payload_complete (.inl rfl)
        simp only [Option.bind_some, Option.isSome_some, Bool.true_and]
        split
        · rename_i herror
          exact absurd herror (addArticle_bindable rfl)
        · rw [Option.isSome_map, append_isSome known]
        · rw [Option.isSome_map, append_isSome new]

theorem emitConfirmedUrls_isSome {confirmed : ConfirmedRow} {e : Emission} {urls : List Value}
    (reports : confirmed.reportsKnown = true) :
    (urls.foldlM (emitConfirmedUrl lib confirmed) e).isSome =
      urls.all (urlReadable lib confirmed.targetUrl) := by
  induction urls generalizing e with
  | nil => rfl
  | cons url urls ih =>
    have first := @emitConfirmedUrl_isSome lib confirmed e url reports
    rw [List.foldlM_cons, List.all_cons, ← first]
    cases emitConfirmedUrl lib confirmed e url with
    | none => rfl
    | some e' => exact ih

/-- Whether a look succeeds does not depend on the tables. -/
theorem lookAt_isSome (lib : Helpers) (row : HistoryRow) (tx tx' : Tx) :
    (lookAt lib row tx).isSome = (lookAt lib row tx').isSome := by
  unfold lookAt
  cases hostOfText lib row.targetUrl with
  | none => rfl
  | some host =>
    cases parseRowTimestamps lib row.createdAt with
    | none => rfl
    | some ts =>
      simp only [Option.bind_eq_bind, Option.bind_some]
      split
      · simp only [Option.isSome_map, emitConfirmedHistoryRow, emitConfirmedRow]
        split
        · rw [Option.isSome_map, Option.isSome_map, append_isSome rfl, append_isSome rfl]
        · rw [Option.isSome_map, Option.isSome_map, append_isSome rfl, append_isSome rfl]
        · rw [Option.isSome_map, Option.isSome_map, emitConfirmedUrls_isSome rfl,
            emitConfirmedUrls_isSome rfl]
      · cases lib.scrubError row.error with
        | none => rfl
        | some scrubbed =>
          simp only [Option.bind_some]
          rw [Option.isSome_map, Option.isSome_map, append_isSome rfl, append_isSome rfl]
      · rfl

theorem lookAt_exists {look : Look} (h : lookAt lib row tx = some look) (tx' : Tx) :
    ∃ look', lookAt lib row tx' = some look' := by
  rw [← Option.isSome_iff_exists, ← lookAt_isSome lib row tx, h]
  rfl

end Looks

end BacklinkPublisher.HistoryLooks
