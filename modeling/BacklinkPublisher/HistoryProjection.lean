import BacklinkPublisher.ProjectionEmit

set_option autoImplicit false

/-!
# The history reducer

`_project_history` of `events/_project_reducers.py`. Its cursor is the list of the
row ids that need no further look.
-/
namespace BacklinkPublisher.HistoryProjection
open EventStore OptionFolds ProjectionHelpers ProjectionEmit

structure HistoryRow where
  id : Value
  status : Value
  targetUrl : Value := .null
  createdAt : Value := .null
  articleUrls : Option (List Value) := none
  language : Value := .null
  platform : Value := .null
  error : Value := .null
  errorClass : Value := .null
  deriving DecidableEq, Repr

/-- The file: text that is no JSON, a JSON list (with `none` for what is not an
object), or other JSON. -/
inductive HistoryFile where
  | unparsable
  | rows (rows : List (Option HistoryRow))
  | other

structure HistoryReduction where
  tx : Tx
  seenIds : List String
  result : ProjectionResult := {}

/-- `_parse_row_timestamps(created_at or "")`. -/
def parseRowTimestamps (lib : Helpers) (createdAt : Value) :
    Option (Option String × Option String) :=
  match createdAt.orNull with
  | .null => some (none, none)
  | .text s =>
    match lib.splitLocalNaive s with
    | some (raw, utc) => some (some raw, some utc)
    | none => some (some s, none)
  | _ => none

def emitConfirmedHistoryRow (lib : Helpers) (row : HistoryRow) (host : Option String)
    (ts : Option String × Option String) : Tx → Option (Emission × Bool) :=
  emitConfirmedRow lib {
    articleUrls := row.articleUrls
    rest := [("target_url", row.targetUrl), ("platform", row.platform)]
    targetUrl := row.targetUrl
    host := host
    language := row.language
    ts := ts
    reportsKnown := true }

def failedPayload (row : HistoryRow) (cleaned : String) (hits : Value) : Payload :=
  [("error_class", row.errorClass), ("error_message_clean", .text cleaned),
    ("scrub_hits", hits), ("platform", row.platform)]

/-- The body of the loop of `_project_history`. -/
def projectHistoryRow (lib : Helpers) (r : HistoryReduction) (entry : Option HistoryRow) :
    Option HistoryReduction :=
  match entry with
  | none => some r
  | some row =>
    match nonEmptyText row.id with
    | none => some r
    | some id =>
      if id ∈ r.seenIds then some r
      else do
        let host ← hostOfText lib row.targetUrl
        let ts ← parseRowTimestamps lib row.createdAt
        let result := { r.result with recordsConsidered := r.result.recordsConsidered + 1 }
        -- a status that is no text has a `str` that `STATUS_MAP` does not know either
        match classify .history (row.status.asText.getD "") with
        | .kind .publishConfirmed =>
          (emitConfirmedHistoryRow lib row host ts r.tx).map fun (e, alwaysMark) =>
            let skipped := result.skippedDueToDedup + e.skipped
            { tx := e.tx
              seenIds :=
                if alwaysMark || e.events ≠ 0 || skipped ≠ 0 then r.seenIds ++ [id] else r.seenIds
              result := { result with
                eventsInserted := result.eventsInserted + e.events
                articlesInserted := result.articlesInserted + e.articles
                skippedDueToDedup := skipped } }
        | .kind .publishFailed =>
          (lib.scrubError row.error).bind fun (cleaned, hits) =>
            (r.tx.append lib.clock .publishFailed (failedPayload row cleaned hits) none
              row.targetUrl host none ts true).map fun tx =>
                { tx := tx
                  seenIds := r.seenIds ++ [id]
                  result := { result with eventsInserted := result.eventsInserted + 1 } }
        | _ => some { r with seenIds := r.seenIds ++ [id], result := result }

def projectHistory (lib : Helpers) (file : HistoryFile) (store : ProjectedStore (List String)) :
    Option (Flushed (List String)) :=
  match file with
  | .unparsable => some ⟨store, {}, []⟩
  | .other => none
  | .rows rows =>
    (rows.foldlM (projectHistoryRow lib) { tx := store.begin, seenIds := store.cursor }).map
      fun r => finish r.tx r.seenIds r.result

/-! ## What one row does -/

/-- A row that is looked at and not marked: published, with a list of URLs none of
which is usable. -/
def HistoryRow.Unmarked (row : HistoryRow) : Prop :=
  row.status = .text "published" ∧
    ∃ urls, row.articleUrls = some urls ∧ urls ≠ [] ∧ ∀ url ∈ urls, nonEmptyText url = none

def Settled (seenIds : List String) (entry : Option HistoryRow) : Prop :=
  ∀ row id, entry = some row → nonEmptyText row.id = some id → id ∈ seenIds ∨ row.Unmarked

theorem Settled.mono {seenIds later : List String} {entry : Option HistoryRow}
    (h : Settled seenIds entry) (grows : seenIds ⊆ later) : Settled later entry :=
  fun row id hentry hid => (h row id hentry hid).imp_left fun hmem => grows hmem

section Rows
variable {lib : Helpers} {r r' : HistoryReduction} {row : HistoryRow} {host : Option String}
  {ts : Option String × Option String}

theorem emitConfirmedHistoryRow_unmarked {tx : Tx} {e : Emission}
    (hstatus : row.status = .text "published")
    (h : emitConfirmedHistoryRow lib row host ts tx = some (e, false))
    (nothing : e.events = 0 ∧ e.skipped = 0) : row.Unmarked := by
  unfold emitConfirmedHistoryRow emitConfirmedRow at h
  split at h
  · simp at h
  · simp at h
  · rename_i urls hempty hurls
    obtain ⟨_, hloop, heq⟩ := Option.map_eq_some_iff.1 h
    obtain ⟨rfl, -⟩ := Prod.mk.inj heq
    exact ⟨hstatus, urls, hurls, hempty,
      unusable_of_no_count hloop (by simp [nothing])⟩

theorem emitConfirmedHistoryRow_silent {tx : Tx} (silent : row.Unmarked) :
    emitConfirmedHistoryRow lib row host ts tx = some ({ tx := tx }, false) := by
  obtain ⟨-, urls, hurls, hempty, unusable⟩ := silent
  unfold emitConfirmedHistoryRow emitConfirmedRow
  cases urls with
  | nil => contradiction
  | cons url urls => simp [hurls, emitConfirmedUrls_unusable unusable]

theorem classify_history_published {status : Value} :
    classify .history (status.asText.getD "") = .kind .publishConfirmed ↔
      status = .text "published" := by
  cases status with
  | text s =>
    by_cases published : s = "published"
    · simp [classify, Value.asText, published]
    · by_cases failed : s = "failed" <;> simp [classify, Value.asText, published, failed]
  | null => decide
  | scalar code truthy | compound code truthy => simp [classify, Value.asText]

/-- An iteration marks its row or finds nothing to do in it, now and in any later pass. -/
theorem projectHistoryRow_effect {entry : Option HistoryRow}
    (h : projectHistoryRow lib r entry = some r') :
    r.seenIds ⊆ r'.seenIds ∧ Settled r'.seenIds entry ∧
      (Settled r.seenIds entry → r'.tx.tables = r.tx.tables) := by
  have unchanged (same : r = r') (settled : Settled r.seenIds entry) :
      r.seenIds ⊆ r'.seenIds ∧ Settled r'.seenIds entry ∧
        (Settled r.seenIds entry → r'.tx.tables = r.tx.tables) := by
    subst same
    exact ⟨List.Subset.refl _, settled, fun _ => rfl⟩
  unfold projectHistoryRow at h
  split at h
  · exact unchanged (Option.some.inj h) fun row id hentry => by cases hentry
  rename_i row
  split at h
  · rename_i hid
    refine unchanged (Option.some.inj h) fun row' id hentry hid' => ?_
    obtain rfl := Option.some.inj hentry
    simp [hid] at hid'
  rename_i id hid
  split at h
  · rename_i hmem
    refine unchanged (Option.some.inj h) fun row' id' hentry hid' => .inl ?_
    obtain rfl := Option.some.inj hentry
    obtain rfl : id = id' := Option.some.inj (hid.symm.trans hid')
    exact hmem
  rename_i hfresh
  have marked (hseen : r'.seenIds = r.seenIds ++ [id]) :
      r.seenIds ⊆ r'.seenIds ∧ Settled r'.seenIds (some row) := by
    rw [hseen]
    refine ⟨List.subset_append_left _ _, fun row' id' hentry hid' => .inl ?_⟩
    obtain rfl := Option.some.inj hentry
    obtain rfl : id = id' := Option.some.inj (hid.symm.trans hid')
    simp
  have unmarked (settled : Settled r.seenIds (some row)) : row.Unmarked :=
    (settled row id rfl hid).resolve_left hfresh
  simp only [Option.bind_eq_bind, Option.bind_eq_some_iff] at h
  obtain ⟨host, -, ts, -, h⟩ := h
  split at h
  · rename_i hclass
    have published := classify_history_published.1 hclass
    obtain ⟨⟨e, alwaysMark⟩, hemit, rfl⟩ := Option.map_eq_some_iff.1 h
    have silent (settled : Settled r.seenIds (some row)) : e.tx.tables = r.tx.tables := by
      rw [emitConfirmedHistoryRow_silent (unmarked settled)] at hemit
      obtain ⟨rfl, -⟩ := Prod.mk.inj (Option.some.inj hemit)
      rfl
    by_cases mark : (alwaysMark || e.events ≠ 0 || r.result.skippedDueToDedup + e.skipped ≠ 0) = true
    · obtain ⟨grows, settled⟩ := marked (by simp only [mark, if_true])
      exact ⟨grows, settled, silent⟩
    · obtain ⟨⟨rfl, hevents⟩, hskipped⟩ :
          (alwaysMark = false ∧ e.events = 0) ∧ r.result.skippedDueToDedup + e.skipped = 0 := by
        simpa using mark
      have nothing := emitConfirmedHistoryRow_unmarked published hemit ⟨hevents, by omega⟩
      refine ⟨by simp [hevents, hskipped], fun row' id' hentry _ => .inr ?_, silent⟩
      obtain rfl := Option.some.inj hentry
      exact nothing
  · rename_i hclass
    obtain ⟨⟨cleaned, hits⟩, -, h⟩ := Option.bind_eq_some_iff.1 h
    obtain ⟨tx, -, rfl⟩ := Option.map_eq_some_iff.1 h
    obtain ⟨grows, settled⟩ := marked rfl
    refine ⟨grows, settled, fun before => ?_⟩
    simp [classify_history_published.2 (unmarked before).1] at hclass
  · obtain rfl := Option.some.inj h
    obtain ⟨grows, settled⟩ := marked rfl
    exact ⟨grows, settled, fun _ => rfl⟩

end Rows

/-! ## What a flush does -/

section Flushes
variable {lib : Helpers} {rows : List (Option HistoryRow)} {r r' : HistoryReduction}

/-- After a pass every row is marked, or unmarked for good. -/
theorem projectHistoryRows_settled (h : rows.foldlM (projectHistoryRow lib) r = some r') :
    r.seenIds ⊆ r'.seenIds ∧ ∀ entry ∈ rows, Settled r'.seenIds entry := by
  have grows {rows : List (Option HistoryRow)} {r r' : HistoryReduction}
      (h : rows.foldlM (projectHistoryRow lib) r = some r') : r.seenIds ⊆ r'.seenIds :=
    foldlM_relates (R := fun r r' : HistoryReduction => r.seenIds ⊆ r'.seenIds) h
      (fun _ => List.Subset.refl _) (fun _ _ _ => List.Subset.trans)
      fun _ _ _ hstep => (projectHistoryRow_effect hstep).1
  refine ⟨grows h, fun entry hmem => ?_⟩
  obtain ⟨_, _, _, _, -, -, hstep, hrest⟩ := foldlM_step_of_mem h hmem
  exact (projectHistoryRow_effect hstep).2.1.mono (grows hrest)

theorem projectHistoryRows_noop (h : rows.foldlM (projectHistoryRow lib) r = some r')
    (settled : ∀ entry ∈ rows, Settled r.seenIds entry) : r'.tx.tables = r.tx.tables := by
  refine (foldlM_invariant (I := fun now : HistoryReduction =>
    r.seenIds ⊆ now.seenIds ∧ now.tx.tables = r.tx.tables) h ⟨List.Subset.refl _, rfl⟩ ?_).2
  rintro now entry next hmem ⟨grows, same⟩ hstep
  obtain ⟨more, -, quiet⟩ := projectHistoryRow_effect hstep
  exact ⟨List.Subset.trans grows more, (quiet ((settled entry hmem).mono grows)).trans same⟩

theorem projectHistory_repeated {file : HistoryFile} {store : ProjectedStore (List String)}
    {first second : Flushed (List String)} (h : projectHistory lib file store = some first)
    (h' : projectHistory lib file first.store = some second) :
    second.store.tables = first.store.tables := by
  cases file with
  | unparsable =>
    obtain rfl : ⟨first.store, {}, []⟩ = second := Option.some.inj h'
    rfl
  | other => contradiction
  | rows rows =>
    obtain ⟨r, hpass, rfl⟩ := Option.map_eq_some_iff.1 h
    obtain ⟨r', hpass', rfl⟩ := Option.map_eq_some_iff.1 h'
    have same := projectHistoryRows_noop hpass' (projectHistoryRows_settled hpass).2
    exact same

end Flushes

end BacklinkPublisher.HistoryProjection
