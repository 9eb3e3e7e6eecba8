import BacklinkPublisher.CheckpointProjection
import Mathlib.Data.Set.Function
import Mathlib.Data.List.Induction
import Mathlib.Data.List.Nodup

set_option autoImplicit false

/-!
# The quarantine of unmapped checkpoint records

The checkpoint reducer puts an unmapped record aside and `EventStore.quarantine` stores it
under a hash of its run id, source, status and id. The reducer gives no run id, so records
of two runs that agree in the rest share a row.
-/
namespace BacklinkPublisher.QuarantineLog
open EventStore OptionFolds ProjectionHelpers CheckpointProjection

/-! ## The log -/

/-- A row of `quarantine_log`; `raw_payload_json` holds status and identity. -/
structure QuarantineRow where
  record : QuarantineRecord
  dedupKey : String
  deriving DecidableEq, Repr

/-- `part or "-"`. -/
def orDash (part : Option String) : String := (part.filter (· ≠ "")).getD "-"

/-- The text that `sha256` is applied to. -/
def dedupText (record : QuarantineRecord) : String :=
  "\x1f".intercalate [orDash record.runId, orDash (some record.source),
    orDash record.sourceStatus, orDash record.recordIdentity]

/-- `EventStore.quarantine`, an `INSERT OR IGNORE` with a `UNIQUE` index on the key. -/
def quarantine (sha256 : String → String) (log : List QuarantineRow) (record : QuarantineRecord) :
    List QuarantineRow :=
  if log.any (·.dedupKey = sha256 (dedupText record)) then log
  else log ++ [⟨record, sha256 (dedupText record)⟩]

def writeQuarantines (sha256 : String → String) (log : List QuarantineRow)
    (pending : List QuarantineRecord) : List QuarantineRow :=
  pending.foldl (quarantine sha256) log

/-! ## Flush schedules -/

/-- The event store, with a cursor for each run's file. -/
structure World where
  events : List Event := []
  articles : List Article := []
  nextArticleId : ℕ := 1
  cursors : String → ItemCursor := fun _ _ => none
  log : List QuarantineRow := []

def World.store (w : World) (runId : String) : ProjectedStore ItemCursor :=
  ⟨w.events, w.articles, w.nextArticleId, w.cursors runId⟩

/-- `flush_for` of the file of a run, as it is by then. -/
def flushFile (lib : Helpers) (sha256 : String → String) (w : World) (file : CheckpointFile) :
    World :=
  match nonEmptyText file.runId with
  | none => w
  | some runId =>
    match projectCheckpoint lib file (w.store runId) with
    | none => w
    | some flushed =>
      { events := flushed.store.events
        articles := flushed.store.articles
        nextArticleId := flushed.store.nextArticleId
        cursors := Function.update w.cursors runId flushed.store.cursor
        log := writeQuarantines sha256 w.log flushed.records }

def flushAll (lib : Helpers) (sha256 : String → String) (files : List CheckpointFile) : World :=
  files.foldl (flushFile lib sha256) {}

/-! ## The records that the reducer considers -/

structure Record where
  runId : String
  itemId : String
  status : String
  deriving DecidableEq, Repr

/-- The reducer calls `_handle_checkpoint_unmapped` for an item of this id and status: it
gets past all items before, and the item is not as the cursor has it. -/
def Puts (lib : Helpers) (file : CheckpointFile) (runId : String)
    (store : ProjectedStore ItemCursor) (itemId status : String) : Prop :=
  ∃ before item after state r, file.items = before ++ some item :: after ∧
    item.state = some (itemId, state) ∧ state.status = status ∧
    classify .checkpoint status = .quarantine ∧ store.cursor itemId ≠ some state ∧
    (before ++ [some item]).foldlM (projectCheckpointItem lib runId file.startedAt store.cursor)
      { tx := store.begin } = some r

/-- Some flush of the schedule considers the record. -/
def Considered (lib : Helpers) (sha256 : String → String) (files : List CheckpointFile)
    (record : Record) : Prop :=
  ∃ before file after, files = before ++ file :: after ∧
    nonEmptyText file.runId = some record.runId ∧
    Puts lib file record.runId ((flushAll lib sha256 before).store record.runId) record.itemId
      record.status

/-- Some flush considers it and goes through. -/
def Committed (lib : Helpers) (sha256 : String → String) (files : List CheckpointFile)
    (record : Record) : Prop :=
  ∃ before file after, files = before ++ file :: after ∧
    nonEmptyText file.runId = some record.runId ∧
    Puts lib file record.runId ((flushAll lib sha256 before).store record.runId) record.itemId
      record.status ∧
    (projectCheckpoint lib file ((flushAll lib sha256 before).store record.runId)).isSome

/-- The record as the reducer passes it on. -/
def Record.unmapped (record : Record) : QuarantineRecord :=
  unmappedRecord record.itemId record.status

/-- The part of the hashed text that varies. -/
def Record.identity (record : Record) : String :=
  orDash (some record.status) ++ "\x1f" ++ orDash (some record.itemId)

/-- What the text of every unmapped checkpoint record begins with. -/
def checkpointPart : String :=
  orDash (some "") ++ "\x1f" ++ orDash (some "checkpoint") ++ "\x1f"

theorem intercalate_four (sep a b c d : String) :
    sep.intercalate [a, b, c, d] = (a ++ sep ++ b ++ sep) ++ (c ++ sep ++ d) := by
  simp only [String.intercalate_cons_cons, String.intercalate_singleton, String.append_assoc]

theorem dedupText_unmapped (record : Record) :
    dedupText record.unmapped = checkpointPart ++ record.identity :=
  intercalate_four _ _ _ _ _

theorem dedupText_eq_iff {record other : Record} :
    dedupText record.unmapped = dedupText other.unmapped ↔ record.identity = other.identity := by
  rw [dedupText_unmapped, dedupText_unmapped]
  exact String.append_right_inj _

/-! ## What a flush puts aside -/

section Flushes
variable {lib : Helpers} {runId : String} {startedAt : Value} {prior : ItemCursor}
  {r r' : Reduction} {item : CheckpointItem} {context : Context}

/-- The record that the reducer puts aside for an entry. -/
def putAside (prior : ItemCursor) (entry : Option CheckpointItem) : List QuarantineRecord :=
  match entry.bind CheckpointItem.state with
  | none => []
  | some (id, state) =>
    if prior id ≠ some state ∧ classify .checkpoint state.status = .quarantine then
      [unmappedRecord id state.status]
    else []

theorem handleCheckpointIntent_pending {seen : Option ItemState}
    (h : handleCheckpointIntent lib item context seen r = some r') :
    r'.tx.pending = r.tx.pending := by
  unfold handleCheckpointIntent at h
  dsimp only at h
  split_ifs at h with hprior hseen
  · rw [← Option.some.inj h]
  · rw [← Option.some.inj h]
  · obtain ⟨tx, happend, rfl⟩ := Option.map_eq_some_iff.1 h
    obtain ⟨_, _, rfl⟩ := Tx.append_some rfl happend
    rfl

theorem handleCheckpointFailed_pending (h : handleCheckpointFailed lib item context r = some r') :
    r'.tx.pending = r.tx.pending := by
  unfold handleCheckpointFailed at h
  dsimp only at h
  split_ifs at h with hpolicy hseen
  · rw [← Option.some.inj h]
  · rw [← Option.some.inj h]
  · obtain ⟨⟨cleaned, hits⟩, -, h⟩ := Option.bind_eq_some_iff.1 h
    obtain ⟨tx, happend, rfl⟩ := Option.map_eq_some_iff.1 h
    obtain ⟨_, _, rfl⟩ := Tx.append_some rfl happend
    rfl

theorem handleCheckpointConfirmed_pending {payload : CheckpointPayload} {publishedUrl : Value}
    (h : handleCheckpointConfirmed lib item payload context publishedUrl r = some r') :
    r'.tx.pending = r.tx.pending := by
  unfold handleCheckpointConfirmed at h
  split at h
  · simp only at h
    split at h
    · contradiction
    · obtain ⟨tx, happend, rfl⟩ := Option.map_eq_some_iff.1 h
      obtain ⟨_, _, rfl⟩ := Tx.append_some rfl happend
      rfl
    · rename_i harticle
      obtain rfl := Tx.addArticle_ok harticle
      obtain ⟨tx, happend, rfl⟩ := Option.map_eq_some_iff.1 h
      obtain ⟨_, _, rfl⟩ := Tx.append_some (confirmedPayload_complete _ _ _) happend
      rfl
  · contradiction

theorem classify_checkpoint_cases (status : String) :
    classify .checkpoint status = .kind .publishIntent ∨
      classify .checkpoint status = .confirmedFamily ∨
      classify .checkpoint status = .kind .publishFailed ∨
      classify .checkpoint status = .quarantine := by
  simp only [classify]
  split_ifs
  · exact .inl rfl
  · exact .inr (.inl rfl)
  · exact .inr (.inr (.inl rfl))
  · exact .inr (.inr (.inr rfl))

theorem projectCheckpointItem_pending {entry : Option CheckpointItem}
    (h : projectCheckpointItem lib runId startedAt prior r entry = some r') :
    r'.tx.pending = r.tx.pending ++ putAside prior entry := by
  unfold putAside
  cases hentry : entry.bind CheckpointItem.state with
  | none =>
    rw [projectCheckpointItem_ignored hentry] at h
    rw [← Option.some.inj h]
    exact (List.append_nil _).symm
  | some idState =>
    obtain ⟨item, rfl, hstate⟩ := Option.bind_eq_some_iff.1 hentry
    obtain ⟨id, state⟩ := idState
    simp only [projectCheckpointItem, hstate, Option.bind_eq_bind, Option.bind_eq_some_iff] at h
    obtain ⟨payload, -, host, -, ts, -, h⟩ := h
    dsimp only
    by_cases hprior : prior id = some state
    · rw [if_pos hprior] at h
      rw [← Option.some.inj h]
      simp [hprior]
    rw [if_neg hprior] at h
    rcases classify_checkpoint_cases state.status with hclass | hclass | hclass | hclass
    · rw [hclass] at h
      rw [handleCheckpointIntent_pending h]
      simp [hclass]
    · rw [hclass] at h
      rw [handleCheckpointConfirmed_pending h]
      simp [hclass]
    · rw [hclass] at h
      rw [handleCheckpointFailed_pending h]
      simp [hclass]
    · rw [hclass] at h
      rw [← Option.some.inj h]
      simp [hprior, hclass]

theorem projectItems_pending {entries : List (Option CheckpointItem)}
    (h : entries.foldlM (projectCheckpointItem lib runId startedAt prior) r = some r') :
    r'.tx.pending = r.tx.pending ++ entries.flatMap (putAside prior) := by
  induction entries generalizing r with
  | nil =>
    obtain rfl : r = r' := by simpa using h
    simp
  | cons entry entries ih =>
    obtain ⟨now, hentry, hrest⟩ := foldlM_cons_some.1 h
    rw [ih hrest, projectCheckpointItem_pending hentry, List.flatMap_cons, List.append_assoc]

/-- A flush that goes through hands over the records that it puts aside, and no others. -/
theorem mem_records {file : CheckpointFile} {store : ProjectedStore ItemCursor}
    {flushed : Flushed ItemCursor} (hrun : nonEmptyText file.runId = some runId)
    (h : projectCheckpoint lib file store = some flushed) {record : QuarantineRecord} :
    record ∈ flushed.records ↔
      ∃ itemId status, Puts lib file runId store itemId status ∧
        record = unmappedRecord itemId status := by
  obtain ⟨runId', r, hrun', hpass, rfl⟩ := projectCheckpoint_some h
  obtain rfl : runId = runId' := Option.some.inj (hrun.symm.trans hrun')
  have pending := projectItems_pending hpass
  change record ∈ r.tx.pending ↔ _
  rw [pending]
  simp only [ProjectedStore.begin, List.nil_append, List.mem_flatMap]
  constructor
  · rintro ⟨entry, hmem, hput⟩
    obtain ⟨before, after, hsplit⟩ := List.append_of_mem hmem
    unfold putAside at hput
    split at hput
    · exact absurd hput List.not_mem_nil
    rename_i id state hentry
    split at hput
    · rename_i unmapped
      obtain ⟨item, rfl, hstate⟩ := Option.bind_eq_some_iff.1 hentry
      have whole : (before ++ [some item] ++ after).foldlM
          (projectCheckpointItem lib runId file.startedAt store.cursor) { tx := store.begin } =
            some r := by
        rw [List.append_assoc, List.singleton_append, ← hsplit]
        exact hpass
      obtain ⟨now, hnow, -⟩ := foldlM_append_some.1 whole
      exact ⟨id, state.status, ⟨before, item, after, state, now, hsplit, hstate, rfl, unmapped.2,
        unmapped.1, hnow⟩, List.mem_singleton.1 hput⟩
    · exact absurd hput List.not_mem_nil
  · rintro ⟨itemId, status, ⟨before, item, after, state, now, hsplit, hstate, rfl, hclass, changed,
      -⟩, rfl⟩
    refine ⟨some item, by simp [hsplit], ?_⟩
    simp [putAside, hstate, changed, hclass]

end Flushes

/-! ## The log of a schedule -/

section Logs
variable {sha256 : String → String} {log : List QuarantineRow} {pending : List QuarantineRecord}

/-- No two rows have the same key. -/
def Keyed (log : List QuarantineRow) : Prop := (log.map (·.dedupKey)).Nodup

/-- What an insert leaves: the rows that were there, perhaps one of the record, and in any
case one under its key. -/
theorem quarantine_rows (keyed : Keyed log) (record : QuarantineRecord) :
    Keyed (quarantine sha256 log record) ∧
      (∀ row ∈ quarantine sha256 log record,
        row ∈ log ∨ row = ⟨record, sha256 (dedupText record)⟩) ∧
      (∀ row ∈ log, row ∈ quarantine sha256 log record) ∧
      ∃ row ∈ quarantine sha256 log record, row.dedupKey = sha256 (dedupText record) := by
  unfold quarantine
  split
  · rename_i known
    obtain ⟨row, hmem, hkey⟩ := List.any_eq_true.1 known
    exact ⟨keyed, fun row hrow => .inl hrow, fun row hrow => hrow, row, hmem,
      of_decide_eq_true hkey⟩
  · rename_i fresh
    refine ⟨?_, fun row hrow => ?_, fun row hrow => List.mem_append_left _ hrow, ?_⟩
    · rw [Keyed, List.map_append, List.map_singleton, List.nodup_append]
      refine ⟨keyed, List.pairwise_singleton _ _, fun key hkey other hother => ?_⟩
      obtain ⟨row, hrow, rfl⟩ := List.mem_map.1 hkey
      rw [List.mem_singleton.1 hother]
      exact fun same => fresh (List.any_eq_true.2 ⟨row, hrow, decide_eq_true same⟩)
    · rcases List.mem_append.1 hrow with hrow | hrow
      · exact .inl hrow
      · exact .inr (List.mem_singleton.1 hrow)
    · exact ⟨_, List.mem_append_right _ (List.mem_singleton_self _), rfl⟩

theorem writeQuarantines_rows (keyed : Keyed log) :
    Keyed (writeQuarantines sha256 log pending) ∧
      (∀ row ∈ writeQuarantines sha256 log pending,
        row ∈ log ∨ ∃ record ∈ pending, row = ⟨record, sha256 (dedupText record)⟩) ∧
      (∀ row ∈ log, row ∈ writeQuarantines sha256 log pending) ∧
      ∀ record ∈ pending,
        ∃ row ∈ writeQuarantines sha256 log pending, row.dedupKey = sha256 (dedupText record) := by
  induction pending generalizing log with
  | nil =>
    exact ⟨keyed, fun row hrow => .inl hrow, fun row hrow => hrow,
      fun record hrecord => absurd hrecord List.not_mem_nil⟩
  | cons first pending ih =>
    obtain ⟨keyed', own, kept, present⟩ := @quarantine_rows sha256 log keyed first
    obtain ⟨keyed'', own', kept', present'⟩ := ih keyed'
    refine ⟨keyed'', fun row hrow => ?_, fun row hrow => kept' row (kept row hrow),
      fun record hrecord => ?_⟩
    · rcases own' row hrow with hrow | ⟨record, hrecord, rfl⟩
      · exact (own row hrow).imp_right fun same => ⟨first, List.mem_cons_self, same⟩
      · exact .inr ⟨record, List.mem_cons_of_mem _ hrecord, rfl⟩
    · rcases List.mem_cons.1 hrecord with rfl | hrecord
      · obtain ⟨row, hrow, hkey⟩ := present
        exact ⟨row, kept' row hrow, hkey⟩
      · exact present' record hrecord

end Logs

section Schedules
variable {lib : Helpers} {sha256 : String → String} {files : List CheckpointFile}
  {record other : Record}

theorem Committed.considered (h : Committed lib sha256 files record) :
    Considered lib sha256 files record := by
  obtain ⟨before, file, after, hsplit, hrun, puts, -⟩ := h
  exact ⟨before, file, after, hsplit, hrun, puts⟩

/-- The row that `quarantine` writes for the record. -/
def Record.row (sha256 : String → String) (record : Record) : QuarantineRow :=
  ⟨record.unmapped, sha256 (dedupText record.unmapped)⟩

/-- The rows are rows of committed records, with unique keys, and every committed record
finds its key. -/
structure LogFacts (lib : Helpers) (sha256 : String → String) (files : List CheckpointFile) :
    Prop where
  keyed : Keyed (flushAll lib sha256 files).log
  own : ∀ row ∈ (flushAll lib sha256 files).log,
    ∃ record, Committed lib sha256 files record ∧ row = record.row sha256
  present : ∀ record, Committed lib sha256 files record →
    ∃ row ∈ (flushAll lib sha256 files).log, row.dedupKey = (record.row sha256).dedupKey

theorem committed_concat {file : CheckpointFile} :
    Committed lib sha256 (files ++ [file]) record ↔ Committed lib sha256 files record ∨
      nonEmptyText file.runId = some record.runId ∧
        Puts lib file record.runId ((flushAll lib sha256 files).store record.runId) record.itemId
          record.status ∧
        (projectCheckpoint lib file ((flushAll lib sha256 files).store record.runId)).isSome :=
  exists_split_concat

/-- A flush that writes no row and commits no record. -/
theorem LogFacts.unchanged {file : CheckpointFile} (facts : LogFacts lib sha256 files)
    (same : (flushAll lib sha256 (files ++ [file])).log = (flushAll lib sha256 files).log)
    (nothing : ∀ record : Record, ¬ (nonEmptyText file.runId = some record.runId ∧
      Puts lib file record.runId ((flushAll lib sha256 files).store record.runId) record.itemId
        record.status ∧
      (projectCheckpoint lib file ((flushAll lib sha256 files).store record.runId)).isSome)) :
    LogFacts lib sha256 (files ++ [file]) := by
  have committed : ∀ record : Record, Committed lib sha256 (files ++ [file]) record ↔
      Committed lib sha256 files record := by
    intro record
    rw [committed_concat, or_iff_left (nothing record)]
  constructor
  · rw [same]
    exact facts.keyed
  · intro row hrow
    rw [same] at hrow
    obtain ⟨record, hcommitted, hown⟩ := facts.own row hrow
    exact ⟨record, (committed record).2 hcommitted, hown⟩
  · intro record hrecord
    rw [same]
    exact facts.present record ((committed record).1 hrecord)

theorem log_facts (lib : Helpers) (sha256 : String → String) (files : List CheckpointFile) :
    LogFacts lib sha256 files := by
  induction files using List.reverseRecOn with
  | nil =>
    have empty : (flushAll lib sha256 []).log = [] := rfl
    refine ⟨by rw [empty]; exact List.nodup_nil, fun row hrow => ?_, fun record committed => ?_⟩
    · rw [empty] at hrow
      exact absurd hrow List.not_mem_nil
    · obtain ⟨before, file, after, hsplit, -⟩ := committed
      simp at hsplit
  | append_singleton files file ih =>
    have step : flushAll lib sha256 (files ++ [file]) =
        flushFile lib sha256 (flushAll lib sha256 files) file := by
      simp [flushAll]
    cases hrun : nonEmptyText file.runId with
    | none =>
      refine ih.unchanged (by rw [step, flushFile, hrun]) fun record h => ?_
      rw [hrun] at h
      cases h.1
    | some runId =>
      cases hproject : projectCheckpoint lib file ((flushAll lib sha256 files).store runId) with
      | none =>
        have same : (flushAll lib sha256 (files ++ [file])).log =
            (flushAll lib sha256 files).log := by
          rw [step, flushFile, hrun]
          simp only [hproject]
        refine ih.unchanged same fun record h => ?_
        obtain rfl : runId = record.runId := Option.some.inj (hrun.symm.trans h.1)
        rw [hproject] at h
        exact absurd h.2.2 Bool.false_ne_true
      | some flushed =>
        have hlog : (flushAll lib sha256 (files ++ [file])).log =
            writeQuarantines sha256 (flushAll lib sha256 files).log flushed.records := by
          rw [step, flushFile, hrun]
          simp only [hproject]
        obtain ⟨keyed, own, kept, present⟩ :=
          @writeQuarantines_rows sha256 _ flushed.records ih.keyed
        rw [← hlog] at keyed own kept present
        refine ⟨keyed, fun row hrow => ?_, fun record hrecord => ?_⟩
        · rcases own row hrow with hrow | ⟨_, hmem, rfl⟩
          · obtain ⟨record, hcommitted, hown⟩ := ih.own row hrow
            exact ⟨record, committed_concat.2 (.inl hcommitted), hown⟩
          · obtain ⟨itemId, status, puts, rfl⟩ := (mem_records hrun hproject).1 hmem
            refine ⟨⟨runId, itemId, status⟩, committed_concat.2 (.inr ⟨hrun, puts, ?_⟩), rfl⟩
            rw [hproject]
            rfl
        · rcases committed_concat.1 hrecord with hrecord | ⟨hrun', puts, -⟩
          · obtain ⟨row, hrow, hkey⟩ := ih.present record hrecord
            exact ⟨row, kept row hrow, hkey⟩
          · obtain rfl : runId = record.runId := Option.some.inj (hrun.symm.trans hrun')
            exact present _ ((mem_records hrun hproject).2 ⟨_, _, puts, rfl⟩)

theorem row_unique {log : List QuarantineRow} (keyed : Keyed log) {row row' : QuarantineRow}
    (hrow : row ∈ log) (hrow' : row' ∈ log) (same : row.dedupKey = row'.dedupKey) : row = row' :=
  List.inj_on_of_nodup_map keyed hrow hrow' same

end Schedules

/-! ## One row for each record -/

/-- Every considered record has a row of its own, and the log has no others. -/
def OneRowEach (considered : Set Record) (log : List QuarantineRow) : Prop :=
  log.Nodup ∧ ∃ row : Record → QuarantineRow, Set.BijOn row considered {r | r ∈ log} ∧
    ∀ record ∈ considered, (row record).record = record.unmapped

/-- Every considered record gets through at some time, and no two considered records agree
in status and item id, read as one text. -/
structure Distinguishable (lib : Helpers) (sha256 : String → String)
    (files : List CheckpointFile) : Prop where
  committed : ∀ record, Considered lib sha256 files record → Committed lib sha256 files record
  identity : ∀ record other, Considered lib sha256 files record →
    Considered lib sha256 files other → record.identity = other.identity → record = other

/-- For every schedule of flushes whose texts do not collide under the hash. -/
theorem one_row_each_iff (lib : Helpers) (sha256 : String → String) (files : List CheckpointFile)
    (collisionFree : ∀ record other, Considered lib sha256 files record →
      Considered lib sha256 files other →
      sha256 (dedupText record.unmapped) = sha256 (dedupText other.unmapped) →
      dedupText record.unmapped = dedupText other.unmapped) :
    OneRowEach {record | Considered lib sha256 files record} (flushAll lib sha256 files).log ↔
      Distinguishable lib sha256 files := by
  have facts := log_facts lib sha256 files
  constructor
  · rintro ⟨-, row, ⟨maps, injective, -⟩, records⟩
    have key {record : Record} (h : Considered lib sha256 files record) :
        ∃ other, Committed lib sha256 files other ∧ other.unmapped = record.unmapped ∧
          row record = record.row sha256 := by
      obtain ⟨other, committed, hrow⟩ := facts.own _ (maps h)
      have same : other.unmapped = record.unmapped := by
        rw [← records record h, hrow]
        rfl
      refine ⟨other, committed, same, ?_⟩
      rw [hrow, Record.row, Record.row, same]
    refine ⟨fun record h => ?_, fun record other h h' same => ?_⟩
    · obtain ⟨other, committed, same, hrow⟩ := key h
      obtain ⟨-, -, -, hrow'⟩ := key committed.considered
      have equal : row other = row record := by
        rw [hrow, hrow', Record.row, Record.row, same]
      exact injective committed.considered h equal ▸ committed
    · obtain ⟨-, -, -, hrow⟩ := key h
      obtain ⟨-, -, -, hrow'⟩ := key h'
      refine injective h h' (row_unique facts.keyed (maps h) (maps h') ?_)
      rw [hrow, hrow', Record.row, Record.row, dedupText_eq_iff.2 same]
  · rintro ⟨committed, identity⟩
    refine ⟨facts.keyed.of_map _, Record.row sha256, ⟨fun record h => ?_, ?_, ?_⟩,
      fun record _ => rfl⟩
    · obtain ⟨row, hrow, hkey⟩ := facts.present record (committed record h)
      obtain ⟨other, hother, rfl⟩ := facts.own row hrow
      have text := collisionFree other record hother.considered h hkey
      have same := identity other record hother.considered h (dedupText_eq_iff.1 text)
      rwa [same] at hrow
    · intro record h other h' same
      have unmapped : record.unmapped = other.unmapped := congrArg QuarantineRow.record same
      exact identity record other h h' (dedupText_eq_iff.1 (congrArg dedupText unmapped))
    · intro row hrow
      obtain ⟨record, hcommitted, rfl⟩ := facts.own row hrow
      exact ⟨record, hcommitted.considered, rfl⟩

/-! ## Two runs -/

def skippedRun (runId itemId : String) : CheckpointFile where
  runId := .text runId
  items := [some { id := .text itemId, status := .text "skipped" }]

/-- Two runs whose first items have the same id. -/
def twoRuns : List CheckpointFile :=
  [skippedRun "20260101T000000-0123abcd" "a", skippedRun "20260102T000000-0123abcd" "a"]

/-- The digest of the text that the two runs have in common. -/
def skippedSha256 (text : String) : String :=
  if text = "-\x1fcheckpoint\x1fskipped\x1fa" then
    "345da572105c7f34432f2e979f06641dfd65b6b56b884292d64ee5e87549fe79"
  else text

def firstSkipped : Record := ⟨"20260101T000000-0123abcd", "a", "skipped"⟩

def secondSkipped : Record := ⟨"20260102T000000-0123abcd", "a", "skipped"⟩

theorem dedupText_head (record : Record) :
    (dedupText record.unmapped).toList.head? = some '-' := by
  have head : checkpointPart.toList.head? = some '-' := by decide
  rw [dedupText_unmapped, String.toList_append, List.head?_append, head]
  rfl

theorem skippedSha256_collisionFree {record other : Record}
    (same : skippedSha256 (dedupText record.unmapped) = skippedSha256 (dedupText other.unmapped)) :
    dedupText record.unmapped = dedupText other.unmapped := by
  unfold skippedSha256 at same
  split at same
  · rename_i hrecord
    split at same
    · rename_i hother
      rw [hrecord, hother]
    · have head := dedupText_head other
      rw [← same] at head
      exact absurd head (by decide)
  · split at same
    · have head := dedupText_head record
      rw [same] at head
      exact absurd head (by decide)
    · exact same

theorem one_row_each_iff_twice :
    OneRowEach {record | Considered plainHelpers skippedSha256 (twoRuns ++ twoRuns) record}
        (flushAll plainHelpers skippedSha256 (twoRuns ++ twoRuns)).log ↔
      Distinguishable plainHelpers skippedSha256 (twoRuns ++ twoRuns) :=
  one_row_each_iff plainHelpers skippedSha256 (twoRuns ++ twoRuns)
    fun _ _ _ _ => skippedSha256_collisionFree

/-- The record of the second run leaves no row. -/
theorem second_run_leaves_no_row :
    Considered plainHelpers skippedSha256 twoRuns firstSkipped ∧
      Considered plainHelpers skippedSha256 twoRuns secondSkipped ∧
      (flushAll plainHelpers skippedSha256 twoRuns).log = [firstSkipped.row skippedSha256] ∧
      ¬ OneRowEach {record | Considered plainHelpers skippedSha256 twoRuns record}
        (flushAll plainHelpers skippedSha256 twoRuns).log := by
  have first : Considered plainHelpers skippedSha256 twoRuns firstSkipped :=
    ⟨[], _, _, rfl, by decide, [], _, [], _, _, rfl, rfl, rfl, by decide, by decide, rfl⟩
  have second : Considered plainHelpers skippedSha256 twoRuns secondSkipped :=
    ⟨[skippedRun "20260101T000000-0123abcd" "a"], _, [], rfl, by decide, [], _, [], _, _, rfl, rfl,
      rfl, by decide, by decide, rfl⟩
  have log : (flushAll plainHelpers skippedSha256 twoRuns).log =
      [firstSkipped.row skippedSha256] := by decide +kernel
  refine ⟨first, second, log, ?_⟩
  rintro ⟨-, row, ⟨maps, injective, -⟩, -⟩
  rw [log] at maps
  have same : row firstSkipped = row secondSkipped :=
    (List.mem_singleton.1 (maps first)).trans (List.mem_singleton.1 (maps second)).symm
  exact absurd (injective first second same) (by decide)

end BacklinkPublisher.QuarantineLog
