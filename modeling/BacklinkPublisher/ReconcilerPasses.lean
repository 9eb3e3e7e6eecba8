import BacklinkPublisher.Reconciler

set_option autoImplicit false

/-!
# What a reconciler pass settles

A quarantined URL is skipped before the dedup store is asked about it, so the
auto-clear never comes to see it. The exact condition for an item that the dedup
store says is done to be settled by a pass.
-/
namespace BacklinkPublisher.ReconcilerPasses
open Checkpoints DedupStore TransitionSystems Reconciler

section Runs
variable {canonicalizeUrl : String → Option String}

theorem step_wellKeyed {w w' : World} {activity : Activity} (keyed : WellKeyed w.log)
    (admitted : Admitted w activity) (h : step canonicalizeUrl w activity = some w') :
    WellKeyed w'.log := by
  cases activity with
  | reconcile clock =>
    obtain rfl := Option.some.inj h
    change WellKeyed (reconcileCheckpoints canonicalizeUrl clock w).log
    exact crossReferences_wellKeyed keyed
  | park source =>
    obtain rfl := Option.some.inj h
    exact keyed.quarantine fun canon hsource => absurd hsource (admitted canon)
  | release source =>
    obtain rfl := Option.some.inj h
    exact keyed.sublist fun row hmem => (List.mem_filter.1 hmem).1
  | record source hash =>
    obtain rfl := Option.some.inj h
    change WellKeyed (recordQuarantine w.log _)
    unfold recordQuarantine
    split
    · exact keyed
    · exact keyed.concat fun canon hsource => absurd hsource (admitted canon)
  | work dir table =>
    obtain rfl := Option.some.inj h
    exact keyed

theorem reaches_wellKeyed {dir : List RunFile} {table : DedupTable} {w : World}
    (h : Reaches (step canonicalizeUrl) Admitted (World.start dir table) w) : WellKeyed w.log :=
  h.invariant (I := fun w => WellKeyed w.log) (by simp [WellKeyed, World.start])
    fun _ _ _ keyed admitted hstep => step_wellKeyed keyed admitted hstep

end Runs

def Done (table : DedupTable) (key : DedupKey) : Prop :=
  ∃ record, table key = some record ∧ record.state = .done

/-- An open item with a platform and a canonical URL whose own key is done. -/
structure Owed (canonicalizeUrl : String → Option String) (w : World) (k i : ℕ) (file : RunFile)
    (item : CheckpointItem) (canon : String) : Prop where
  hfile : w.dir[k]? = some file
  hitem : file.checkpoint.items[i]? = some item
  hopen : isOpen item = true
  platform : item.platform ≠ ""
  canonical : canonicalUrl canonicalizeUrl item = some canon
  done : Done w.table ⟨item.platform, canon, "default"⟩

/-- An open item that the pass turns into an update to `done`. The dedup store is asked
about the canonical form of the canonical URL. -/
structure Settling (canonicalizeUrl : String → Option String) (w : World) (item : CheckpointItem)
    (canon : String) (key : DedupKey) : Prop where
  hopen : isOpen item = true
  platform : item.platform ≠ ""
  canonical : canonicalUrl canonicalizeUrl item = some canon
  unquarantined : ¬ Quarantined w.log canon
  hkey : DedupKey.make canonicalizeUrl item.platform canon "default" = some key
  done : Done w.table key

/-- When a pass settles the i-th item of a file. The item that `reached` speaks of is in
the ordinary case that item itself; `last` says that no stale gap of the URL, left by an
item for another platform, has the last word. -/
structure Reconcilable (canonicalizeUrl : String → Option String) (clock : PassClock) (w : World)
    (file : RunFile) (i : ℕ) (canon : String) : Prop where
  unquarantined : ¬ Quarantined w.log canon
  reached : ∃ run ∈ listAllRuns w.dir, run.checkpoint.runId = file.checkpoint.runId ∧
    ∃ item ∈ run.checkpoint.items, (∃ url key, Settling canonicalizeUrl w item url key) ∧
      file.checkpoint.position item.id = some i
  last : ∀ before entry after,
    (pendingProbes canonicalizeUrl w).zipIdx = before ++ entry :: after → entry.1.canon = canon →
    ¬ Done w.table entry.1.key → isStaleGap clock entry.1 entry.2 = true →
    ∃ later ∈ after, later.1.canon = canon ∧ Done w.table later.1.key

section Passes
variable {canonicalizeUrl : String → Option String} {w : World}

theorem isConfirmed_iff {probe : CheckpointProbe} (h : probe ∈ pendingProbes canonicalizeUrl w) :
    isConfirmed (getMany w.table ((pendingProbes canonicalizeUrl w).map (·.key))) probe = true ↔
      Done w.table probe.key := by
  have hkey : probe.key ∈ (pendingProbes canonicalizeUrl w).map (·.key) :=
    List.mem_map_of_mem h
  rw [isConfirmed, lookup_getMany hkey]
  simp [Done, Option.any_eq_true]

theorem mem_of_mem_zipIdx {α : Type} {as : List α} {entry : α × ℕ} (h : entry ∈ as.zipIdx) :
    entry.1 ∈ as := by
  have hmem := List.mem_map_of_mem (f := Prod.fst) h
  rwa [List.zipIdx_map_fst] at hmem

theorem mem_zipIdx_of_mem {α : Type} {as : List α} {a : α} (h : a ∈ as) :
    ∃ n, (a, n) ∈ as.zipIdx := by
  rw [← List.zipIdx_map_fst 0 as] at h
  obtain ⟨⟨_, n⟩, hmem, rfl⟩ := List.mem_map.1 h
  exact ⟨n, hmem⟩

theorem mem_reconcilerQuarantineSet {log : List QuarantineRow} {canon : String}
    (nonempty : canon ≠ "") : canon ∈ reconcilerQuarantineSet log ↔ Quarantined log canon := by
  simp only [reconcilerQuarantineSet, List.mem_filterMap, Quarantined, Option.filter_eq_some_iff]
  exact exists_congr fun row => and_congr_right fun _ => and_iff_left (by simpa using nonempty)

theorem canonicalUrl_nonempty (nonempty : ∀ url, url ≠ "" → canonicalizeUrl url ≠ some "")
    {item : CheckpointItem} {canon : String} (h : canonicalUrl canonicalizeUrl item = some canon) :
    canon ≠ "" := by
  obtain ⟨url, htruthy, hurl⟩ := Option.bind_eq_some_iff.1 h
  have hurl' : url ≠ "" := by simpa using (Option.filter_eq_some_iff.1 htruthy).2
  rintro rfl
  exact nonempty url hurl' hurl

/-- The probe that pass 1 makes of an item. -/
def probeOf (runId : String) (item : CheckpointItem) (canon : String) (key : DedupKey) :
    CheckpointProbe :=
  ⟨item.id, runId, item.status, item.platform, canon,
    (truthy item.completedAt).or (truthy item.createdAt), key⟩

theorem resolveCheckpointProbe_probe {skipSet : List String} {runId : String}
    {item : CheckpointItem} {probe : CheckpointProbe} :
    (resolveCheckpointProbe canonicalizeUrl skipSet runId item).toProbe = some probe ↔
      ∃ canon key, canonicalUrl canonicalizeUrl item = some canon ∧ item.platform ≠ "" ∧
        canon ∉ skipSet ∧
        DedupKey.make canonicalizeUrl item.platform canon "default" = some key ∧
        probe = probeOf runId item canon key := by
  unfold resolveCheckpointProbe
  cases canonicalUrl canonicalizeUrl item with
  | none => simp [Resolution.toProbe]
  | some canon =>
    by_cases hplatform : item.platform = ""
    · simp [hplatform, Resolution.toProbe]
    by_cases hskip : canon ∈ skipSet
    · simp [hplatform, hskip, Resolution.toProbe]
    cases hkey : DedupKey.make canonicalizeUrl item.platform canon "default" with
    | none => simp [hplatform, hskip, hkey, Resolution.toProbe]
    | some key =>
      simp [hplatform, hskip, hkey, Resolution.toProbe, probeOf, eq_comm]

theorem mem_pendingProbes (nonempty : ∀ url, url ≠ "" → canonicalizeUrl url ≠ some "")
    {probe : CheckpointProbe} :
    probe ∈ pendingProbes canonicalizeUrl w ↔
      ∃ run ∈ listAllRuns w.dir, ∃ item ∈ run.checkpoint.items, isOpen item = true ∧
        ∃ canon key, canonicalUrl canonicalizeUrl item = some canon ∧ item.platform ≠ "" ∧
          ¬ Quarantined w.log canon ∧
          DedupKey.make canonicalizeUrl item.platform canon "default" = some key ∧
          probe = probeOf run.checkpoint.runId item canon key := by
  simp only [pendingProbes, resolutions, List.mem_filterMap, List.mem_map, listFailedItems,
    List.mem_flatMap, List.mem_filter]
  constructor
  · rintro ⟨_, ⟨_, ⟨run, hrun, item, ⟨hitem, hopen⟩, rfl⟩, rfl⟩, hprobe⟩
    obtain ⟨canon, key, hcanon, hplatform, hskip, hkey, rfl⟩ :=
      resolveCheckpointProbe_probe.1 hprobe
    rw [mem_reconcilerQuarantineSet (canonicalUrl_nonempty nonempty hcanon)] at hskip
    exact ⟨run, hrun, item, hitem, hopen, canon, key, hcanon, hplatform, hskip, hkey, rfl⟩
  · rintro ⟨run, hrun, item, hitem, hopen, canon, key, hcanon, hplatform, hskip, hkey, rfl⟩
    rw [← mem_reconcilerQuarantineSet (canonicalUrl_nonempty nonempty hcanon)] at hskip
    exact ⟨_, ⟨_, ⟨run, hrun, item, ⟨hitem, hopen⟩, rfl⟩, rfl⟩,
      resolveCheckpointProbe_probe.2 ⟨canon, key, hcanon, hplatform, hskip, hkey, rfl⟩⟩

theorem unquarantined_of_mem (nonempty : ∀ url, url ≠ "" → canonicalizeUrl url ≠ some "")
    {probe : CheckpointProbe} (h : probe ∈ pendingProbes canonicalizeUrl w) :
    ¬ Quarantined w.log probe.canon := by
  obtain ⟨_, -, _, -, -, _, _, -, -, unquarantined, -, rfl⟩ := (mem_pendingProbes nonempty).1 h
  exact unquarantined

/-- A confirmed probe hits the item exactly where the directory and the stores say so. -/
theorem exists_settling_iff (nonempty : ∀ url, url ≠ "" → canonicalizeUrl url ≠ some "") {k i : ℕ}
    {file : RunFile} (hfile : w.dir[k]? = some file) :
    (∃ probe ∈ pendingProbes canonicalizeUrl w, Done w.table probe.key ∧ Hits w.dir k i probe) ↔
      ∃ run ∈ listAllRuns w.dir, run.checkpoint.runId = file.checkpoint.runId ∧
        ∃ item ∈ run.checkpoint.items, (∃ url key, Settling canonicalizeUrl w item url key) ∧
          file.checkpoint.position item.id = some i := by
  constructor
  · rintro ⟨_, hprobe, hdone, target, htarget, hrunId, hposition⟩
    obtain rfl : file = target := Option.some.inj (hfile.symm.trans htarget)
    obtain ⟨run, hrun, item, hitem, hopen, canon, key, hcanon, hplatform, unquarantined, hkey, rfl⟩ :=
      (mem_pendingProbes nonempty).1 hprobe
    exact ⟨run, hrun, hrunId.symm, item, hitem,
      ⟨canon, key, hopen, hplatform, hcanon, unquarantined, hkey, hdone⟩, hposition⟩
  · rintro ⟨run, hrun, hrunId, item, hitem, ⟨canon, key, settling⟩, hposition⟩
    exact ⟨probeOf run.checkpoint.runId item canon key,
      (mem_pendingProbes nonempty).2 ⟨run, hrun, item, hitem, settling.hopen, canon, key,
        settling.canonical, settling.platform, settling.unquarantined, settling.hkey, rfl⟩,
      settling.done, file, hfile, hrunId.symm, hposition⟩

theorem isConfirmed_zipIdx_iff {entry : CheckpointProbe × ℕ}
    (h : entry ∈ (pendingProbes canonicalizeUrl w).zipIdx) :
    isConfirmed (getMany w.table ((pendingProbes canonicalizeUrl w).map (·.key))) entry.1 = true ↔
      Done w.table entry.1.key :=
  isConfirmed_iff (mem_of_mem_zipIdx h)

theorem reconcile_status {clock : PassClock} {k i : ℕ}
    (undone : statusAt w.dir k i ≠ some .done) :
    statusAt (reconcileCheckpoints canonicalizeUrl clock w).dir k i = some .done ↔
      ∃ probe ∈ pendingProbes canonicalizeUrl w, Done w.table probe.key ∧ Hits w.dir k i probe := by
  refine (pass_status.trans (or_iff_right undone)).trans ⟨?_, ?_⟩
  · rintro ⟨entry, hentry, hconfirmed, hits⟩
    exact ⟨entry.1, mem_of_mem_zipIdx hentry, (isConfirmed_zipIdx_iff hentry).1 hconfirmed, hits⟩
  · rintro ⟨probe, hprobe, hdone, hits⟩
    obtain ⟨n, hn⟩ := mem_zipIdx_of_mem hprobe
    exact ⟨(probe, n), hn, (isConfirmed_zipIdx_iff hn).2 hdone, hits⟩

/-- A gap from before the pass stays, and a stale probe without a done record leaves one
unless a later probe of its URL has a done record. -/
theorem reconcile_quarantined (nonempty : ∀ url, url ≠ "" → canonicalizeUrl url ≠ some "")
    (keyed : WellKeyed w.log) {clock : PassClock} {canon : String} :
    Quarantined (reconcileCheckpoints canonicalizeUrl clock w).log canon ↔
      Quarantined w.log canon ∨
        ∃ before entry after, (pendingProbes canonicalizeUrl w).zipIdx = before ++ entry :: after ∧
          entry.1.canon = canon ∧ ¬ Done w.table entry.1.key ∧
          isStaleGap clock entry.1 entry.2 = true ∧
          ∀ later ∈ after, later.1.canon = canon → ¬ Done w.table later.1.key := by
  refine (pass_quarantined keyed canon).trans (or_congr ?_ ?_)
  · refine and_iff_left_of_imp fun quarantined entry hentry hclears => ?_
    have unquarantined := unquarantined_of_mem nonempty (mem_of_mem_zipIdx hentry)
    exact unquarantined (hclears.1 ▸ quarantined)
  · refine exists_congr fun before => exists_congr fun entry => exists_congr fun after =>
      and_congr_right fun hsplit => ?_
    have hentry : entry ∈ (pendingProbes canonicalizeUrl w).zipIdx := by simp [hsplit]
    rw [LeavesGap, ← Bool.not_eq_true, isConfirmed_zipIdx_iff hentry, and_assoc, and_assoc]
    refine and_congr_right fun _ => and_congr_right fun _ => and_congr_right fun _ => ?_
    refine forall₂_congr fun later hlater => ?_
    have hlater' : later ∈ (pendingProbes canonicalizeUrl w).zipIdx := by simp [hsplit, hlater]
    rw [Clears, isConfirmed_zipIdx_iff hlater', not_and]

end Passes

/-- From any state that passes, projections and work lead to, a pass settles an item that
the dedup store says is done exactly where it is reconcilable. -/
theorem owed_item_settled_iff (canonicalizeUrl : String → Option String)
    (nonempty : ∀ url, url ≠ "" → canonicalizeUrl url ≠ some "") (dir : List RunFile)
    (table : DedupTable) (w : World)
    (run : Reaches (step canonicalizeUrl) Admitted (World.start dir table) w)
    (clock : PassClock) (k i : ℕ) (file : RunFile) (item : CheckpointItem) (canon : String)
    (owed : Owed canonicalizeUrl w k i file item canon) :
    (statusAt (reconcileCheckpoints canonicalizeUrl clock w).dir k i = some .done ∧
        ¬ Quarantined (reconcileCheckpoints canonicalizeUrl clock w).log canon) ↔
      Reconcilable canonicalizeUrl clock w file i canon := by
  have undone : statusAt w.dir k i ≠ some .done := by
    have hopen := owed.hopen
    simp only [statusAt, owed.hfile, Option.bind_some, Checkpoint.outcomes, List.getElem?_map,
      owed.hitem, Option.map_some]
    intro done
    rw [isOpen, Option.some.inj done] at hopen
    simp at hopen
  rw [reconcile_status undone, exists_settling_iff nonempty owed.hfile,
    reconcile_quarantined nonempty (reaches_wellKeyed run), not_or]
  constructor
  · rintro ⟨hsettling, unquarantined, hgap⟩
    refine ⟨unquarantined, hsettling, fun before entry after hsplit hcanon hdone hstale => ?_⟩
    by_contra none_later
    push Not at none_later
    exact hgap ⟨before, entry, after, hsplit, hcanon, hdone, hstale, none_later⟩
  · rintro ⟨unquarantined, hsettling, last⟩
    refine ⟨hsettling, unquarantined, ?_⟩
    rintro ⟨before, entry, after, hsplit, hcanon, hdone, hstale, none_later⟩
    obtain ⟨later, hlater, hcanon', hdone'⟩ := last before entry after hsplit hcanon hdone hstale
    exact none_later later hlater hcanon' hdone'

/-! ## A gap that outlives its cause -/

def pageUrl : String := "https://example.org/page"

def failedItem (id platform : String) : CheckpointItem where
  id := id
  status := .failed
  title := ""
  platform := platform
  completedAt := some "2026-01-01T00:00:00+00:00"
  payload := { id := id, targetUrl := some pageUrl }

def failedRun (items : List CheckpointItem) : RunFile where
  checkpoint := {
    runId := "20260101T000000-0123abcd"
    startedAt := "2026-01-01T00:00:00+00:00"
    platform := none
    mode := "draft"
    status := none
    items := items
    idToIndex := indexOfIds (items.map (·.id))
    skipPublishTimeCheck := false }
  mtime := 0

def lateClock : PassClock where
  age _ _ := 100000
  writtenAt _ := 1

def pageDone : DedupTable :=
  Function.update (fun _ => none) ⟨"medium", pageUrl, "default"⟩
    (some ⟨.done, some true, some "https://medium.com/p/1", none, none, none, none, 0⟩)

def mediumDir : List RunFile := [failedRun [failedItem "a" "medium"]]

/-- The gap is recorded while the store has no record; then the record is settled. -/
def gapThenDone : List Activity := [.reconcile lateClock, .work mediumDir pageDone]

def afterGap : World :=
  final (step some) (fun _ _ => true) (World.start mediumDir fun _ => none) gapThenDone

/-- One item's record is done, an item for another platform has none. -/
def twoPlatforms : World :=
  World.start [failedRun [failedItem "a" "medium", failedItem "b" "devto"]] pageDone

theorem owed_page {w : World} {items : List CheckpointItem} (hdir : w.dir = [failedRun items])
    (hitem : items[0]? = some (failedItem "a" "medium")) (htable : w.table = pageDone) :
    Owed some w 0 0 (failedRun items) (failedItem "a" "medium") pageUrl where
  hfile := by simp [hdir]
  hitem := hitem
  hopen := rfl
  platform := by decide
  canonical := by decide
  done := ⟨_, by rw [htable]; exact Function.update_self .., rfl⟩

theorem owed_item_settled_iff_plain :
    (statusAt (reconcileCheckpoints some lateClock twoPlatforms).dir 0 0 = some .done ∧
        ¬ Quarantined (reconcileCheckpoints some lateClock twoPlatforms).log pageUrl) ↔
      Reconcilable some lateClock twoPlatforms
        (failedRun [failedItem "a" "medium", failedItem "b" "devto"]) 0 pageUrl :=
  owed_item_settled_iff some (fun _ nonempty => by simpa using nonempty)
    [failedRun [failedItem "a" "medium", failedItem "b" "devto"]] pageDone twoPlatforms .refl
    lateClock 0 0 _ _ pageUrl (owed_page rfl rfl rfl)

/-- The run of passes that leaves an item unsettled which the store says is done, and the
single pass that settles the item and leaves the gap. -/
theorem owed_item_left_open :
    (Reaches (step some) Admitted (World.start mediumDir fun _ => none) afterGap ∧
        (∃ file item, Owed some afterGap 0 0 file item pageUrl) ∧
        statusAt (reconcileCheckpoints some lateClock afterGap).dir 0 0 = some .failed ∧
        Quarantined (reconcileCheckpoints some lateClock afterGap).log pageUrl) ∧
      (∃ file item, Owed some twoPlatforms 0 0 file item pageUrl) ∧
      Quarantined (reconcileCheckpoints some lateClock twoPlatforms).log pageUrl := by
  have run : Reaches (step some) Admitted (World.start mediumDir fun _ => none) afterGap := by
    refine .tail (.single ⟨.reconcile lateClock, trivial, rfl⟩) ?_
    exact ⟨.work mediumDir pageDone, trivial, rfl⟩
  refine ⟨⟨run, ⟨_, _, owed_page rfl rfl rfl⟩, by decide +kernel, ?_⟩,
    ⟨_, _, owed_page rfl rfl rfl⟩, ?_⟩ <;>
  · unfold Quarantined
    decide +kernel

end BacklinkPublisher.ReconcilerPasses
