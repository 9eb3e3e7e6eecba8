import BacklinkPublisher.CheckpointProjection
import BacklinkPublisher.ProjectionEmit
import BacklinkPublisher.PublishLoop
import BacklinkPublisher.Reconciler

set_option autoImplicit false

/-!
# The two ways to settle an item

An open item whose key is done is settled by the reconciler's auto-fix or by the dedup
skip of a resume. The skip writes what the dedup record knows, the auto-fix writes the
status alone, and the projector makes of it an article without a URL.
-/
namespace BacklinkPublisher.SettlePaths
open EventStore DedupStore DedupGate ProjectionHelpers PublishSeams PublishLoop Reconciler

abbrev StoredItem := Checkpoints.CheckpointItem

/-! ## What the two paths write -/

def autoFixed (item : StoredItem) : StoredItem := item.update .done {}

def dedupSkipped (item : StoredItem) (liveUrl : Option String) (platform completedAt : String) :
    StoredItem :=
  item.update .done
    { publishedUrl := liveUrl
      adapter := some platform
      completedAt := some completedAt
      verified := some true }

theorem updateItem_getElem {ckpt : Checkpoints.Checkpoint} {itemId : String} {i : ℕ}
    {item : StoredItem} (hposition : ckpt.position itemId = some i)
    (hitem : ckpt.items[i]? = some item) (status : Checkpoints.ItemStatus)
    (fields : Checkpoints.ItemFields) :
    (ckpt.updateItem itemId status fields).items[i]? = some (item.update status fields) := by
  simp [Checkpoints.Checkpoint.updateItem, hposition, hitem]

section Paths
variable {ckpt : Checkpoints.Checkpoint} {i : ℕ} {item : StoredItem}

theorem autoFixCheckpoint_item (clock : PassClock) {s : PassState} {probe : CheckpointProbe}
    (n : ℕ) {k : ℕ} {mtime : ℚ} (hfile : s.dir[k]? = some ⟨ckpt, mtime⟩) (hrun : ckpt.runId = probe.runId)
    (hposition : ckpt.position probe.itemId = some i) (hitem : ckpt.items[i]? = some item) :
    (autoFixCheckpoint clock s probe n).dir[k]?.bind (·.checkpoint.items[i]?) =
      some (autoFixed item) := by
  simp only [autoFixCheckpoint, settleItem, List.getElem?_map, hfile, Option.map_some, hrun, if_true,
    Option.bind_some]
  exact updateItem_getElem hposition hitem .done {}

theorem gate_done {table : DedupTable} {key : DedupKey} {run : PublishRun} {host : Host}
    {record : DedupRecord} (hrecord : table key = some record) (done : record.state = .done) :
    gate table (some key) run host true false true = (table, ⟨.skip, some record⟩) := by
  simp [gate, gateAndClaim, hrecord, done]

theorem publishOneResumeItem_item {config : SeamConfig} (noVerify : Bool) {answers : RowAnswers}
    (state : ResumeLoopState) {stores : Stores} (itemIdx : ℕ) (runId : String) {itemId : String}
    {row : Checkpoints.PublishRow} {key : DedupKey} {record : DedupRecord}
    (current : answers.tokenDrift = none) (enforce : config.enforce = true)
    (stored : answers.gateStored = true)
    (hkey : keyForRow config.canonicalizeUrl row.targetUrl
      (platformOf stores.checkpoint.platform row) = some key)
    (hrecord : stores.table key = some record) (done : record.state = .done)
    (hposition : stores.checkpoint.position itemId = some i)
    (hitem : stores.checkpoint.items[i]? = some item) :
    (publishOneResumeItem config noVerify answers state stores itemIdx runId itemId
        row).2.1.checkpoint.items[i]? =
      some (dedupSkipped item record.liveUrl (platformOf stores.checkpoint.platform row)
        answers.completedAt) := by
  simp only [publishOneResumeItem, current, hkey, enforce, stored, gate_done hrecord done,
    Stores.updateItem, Option.bind_some]
  exact updateItem_getElem hposition hitem _ _

end Paths

/-! ## What the projector reads -/

def statusText : Checkpoints.ItemStatus → String
  | .pending => "pending"
  | .done => "done"
  | .failed => "failed"

/-- The item as the projector finds it in the file; `payload` is the item's row. -/
def itemJson (payload : CheckpointProjection.CheckpointPayload) (item : StoredItem) :
    CheckpointProjection.CheckpointItem where
  id := .text item.id
  status := .text (statusText item.status)
  publishedUrl := .ofOption item.publishedUrl
  completedAt := .ofOption item.completedAt
  title := .text item.title
  adapter := .ofOption item.adapter
  error := .ofOption item.error
  errorClass := .ofOption item.errorClass
  verified := item.verified.map fun verified => .scalar verified.toNat verified
  payload := .dict payload

/-- A flush that comes to the item in a state that its cursor does not hold. -/
def Projects (lib : Helpers) (item : CheckpointProjection.CheckpointItem)
    (r r' : CheckpointProjection.Reduction) : Prop :=
  ∃ runId startedAt prior, (∀ id state, item.state = some (id, state) → prior id ≠ some state) ∧
    CheckpointProjection.projectCheckpointItem lib runId startedAt prior r (some item) = some r'

/-- The flush leaves an event for the URL and an article under its canonical form. -/
def EmitsLink (lib : Helpers) (item : CheckpointProjection.CheckpointItem) (live : String) : Prop :=
  ∀ r r', Projects lib item r r' →
    (∃ canon, lib.canonicalizeUrl live = some canon ∧ ProjectionEmit.HasLink r'.tx.articles canon) ∧
      ∃ event, r'.tx.events = r.tx.events ++ [event] ∧ ("live_url", .text live) ∈ event.payload

/-- The flush leaves an event and an article without a URL. -/
def EmitsNameless (lib : Helpers) (item : CheckpointProjection.CheckpointItem) : Prop :=
  ∀ r r', Projects lib item r r' →
    (∃ article, r'.tx.articles = r.tx.articles ++ [article] ∧ article.columns.liveUrl = none) ∧
      ∃ event, r'.tx.events = r.tx.events ++ [event] ∧ event.payload.lookup "live_url" = some .null

section Projection
variable {lib : Helpers} {payload body : CheckpointProjection.CheckpointPayload} {item : StoredItem}
  {r r' : CheckpointProjection.Reduction} {context : CheckpointProjection.Context}
  {entry : CheckpointProjection.CheckpointItem}

theorem projects_done (hstatus : item.status = .done)
    (h : Projects lib (itemJson payload item) r r') :
    ∃ body context r₀, r₀.tx = r.tx ∧
      CheckpointProjection.handleCheckpointConfirmed lib (itemJson payload item) body context
        (Value.ofOption item.publishedUrl).orNull r₀ = some r' := by
  obtain ⟨runId, startedAt, prior, unseen, h⟩ := h
  have hstate : (itemJson payload item).state =
      some (item.id, ⟨"done", (Value.ofOption item.publishedUrl).orNull⟩) := by
    simp [CheckpointProjection.CheckpointItem.state, itemJson, statusText, hstatus]
  have changed := unseen _ _ hstate
  simp only [CheckpointProjection.projectCheckpointItem, hstate, Option.bind_eq_bind,
    Option.bind_eq_some_iff] at h
  obtain ⟨body, -, host, -, ts, -, h⟩ := h
  have hdone : classify .checkpoint "done" = .confirmedFamily := by decide
  simp only [changed, if_false, hdone] at h
  refine ⟨body, _, _, ?_, h⟩
  rfl

theorem confirmed_link {live : String} (named : live ≠ "")
    (h : CheckpointProjection.handleCheckpointConfirmed lib entry body context (.text live) r =
      some r') :
    (∃ canon, lib.canonicalizeUrl live = some canon ∧ ProjectionEmit.HasLink r'.tx.articles canon) ∧
      ∃ event, r'.tx.events = r.tx.events ++ [event] ∧ ("live_url", .text live) ∈ event.payload := by
  unfold CheckpointProjection.handleCheckpointConfirmed at h
  split at h
  case h_2 => contradiction
  rename_i ownHost liveUrl hhost hcanonical
  have htext : nonEmptyText (.text live) = some live := by
    simp [nonEmptyText, Value.asText, named]
  rw [Helpers.canonicalOf, htext] at hcanonical
  obtain ⟨canon, hcanon, rfl⟩ := Option.map_eq_some_iff.1 hcanonical
  simp only at h
  split at h
  · contradiction
  · rename_i hknown
    obtain ⟨-, known, hsame, article, hmem, hlive⟩ := Tx.addArticle_integrity.1 hknown
    obtain rfl : canon = known := by
      simpa [CheckpointProjection.confirmedColumns] using hsame
    obtain ⟨tx, happend, rfl⟩ := Option.map_eq_some_iff.1 h
    obtain ⟨_, _, rfl⟩ := Tx.append_some rfl happend
    exact ⟨⟨canon, hcanon, article, hmem, hlive⟩, _, rfl, List.mem_cons_self⟩
  · rename_i harticle
    obtain rfl := Tx.addArticle_ok harticle
    obtain ⟨tx, happend, rfl⟩ := Option.map_eq_some_iff.1 h
    obtain ⟨_, _, rfl⟩ :=
      Tx.append_some (CheckpointProjection.confirmedPayload_complete _ _ _) happend
    refine ⟨⟨canon, hcanon, _, List.mem_append_right _ (List.mem_singleton_self _), ?_⟩, _, rfl,
      List.mem_cons_self⟩
    rfl

theorem confirmed_nameless
    (h : CheckpointProjection.handleCheckpointConfirmed lib entry body context .null r = some r') :
    (∃ article, r'.tx.articles = r.tx.articles ++ [article] ∧ article.columns.liveUrl = none) ∧
      ∃ event, r'.tx.events = r.tx.events ++ [event] ∧
        event.payload.lookup "live_url" = some .null := by
  unfold CheckpointProjection.handleCheckpointConfirmed at h
  split at h
  case h_2 => contradiction
  rename_i ownHost liveUrl hhost hcanonical
  obtain rfl : none = liveUrl := Option.some.inj hcanonical
  simp only at h
  split at h
  · contradiction
  · rename_i hknown
    obtain ⟨-, known, hsame, -⟩ := Tx.addArticle_integrity.1 hknown
    contradiction
  · rename_i harticle
    obtain rfl := Tx.addArticle_ok harticle
    obtain ⟨tx, happend, rfl⟩ := Option.map_eq_some_iff.1 h
    obtain ⟨_, _, rfl⟩ :=
      Tx.append_some (CheckpointProjection.confirmedPayload_complete _ _ _) happend
    exact ⟨⟨_, rfl, rfl⟩, _, rfl, rfl⟩

theorem dedupSkipped_emits {live platform completedAt : String} (named : live ≠ "") :
    EmitsLink lib (itemJson payload (dedupSkipped item (some live) platform completedAt)) live := by
  intro r r' h
  obtain ⟨body, context, r₀, htx, h⟩ := projects_done rfl h
  have hurl : (Value.ofOption (dedupSkipped item (some live) platform completedAt).publishedUrl).orNull =
      .text live := by
    change (Value.text live).orNull = .text live
    simp [Value.orNull, Value.truthy, named]
  rw [hurl] at h
  rw [← htx]
  exact confirmed_link named h

theorem autoFixed_emits : EmitsNameless lib (itemJson payload (autoFixed item)) := by
  intro r r' h
  obtain ⟨body, context, r₀, htx, h⟩ := projects_done rfl h
  rw [← htx]
  exact confirmed_nameless h

end Projection

/-! ## Neither path is the other -/

/-- Both items carry the recorded URL, the same adapter and the same flag, and the
projector shows the URL for either. -/
structure SettledAlike (lib : Helpers) (payload : CheckpointProjection.CheckpointPayload)
    (liveUrl : Option String) (fixed resumed : StoredItem) : Prop where
  fixedUrl : fixed.publishedUrl = liveUrl
  resumedUrl : resumed.publishedUrl = liveUrl
  adapter : fixed.adapter = resumed.adapter
  verified : fixed.verified = resumed.verified
  projected : ∀ live, liveUrl = some live → live ≠ "" →
    EmitsLink lib (itemJson payload fixed) live ∧ EmitsLink lib (itemJson payload resumed) live

/-- An open item of a checkpoint whose key has a done record, and the circumstances in
which a resume comes to skip it and a pass to fix it. -/
structure Settleable (config : SeamConfig) (answers : RowAnswers) (stores : Stores) (s : PassState)
    (probe : CheckpointProbe) (k i : ℕ) (item : StoredItem) (record : DedupRecord) : Prop where
  hfile : ∃ mtime, s.dir[k]? = some ⟨stores.checkpoint, mtime⟩
  hrun : stores.checkpoint.runId = probe.runId
  hposition : stores.checkpoint.position probe.itemId = some i
  hitem : stores.checkpoint.items[i]? = some item
  hopen : isOpen item = true
  key : ∃ key, keyForRow config.canonicalizeUrl item.payload.targetUrl
      (platformOf stores.checkpoint.platform item.payload) = some key ∧
    stores.table key = some record
  done : record.state = .done
  current : answers.tokenDrift = none
  enforce : config.enforce = true
  stored : answers.gateStored = true

/-- Whatever the item held before, the two paths leave different items; the one of the
auto-fix loses the recorded URL for the projector. -/
theorem settle_paths_never_agree (lib : Helpers)
    (payload : CheckpointProjection.CheckpointPayload) (config : SeamConfig) (noVerify : Bool)
    (answers : RowAnswers) (state : ResumeLoopState) (stores : Stores) (itemIdx : ℕ)
    (clock : PassClock) (s : PassState) (probe : CheckpointProbe) (n k i : ℕ) (item : StoredItem)
    (record : DedupRecord) (h : Settleable config answers stores s probe k i item record) :
    ∃ fixed resumed,
      (autoFixCheckpoint clock s probe n).dir[k]?.bind (·.checkpoint.items[i]?) = some fixed ∧
      (publishOneResumeItem config noVerify answers state stores itemIdx probe.runId probe.itemId
        item.payload).2.1.checkpoint.items[i]? = some resumed ∧
      ¬ SettledAlike lib payload record.liveUrl fixed resumed ∧
      EmitsNameless lib (itemJson payload fixed) ∧
      ∀ live, record.liveUrl = some live → live ≠ "" →
        EmitsLink lib (itemJson payload resumed) live := by
  obtain ⟨mtime, hfile⟩ := h.hfile
  obtain ⟨key, hkey, hrecord⟩ := h.key
  have hfixed := autoFixCheckpoint_item clock n hfile h.hrun h.hposition h.hitem
  have hresumed := publishOneResumeItem_item noVerify state itemIdx probe.runId h.current h.enforce
    h.stored hkey hrecord h.done h.hposition h.hitem
  refine ⟨_, _, hfixed, hresumed, fun alike => ?_, autoFixed_emits, fun live hlive named => ?_⟩
  · exact Option.some_ne_none _ alike.adapter.symm
  · rw [hlive]
    exact dedupSkipped_emits named

/-! ## An item whose publish was recorded and whose update was lost -/

def liveUrl : String := "https://velog.io/@a/page"

def publishedKey : DedupKey := ⟨"velog", "https://example.org/page", "default"⟩

def publishedRecord : DedupRecord := ⟨.done, some true, some liveUrl, none, none, none, none, 0⟩

def lostUpdate : Stores :=
  { plainStores [plainRow "a"] with
    table := Function.update (fun _ => none) publishedKey (some publishedRecord) }

def enforcing : SeamConfig := { plainConfig with enforce := true }

def pendingItem : StoredItem := Checkpoints.createItem none (plainRow "a")

def pendingProbe : CheckpointProbe :=
  ⟨"a", "20260101T000000-0123abcd", .pending, "velog", "https://example.org/page", none,
    publishedKey⟩

def lostPass : PassState where
  dir := [⟨lostUpdate.checkpoint, 0⟩]
  log := []

def passClock : PassClock where
  age _ _ := 0
  writtenAt _ := 1

def pagePayload : CheckpointProjection.CheckpointPayload where
  targetUrl := .text "https://example.org/page"

theorem lostUpdate_settleable :
    Settleable enforcing (plainAnswers publishedOutcome) lostUpdate lostPass pendingProbe 0 0
      pendingItem publishedRecord where
  hfile := ⟨0, rfl⟩
  hrun := rfl
  hposition := by decide
  hitem := rfl
  hopen := rfl
  key := ⟨publishedKey, by decide, rfl⟩
  done := rfl
  current := rfl
  enforce := rfl
  stored := rfl

theorem settle_paths_never_agree_lost :
    ∃ fixed resumed,
      (autoFixCheckpoint passClock lostPass pendingProbe 0).dir[0]?.bind
        (·.checkpoint.items[0]?) = some fixed ∧
      (publishOneResumeItem enforcing false (plainAnswers publishedOutcome) {} lostUpdate 0
        pendingProbe.runId pendingProbe.itemId pendingItem.payload).2.1.checkpoint.items[0]? =
          some resumed ∧
      ¬ SettledAlike plainHelpers pagePayload publishedRecord.liveUrl fixed resumed ∧
      EmitsNameless plainHelpers (itemJson pagePayload fixed) ∧
      ∀ live, publishedRecord.liveUrl = some live → live ≠ "" →
        EmitsLink plainHelpers (itemJson pagePayload resumed) live :=
  settle_paths_never_agree plainHelpers pagePayload enforcing false (plainAnswers publishedOutcome)
    {} lostUpdate 0 passClock lostPass pendingProbe 0 0 0 pendingItem publishedRecord
    lostUpdate_settleable

/-- The auto-fix forgets URL and adapter of a post that the skip records. -/
theorem auto_fix_forgets_post :
    Settleable enforcing (plainAnswers publishedOutcome) lostUpdate lostPass pendingProbe 0 0
        pendingItem publishedRecord ∧
      (autoFixCheckpoint passClock lostPass pendingProbe 0).dir[0]?.bind
        (·.checkpoint.items[0]?) = some { pendingItem with status := .done } ∧
      (publishOneResumeItem enforcing false (plainAnswers publishedOutcome) {} lostUpdate 0
        pendingProbe.runId pendingProbe.itemId pendingItem.payload).2.1.checkpoint.items[0]? =
          some { pendingItem with
            status := .done
            publishedUrl := some liveUrl
            adapter := some "velog"
            completedAt := some "2026-01-01T00:00:01+00:00"
            verified := some true } ∧
      ¬ SettledAlike plainHelpers pagePayload (some liveUrl) { pendingItem with status := .done }
        { pendingItem with
          status := .done
          publishedUrl := some liveUrl
          adapter := some "velog"
          completedAt := some "2026-01-01T00:00:01+00:00"
          verified := some true } := by
  refine ⟨lostUpdate_settleable, by decide, by decide, fun alike => ?_⟩
  exact Option.some_ne_none _ alike.fixedUrl.symm

end BacklinkPublisher.SettlePaths
