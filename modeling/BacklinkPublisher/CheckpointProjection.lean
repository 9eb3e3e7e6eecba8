import BacklinkPublisher.Checkpoints
import BacklinkPublisher.ProjectionHelpers

set_option autoImplicit false

/-!
# The checkpoint reducer

`_project_checkpoint` of `events/_project_reducers.py`. `none` is a reducer that
raises: its transaction rolls back.
-/
namespace BacklinkPublisher.CheckpointProjection
open EventStore OptionFolds ProjectionHelpers

structure CheckpointPayload where
  targetUrl : Value := .null
  contentMarkdown : Value := .null
  lang : Value := .null
  links : List Link := []
  deriving DecidableEq, Repr

/-- `item.get("payload") or {}`: an object, something falsy, or something that
has no `get`. -/
inductive PayloadField where
  | dict (payload : CheckpointPayload)
  | falsy
  | other
  deriving DecidableEq, Repr

def PayloadField.orEmpty : PayloadField → Option CheckpointPayload
  | .dict payload => some payload
  | .falsy => some {}
  | .other => none

/-- An item of the file; a missing key is `null`, except where the code tells the
two apart. -/
structure CheckpointItem where
  id : Value
  status : Value
  publishedUrl : Value := .null
  completedAt : Value := .null
  title : Value := .null
  adapter : Value := .null
  error : Value := .null
  errorClass : Value := .null
  verified : Option Value := none
  payload : PayloadField := .falsy
  deriving DecidableEq, Repr

/-- A checkpoint file that is a JSON object; an item is `none` where it is not one. -/
structure CheckpointFile where
  runId : Value
  startedAt : Value := .null
  items : List (Option CheckpointItem)

structure ItemState where
  status : String
  publishedUrl : Value
  deriving DecidableEq, Repr

/-- The state of a flush between two items. `seen` is `seen_intent_or_failed`
without the run id, which is the same for the whole file. -/
structure Reduction where
  tx : Tx
  next : String → Option ItemState := fun _ => none
  seen : List (String × EventKind) := []
  result : ProjectionResult := {}

structure Context where
  runId : String
  targetUrl : Value
  host : Option String
  ts : Option String × Option String

def checkpointEventTimestamp (lib : Helpers) (completedAt startedAt : Value) :
    Option (Option String × Option String) :=
  match (nonEmptyText completedAt).bind lib.splitIsoWithOffset with
  | some (raw, utc) => some (some raw, some utc)
  | none =>
    match startedAt.orNull with
    | .text s =>
      match lib.splitIsoWithOffset s with
      | some (raw, utc) => some (some raw, some utc)
      | none => some (none, none)
    | .null => some (none, none)
    | _ => none

def extractAnchors (links : List Link) : List Link :=
  links.filter fun link =>
    (link.kind = .text "main_domain" || link.kind = .text "target") && link.anchor.truthy

/-- `target_url or ""`, the part of the dedup key that varies within a file. -/
def targetText (targetUrl : Value) : String := targetUrl.asText.getD ""

def intentPayload (item : CheckpointItem) (targetUrl : Value) : Payload :=
  [("target_url", targetUrl), ("title", item.title), ("platform", item.adapter)]

def handleCheckpointIntent (lib : Helpers) (item : CheckpointItem) (context : Context)
    (prior : Option ItemState) (r : Reduction) : Option Reduction :=
  if prior.isSome then some r
  else
    let dedupKey := (targetText context.targetUrl, EventKind.publishIntent)
    if dedupKey ∈ r.seen then some r
    else
      (r.tx.append lib.clock .publishIntent (intentPayload item context.targetUrl)
        (some context.runId) context.targetUrl context.host none context.ts true).map fun tx =>
          { r with
            tx := tx
            seen := dedupKey :: r.seen
            result := { r.result with eventsInserted := r.result.eventsInserted + 1 } }

def confirmedColumns (lib : Helpers) (item : CheckpointItem) (payload : CheckpointPayload)
    (context : Context) (liveUrl liveHost : Option String) : ArticleColumns :=
  let published := (nonEmptyText item.completedAt).map fun s => (s, lib.splitIsoWithOffset s)
  { anchors := extractAnchors payload.links
    targetUrls := if context.targetUrl.truthy then [context.targetUrl] else []
    host := liveHost
    liveUrl := liveUrl
    body := payload.contentMarkdown
    runId := some context.runId
    lang := nonEmptyText payload.lang
    publishedAtRaw := published.map fun p => (p.2.map Prod.fst).getD p.1
    publishedAtUtc := published.bind fun p => p.2.map Prod.snd }

def confirmedPayload (item : CheckpointItem) (publishedUrl targetUrl : Value)
    (liveUrl : Option String) : Payload :=
  [("live_url", publishedUrl), ("target_url", targetUrl),
    ("live_url_canonical", .ofOption liveUrl), ("platform", item.adapter)]

/-- A missing `verified` counts as true. -/
def confirmedKind (item : CheckpointItem) : EventKind :=
  if item.verified.all Value.truthy then .publishConfirmed else .publishUnverified

def handleCheckpointConfirmed (lib : Helpers) (item : CheckpointItem) (payload : CheckpointPayload)
    (context : Context) (publishedUrl : Value) (r : Reduction) : Option Reduction :=
  match lib.hostOf publishedUrl, lib.canonicalOf publishedUrl with
  | some ownHost, some liveUrl =>
    let liveHost := ownHost.or context.host
    match r.tx.addArticle (confirmedColumns lib item payload context liveUrl liveHost) with
    | .error .binding => none
    | .error .integrity =>
      (r.tx.append lib.clock .reconcileSwallowed
        [("live_url", publishedUrl), ("target_url", context.targetUrl)] (some context.runId)
        context.targetUrl liveHost none context.ts false).map fun tx =>
          { r with
            tx := tx
            result := { r.result with eventsInserted := r.result.eventsInserted + 1 } }
    | .ok (articleId, tx) =>
      (tx.append lib.clock (confirmedKind item)
        (confirmedPayload item publishedUrl context.targetUrl liveUrl) (some context.runId)
        context.targetUrl liveHost (some articleId) context.ts true).map fun tx =>
          { r with
            tx := tx
            result := { r.result with
              eventsInserted := r.result.eventsInserted + 1
              articlesInserted := r.result.articlesInserted + 1 } }
  | _, _ => none

def failedPayload (item : CheckpointItem) (cleaned : String) (hits : Value) : Payload :=
  [("error_class", item.errorClass), ("error_message_clean", .text cleaned),
    ("scrub_hits", hits), ("platform", item.adapter)]

def handleCheckpointFailed (lib : Helpers) (item : CheckpointItem) (context : Context)
    (r : Reduction) : Option Reduction :=
  -- a policy skip is recorded where it is decided, as a reliability decision
  if item.errorClass = .text Checkpoints.policySkip then some r
  else
    let dedupKey := (targetText context.targetUrl, EventKind.publishFailed)
    if dedupKey ∈ r.seen then some r
    else
      (lib.scrubError item.error).bind fun (cleaned, hits) =>
        (r.tx.append lib.clock .publishFailed (failedPayload item cleaned hits)
          (some context.runId) context.targetUrl context.host none context.ts true).map fun tx =>
            { r with
              tx := tx
              seen := dedupKey :: r.seen
              result := { r.result with eventsInserted := r.result.eventsInserted + 1 } }

def unmappedRecord (id status : String) : QuarantineRecord where
  reason := "unmapped_status: checkpoint/" ++ status
  failureType := "unmapped_status"
  source := "checkpoint"
  runId := some ""
  sourceStatus := some status
  recordIdentity := some id

/-- Id and cursor state of an item that the reducer considers. -/
def CheckpointItem.state (item : CheckpointItem) : Option (String × ItemState) :=
  match item.id, item.status with
  | .text id, .text status => some (id, ⟨status, item.publishedUrl.orNull⟩)
  | _, _ => none

/-- The body of the loop of `_project_checkpoint`. -/
def projectCheckpointItem (lib : Helpers) (runId : String) (startedAt : Value)
    (prior : String → Option ItemState) (r : Reduction) (entry : Option CheckpointItem) :
    Option Reduction :=
  match entry with
  | none => some r
  | some item =>
    match item.state with
    | none => some r
    | some (id, state) => do
      let payload ← item.payload.orEmpty
      let targetUrl := payload.targetUrl.orNull
      let host ← lib.hostOf targetUrl
      let ts ← checkpointEventTimestamp lib item.completedAt startedAt
      let context : Context := ⟨runId, targetUrl, host, ts⟩
      let r := { r with
        next := Function.update r.next id (some state)
        result := { r.result with recordsConsidered := r.result.recordsConsidered + 1 } }
      if prior id = some state then some r
      else
        match classify .checkpoint state.status with
        | .kind .publishIntent => handleCheckpointIntent lib item context (prior id) r
        | .confirmedFamily => handleCheckpointConfirmed lib item payload context state.publishedUrl r
        | .kind .publishFailed => handleCheckpointFailed lib item context r
        | .noEmit => some r
        | _ =>
          some { r with
            tx := { r.tx with pending := r.tx.pending ++ [unmappedRecord id state.status] } }

abbrev ItemCursor := String → Option ItemState

def projectCheckpoint (lib : Helpers) (file : CheckpointFile) (store : ProjectedStore ItemCursor) :
    Option (Flushed ItemCursor) :=
  match nonEmptyText file.runId with
  | none => none
  | some runId =>
    (file.items.foldlM (projectCheckpointItem lib runId file.startedAt store.cursor)
      { tx := store.begin }).map fun r => finish r.tx r.next r.result

/-! ## What one item does -/

/-- What the reducer has to do for an item, given what the cursor holds of its id. -/
inductive Role where
  | silent
  | due (kind : EventKind)
  | confirmed
  deriving DecidableEq, Repr

def CheckpointItem.role (item : CheckpointItem) (prior : Option ItemState) (state : ItemState) :
    Role :=
  if prior = some state then .silent
  else if state.status = "pending" then
    if prior.isSome then .silent else .due .publishIntent
  else if state.status = "done" ∨ state.status = "succeeded" then .confirmed
  else if state.status = "failed" then
    if item.errorClass = .text Checkpoints.policySkip then .silent else .due .publishFailed
  else .silent

/-- `target_url` as the loop passes it on. -/
def CheckpointItem.targetUrl (item : CheckpointItem) : Value :=
  (item.payload.orEmpty.getD {}).targetUrl.orNull

structure Reports (event : Event) (kind : EventKind) (runId : String) (targetUrl : Value) :
    Prop where
  kind : event.kind = kind
  run : event.runId = some runId
  target : event.targetUrl = targetUrl

/-- The dedup key of the flush either was there, or comes in with the event of the
item itself. -/
def ReportedOnce (kind : EventKind) (runId : String) (item : CheckpointItem) (r r' : Reduction) :
    Prop :=
  ((targetText item.targetUrl, kind) ∈ r.seen ∧ r'.tx.tables = r.tx.tables ∧ r'.seen = r.seen) ∨
    ((targetText item.targetUrl, kind) ∉ r.seen ∧
      ∃ event, Reports event kind runId item.targetUrl ∧
        ("platform", item.adapter) ∈ event.payload ∧
        r'.tx.tables = (r.tx.events ++ [event], r.tx.articles) ∧
        r'.seen = (targetText item.targetUrl, kind) :: r.seen)

def RoleEffect (runId : String) (item : CheckpointItem) (r r' : Reduction) : Role → Prop
  | .silent => r'.tx.tables = r.tx.tables ∧ r'.seen = r.seen
  | .due kind => ReportedOnce kind runId item r r'
  | .confirmed => Extends r.tx.tables r'.tx.tables ∧ r'.tx.tables ≠ r.tx.tables ∧ r'.seen = r.seen

section Effects
variable {lib : Helpers} {item : CheckpointItem} {context : Context} {r r' : Reduction}

theorem handleCheckpointIntent_effect (own : context.targetUrl = item.targetUrl)
    (h : handleCheckpointIntent lib item context none r = some r') :
    ReportedOnce .publishIntent context.runId item r r' ∧ r'.next = r.next := by
  simp only [handleCheckpointIntent, Option.isSome_none, own] at h
  split at h
  · contradiction
  split at h
  · rename_i known
    obtain rfl : r = r' := Option.some.inj h
    exact ⟨.inl ⟨known, rfl, rfl⟩, rfl⟩
  · rename_i fresh
    obtain ⟨tx, happend, rfl⟩ := Option.map_eq_some_iff.1 h
    obtain ⟨_, _, rfl⟩ := Tx.append_some rfl happend
    exact ⟨.inr ⟨fresh, _, ⟨rfl, rfl, rfl⟩, by simp [intentPayload], rfl, rfl⟩, rfl⟩

theorem handleCheckpointFailed_effect (own : context.targetUrl = item.targetUrl)
    (hclass : item.errorClass ≠ .text Checkpoints.policySkip)
    (h : handleCheckpointFailed lib item context r = some r') :
    ReportedOnce .publishFailed context.runId item r r' ∧ r'.next = r.next := by
  simp only [handleCheckpointFailed, own, hclass, if_false] at h
  split at h
  · rename_i known
    obtain rfl : r = r' := Option.some.inj h
    exact ⟨.inl ⟨known, rfl, rfl⟩, rfl⟩
  · rename_i fresh
    obtain ⟨⟨cleaned, hits⟩, -, h⟩ := Option.bind_eq_some_iff.1 h
    obtain ⟨tx, happend, rfl⟩ := Option.map_eq_some_iff.1 h
    obtain ⟨_, _, rfl⟩ := Tx.append_some rfl happend
    exact ⟨.inr ⟨fresh, _, ⟨rfl, rfl, rfl⟩, by simp [failedPayload], rfl, rfl⟩, rfl⟩

theorem confirmedPayload_complete (publishedUrl targetUrl : Value) (liveUrl : Option String) :
    missingRequiredFields (confirmedKind item)
      (confirmedPayload item publishedUrl targetUrl liveUrl) = [] := by
  unfold confirmedKind
  split <;> rfl

/-- A confirmed item leaves a row behind even where its URL is known: the event that
says so. -/
theorem handleCheckpointConfirmed_effect {payload : CheckpointPayload} {publishedUrl : Value}
    (h : handleCheckpointConfirmed lib item payload context publishedUrl r = some r') :
    RoleEffect context.runId item r r' .confirmed ∧ r'.next = r.next := by
  unfold handleCheckpointConfirmed at h
  split at h
  · simp only at h
    split at h
    · contradiction
    · obtain ⟨tx, happend, rfl⟩ := Option.map_eq_some_iff.1 h
      obtain ⟨_, _, rfl⟩ := Tx.append_some rfl happend
      exact ⟨⟨⟨List.prefix_append _ _, List.prefix_rfl⟩, by simp [Tx.tables], rfl⟩, rfl⟩
    · rename_i harticle
      obtain rfl := Tx.addArticle_ok harticle
      obtain ⟨tx, happend, rfl⟩ := Option.map_eq_some_iff.1 h
      obtain ⟨_, _, rfl⟩ := Tx.append_some (confirmedPayload_complete _ _ _) happend
      exact ⟨⟨⟨List.prefix_append _ _, List.prefix_append _ _⟩, by simp [Tx.tables], rfl⟩, rfl⟩
  · contradiction

theorem projectCheckpointItem_effect {runId id : String} {startedAt : Value}
    {prior : String → Option ItemState} {state : ItemState} (hstate : item.state = some (id, state))
    (h : projectCheckpointItem lib runId startedAt prior r (some item) = some r') :
    RoleEffect runId item r r' (item.role (prior id) state) ∧
      r'.next = Function.update r.next id (some state) := by
  simp only [projectCheckpointItem, hstate, Option.bind_eq_bind, Option.bind_eq_some_iff] at h
  obtain ⟨payload, hpayload, host, -, ts, -, h⟩ := h
  have own : payload.targetUrl.orNull = item.targetUrl := by
    simp [CheckpointItem.targetUrl, hpayload]
  unfold CheckpointItem.role
  by_cases hprior : prior id = some state
  · rw [if_pos hprior] at h ⊢
    obtain rfl := Option.some.inj h
    exact ⟨⟨rfl, rfl⟩, rfl⟩
  rw [if_neg hprior] at h ⊢
  by_cases hpending : state.status = "pending"
  · cases hid : prior id with
    | none =>
      simp only [hpending, classify, if_true, hid] at h ⊢
      refine handleCheckpointIntent_effect ?_ h
      exact own
    | some known =>
      simp [hpending, classify, hid, handleCheckpointIntent] at h ⊢
      subst h
      exact ⟨⟨rfl, rfl⟩, rfl⟩
  by_cases hdone : state.status = "done" ∨ state.status = "succeeded"
  · simp only [hpending, hdone, classify, if_true, if_false] at h ⊢
    exact handleCheckpointConfirmed_effect h
  by_cases hfailed : state.status = "failed"
  · by_cases hclass : item.errorClass = .text Checkpoints.policySkip
    · simp [hfailed, classify, hclass, handleCheckpointFailed] at h ⊢
      subst h
      exact ⟨⟨rfl, rfl⟩, rfl⟩
    · simp [hfailed, classify, hclass] at h ⊢
      refine handleCheckpointFailed_effect ?_ hclass h
      exact own
  · simp only [hpending, hdone, hfailed, classify, if_false] at h ⊢
    obtain rfl := Option.some.inj h
    exact ⟨⟨rfl, rfl⟩, rfl⟩

end Effects

def considered (entry : Option CheckpointItem) : Option (String × ItemState) :=
  entry.bind CheckpointItem.state

section Steps
variable {lib : Helpers} {runId : String} {startedAt : Value} {prior : String → Option ItemState}
  {entry : Option CheckpointItem} {r r' : Reduction}

theorem projectCheckpointItem_ignored (hentry : considered entry = none) :
    projectCheckpointItem lib runId startedAt prior r entry = some r := by
  cases entry with
  | none => rfl
  | some item =>
    have hstate : item.state = none := hentry
    simp [projectCheckpointItem, hstate]

theorem RoleEffect.extends {item : CheckpointItem} {role : Role}
    (h : RoleEffect runId item r r' role) : Extends r.tx.tables r'.tx.tables := by
  cases role with
  | silent => rw [h.1]; exact Extends.refl _
  | confirmed => exact h.1
  | due kind =>
    obtain ⟨-, same, -⟩ | ⟨-, event, -, -, rows, -⟩ := h
    · rw [same]; exact Extends.refl _
    · rw [rows]; exact ⟨List.prefix_append _ _, List.prefix_rfl⟩

theorem projectCheckpointItem_extends
    (h : projectCheckpointItem lib runId startedAt prior r entry = some r') :
    Extends r.tx.tables r'.tx.tables := by
  cases hentry : considered entry with
  | none =>
    obtain rfl : r = r' := by simpa [projectCheckpointItem_ignored hentry] using h
    exact Extends.refl _
  | some idState =>
    obtain ⟨item, rfl, hstate⟩ := Option.bind_eq_some_iff.1 hentry
    exact (projectCheckpointItem_effect hstate h).1.extends

theorem projectCheckpointItem_next
    (h : projectCheckpointItem lib runId startedAt prior r entry = some r') :
    r'.next = note considered r.next entry := by
  cases hentry : considered entry with
  | none =>
    obtain rfl : r = r' := by simpa [projectCheckpointItem_ignored hentry] using h
    simp [note, hentry]
  | some idState =>
    obtain ⟨item, rfl, hstate⟩ := Option.bind_eq_some_iff.1 hentry
    rw [(projectCheckpointItem_effect hstate h).2]
    simp [note, hentry]

end Steps

/-! ## What a flush does -/

section Flushes
variable {lib : Helpers} {file : CheckpointFile} {store : ProjectedStore ItemCursor}
  {flushed : Flushed ItemCursor}

theorem projectCheckpoint_some (h : projectCheckpoint lib file store = some flushed) :
    ∃ runId r, nonEmptyText file.runId = some runId ∧
      file.items.foldlM (projectCheckpointItem lib runId file.startedAt store.cursor)
        { tx := store.begin } = some r ∧
      flushed = finish r.tx r.next r.result := by
  unfold projectCheckpoint at h
  split at h
  · contradiction
  · rename_i runId hrun
    obtain ⟨r, hpass, heq⟩ := Option.map_eq_some_iff.1 h
    exact ⟨runId, r, hrun, hpass, heq.symm⟩

theorem projectCheckpoint_cursor (h : projectCheckpoint lib file store = some flushed) :
    flushed.store.cursor = latest considered file.items := by
  obtain ⟨_, r, -, hpass, rfl⟩ := projectCheckpoint_some h
  exact foldlM_projects (π := Reduction.next) hpass fun _ _ _ => projectCheckpointItem_next

end Flushes

end BacklinkPublisher.CheckpointProjection
