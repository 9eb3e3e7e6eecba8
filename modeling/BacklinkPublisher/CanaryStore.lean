import BacklinkPublisher.DebouncedLatches
import BacklinkPublisher.OrderedDicts

set_option autoImplicit false

/-!
# Canary health: the evergreen records and the forward-path stream

`canary-health.json` holds one object. A platform's own key holds its evergreen record, and
`_publish_path` holds the forward-path records of all platforms.
-/
namespace BacklinkPublisher.CanaryStore
open OrderedDicts DebouncedLatches

def statusLinkAlive : String := "link-alive"
def statusDriftConfirmed : String := "drift-confirmed"
def statusNotConfigured : String := "not-configured"

def quarantineAfterN : ℕ := 2
def rearmAfterM : ℕ := 2

def publishPathKey : String := "_publish_path"

structure HealthRecord where
  status : String
  consecutiveFailures : ℕ
  lastOkAt : Option String
  lastDriftAt : Option String
  consecutiveOks : ℕ
  quarantined : Bool
  consecutiveAdvisory : ℕ
  deriving DecidableEq, Repr

def healthDefault : HealthRecord where
  status := statusNotConfigured
  consecutiveFailures := 0
  lastOkAt := none
  lastDriftAt := none
  consecutiveOks := 0
  quarantined := false
  consecutiveAdvisory := 0

structure PublishPathRecord where
  status : String
  consecutiveFailures : ℕ
  lastOkAt : Option String
  lastDriftAt : Option String
  consecutiveOks : ℕ
  degraded : Bool
  deriving DecidableEq, Repr

def publishPathDefault : PublishPathRecord where
  status := statusNotConfigured
  consecutiveFailures := 0
  lastOkAt := none
  lastDriftAt := none
  consecutiveOks := 0
  degraded := false

/-- A value of the shared object: a platform's record, or the stream of all platforms. -/
inductive Entry where
  | health (record : HealthRecord)
  | stream (records : List (String × PublishPathRecord))
  deriving DecidableEq, Repr

abbrev Health := List (String × Entry)

/-! ## Readers -/

def entryOf (key : String) (data : Health) : Option Entry :=
  (lookup Prod.fst key data).map Prod.snd

def getHealth (platform : String) (data : Health) : Entry :=
  (entryOf platform data).getD (.health healthDefault)

/-- `bool(get_health(platform).get("quarantined", False))`; in a stream that key is a platform's
name, and no record is empty. -/
def isQuarantined (platform : String) (data : Health) : Bool :=
  match getHealth platform data with
  | .health record => record.quarantined
  | .stream records => (lookup Prod.fst "quarantined" records).isSome

/-- Where the sentinel holds a platform's record none of its values is a mapping, so every read
falls to the default. -/
def getPublishPathHealth (platform : String) (data : Health) : PublishPathRecord :=
  match entryOf publishPathKey data with
  | some (.stream records) =>
    ((lookup Prod.fst platform records).map Prod.snd).getD publishPathDefault
  | _ => publishPathDefault

def isPublishPathDegraded (platform : String) (data : Health) : Bool :=
  (getPublishPathHealth platform data).degraded

/-! ## Writers -/

/-- The record `_apply` of `record_verdict` puts in place of `existing`. -/
def HealthRecord.next (now status : String) (existing : HealthRecord) : HealthRecord :=
  if status = statusLinkAlive then
    { status
      consecutiveFailures := 0
      lastOkAt := some now
      lastDriftAt := existing.lastDriftAt
      consecutiveOks := existing.consecutiveOks + 1
      quarantined :=
        if existing.quarantined && decide (rearmAfterM ≤ existing.consecutiveOks + 1) then false
        else existing.quarantined
      consecutiveAdvisory := 0 }
  else if status = statusDriftConfirmed then
    { status
      consecutiveFailures := existing.consecutiveFailures + 1
      lastOkAt := existing.lastOkAt
      lastDriftAt := some now
      consecutiveOks := 0
      quarantined :=
        if quarantineAfterN ≤ existing.consecutiveFailures + 1 then true else existing.quarantined
      consecutiveAdvisory := 0 }
  else { existing with status, consecutiveAdvisory := existing.consecutiveAdvisory + 1 }

/-- `_apply` of `record_verdict`. A missing record reads as the default one; a stream under the
platform's key is not a record. -/
def applyVerdict (now platform status : String) (current : Health) : Option Health :=
  match getHealth platform current with
  | .health existing =>
    some (put Prod.fst (platform, .health (existing.next now status)) current)
  | .stream _ => none

def recordVerdict (now platform status : String) (data : Health) : Option (Health × Entry) := do
  let new ← applyVerdict now platform status data
  let record ← entryOf platform new
  return (new, record)

/-- `none` where the status is neither of the two that change the record. -/
def PublishPathRecord.next (now status : String) (existing : PublishPathRecord) :
    Option PublishPathRecord :=
  if status = statusLinkAlive then
    some { status
           consecutiveFailures := 0
           lastOkAt := some now
           lastDriftAt := existing.lastDriftAt
           consecutiveOks := existing.consecutiveOks + 1
           degraded :=
             if existing.degraded && decide (rearmAfterM ≤ existing.consecutiveOks + 1) then false
             else existing.degraded }
  else if status = statusDriftConfirmed then
    some { status
           consecutiveFailures := existing.consecutiveFailures + 1
           lastOkAt := existing.lastOkAt
           lastDriftAt := some now
           consecutiveOks := 0
           degraded :=
             if quarantineAfterN ≤ existing.consecutiveFailures + 1 then true
             else existing.degraded }
  else none

/-- `dict(current.get(_PUBLISH_PATH_KEY) or {})`; a platform's record there is not a stream. -/
def publishPathStream (current : Health) : Option (List (String × PublishPathRecord)) :=
  match entryOf publishPathKey current with
  | none => some []
  | some (.stream records) => some records
  | some (.health _) => none

def applyPublishPathVerdict (now platform status : String) (current : Health) : Option Health := do
  let stream ← publishPathStream current
  let existing := ((lookup Prod.fst platform stream).map Prod.snd).getD publishPathDefault
  match existing.next now status with
  | some record =>
    some (put Prod.fst (publishPathKey, .stream (put Prod.fst (platform, record) stream)) current)
  | none => some current

def recordPublishPathVerdict (now platform status : String) (data : Health) :
    Option (Health × PublishPathRecord) := do
  let new ← applyPublishPathVerdict now platform status data
  return (new, getPublishPathHealth platform new)

/-! ## Runs -/

/-- The names of platforms: the sentinel is none of them. -/
abbrev Platform := {name : String // name ≠ publishPathKey}

inductive Call where
  | verdict (now : String) (platform : Platform) (status : String)
  | publishPathVerdict (now : String) (platform : Platform) (status : String)
  deriving DecidableEq

def Call.apply (data : Health) : Call → Option Health
  | .verdict now platform status => (recordVerdict now platform status data).map Prod.fst
  | .publishPathVerdict now platform status =>
    (recordPublishPathVerdict now platform status data).map Prod.fst

/-- Every call goes through `update` under the store's lock, so calls take effect one by one. -/
def runCalls (data : Health) (calls : List Call) : Option Health :=
  calls.foldlM Call.apply data

def Call.evergreen (platform : Platform) : Call → Option (String × String)
  | .verdict now other status => if other = platform then some (now, status) else none
  | .publishPathVerdict _ _ _ => none

def Call.publishPath (platform : Platform) : Call → Option (String × String)
  | .verdict _ _ _ => none
  | .publishPathVerdict now other status => if other = platform then some (now, status) else none

/-- What a status says to the debounce: nothing, unless it is one of the two. -/
def signal (status : String) : Option Signal :=
  if status = statusLinkAlive then some .recovery
  else if status = statusDriftConfirmed then some .fault
  else none

def evergreenSignals (platform : Platform) (calls : List Call) : List Signal :=
  (calls.filterMap (Call.evergreen platform)).filterMap fun verdict => signal verdict.2

def publishPathSignals (platform : Platform) (calls : List Call) : List Signal :=
  (calls.filterMap (Call.publishPath platform)).filterMap fun verdict => signal verdict.2

/-! ## A record is a function of its own verdicts -/

def evergreenRecord (verdicts : List (String × String)) : Option HealthRecord :=
  verdicts.foldl (fun record verdict =>
    some ((record.getD healthDefault).next verdict.1 verdict.2)) none

def publishPathRecord (verdicts : List (String × String)) : Option PublishPathRecord :=
  verdicts.foldl (fun record verdict =>
    ((record.getD publishPathDefault).next verdict.1 verdict.2).or record) none

/-- What the shared object holds after `calls`: for each platform two records, each read off the
verdicts of its own stream. -/
structure Keeps (calls : List Call) (data : Health) : Prop where
  health : ∀ platform : Platform, entryOf platform data =
    (evergreenRecord (calls.filterMap (Call.evergreen platform))).map .health
  stream : ∃ records, publishPathStream data = some records ∧
    ∀ platform : Platform, (lookup Prod.fst platform.1 records).map Prod.snd =
      publishPathRecord (calls.filterMap (Call.publishPath platform))

theorem entryOf_put (key key' : String) (entry : Entry) (data : Health) :
    entryOf key (put Prod.fst (key', entry) data) =
      if key' = key then some entry else entryOf key data := by
  unfold entryOf
  rw [lookup_put]
  split_ifs
  · rfl
  · rfl

theorem publishPathStream_eq {data : Health} {records : List (String × PublishPathRecord)}
    (found : publishPathStream data = some records) (platform : String) :
    getPublishPathHealth platform data =
      ((lookup Prod.fst platform records).map Prod.snd).getD publishPathDefault := by
  unfold publishPathStream at found
  unfold getPublishPathHealth
  cases held : entryOf publishPathKey data with
  | none =>
    rw [held] at found
    rw [← Option.some.inj found]
    rfl
  | some entry =>
    rw [held] at found
    cases entry with
    | health record => cases found
    | stream known =>
      rw [← Option.some.inj found]

theorem Keeps.getHealth {calls : List Call} {data : Health} (keeps : Keeps calls data)
    (platform : Platform) : getHealth platform data =
      .health ((evergreenRecord (calls.filterMap (Call.evergreen platform))).getD healthDefault) := by
  unfold CanaryStore.getHealth
  rw [keeps.health platform]
  cases evergreenRecord (calls.filterMap (Call.evergreen platform)) with
  | none => rfl
  | some record => rfl

theorem Keeps.getPublishPathHealth {calls : List Call} {data : Health} (keeps : Keeps calls data)
    (platform : Platform) : getPublishPathHealth platform data =
      (publishPathRecord (calls.filterMap (Call.publishPath platform))).getD
        publishPathDefault := by
  have ⟨records, found, known⟩ := keeps.stream
  rw [publishPathStream_eq found, known platform]

theorem publishPathStream_put_platform (platform : Platform) (entry : Entry) (data : Health) :
    publishPathStream (put Prod.fst (platform.1, entry) data) = publishPathStream data := by
  unfold publishPathStream
  rw [entryOf_put, if_neg platform.2]

theorem filterMap_concat {α β : Type} (f : α → Option β) (values : List α) (value : α) :
    (values ++ [value]).filterMap f = values.filterMap f ++ (f value).toList := by
  rw [List.filterMap_append]
  cases found : f value with
  | none => simp [found]
  | some image => simp [found]

theorem recordVerdict_eq {data : Health} {platform : String} {existing : HealthRecord}
    (held : getHealth platform data = .health existing) (now status : String) :
    recordVerdict now platform status data =
      some (put Prod.fst (platform, .health (existing.next now status)) data,
        .health (existing.next now status)) := by
  unfold recordVerdict applyVerdict
  rw [held]
  dsimp only [Option.bind_eq_bind, Option.bind_some]
  rw [entryOf_put, if_pos rfl]
  rfl

theorem recordPublishPathVerdict_eq {data : Health} {records : List (String × PublishPathRecord)}
    (found : publishPathStream data = some records) (now platform status : String) :
    (recordPublishPathVerdict now platform status data).map Prod.fst =
      some (match (((lookup Prod.fst platform records).map Prod.snd).getD
          publishPathDefault).next now status with
        | some record => put Prod.fst (publishPathKey,
            .stream (put Prod.fst (platform, record) records)) data
        | none => data) := by
  unfold recordPublishPathVerdict applyPublishPathVerdict
  rw [found]
  dsimp only [Option.bind_eq_bind, Option.bind_some]
  split
  · rfl
  · rfl

theorem Keeps.verdict {calls : List Call} {data : Health} (keeps : Keeps calls data)
    (now : String) (platform : Platform) (status : String) :
    ∃ new, Call.apply data (.verdict now platform status) = some new ∧
      Keeps (calls ++ [.verdict now platform status]) new := by
  have applied := recordVerdict_eq (keeps.getHealth platform) now status
  refine ⟨_, congrArg (Option.map Prod.fst) applied, ?_, ?_⟩
  · intro other
    rw [entryOf_put, filterMap_concat]
    by_cases same : platform = other
    · subst same
      rw [if_pos rfl, Call.evergreen, if_pos rfl]
      unfold evergreenRecord
      rw [Option.toList_some, List.foldl_concat]
      rfl
    · rw [if_neg fun equal => same (Subtype.ext equal), Call.evergreen, if_neg same]
      rw [Option.toList_none, List.append_nil]
      exact keeps.health other
  · have ⟨records, found, known⟩ := keeps.stream
    refine ⟨records, by rw [publishPathStream_put_platform, found], ?_⟩
    intro other
    rw [filterMap_concat, Call.publishPath, Option.toList_none, List.append_nil]
    exact known other

theorem publishPathRecord_concat (verdicts : List (String × String)) (now status : String) :
    publishPathRecord (verdicts ++ [(now, status)]) =
      (((publishPathRecord verdicts).getD publishPathDefault).next now status).or
        (publishPathRecord verdicts) := by
  unfold publishPathRecord
  rw [List.foldl_concat]

theorem Keeps.publishPathVerdict {calls : List Call} {data : Health} (keeps : Keeps calls data)
    (now : String) (platform : Platform) (status : String) :
    ∃ new, Call.apply data (.publishPathVerdict now platform status) = some new ∧
      Keeps (calls ++ [.publishPathVerdict now platform status]) new := by
  have ⟨records, found, known⟩ := keeps.stream
  refine ⟨_, recordPublishPathVerdict_eq found now platform status, ?_⟩
  rw [known platform]
  have own : ∀ other : Platform,
      (calls ++ [Call.publishPathVerdict now platform status]).filterMap (Call.evergreen other) =
        calls.filterMap (Call.evergreen other) := by
    intro other
    rw [filterMap_concat, Call.evergreen, Option.toList_none, List.append_nil]
  have theirs : ∀ other : Platform, platform ≠ other →
      (calls ++ [Call.publishPathVerdict now platform status]).filterMap (Call.publishPath other) =
        calls.filterMap (Call.publishPath other) := by
    intro other different
    rw [filterMap_concat, Call.publishPath, if_neg different, Option.toList_none, List.append_nil]
  have mine : publishPathRecord ((calls ++ [Call.publishPathVerdict now platform status]).filterMap
      (Call.publishPath platform)) =
        (((publishPathRecord (calls.filterMap (Call.publishPath platform))).getD
          publishPathDefault).next now status).or
            (publishPathRecord (calls.filterMap (Call.publishPath platform))) := by
    rw [filterMap_concat, Call.publishPath, if_pos rfl, Option.toList_some]
    exact publishPathRecord_concat _ now status
  cases changed : ((publishPathRecord (calls.filterMap (Call.publishPath platform))).getD
      publishPathDefault).next now status with
  | none =>
    -- A status that is neither of the two leaves the object as it is.
    rw [changed, Option.none_or] at mine
    refine ⟨fun other => by rw [own other]; exact keeps.health other, records, found, ?_⟩
    intro other
    rw [known other]
    by_cases same : platform = other
    · rw [← same, mine]
    · rw [theirs other same]
  | some record =>
    rw [changed, Option.some_or] at mine
    refine ⟨?_, put Prod.fst (platform.1, record) records, ?_, ?_⟩
    · intro other
      rw [own other, entryOf_put, if_neg (Ne.symm other.2)]
      exact keeps.health other
    · unfold publishPathStream
      rw [entryOf_put, if_pos rfl]
    · intro other
      rw [lookup_put]
      by_cases same : platform = other
      · rw [← same, mine, if_pos rfl]
        rfl
      · rw [theirs other same, if_neg fun equal => same (Subtype.ext equal)]
        exact known other

theorem exists_run (calls : List Call) :
    ∃ data, runCalls [] calls = some data ∧ Keeps calls data := by
  induction calls using List.reverseRecOn with
  | nil => exact ⟨[], rfl, fun _ => rfl, [], rfl, fun _ => rfl⟩
  | append_singleton calls call ih =>
    have ⟨data, ran, keeps⟩ := ih
    have step : ∃ new, Call.apply data call = some new ∧ Keeps (calls ++ [call]) new := by
      cases call with
      | verdict now platform status => exact keeps.verdict now platform status
      | publishPathVerdict now platform status => exact keeps.publishPathVerdict now platform status
    have ⟨new, applied, kept⟩ := step
    refine ⟨new, ?_, kept⟩
    unfold runCalls at ran ⊢
    rw [List.foldlM_append, ran]
    simp [applied]

/-! ## A record's counters and flag are those of a debounced latch -/

def HealthRecord.debounce (record : HealthRecord) : Debounce :=
  ⟨record.consecutiveFailures, record.consecutiveOks, record.quarantined⟩

def PublishPathRecord.debounce (record : PublishPathRecord) : Debounce :=
  ⟨record.consecutiveFailures, record.consecutiveOks, record.degraded⟩

/-- One status of a stream, as a step of the latch. -/
def debounceStatus (state : Debounce) (status : String) : Debounce :=
  ((signal status).map (state.step quarantineAfterN rearmAfterM)).getD state

theorem rearmed_eq (flag : Bool) (enough : Prop) [Decidable enough] :
    (if flag && decide enough then false else flag) = (flag && !decide enough) := by
  cases flag with
  | false => rfl
  | true => by_cases h : enough <;> simp [h]

theorem tripped_eq (flag : Bool) (enough : Prop) [Decidable enough] :
    (if enough then true else flag) = (flag || decide enough) := by
  by_cases h : enough <;> simp [h]

theorem HealthRecord.debounce_next (record : HealthRecord) (now status : String) :
    (record.next now status).debounce = debounceStatus record.debounce status := by
  unfold HealthRecord.next debounceStatus signal
  rw [rearmed_eq, tripped_eq]
  by_cases alive : status = statusLinkAlive
  · rw [if_pos alive, if_pos alive]
    rfl
  · rw [if_neg alive, if_neg alive]
    by_cases drift : status = statusDriftConfirmed
    · rw [if_pos drift, if_pos drift]
      rfl
    · rw [if_neg drift, if_neg drift]
      rfl

theorem PublishPathRecord.debounce_next (record : PublishPathRecord) (now status : String) :
    ((record.next now status).getD record).debounce = debounceStatus record.debounce status := by
  unfold PublishPathRecord.next debounceStatus signal
  rw [rearmed_eq, tripped_eq]
  by_cases alive : status = statusLinkAlive
  · rw [if_pos alive, if_pos alive]
    rfl
  · rw [if_neg alive, if_neg alive]
    by_cases drift : status = statusDriftConfirmed
    · rw [if_pos drift, if_pos drift]
      rfl
    · rw [if_neg drift, if_neg drift]
      rfl

/-- Statuses that say nothing can be erased before the latch runs. -/
theorem foldl_debounceStatus (verdicts : List (String × String)) (state : Debounce) :
    (verdicts.foldl (fun state verdict => debounceStatus state verdict.2) state) =
      (verdicts.filterMap fun verdict => signal verdict.2).foldl
        (Debounce.step quarantineAfterN rearmAfterM) state := by
  induction verdicts generalizing state with
  | nil => rfl
  | cons verdict verdicts ih =>
    rw [List.foldl_cons, ih]
    unfold debounceStatus
    cases said : signal verdict.2 with
    | none =>
      simp only [List.filterMap_cons, said]
      rfl
    | some token =>
      simp only [List.filterMap_cons, said]
      rfl

theorem debounce_evergreenRecord (verdicts : List (String × String)) :
    ((evergreenRecord verdicts).getD healthDefault).debounce =
      Debounce.run quarantineAfterN rearmAfterM
        (verdicts.filterMap fun verdict => signal verdict.2) := by
  unfold Debounce.run
  rw [← foldl_debounceStatus]
  induction verdicts using List.reverseRecOn with
  | nil => rfl
  | append_singleton verdicts verdict ih =>
    rw [List.foldl_concat, ← ih, ← HealthRecord.debounce_next _ verdict.1]
    unfold evergreenRecord
    rw [List.foldl_concat, Option.getD_some]

theorem debounce_publishPathRecord (verdicts : List (String × String)) :
    ((publishPathRecord verdicts).getD publishPathDefault).debounce =
      Debounce.run quarantineAfterN rearmAfterM
        (verdicts.filterMap fun verdict => signal verdict.2) := by
  unfold Debounce.run
  rw [← foldl_debounceStatus]
  induction verdicts using List.reverseRecOn with
  | nil => rfl
  | append_singleton verdicts verdict ih =>
    rw [List.foldl_concat, ← ih, ← PublishPathRecord.debounce_next _ verdict.1]
    rw [publishPathRecord_concat]
    cases PublishPathRecord.next verdict.1 verdict.2
      ((publishPathRecord verdicts).getD publishPathDefault) with
    | none => rfl
    | some record => rfl

theorem Keeps.isQuarantined_iff {calls : List Call} {data : Health} (keeps : Keeps calls data)
    (platform : Platform) : isQuarantined platform data = true ↔
      Latched quarantineAfterN rearmAfterM (evergreenSignals platform calls) := by
  have tracks := Debounce.run_tracks (by decide : 0 < quarantineAfterN)
    (by decide : 0 < rearmAfterM) (evergreenSignals platform calls)
  unfold evergreenSignals at tracks ⊢
  rw [← tracks.latched, ← debounce_evergreenRecord]
  unfold isQuarantined
  rw [keeps.getHealth platform]
  rfl

theorem Keeps.isPublishPathDegraded_iff {calls : List Call} {data : Health}
    (keeps : Keeps calls data) (platform : Platform) :
    isPublishPathDegraded platform data = true ↔
      Latched quarantineAfterN rearmAfterM (publishPathSignals platform calls) := by
  have tracks := Debounce.run_tracks (by decide : 0 < quarantineAfterN)
    (by decide : 0 < rearmAfterM) (publishPathSignals platform calls)
  unfold publishPathSignals at tracks ⊢
  rw [← tracks.latched, ← debounce_publishPathRecord]
  unfold isPublishPathDegraded
  rw [keeps.getPublishPathHealth platform]
  rfl

theorem filterMap_filter_isSome {α β : Type} (f : α → Option β) (values : List α) :
    (values.filter fun value => (f value).isSome).filterMap f = values.filterMap f := by
  rw [List.filterMap_filter]
  apply List.filterMap_congr
  intro value _
  cases f value with
  | none => rfl
  | some image => rfl

/-- After every interleaving of calls the two flags of a platform follow the debounce law on the
platform's own verdicts of the one stream, and its two records are what they would be had no
other call been made. -/
theorem canary_debounce (calls : List Call) :
    ∃ data, runCalls [] calls = some data ∧ ∀ platform : Platform,
      (isQuarantined platform data = true ↔
        Latched quarantineAfterN rearmAfterM (evergreenSignals platform calls)) ∧
      (isPublishPathDegraded platform data = true ↔
        Latched quarantineAfterN rearmAfterM (publishPathSignals platform calls)) ∧
      (∃ own, runCalls [] (calls.filter fun call => (call.evergreen platform).isSome) = some own ∧
        getHealth platform data = getHealth platform own) ∧
      (∃ own, runCalls [] (calls.filter fun call => (call.publishPath platform).isSome) = some own ∧
        getPublishPathHealth platform data = getPublishPathHealth platform own) := by
  have ⟨data, ran, keeps⟩ := exists_run calls
  refine ⟨data, ran, fun platform => ⟨keeps.isQuarantined_iff platform,
    keeps.isPublishPathDegraded_iff platform, ?_, ?_⟩⟩
  · have ⟨own, ran', keeps'⟩ := exists_run (calls.filter fun call => (call.evergreen platform).isSome)
    refine ⟨own, ran', ?_⟩
    rw [keeps.getHealth platform, keeps'.getHealth platform, filterMap_filter_isSome]
  · have ⟨own, ran', keeps'⟩ :=
      exists_run (calls.filter fun call => (call.publishPath platform).isSome)
    refine ⟨own, ran', ?_⟩
    rw [keeps.getPublishPathHealth platform, keeps'.getPublishPathHealth platform,
      filterMap_filter_isSome]

end BacklinkPublisher.CanaryStore
