import BacklinkPublisher.JsonValues
import Mathlib.Data.List.Infix
import Mathlib.Data.Rat.Floor
import Mathlib.Tactic.Linarith

set_option autoImplicit false

/-!
# Saves that fail

`load`, `save` and the five changing calls of `OptimizationState` in `optimization/state.py` on the
dict itself, with the cache of `_util/cache.py`, in one process. A changing call edits the dict that
`load` has returned, which is the cached one where one is cached, and saves it at its end.
-/
namespace BacklinkPublisher.FailedSaves
open JsonValues

/-! ## The state in memory and on disk -/

/-- `optimization_state.json`. `unreadable` is one that `load` takes for corrupt, as it does a file
that it cannot open; `undecodable` is one that is no UTF-8. -/
inductive StateFile where
  | missing
  | unreadable
  | undecodable
  | json (value : Json)

structure CacheEntry where
  expiresAt : ℚ
  value : Fields

structure World where
  file : StateFile
  cache : Option CacheEntry

def rule (settings : Fields) : Json := .object (("enabled", .bool true) :: settings)

def defaultState : Fields :=
  [("version", .number 2), ("weights", .object [("default", .object [])]),
    ("stats", .object [("default", .object [])]),
    ("rules", .object
      [("canary_drift", rule
        [("multiplier", .number (1/2)), ("max_strikes", .number 3), ("cooldown_days", .number 7)]),
      ("recheck_survival", rule
        [("multiplier", .number (6/5)), ("max_cap", .number 3), ("min_confirmations", .number 2)]),
      ("aggregated_stats", rule
        [("multiplier", .number (1/2)), ("survival_low_threshold", .number (3/10)),
          ("dofollow_low_threshold", .number (1/5)), ("min_confirmations", .number 2),
          ("min_weight", .number (1/10))]),
      ("survival_threshold", rule
        [("min_samples", .number 5), ("survival_penalty", .number (3/10)),
          ("dofollow_penalty", .number (2/5)), ("boost_multiplier", .number (23/20)),
          ("max_cap", .number 3), ("survival_high", .number (4/5)),
          ("dofollow_high", .number (4/5)), ("min_weight", .number (1/100))])])]

/-- `dict(value)`; `toDict` is what it makes of a value that is no dict, where it makes one. -/
def dictOf (toDict : Json → Option Fields) : Json → Option Fields
  | .object fields => some fields
  | value => toDict value

/-- `_upgrade_v1_to_v2`. -/
def upgradeV1ToV2 (toDict : Json → Option Fields) (data : Fields) : Option Fields := do
  let weights ← dictOf toDict ((get "weights" data).getD (.object []))
  let stats ← dictOf toDict ((get "stats" data).getD (.object []))
  some [("version", .number 2), ("weights", .object [("default", .object weights)]),
    ("stats", .object [("default", .object stats)]),
    ("rules", (get "rules" data).getD (.object []))]

/-- What `load` makes of a file. -/
inductive Parsed where
  /-- The default state, which is not cached. -/
  | defaults
  | state (data : Fields)
  | raised

/-- Of what is no object, an array or a text can be asked for `'version'`. -/
def parseJson (toDict : Json → Option Fields) : Json → Parsed
  | .object data =>
    match get "version" data with
    | none => .defaults
    | some version =>
      if version.asNumber = some 1 then
        match upgradeV1ToV2 toDict data with
        | some upgraded => .state upgraded
        | none => .raised
      else .state data
  | .array items =>
    if items.any fun item => match item with | .text s => s = "version" | _ => false then .raised
    else .defaults
  | .text s => if "version".toList <:+: s.toList then .raised else .defaults
  | _ => .raised

def parse (toDict : Json → Option Fields) : StateFile → Parsed
  | .missing | .unreadable => .defaults
  | .undecodable => .raised
  | .json value => parseJson toDict value

/-- `_ttl_cache_get`. -/
def World.cached (w : World) (now : ℚ) : Option CacheEntry :=
  w.cache.bind fun entry => if entry.expiresAt < now then none else some entry

def ttl : ℚ := 60

section Calls
variable (toDict : Json → Option Fields)

/-- `load`, with `none` where it raises. The dict it returns is the one in the cache, if one is
cached then. -/
def World.load (w : World) (now : ℚ) : World × Option Fields :=
  match w.cached now with
  | some entry => (w, some entry.value)
  | none =>
    match parse toDict w.file with
    | .defaults => ({ w with cache := none }, some defaultState)
    | .state data => ({ w with cache := some ⟨now + ttl, data⟩ }, some data)
    | .raised => ({ w with cache := none }, none)

/-- The dict that the last `load` returned becomes `data`. -/
def World.edit (w : World) (data : Fields) : World :=
  { w with cache := w.cache.map fun entry => { entry with value := data } }

/-- Where `save` can raise; `os.replace` is the last of these, and leaves the file if it raises. -/
inductive SavePoint where
  | mkdir
  | dumps
  | mkstemp
  | fdopen
  | write
  | flush
  | fsync
  | replace
  deriving DecidableEq, Repr

/-- The world that `save` leaves, which raises at a point or not at all. -/
def World.save (w : World) (data : Fields) : Option SavePoint → World
  | some _ => w
  | none => { file := .json (.object data), cache := none }

/-! ## The changing calls -/

/-- `round(q, 4)`: to the even neighbour where both are equally near. -/
def round4 (q : ℚ) : ℚ :=
  let scaled := q * 10000
  let low := ⌊scaled⌋
  (if scaled - low < 1/2 then low
    else if 1/2 < scaled - low then low + 1
    else if low % 2 = 0 then low else low + 1 : ℤ) / 10000

structure WeightChange where
  adapterName : String
  weight : ℚ
  rule : String
  reason : String
  intentionalZero : Bool
  timestamp : String

/-- `existing.get("locked", False)`. -/
def isLocked (existing : Fields) : Bool := ((get "locked" existing).getD (.bool false)).truthy

/-- The entry that replaces `existing`; `none` where the old weight is no number or the adjustments
are no list. -/
def reweighted (change : WeightChange) (existing : Fields) : Option Fields := do
  let old := (get "current" existing).getD ((get "base" existing).getD (.number 1))
  let oldCurrent ← old.asNumber
  let adjustments ← ((get "adjustments" existing).getD (.array [])).asArray
  let multiplier := if oldCurrent ≠ 0 then change.weight / oldCurrent else 0
  some [("base", (get "base" existing).getD old), ("current", .number change.weight),
    ("locked", (get "locked" existing).getD (.bool false)),
    ("intentional_zero", .bool change.intentionalZero), ("updated_at", .text change.timestamp),
    ("adjustments", .array (adjustments ++ [.object
      [("rule", .text change.rule), ("applied_at", .text change.timestamp),
        ("multiplier", .number (round4 multiplier)), ("reason", .text change.reason)]]))]

/-- `data.setdefault("stats", {})`, for an entry that is new. -/
def withStats (known : Bool) (data : Fields) : Fields :=
  if known then data else OrderedDicts.ensure Prod.fst ("stats", .object []) data

/-- `data.setdefault("weights", {}).setdefault(language, {})`. -/
def langWeights (language : String) (data : Fields) : Option Fields :=
  (child "weights" data).bind (child language)

/-- The body of the two weight calls for an entry that is not skipped. -/
def putWeight (language : String) (change : WeightChange) (data : Fields) : Option Fields := do
  let weights ← langWeights language data
  let changed ← within "weights" (within language (within change.adapterName (reweighted change)))
    data
  some (withStats (get change.adapterName weights).isSome changed)

/-- The entry of an adapter, and none where it or what it stands in is no dict. -/
def existingEntry (language adapterName : String) (data : Fields) : Option Fields :=
  (langWeights language data).bind (child adapterName)

/-- `none` where the call ends without a save: where it returns, or raises before it. -/
def setWeight (language : String) (change : WeightChange) (force : Bool) (data : Fields) :
    Option Fields := do
  let existing ← existingEntry language change.adapterName data
  if !force && isLocked existing then none else putWeight language change data

def updateManyStep (language : String) (data : Fields) (change : WeightChange) :
    Option Fields := do
  let existing ← existingEntry language change.adapterName data
  if isLocked existing then some data else putWeight language change data

def updateManyWeights (language : String) (changes : List WeightChange) (data : Fields) :
    Option Fields := do
  let started ← within "weights" (within language some) data
  changes.foldlM (updateManyStep language) started

def lockWeight (language adapterName : String) (locked : Bool) : Fields → Option Fields :=
  within "weights" (within language (within adapterName fun entry =>
    some (setItem "locked" (.bool locked) entry)))

def updateStats (language adapterName : String) (statsUpdate : Fields) : Fields → Option Fields :=
  within "stats" (within language (within adapterName fun existing =>
    some (update statsUpdate existing)))

def resetWeights (data : Fields) : Option Fields := some (setItem "weights" (.object []) data)

inductive Call where
  | setWeight (language : String) (change : WeightChange) (force : Bool)
  | updateManyWeights (language : String) (changes : List WeightChange)
  | lockWeight (language adapterName : String) (locked : Bool)
  | updateStats (language adapterName : String) (statsUpdate : Fields)
  | resetWeights

/-- What a call has made of the dict when it comes to its save. -/
def Call.run : Call → Fields → Option Fields
  | .setWeight language change force => FailedSaves.setWeight language change force
  | .updateManyWeights language changes => FailedSaves.updateManyWeights language changes
  | .lockWeight language adapterName locked => FailedSaves.lockWeight language adapterName locked
  | .updateStats language adapterName statsUpdate =>
    FailedSaves.updateStats language adapterName statsUpdate
  | .resetWeights => FailedSaves.resetWeights

/-- A call: its load, its change of the dict, and its save. `none` where it does not come to a
save. -/
def Call.perform (call : Call) (loadedAt : ℚ) (failure : Option SavePoint) (w : World) :
    Option World := do
  let (loaded, answer) := w.load toDict loadedAt
  let data ← answer
  let changed ← call.run data
  some ((loaded.edit changed).save changed failure)

/-! ## Later loads -/

/-- What a load at a time answers. -/
def World.content (w : World) (now : ℚ) : Option Fields := (w.load toDict now).2

/-- The loads at some times, one after the other. -/
def World.reads (w : World) (times : List ℚ) : World :=
  times.foldl (fun w now => (w.load toDict now).1) w

/-- `after` answers every load from `now` on as `before` does, whatever loads come between. -/
def LoadsAlike (now : ℚ) (before after : World) : Prop :=
  ∀ (times : List ℚ) (t : ℚ), (times ++ [t]).Pairwise (· ≤ ·) → (∀ s ∈ times ++ [t], now ≤ s) →
    (after.reads toDict times).content toDict t = (before.reads toDict times).content toDict t

end Calls

variable {toDict : Json → Option Fields} {w : World} {t t' : ℚ}

theorem cached_later (le : t ≤ t') (expired : w.cached t = none) : w.cached t' = none := by
  unfold World.cached at expired ⊢
  cases held : w.cache with
  | none => rfl
  | some entry =>
    rw [held, Option.bind_some] at expired
    rw [Option.bind_some]
    split_ifs at expired with past
    · exact if_pos (past.trans_le le)

theorem content_of_expired (expired : w.cached t = none) :
    w.content toDict t = (match parse toDict w.file with
      | .defaults => some defaultState
      | .state data => some data
      | .raised => none) := by
  unfold World.content World.load
  rw [expired]
  cases parse toDict w.file <;> rfl

/-- A load changes no answer of a later one. -/
theorem content_load (le : t ≤ t') :
    (w.load toDict t).1.content toDict t' = w.content toDict t' := by
  cases hit : w.cached t with
  | some entry =>
    unfold World.load
    rw [hit]
  | none =>
    rw [content_of_expired (cached_later le hit)]
    unfold World.load
    rw [hit]
    cases read : parse toDict w.file with
    | defaults => rw [content_of_expired rfl, read]
    | raised => rw [content_of_expired rfl, read]
    | state data =>
      by_cases past : t + ttl < t'
      · have expired : World.cached ⟨w.file, some ⟨t + ttl, data⟩⟩ t' = none := if_pos past
        rw [content_of_expired expired, read]
      · have held : World.cached ⟨w.file, some ⟨t + ttl, data⟩⟩ t' = some ⟨t + ttl, data⟩ :=
          if_neg past
        unfold World.content World.load
        rw [held]

theorem content_reads {times : List ℚ} (le : ∀ s ∈ times, s ≤ t) :
    (w.reads toDict times).content toDict t = w.content toDict t := by
  induction times generalizing w with
  | nil => rfl
  | cons s times ih =>
    rw [List.forall_mem_cons] at le
    exact (ih le.2).trans (content_load le.1)

/-- It is enough to compare the first of the later loads. -/
theorem loadsAlike_iff {now : ℚ} {before after : World} :
    LoadsAlike toDict now before after ↔
      ∀ t, now ≤ t → after.content toDict t = before.content toDict t := by
  constructor
  · intro alike t later
    apply alike [] t (List.pairwise_singleton _ _)
    intro s hs
    rw [List.mem_singleton.1 hs]
    exact later
  · intro alike times t sorted later
    have le : ∀ s ∈ times, s ≤ t := fun s hs =>
      (List.pairwise_append.1 sorted).2.2 s hs t List.mem_cons_self
    rw [content_reads le, content_reads le]
    exact alike t (later t (List.mem_append_right _ List.mem_cons_self))

/-! ## What a failed save leaves -/

theorem file_load (w : World) (t : ℚ) : (w.load toDict t).1.file = w.file := by
  unfold World.load
  cases w.cached t with
  | some entry => rfl
  | none => cases parse toDict w.file <;> rfl

/-- What is cached after a load is what it has returned. -/
theorem cache_load {loaded : World} {data : Fields} (load : w.load toDict t = (loaded, some data)) :
    loaded.cache = none ∨ ∃ expiresAt, t ≤ expiresAt ∧ loaded.cache = some ⟨expiresAt, data⟩ := by
  unfold World.load at load
  cases hit : w.cached t with
  | some entry =>
    rw [hit] at load
    cases load
    unfold World.cached at hit
    have ⟨held, found, current⟩ := Option.bind_eq_some_iff.1 hit
    split_ifs at current with past
    cases current
    exact .inr ⟨_, not_lt.1 past, found⟩
  | none =>
    rw [hit] at load
    cases read : parse toDict w.file with
    | defaults =>
      rw [read] at load
      cases load
      exact .inl rfl
    | raised =>
      rw [read] at load
      cases load
    | state held =>
      rw [read] at load
      cases load
      refine .inr ⟨t + ttl, ?_, rfl⟩
      unfold ttl
      linarith

/-- Until when the cache hands out the dict that a load at `now` returns. -/
def World.sharedUntil (toDict : Json → Option Fields) (w : World) (now : ℚ) : Option ℚ :=
  match w.cached now with
  | some entry => some entry.expiresAt
  | none =>
    match parse toDict w.file with
    | .state _ => some (now + ttl)
    | _ => none

theorem sharedUntil_load (w : World) (t : ℚ) :
    (w.load toDict t).1.cache.map CacheEntry.expiresAt = w.sharedUntil toDict t := by
  unfold World.load World.sharedUntil
  cases hit : w.cached t with
  | some entry =>
    unfold World.cached at hit
    have ⟨held, found, current⟩ := Option.bind_eq_some_iff.1 hit
    split_ifs at current with past
    cases current
    rw [found]
    rfl
  | none => cases parse toDict w.file <;> rfl

section Edits
variable {loaded : World} {data : Fields}

theorem content_loaded (load : w.load toDict t = (loaded, some data)) (le : t ≤ t') :
    loaded.content toDict t' = w.content toDict t' := by
  have same : (w.load toDict t).1.content toDict t' = w.content toDict t' := content_load le
  rw [load] at same
  exact same

/-- The dict of a load is in the cache exactly while it is shared. -/
theorem cached_loaded (load : w.load toDict t = (loaded, some data)) {moment : ℚ}
    (own : w.sharedUntil toDict t = some moment) : loaded.cache = some ⟨moment, data⟩ := by
  rw [← sharedUntil_load, load] at own
  rcases cache_load load with absent | ⟨expiresAt, _, held⟩
  · rw [absent] at own
    cases own
  · rw [held] at own ⊢
    rw [← Option.some.inj own]

theorem content_held {other : World} {moment : ℚ} {value : Fields}
    (held : other.cache = some ⟨moment, value⟩) (current : t' ≤ moment) :
    other.content toDict t' = some value := by
  have hit : other.cached t' = some ⟨moment, value⟩ := by
    unfold World.cached
    rw [held]
    exact if_neg (not_lt.2 current)
  unfold World.content World.load
  rw [hit]

theorem cached_past {other : World} {moment : ℚ} {value : Fields}
    (held : other.cache = some ⟨moment, value⟩) (past : moment < t') : other.cached t' = none := by
  unfold World.cached
  rw [held]
  exact if_pos past

/-- An edit shows in the loads as long as the cache hands out the dict. -/
theorem content_edit (load : w.load toDict t = (loaded, some data)) (changed : Fields)
    (le : t ≤ t') :
    (loaded.edit changed).content toDict t' =
      if (∃ moment ∈ w.sharedUntil toDict t, t' ≤ moment) then some changed
      else w.content toDict t' := by
  cases shared : w.sharedUntil toDict t with
  | none =>
    have absent : loaded.cache = none := by
      rw [← sharedUntil_load, load] at shared
      exact Option.map_eq_none_iff.1 shared
    have unchanged : loaded.edit changed = loaded := by
      unfold World.edit
      rw [absent, Option.map_none, ← absent]
    rw [unchanged, content_loaded load le, if_neg]
    rintro ⟨moment, own, _⟩
    cases own
  | some moment =>
    have held := cached_loaded load shared
    have edited : (loaded.edit changed).cache = some ⟨moment, changed⟩ := by
      unfold World.edit
      rw [held]
      rfl
    by_cases current : t' ≤ moment
    · rw [if_pos ⟨moment, rfl, current⟩]
      exact content_held edited current
    · rw [if_neg, ← content_loaded load le, content_of_expired (cached_past held (not_le.1 current)),
        content_of_expired (cached_past edited (not_le.1 current))]
      · rfl
      · rintro ⟨moment', own, later⟩
        cases own
        exact current later

theorem content_shared (load : w.load toDict t = (loaded, some data)) (le : t ≤ t')
    (shared : ∃ moment ∈ w.sharedUntil toDict t, t' ≤ moment) :
    w.content toDict t' = some data := by
  have ⟨moment, own, current⟩ := shared
  rw [← content_loaded load le]
  exact content_held (cached_loaded load own) current

end Edits

/-- The file is as it was, and every load from the failure on answers as if the call had not been
made. -/
def Unharmed (toDict : Json → Option Fields) (call : Call) (w : World) (loadedAt failedAt : ℚ)
    (point : SavePoint) : Prop :=
  ∀ after, call.perform toDict loadedAt (some point) w = some after →
    after.file = w.file ∧ LoadsAlike toDict failedAt w after

/-- A failed save leaves the state alone where the call changes nothing, and where the dict that it
has changed is not handed out any more: the default state is never cached, and a cached state runs
out in time. -/
theorem failed_save_iff (toDict : Json → Option Fields) (call : Call) (w : World)
    (loadedAt failedAt : ℚ) (point : SavePoint) (later : loadedAt ≤ failedAt) :
    Unharmed toDict call w loadedAt failedAt point ↔
      ∀ data changed, w.content toDict loadedAt = some data → call.run data = some changed →
        changed = data ∨ ∀ moment ∈ w.sharedUntil toDict loadedAt, moment < failedAt := by
  cases load : w.load toDict loadedAt with
  | mk loaded answer =>
  have answered : w.content toDict loadedAt = answer := by
    unfold World.content
    rw [load]
  unfold Unharmed Call.perform
  rw [answered, load]
  constructor
  · rintro unharmed data changed rfl run
    have alike := (unharmed (loaded.edit changed) (by simp [run, World.save])).2
    have first := loadsAlike_iff.1 alike failedAt le_rfl
    rw [content_edit load changed later] at first
    split_ifs at first with shared
    · rw [content_shared load later shared] at first
      exact .inl (Option.some.inj first)
    · right
      intro moment own
      exact not_le.1 fun current => shared ⟨moment, own, current⟩
  · intro spared after performed
    cases answer with
    | none => simp at performed
    | some data =>
      cases run : call.run data with
      | none => simp [run] at performed
      | some changed =>
        have left_ : loaded.edit changed = after := by simpa [run, World.save] using performed
        rw [← left_]
        constructor
        · change loaded.file = w.file
          rw [← file_load w loadedAt, load]
        · rw [loadsAlike_iff]
          intro t since
          rw [content_edit load changed (later.trans since)]
          split_ifs with shared
          · rw [content_shared load (later.trans since) shared]
            have ⟨moment, own, current⟩ := shared
            rcases spared data changed rfl run with rfl | past
            · rfl
            · exact absurd (past moment own) (not_lt.2 (since.trans current))
          · rfl

/-- A load after a save that succeeds reads what was saved. -/
theorem content_save {data : Fields} {version : Json} (known : get "version" data = some version)
    (upgraded : version.asNumber ≠ some 1) :
    (w.save data none).content toDict t = some data := by
  have read : parse toDict (w.save data none).file = .state data := by
    unfold World.save parse parseJson
    dsimp only
    rw [known]
    exact if_neg upgraded
  rw [content_of_expired rfl, read]

/-! ## Two saves that fail -/

/-- A state in the file and in the cache, without a weight. -/
def storedState : Fields := [("version", .number 2), ("weights", .object [])]

def storedWorld : World := ⟨.json (.object storedState), some ⟨60, storedState⟩⟩

/-- Weights that are clear already can be reset in vain. -/
theorem failed_save_reset :
    Unharmed (fun _ => none) .resetWeights storedWorld 0 5 .write := by
  apply (failed_save_iff (fun _ => none) .resetWeights storedWorld 0 5 .write (by decide +kernel)).2
  intro data changed held run
  have known : storedWorld.content (fun _ => none) 0 = some storedState :=
    content_held rfl (by decide +kernel)
  rw [known] at held
  cases held
  cases run
  exact .inl rfl

/-- The lock of a failed `lock_weight` is in the next load. -/
theorem failed_lock_shows :
    ¬ ∀ (call : Call) (w : World) (loadedAt failedAt : ℚ) (point : SavePoint),
      loadedAt ≤ failedAt → Unharmed (fun _ => none) call w loadedAt failedAt point := by
  intro unharmed
  have known : storedWorld.content (fun _ => none) 5 = some storedState :=
    content_held rfl (by decide +kernel)
  have ⟨_, alike⟩ := unharmed (.lockWeight "default" "medium" true) storedWorld 0 5 .fsync
    (by decide +kernel) _ rfl
  have first := loadsAlike_iff.1 alike 5 le_rfl
  rw [known] at first
  have changed := congrArg (Option.map fun data => (child "weights" data).map List.length) first
  exact absurd changed (by decide +kernel)

end BacklinkPublisher.FailedSaves
