import BacklinkPublisher.JsonObjects
import BacklinkPublisher.OrderedDicts

set_option autoImplicit false

/-!
# The status of channels

`webui_store/channel_status.py`. Every call reads the whole table, changes one record (or those of
several channels, when they are reconciled with the files) and writes the table anew. The columns
of a table have no room for the accounts of a mismatch; they are in a JSON text.
-/
namespace BacklinkPublisher.ChannelStatus
open OrderedDicts JsonObjects

/-! ## Records -/

/-- A `dict`. -/
abbrev Record := Fields

/-- `record.get(key)`; a missing key and `None` are the same. -/
def field (key : String) (record : Record) : Option String :=
  ((lookup Prod.fst key record).map Prod.snd).join

def knownColumns : List String := ["status", "bound_at", "storage_state_path", "last_verified_at"]

def columns (status boundAt storageStatePath lastVerifiedAt : Option String) : Record :=
  [("status", status), ("bound_at", boundAt), ("storage_state_path", storageStatePath),
    ("last_verified_at", lastVerifiedAt)]

def unboundDefault : Record := columns (some "unbound") none none none

def identityMismatch : String := "identity_mismatch"

/-! ## The table -/

structure Row where
  channel : String
  status : String
  boundAt : Option String
  storageStatePath : Option String
  lastVerifiedAt : Option String
  extraJson : Option Text
  deriving DecidableEq

def recordOf (row : Row) : Record :=
  let record := columns (some row.status) row.boundAt row.storageStatePath row.lastVerifiedAt
  match row.extraJson.bind loads with
  | none => record
  | some extra => extra.foldl (fun held entry => put Prod.fst entry held) record

def load (rows : List Row) : List (String × Record) :=
  rows.map fun row => (row.channel, recordOf row)

def getOne (channel : String) (rows : List Row) : Option Record :=
  (rows.find? (·.channel = channel)).map recordOf

/-- `status` may not be null. -/
def rowOf (entry : String × Record) : Option Row :=
  (field "status" entry.2).map fun status =>
    let extra := entry.2.filter (·.1 ∉ knownColumns)
    { channel := entry.1
      status := status
      boundAt := field "bound_at" entry.2
      storageStatePath := field "storage_state_path" entry.2
      lastVerifiedAt := field "last_verified_at" entry.2
      extraJson := if extra = [] then none else some (dumps extra) }

/-- The channel is the primary key. -/
def save (value : List (String × Record)) : Option (List Row) :=
  if (value.map Prod.fst).Nodup then value.mapM rowOf else none

inductive Failure where
  | usage (message : String)
  | integrity
  deriving DecidableEq

def update (apply : List (String × Record) → List (String × Record)) (rows : List Row) :
    Except Failure (List Row) :=
  match save (apply (load rows)) with
  | none => .error .integrity
  | some rows => .ok rows

/-! ## The calls -/

/-- Sorted, as an error shows them. -/
def channels : List String := ["blogger", "medium", "velog"]

/-- What a call asks the file system. -/
structure Files where
  configDir : String
  resolve : String → String
  isThere : String → Bool

/-- `resolved.relative_to(config_root)` does not raise. -/
def isWithin (root path : String) : Bool :=
  root = "/" || path = root || (root ++ "/").toList.isPrefixOf path.toList

section Calls
variable (repr : String → String)

def validateChannel (channel : String) : Except Failure Unit :=
  if channel = "" ∨ channel ∉ channels then
    .error (.usage ("channel_status: unknown channel " ++ repr channel ++
      " (allowed: ['blogger', 'medium', 'velog'])"))
  else .ok ()

def validateStorageStatePath (files : Files) (path : String) : Except Failure String :=
  let root := files.resolve files.configDir
  if isWithin root (files.resolve path) then .ok (files.resolve path)
  else
    .error (.usage ("channel_status: storage_state_path " ++ repr path ++
      " must resolve inside " ++ repr root))

/-- `current.get(channel, {})` -/
def existing (channel : String) (current : List (String × Record)) : Record :=
  ((lookup Prod.fst channel current).map Prod.snd).getD []

/-- `current[channel] = record` -/
def assign (channel : String) (record : Record) (current : List (String × Record)) :
    List (String × Record) :=
  put Prod.fst (channel, record) current

def expiredRecord (held : Record) : Record :=
  columns (some "expired") (field "bound_at" held) (field "storage_state_path" held) none

def markBound (files : Files) (channel path now : String) (rows : List Row) :
    Except Failure (List Row) := do
  validateChannel repr channel
  let resolved ← validateStorageStatePath repr files path
  update (assign channel (columns (some "bound") (some now) (some resolved) none)) rows

def markExpired (channel : String) (rows : List Row) : Except Failure (List Row) := do
  validateChannel repr channel
  update (fun current => assign channel (expiredRecord (existing channel current)) current) rows

/-- `existing.get("status", "unbound")` -/
def statusOr (held : Record) : Option String :=
  ((lookup Prod.fst "status" held).map Prod.snd).getD (some "unbound")

def markVerified (channel now : String) (rows : List Row) : Except Failure (List Row) := do
  validateChannel repr channel
  update (fun current =>
    let held := existing channel current
    assign channel (columns (statusOr held) (field "bound_at" held)
      (field "storage_state_path" held) (some now)) current) rows

def markIdentityMismatch (channel oldAccount newAccount : String) (rows : List Row) :
    Except Failure (List Row) := do
  validateChannel repr channel
  if oldAccount = "" ∨ newAccount = "" ∨ oldAccount = newAccount then return rows
  update (fun current =>
    let held := existing channel current
    if field "status" held = some identityMismatch then current
    else
      assign channel (columns (some identityMismatch) (field "bound_at" held)
        (field "storage_state_path" held) (field "last_verified_at" held) ++
          [("identity_mismatch_old", some oldAccount), ("identity_mismatch_new", some newAccount)])
        current) rows

/-- The record after the files are looked at. -/
def reconciled (files : Files) (record : Record) : Record :=
  if field "status" record = some "bound" ∧
      ¬ (field "storage_state_path" record).any (fun path => path ≠ "" && files.isThere path) then
    expiredRecord record
  else record

def reconcileOnLoad (files : Files) (rows : List Row) : Except Failure (List Row) :=
  update (fun current => current.map fun entry => (entry.1, reconciled files entry.2)) rows

end Calls

def getStatus (channel : String) (rows : List Row) : Record :=
  (getOne channel rows).getD unboundDefault

/-! ## Runs -/

/-- A call with what it sees of the files and the clock. -/
inductive Call where
  | bound (files : Files) (channel path now : String)
  | expired (channel : String)
  | verified (channel now : String)
  | mismatch (channel oldAccount newAccount : String)
  | reconcile (files : Files)

/-- The channel that the call is for. -/
def Call.channel : Call → Option String
  | .bound _ channel _ _ | .expired channel | .verified channel _ | .mismatch channel _ _ =>
    some channel
  | .reconcile _ => none

section Runs
variable (repr : String → String)

def Call.run (rows : List Row) : Call → Except Failure (List Row)
  | .bound files channel path now => markBound repr files channel path now rows
  | .expired channel => markExpired repr channel rows
  | .verified channel now => markVerified repr channel now rows
  | .mismatch channel oldAccount newAccount =>
    markIdentityMismatch repr channel oldAccount newAccount rows
  | .reconcile files => reconcileOnLoad files rows

/-- A call that raises leaves the table as it is. -/
def after (rows : List Row) (call : Call) : List Row :=
  match call.run repr rows with
  | .ok rows => rows
  | .error _ => rows

def stateAfter (calls : List Call) : List Row := calls.foldl (after repr) []

end Runs

/-! ## What is promised -/

/-- The call does not raise. -/
def Call.accepted : Call → Bool
  | .bound files channel path _ =>
    channel ∈ channels && isWithin (files.resolve files.configDir) (files.resolve path)
  | .expired channel | .verified channel _ | .mismatch channel _ _ => channel ∈ channels
  | .reconcile _ => true

/-- The accounts of the first mismatch since the channel was bound or expired. -/
def Call.note (channel : String) (first : Option (String × String)) (call : Call) :
    Option (String × String) :=
  if call.accepted = true ∧ call.channel = some channel then
    match call with
    | .bound .. | .expired _ => none
    | .mismatch _ oldAccount newAccount =>
      if oldAccount = "" ∨ newAccount = "" ∨ oldAccount = newAccount then first
      else first.or (some (oldAccount, newAccount))
    | .verified .. | .reconcile _ => first
  else first

def firstMismatch (channel : String) (calls : List Call) : Option (String × String) :=
  calls.foldl (Call.note channel) none

def Mismatched (channel : String) (rows : List Row) : Prop :=
  field "status" (getStatus channel rows) = some identityMismatch

/-- The accounts that the record of a channel holds. -/
def accounts (channel : String) (rows : List Row) : Option String × Option String :=
  (field "identity_mismatch_old" (getStatus channel rows),
    field "identity_mismatch_new" (getStatus channel rows))

def Call.resolves : Call → Bool
  | .bound .. | .expired _ => true
  | _ => false

/-- What is promised of every state and of every call of a run. -/
structure Keeps (repr : String → String) (calls : List Call) : Prop where
  first : ∀ before, before <+: calls → ∀ channel, Mismatched channel (stateAfter repr before) →
    ∃ oldAccount newAccount, firstMismatch channel before = some (oldAccount, newAccount) ∧
      oldAccount ≠ "" ∧ newAccount ≠ "" ∧ oldAccount ≠ newAccount ∧
      accounts channel (stateAfter repr before) = (some oldAccount, some newAccount)
  kept : ∀ before call, before ++ [call] <+: calls → call.resolves = false →
    ∀ channel, Mismatched channel (stateAfter repr before) →
      Mismatched channel (stateAfter repr (before ++ [call])) ∧
        accounts channel (stateAfter repr (before ++ [call])) =
          accounts channel (stateAfter repr before)
  others : ∀ before call target, before ++ [call] <+: calls → call.channel = some target →
    ∀ channel, channel ≠ target →
      getOne channel (stateAfter repr (before ++ [call])) =
        getOne channel (stateAfter repr before)

/-- No channel is marked as verified while its accounts are in question. -/
def Unverified (repr : String → String) (calls : List Call) : Prop :=
  ∀ before channel now, before ++ [.verified channel now] <+: calls → channel ∈ channels →
    ¬ Mismatched channel (stateAfter repr before)

/-! ## Entries -/

/-- What a record says. -/
structure Entry where
  status : String
  boundAt : Option String := none
  storageStatePath : Option String := none
  lastVerifiedAt : Option String := none
  accounts : Option (String × String) := none

def accountFields : Option (String × String) → Record
  | none => []
  | some (oldAccount, newAccount) =>
    [("identity_mismatch_old", some oldAccount), ("identity_mismatch_new", some newAccount)]

def Entry.record (entry : Entry) : Record :=
  columns (some entry.status) entry.boundAt entry.storageStatePath entry.lastVerifiedAt ++
    accountFields entry.accounts

section Fields
variable (entry : Entry)

theorem field_status : field "status" entry.record = some entry.status := rfl

theorem field_boundAt : field "bound_at" entry.record = entry.boundAt := by
  unfold Entry.record columns field lookup
  simp

theorem field_storageStatePath :
    field "storage_state_path" entry.record = entry.storageStatePath := by
  unfold Entry.record columns field lookup
  simp

theorem field_lastVerifiedAt : field "last_verified_at" entry.record = entry.lastVerifiedAt := by
  unfold Entry.record columns field lookup
  simp

theorem field_oldAccount :
    field "identity_mismatch_old" entry.record = entry.accounts.map Prod.fst := by
  unfold Entry.record columns field lookup
  cases entry.accounts <;> simp [accountFields]

theorem field_newAccount :
    field "identity_mismatch_new" entry.record = entry.accounts.map Prod.snd := by
  unfold Entry.record columns field lookup
  cases entry.accounts <;> simp [accountFields]

theorem extra_record : entry.record.filter (·.1 ∉ knownColumns) = accountFields entry.accounts := by
  unfold Entry.record columns knownColumns
  cases entry.accounts <;> simp [accountFields]

/-- A record that is written is read back. -/
theorem recordOf_rowOf (channel : String) : ∃ row, rowOf (channel, entry.record) = some row ∧
    row.channel = channel ∧ recordOf row = entry.record := by
  unfold rowOf
  rw [field_status, Option.map_some]
  refine ⟨_, rfl, rfl, ?_⟩
  unfold recordOf
  dsimp only
  rw [extra_record, field_boundAt, field_storageStatePath, field_lastVerifiedAt]
  unfold Entry.record
  cases entry.accounts with
  | none => rfl
  | some pair =>
    have extra : accountFields (some pair) ≠ [] := List.cons_ne_nil _ _
    rw [if_neg extra, Option.bind_some, loads_dumps]
    rfl

end Fields

/-! ## What a table shows -/

abbrev View := String → Option Entry

structure Shows (value : List (String × Record)) (view : View) : Prop where
  nodup : (value.map Prod.fst).Nodup
  entries : ∀ channel,
    lookup Prod.fst channel value = (view channel).map fun entry => (channel, entry.record)

section Shows
variable {value : List (String × Record)} {view : View}

theorem Shows.save_load (shows_ : Shows value view) :
    ∃ rows, save value = some rows ∧ load rows = value := by
  have written : ∀ entry ∈ value, ∃ row, rowOf entry = some row ∧
      (row.channel, recordOf row) = entry := by
    intro entry member
    have found := (shows_.entries entry.1).symm.trans (lookup_of_mem shows_.nodup member)
    obtain ⟨told, -, same⟩ := Option.map_eq_some_iff.1 found
    obtain ⟨row, wrote, channel, record⟩ := recordOf_rowOf told entry.1
    rw [same] at wrote
    refine ⟨row, wrote, ?_⟩
    rw [channel, record, same]
  have all : ∀ part : List (String × Record), part ⊆ value →
      ∃ rows, part.mapM rowOf = some rows ∧ load rows = part := by
    intro part
    induction part with
    | nil => exact fun _ => ⟨[], rfl, rfl⟩
    | cons entry part ih =>
      intro sub
      obtain ⟨row, wrote, back⟩ := written entry (sub List.mem_cons_self)
      obtain ⟨rows, rest, loaded⟩ := ih fun _ member => sub (List.mem_cons_of_mem _ member)
      refine ⟨row :: rows, ?_, ?_⟩
      · rw [List.mapM_cons, wrote, rest]
        rfl
      · rw [← loaded, ← back]
        rfl
  obtain ⟨rows, wrote, loaded⟩ := all value (List.Subset.refl _)
  exact ⟨rows, by rw [save, if_pos shows_.nodup, wrote], loaded⟩

/-- What is written is what the next call reads. -/
theorem update_shows {apply : List (String × Record) → List (String × Record)} {rows : List Row}
    (shows_ : Shows (apply (load rows)) view) :
    ∃ rows', update apply rows = .ok rows' ∧ Shows (load rows') view := by
  obtain ⟨rows', saved, loaded⟩ := shows_.save_load
  refine ⟨rows', ?_, loaded ▸ shows_⟩
  unfold update
  rw [saved]

theorem Shows.existing (shows_ : Shows value view) (channel : String) :
    existing channel value = (view channel).elim [] Entry.record := by
  unfold ChannelStatus.existing
  rw [shows_.entries]
  cases view channel <;> rfl

theorem Shows.assign (shows_ : Shows value view) (channel : String) (entry : Entry) :
    Shows (assign channel entry.record value)
      fun other => if channel = other then some entry else view other := by
  refine ⟨nodup_keys_put shows_.nodup, fun other => ?_⟩
  unfold ChannelStatus.assign
  rw [lookup_put, shows_.entries]
  by_cases same : channel = other
  · rw [if_pos same, if_pos same, same]
    rfl
  · rw [if_neg same, if_neg same]

theorem Shows.map {f : Record → Record} {g : Entry → Entry}
    (same : ∀ entry : Entry, f entry.record = (g entry).record) (shows_ : Shows value view) :
    Shows (value.map fun entry => (entry.1, f entry.2)) fun channel => (view channel).map g := by
  refine ⟨by rw [List.map_map]; exact shows_.nodup, fun channel => ?_⟩
  have found := shows_.entries channel
  unfold lookup at found ⊢
  rw [List.find?_map]
  change (value.find? fun entry => decide (entry.1 = channel)).map _ = _
  rw [found, Option.map_map, Option.map_map]
  congr 1
  funext entry
  exact congrArg (Prod.mk channel) (same entry)

theorem Shows.getOne {rows : List Row} (shows_ : Shows (load rows) view) (channel : String) :
    getOne channel rows = (view channel).map Entry.record := by
  have found := shows_.entries channel
  unfold load lookup at found
  rw [List.find?_map] at found
  have values := congrArg (Option.map Prod.snd) found
  rw [Option.map_map, Option.map_map] at values
  exact values

end Shows

/-! ## Calls on entries -/

def Entry.expired (entry : Entry) : Entry where
  status := "expired"
  boundAt := entry.boundAt
  storageStatePath := entry.storageStatePath

def Entry.reconciled (files : Files) (entry : Entry) : Entry :=
  if entry.status = "bound" ∧
      ¬ entry.storageStatePath.any (fun path => path ≠ "" && files.isThere path) then
    entry.expired
  else entry

/-- What a call makes of the entry of its channel. -/
def Call.change (held : Option Entry) : Call → Option Entry
  | .bound files _ path now =>
    some { status := "bound", boundAt := now, storageStatePath := files.resolve path }
  | .expired _ =>
    some
      { status := "expired"
        boundAt := held.bind Entry.boundAt
        storageStatePath := held.bind Entry.storageStatePath }
  | .verified _ now =>
    some
      { status := (held.map Entry.status).getD "unbound"
        boundAt := held.bind Entry.boundAt
        storageStatePath := held.bind Entry.storageStatePath
        lastVerifiedAt := now }
  | .mismatch _ oldAccount newAccount =>
    if (oldAccount = "" ∨ newAccount = "" ∨ oldAccount = newAccount) ∨
        held.map Entry.status = some identityMismatch then held
    else
      some
        { status := identityMismatch
          boundAt := held.bind Entry.boundAt
          storageStatePath := held.bind Entry.storageStatePath
          lastVerifiedAt := held.bind Entry.lastVerifiedAt
          accounts := some (oldAccount, newAccount) }
  | .reconcile files => held.map (Entry.reconciled files)

/-- What a call makes of the entry of a channel. -/
def Call.act (channel : String) (held : Option Entry) (call : Call) : Option Entry :=
  if call.accepted = true ∧ (call.channel = some channel ∨ call.channel = none) then
    call.change held
  else held

section Act
variable {repr : String → String} {rows : List Row} {view : View}

theorem act_of_target {call : Call} {target : String} (accepted : call.accepted = true)
    (at_ : call.channel = some target) :
    (fun channel => call.act channel (view channel)) =
      fun other => if target = other then call.change (view target) else view other := by
  funext other
  unfold Call.act
  rw [at_]
  by_cases same : target = other
  · rw [if_pos ⟨accepted, .inl (congrArg some same)⟩, if_pos same, same]
  · refine (if_neg fun h => ?_).trans (if_neg same).symm
    rcases h.2 with here | none_
    · exact same (Option.some.inj here)
    · cases none_

theorem act_of_rejected {call : Call} (rejected : call.accepted = false) :
    (fun channel => call.act channel (view channel)) = view := by
  funext channel
  unfold Call.act
  rw [if_neg fun h => absurd (h.1.symm.trans rejected) Bool.noConfusion]

theorem validateChannel_known {channel : String} (known : channel ∈ channels) :
    validateChannel repr channel = .ok () := by
  have some_ : channel ≠ "" := by
    intro empty
    rw [empty] at known
    exact absurd known (by decide)
  unfold validateChannel
  rw [if_neg (not_or.2 ⟨some_, not_not.2 known⟩)]

theorem validateChannel_unknown {channel : String} (unknown : channel ∉ channels) :
    ∃ failure, validateChannel repr channel = .error failure := by
  unfold validateChannel
  rw [if_pos (.inr unknown)]
  exact ⟨_, rfl⟩

theorem after_error {call : Call} (raised : ∃ failure, call.run repr rows = .error failure) :
    after repr rows call = rows := by
  obtain ⟨failure, raised⟩ := raised
  unfold after
  rw [raised]

/-- A call that raises is one that is not accepted. -/
theorem run_rejected {call : Call} (rejected : call.accepted = false) :
    ∃ failure, call.run repr rows = .error failure := by
  have unknown : ∀ channel, channel ∉ channels →
      ∀ next : Unit → Except Failure (List Row),
        ∃ failure, validateChannel repr channel >>= next = .error failure := by
    intro channel unknown next
    obtain ⟨failure, raised⟩ := @validateChannel_unknown repr channel unknown
    exact ⟨failure, by rw [raised]; rfl⟩
  cases call with
  | bound files channel path now =>
    by_cases known : channel ∈ channels
    · have outside : isWithin (files.resolve files.configDir) (files.resolve path) = false := by
        change (decide (channel ∈ channels) && _) = false at rejected
        rw [decide_eq_true known, Bool.true_and] at rejected
        exact rejected
      have raised : ∃ failure, validateStorageStatePath repr files path = .error failure := by
        unfold validateStorageStatePath
        dsimp only
        rw [outside]
        exact ⟨_, rfl⟩
      obtain ⟨failure, raised⟩ := raised
      refine ⟨failure, ?_⟩
      change (validateChannel repr channel >>= _) = _
      rw [validateChannel_known known]
      change (validateStorageStatePath repr files path >>= _) = _
      rw [raised]
      rfl
    · exact unknown channel known _
  | expired channel => exact unknown channel (of_decide_eq_false rejected) _
  | verified channel now => exact unknown channel (of_decide_eq_false rejected) _
  | mismatch channel oldAccount newAccount =>
    exact unknown channel (of_decide_eq_false rejected) _
  | reconcile files => cases rejected

theorem after_update {call : Call} {apply : List (String × Record) → List (String × Record)}
    (runs : call.run repr rows = update apply rows)
    (next : Shows (apply (load rows)) fun channel => call.act channel (view channel)) :
    Shows (load (after repr rows call)) fun channel => call.act channel (view channel) := by
  obtain ⟨rows', updated, shown⟩ := update_shows next
  unfold after
  rw [runs, updated]
  exact shown

/-- The entry of the channel is assigned. -/
theorem after_assign (shows_ : Shows (load rows) view) {call : Call} {target : String}
    {apply : List (String × Record) → List (String × Record)} {entry : Entry}
    (accepted : call.accepted = true) (at_ : call.channel = some target)
    (runs : call.run repr rows = update apply rows)
    (told : apply (load rows) = assign target entry.record (load rows))
    (changed : call.change (view target) = some entry) :
    Shows (load (after repr rows call)) fun channel => call.act channel (view channel) := by
  refine after_update runs ?_
  rw [act_of_target accepted at_, changed, told]
  exact shows_.assign target entry

/-- The entry of the channel stays. -/
theorem act_idle {call : Call} {target : String} (accepted : call.accepted = true)
    (at_ : call.channel = some target) (idle : call.change (view target) = view target) :
    (fun channel => call.act channel (view channel)) = view := by
  rw [act_of_target accepted at_, idle]
  funext other
  split_ifs with same
  · rw [same]
  · rfl

theorem statusOr_elim (held : Option Entry) :
    statusOr (held.elim [] Entry.record) = some ((held.map Entry.status).getD "unbound") := by
  cases held <;> rfl

theorem fields_elim (held : Option Entry) :
    field "status" (held.elim [] Entry.record) = held.map Entry.status ∧
      field "bound_at" (held.elim [] Entry.record) = held.bind Entry.boundAt ∧
      field "storage_state_path" (held.elim [] Entry.record) =
        held.bind Entry.storageStatePath ∧
      field "last_verified_at" (held.elim [] Entry.record) = held.bind Entry.lastVerifiedAt := by
  cases held with
  | none => exact ⟨rfl, rfl, rfl, rfl⟩
  | some entry =>
    exact ⟨field_status entry, field_boundAt entry, field_storageStatePath entry,
      field_lastVerifiedAt entry⟩

theorem reconciled_record (files : Files) (entry : Entry) :
    reconciled files entry.record = (entry.reconciled files).record := by
  unfold reconciled Entry.reconciled
  rw [field_status, field_storageStatePath]
  simp only [Option.some_inj]
  split_ifs
  · unfold expiredRecord
    rw [field_boundAt, field_storageStatePath]
    rfl
  · rfl

/-- Every call does on the table what it does on the entries. -/
theorem after_shows (shows_ : Shows (load rows) view) (call : Call) :
    Shows (load (after repr rows call)) fun channel => call.act channel (view channel) := by
  cases taken : call.accepted with
  | false =>
    rw [after_error (run_rejected taken), act_of_rejected taken]
    exact shows_
  | true =>
    cases call with
    | bound files channel path now =>
      have ⟨known, inside⟩ := Bool.and_eq_true_iff.1 taken
      refine @after_assign repr rows view shows_ _ channel
        (assign channel (columns (some "bound") (some now) (some (files.resolve path)) none))
        { status := "bound", boundAt := now, storageStatePath := files.resolve path } taken rfl ?_
        rfl rfl
      change (validateChannel repr channel >>= _) = _
      rw [validateChannel_known (of_decide_eq_true known)]
      change (validateStorageStatePath repr files path >>= _) = _
      unfold validateStorageStatePath
      dsimp only
      rw [if_pos inside]
      rfl
    | expired channel =>
      have ⟨_, boundAt, path, _⟩ := fields_elim (view channel)
      refine @after_assign repr rows view shows_ _ channel
        (fun current => assign channel (expiredRecord (existing channel current)) current) _ taken
        rfl ?_ ?_ rfl
      · change (validateChannel repr channel >>= _) = _
        rw [validateChannel_known (of_decide_eq_true taken)]
        rfl
      · rw [shows_.existing, expiredRecord, boundAt, path]
        rfl
    | verified channel now =>
      have ⟨_, boundAt, path, _⟩ := fields_elim (view channel)
      refine @after_assign repr rows view shows_ _ channel
        (fun current =>
          let held := existing channel current
          assign channel (columns (statusOr held) (field "bound_at" held)
            (field "storage_state_path" held) (some now)) current)
        _ taken rfl ?_ ?_ rfl
      · change (validateChannel repr channel >>= _) = _
        rw [validateChannel_known (of_decide_eq_true taken)]
        rfl
      · dsimp only
        rw [shows_.existing, statusOr_elim, boundAt, path]
        rfl
    | mismatch channel oldAccount newAccount =>
      have runs : (Call.mismatch channel oldAccount newAccount).run repr rows =
          if oldAccount = "" ∨ newAccount = "" ∨ oldAccount = newAccount then .ok rows
          else update (fun current =>
            let held := existing channel current
            if field "status" held = some identityMismatch then current
            else
              assign channel (columns (some identityMismatch) (field "bound_at" held)
                (field "storage_state_path" held) (field "last_verified_at" held) ++
                  accountFields (some (oldAccount, newAccount))) current) rows := by
        change (validateChannel repr channel >>= _) = _
        rw [validateChannel_known (of_decide_eq_true taken)]
        rfl
      have ⟨status, boundAt, path, verified⟩ := fields_elim (view channel)
      by_cases same : oldAccount = "" ∨ newAccount = "" ∨ oldAccount = newAccount
      · rw [if_pos same] at runs
        rw [act_idle taken rfl (if_pos (.inl same))]
        unfold after
        rw [runs]
        exact shows_
      · rw [if_neg same] at runs
        by_cases already : (view channel).map Entry.status = some identityMismatch
        · refine after_update runs ?_
          rw [act_idle taken rfl (if_pos (.inr already))]
          dsimp only
          rw [shows_.existing, status, if_pos already]
          exact shows_
        · refine after_assign shows_ taken rfl runs ?_ (if_neg (not_or.2 ⟨same, already⟩))
          dsimp only
          rw [shows_.existing, status, if_neg already, boundAt, path, verified]
          rfl
    | reconcile files =>
      have all : (fun channel => (Call.reconcile files).act channel (view channel)) =
          fun channel => (view channel).map (Entry.reconciled files) := by
        funext channel
        exact if_pos ⟨rfl, .inr rfl⟩
      refine @after_update repr rows view _
        (fun current => current.map fun entry => (entry.1, reconciled files entry.2)) rfl ?_
      rw [all]
      exact shows_.map (reconciled_record files)

end Act

/-! ## Accounts along a run -/

def viewAfter (calls : List Call) : View := fun channel => calls.foldl (Call.act channel) none

abbrev Inquiry (held : Option Entry) : Prop := held.map Entry.status = some identityMismatch

section Told
variable {repr : String → String} {channel : String} {held : Option Entry}
  {first : Option (String × String)}

theorem stateAfter_shows (calls : List Call) :
    Shows (load (stateAfter repr calls)) (viewAfter calls) := by
  induction calls using List.reverseRecOn with
  | nil => exact ⟨List.nodup_nil, fun channel => rfl⟩
  | append_singleton calls call ih =>
    have next := @after_shows repr _ _ ih call
    unfold stateAfter viewAfter at next ⊢
    simp only [List.foldl_append, List.foldl_cons, List.foldl_nil]
    exact next

theorem getStatus_eq (calls : List Call) (channel : String) :
    getStatus channel (stateAfter repr calls) =
      (viewAfter calls channel).elim unboundDefault Entry.record := by
  unfold getStatus
  rw [(stateAfter_shows calls).getOne]
  cases viewAfter calls channel <;> rfl

theorem mismatched_iff (calls : List Call) (channel : String) :
    Mismatched channel (stateAfter repr calls) ↔ Inquiry (viewAfter calls channel) := by
  unfold Mismatched Inquiry
  rw [getStatus_eq]
  cases viewAfter calls channel with
  | none => decide
  | some entry => rfl

theorem accounts_eq (calls : List Call) (channel : String) :
    accounts channel (stateAfter repr calls) =
      (((viewAfter calls channel).bind Entry.accounts).map Prod.fst,
        ((viewAfter calls channel).bind Entry.accounts).map Prod.snd) := by
  unfold accounts
  rw [getStatus_eq]
  cases viewAfter calls channel with
  | none => rfl
  | some entry => exact congrArg₂ Prod.mk (field_oldAccount entry) (field_newAccount entry)

theorem viewAfter_append (calls : List Call) (call : Call) (channel : String) :
    viewAfter (calls ++ [call]) channel = call.act channel (viewAfter calls channel) := by
  unfold viewAfter
  rw [List.foldl_append]
  rfl

/-- The accounts of the first mismatch are those of the entry. -/
def Told (held : Option Entry) : Option (String × String) → Prop
  | none => ¬ Inquiry held
  | some (oldAccount, newAccount) =>
    (oldAccount ≠ "" ∧ newAccount ≠ "" ∧ oldAccount ≠ newAccount) ∧ Inquiry held ∧
      held.bind Entry.accounts = some (oldAccount, newAccount)

theorem Told.none_of (told : Told held first) (plain : ¬ Inquiry held) : first = none := by
  cases first with
  | none => rfl
  | some pair => exact absurd told.2.1 plain

theorem Told.isSome_of (told : Told held first) (open_ : Inquiry held) :
    ∃ pair, first = some pair := by
  cases first with
  | none => exact absurd open_ told
  | some pair => exact ⟨pair, rfl⟩

/-- What a call leaves alone that does not resolve anything. -/
theorem act_of_inquiry {call : Call} (keeps : call.resolves = false)
    (allowed : ∀ now, call = .verified channel now → channel ∉ channels) (open_ : Inquiry held) :
    call.act channel held = held := by
  unfold Call.act
  split_ifs with here
  · obtain ⟨taken, at_⟩ := here
    cases call with
    | bound files target path now => cases keeps
    | expired target => cases keeps
    | verified target now =>
      rcases at_ with same | none_
      · have same := Option.some.inj same
        exact absurd (same ▸ of_decide_eq_true taken) (allowed now (by rw [same]))
      · cases none_
    | mismatch target oldAccount newAccount => exact if_pos (.inr open_)
    | reconcile files =>
      obtain ⟨entry, value, status⟩ := Option.map_eq_some_iff.1 open_
      rw [value]
      change some (Entry.reconciled files entry) = _
      unfold Entry.reconciled
      rw [if_neg fun h => absurd (status.symm.trans h.1) (by decide)]
  · rfl

theorem inquiry_of_reconciled {files : Files}
    (open_ : Inquiry (held.map (Entry.reconciled files))) : Inquiry held := by
  cases held with
  | none => exact open_
  | some entry =>
    unfold Inquiry at open_ ⊢
    rw [Option.map_some, Option.map_some] at open_
    unfold Entry.reconciled at open_
    split_ifs at open_
    · have other : "expired" ≠ identityMismatch := by decide
      exact absurd (Option.some.inj open_) other
    · exact open_

theorem told_act (told : Told held first) (call : Call)
    (allowed : ∀ now, call = .verified channel now → channel ∈ channels → ¬ Inquiry held) :
    Told (call.act channel held) (call.note channel first) := by
  by_cases here : call.accepted = true ∧ call.channel = some channel
  · unfold Call.act Call.note
    rw [if_pos here, if_pos ⟨here.1, .inl here.2⟩]
    cases call with
    | bound files target path now =>
      have other : "bound" ≠ identityMismatch := by decide
      exact fun open_ => other (Option.some.inj open_)
    | expired target =>
      have other : "expired" ≠ identityMismatch := by decide
      exact fun open_ => other (Option.some.inj open_)
    | verified target now =>
      have same := Option.some.inj here.2
      have plain := allowed now (by rw [same]) (same ▸ of_decide_eq_true here.1)
      rw [told.none_of plain]
      intro open_
      cases held with
      | none =>
        have other : "unbound" ≠ identityMismatch := by decide
        exact other (Option.some.inj open_)
      | some entry => exact plain open_
    | mismatch target oldAccount newAccount =>
      dsimp only [Call.change]
      by_cases idle : oldAccount = "" ∨ newAccount = "" ∨ oldAccount = newAccount
      · rw [if_pos idle, if_pos (.inl idle)]
        exact told
      · rw [if_neg idle]
        by_cases open_ : Inquiry held
        · obtain ⟨pair, value⟩ := told.isSome_of open_
          rw [if_pos (.inr open_), value, Option.some_or, ← value]
          exact told
        · rw [if_neg (not_or.2 ⟨idle, open_⟩), told.none_of open_, Option.none_or]
          have ⟨some_, both, differ⟩ := (not_or.1 idle).imp_right not_or.1
          exact ⟨⟨some_, both, differ⟩, rfl, rfl⟩
    | reconcile files => cases here.2
  · have unchanged : call.note channel first = first := if_neg here
    rw [unchanged]
    by_cases named : call.channel = none
    · cases call with
      | reconcile files =>
        by_cases open_ : Inquiry held
        · rwa [act_of_inquiry rfl (fun now same => by cases same) open_]
        · rw [told.none_of open_]
          exact fun later => open_ (inquiry_of_reconciled later)
      | _ => cases named
    · have idle : call.act channel held = held :=
        if_neg fun h => here ⟨h.1, h.2.resolve_right named⟩
      rw [idle]
      exact told

/-- No call changes what another channel has. -/
theorem act_of_other {call : Call} {target : String} (at_ : call.channel = some target)
    (other : channel ≠ target) : call.act channel held = held := by
  refine if_neg fun h => ?_
  rw [at_] at h
  rcases h.2 with same | none_
  · exact other (Option.some.inj same).symm
  · cases none_

/-- What is promised holds of a run exactly if no channel is marked as verified while the operator
has not resolved its mismatch. -/
theorem keeps_iff (calls : List Call) : Keeps repr calls ↔ Unverified repr calls := by
  constructor
  · intro keeps before channel now run known open_
    have before_run : before <+: calls := (List.prefix_append _ _).trans run
    obtain ⟨oldAccount, newAccount, -, -, -, -, held⟩ := keeps.first before before_run channel open_
    have same := (keeps.kept before _ run rfl channel open_).2
    have taken : (Call.verified channel now).accepted = true := decide_eq_true known
    rw [held, accounts_eq, viewAfter_append, Call.act, if_pos ⟨taken, .inl rfl⟩] at same
    cases same
  · intro unverified
    have told : ∀ channel before, before <+: calls →
        Told (viewAfter before channel) (firstMismatch channel before) := by
      intro channel before
      induction before using List.reverseRecOn with
      | nil => exact fun _ open_ => absurd open_ (Option.some_ne_none _).symm
      | append_singleton before call ih =>
        intro run
        unfold firstMismatch
        rw [viewAfter_append, List.foldl_append]
        refine told_act (ih ((List.prefix_append _ _).trans run)) call fun now same known => ?_
        rw [← mismatched_iff]
        exact unverified before channel now (same ▸ run) known
    refine ⟨fun before run channel open_ => ?_, fun before call run keeps channel open_ => ?_,
      fun before call target run at_ channel other => ?_⟩
    · have open_ := (mismatched_iff before channel).1 open_
      have own := told channel before run
      obtain ⟨pair, value⟩ := own.isSome_of open_
      rw [value] at own
      have ⟨⟨some_, both, differ⟩, _, held⟩ := own
      refine ⟨pair.1, pair.2, value, some_, both, differ, ?_⟩
      rw [accounts_eq, held]
      rfl
    · have inquiry := (mismatched_iff before channel).1 open_
      have same : call.act channel (viewAfter before channel) = viewAfter before channel := by
        refine act_of_inquiry keeps (fun now verified known => ?_) inquiry
        exact unverified before channel now (verified ▸ run) known open_
      rw [mismatched_iff, accounts_eq, accounts_eq, viewAfter_append, same]
      exact ⟨inquiry, rfl⟩
    · rw [(stateAfter_shows _).getOne, (stateAfter_shows _).getOne, viewAfter_append,
        act_of_other at_ other]

end Told

/-! ## A mismatch that is verified -/

/-- A mismatch of `alice` and `bob`, then the probe of the liveness of the channel. -/
def verifiedMismatch : List Call :=
  [.mismatch "velog" "alice" "bob", .verified "velog" "2026-01-01T00:00:00+00:00"]

/-- The channel stays in the mismatch, and its accounts are gone. -/
theorem verified_mismatch_forgets :
    (Mismatched "velog" (stateAfter id verifiedMismatch) ∧
      accounts "velog" (stateAfter id verifiedMismatch) = (none, none)) ∧
      ¬ Keeps id verifiedMismatch := by
  have shown : Mismatched "velog" (stateAfter id verifiedMismatch) ∧
      accounts "velog" (stateAfter id verifiedMismatch) = (none, none) := by
    unfold Mismatched
    decide +kernel
  refine ⟨shown, fun keeps => ?_⟩
  obtain ⟨oldAccount, newAccount, -, -, -, -, held⟩ :=
    keeps.first verifiedMismatch (List.prefix_refl _) "velog" shown.1
  cases held.symm.trans shown.2

end BacklinkPublisher.ChannelStatus
