import Mathlib.Data.List.Basic
import Mathlib.Logic.Function.Basic
import Mathlib.Tactic.Common

set_option autoImplicit false

/-!
# Checkpoints of publish runs

`checkpoint.py`: one file per run, one item per row. Every update is a locked
read-modify-write of the whole file, so it is a function of the checkpoint.
-/
namespace BacklinkPublisher.Checkpoints

/-- What the publish seams read of a row. -/
structure PublishRow where
  id : String := ""
  platform : Option String := none
  publishMode : Option String := none
  targetUrl : Option String := none
  title : String := ""
  deriving DecidableEq, Repr

inductive ItemStatus where
  | pending
  | done
  | failed
  deriving DecidableEq, Repr

structure CheckpointItem where
  id : String
  status : ItemStatus
  title : String
  platform : String
  adapter : Option String := none
  publishedUrl : Option String := none
  articleUrls : Option (List String) := none
  error : Option String := none
  errorClass : Option String := none
  completedAt : Option String := none
  createdAt : Option String := none
  verified : Option Bool := none
  payload : PublishRow
  deriving DecidableEq, Repr

structure Checkpoint where
  runId : String
  startedAt : String
  platform : Option String
  mode : String
  status : Option String
  items : List CheckpointItem
  idToIndex : String → Option ℕ
  skipPublishTimeCheck : Bool

/-- Python's truth value of an optional string. -/
def truthy (value : Option String) : Option String := value.filter (· ≠ "")

/-- `{id: index}` over the items: the last one of an id stays. -/
def indexOfIds (ids : List String) : String → Option ℕ :=
  ids.zipIdx.foldl (fun index entry => Function.update index entry.1 (some entry.2)) fun _ => none

def createItem (platform : Option String) (row : PublishRow) : CheckpointItem where
  id := row.id
  status := .pending
  title := row.title
  platform := (truthy platform).getD (row.platform.getD "")
  payload := row

def createCheckpoint (runId startedAt : String) (rows : List PublishRow) (platform : Option String)
    (mode : String) (skipPublishTimeCheck : Bool) : Checkpoint where
  runId := runId
  startedAt := startedAt
  platform := platform
  mode := mode
  status := none
  items := rows.map (createItem platform)
  idToIndex := indexOfIds (rows.map (·.id))
  skipPublishTimeCheck := skipPublishTimeCheck

/-- The `**fields` of `update_item`; a missing `verified` stays as it is, the
other optional fields are reset. -/
structure ItemFields where
  adapter : Option String := none
  publishedUrl : Option String := none
  articleUrls : Option (List String) := none
  error : Option String := none
  errorClass : Option String := none
  completedAt : Option String := none
  verified : Option Bool := none

def CheckpointItem.update (item : CheckpointItem) (status : ItemStatus) (fields : ItemFields) :
    CheckpointItem :=
  { item with
    status := status
    adapter := fields.adapter
    publishedUrl := fields.publishedUrl
    articleUrls := fields.articleUrls
    error := fields.error
    errorClass := fields.errorClass
    completedAt := fields.completedAt
    verified := fields.verified.or item.verified }

/-- The item `update_item` changes: by the index, else by a scan. -/
def Checkpoint.position (ckpt : Checkpoint) (itemId : String) : Option ℕ :=
  match ckpt.idToIndex itemId with
  | some index =>
    if index < ckpt.items.length then some index else ckpt.items.findIdx? (·.id = itemId)
  | none => ckpt.items.findIdx? (·.id = itemId)

def Checkpoint.updateItem (ckpt : Checkpoint) (itemId : String) (status : ItemStatus)
    (fields : ItemFields) : Checkpoint :=
  match ckpt.position itemId with
  | some index => { ckpt with items := ckpt.items.modify index (·.update status fields) }
  | none => ckpt

def retroLanguageFailed : String := "retro_language_failed"

def retroAnchorFailed : String := "retro_anchor_failed"

def policySkip : String := "policy_skip"

def selectResumeItems (ckpt : Checkpoint) : List CheckpointItem :=
  ckpt.items.filter fun item =>
    (item.status = .pending || item.status = .failed) &&
      decide (item.errorClass ∉ [some retroLanguageFailed, some retroAnchorFailed, some policySkip])

def Checkpoint.outcomes (ckpt : Checkpoint) : List (ItemStatus × Option String) :=
  ckpt.items.map fun item => (item.status, item.errorClass)

theorem Checkpoint.position_lt {ckpt : Checkpoint} {itemId : String} {index : ℕ}
    (h : ckpt.position itemId = some index) : index < ckpt.items.length := by
  have scan (hscan : ckpt.items.findIdx? (·.id = itemId) = some index) :
      index < ckpt.items.length := (List.findIdx?_eq_some_iff_getElem.1 hscan).1
  unfold Checkpoint.position at h
  split at h
  · split_ifs at h with hlt
    · obtain rfl := Option.some.inj h
      exact hlt
    · exact scan h
  · exact scan h

@[simp] theorem Checkpoint.updateItem_runId (ckpt : Checkpoint) (itemId : String)
    (status : ItemStatus) (fields : ItemFields) :
    (ckpt.updateItem itemId status fields).runId = ckpt.runId := by
  unfold Checkpoint.updateItem
  split <;> rfl

@[simp] theorem Checkpoint.updateItem_platform (ckpt : Checkpoint) (itemId : String)
    (status : ItemStatus) (fields : ItemFields) :
    (ckpt.updateItem itemId status fields).platform = ckpt.platform := by
  unfold Checkpoint.updateItem
  split <;> rfl

/-- An update changes no id, so later updates find their items where they were. -/
theorem Checkpoint.position_updateItem (ckpt : Checkpoint) (itemId : String) (status : ItemStatus)
    (fields : ItemFields) (other : String) :
    (ckpt.updateItem itemId status fields).position other = ckpt.position other := by
  unfold Checkpoint.updateItem
  split
  · rename_i index hindex
    have ids : (ckpt.items.modify index (·.update status fields)).map (·.id) =
        ckpt.items.map (·.id) := by
      refine List.ext_getElem? fun i => ?_
      by_cases hi : index = i
      · subst hi
        simp [Checkpoint.position_lt hindex, CheckpointItem.update]
      · simp [hi]
    have scan (items : List CheckpointItem) : items.findIdx? (·.id = other) =
        (items.map (·.id)).findIdx? (· = other) := by
      rw [List.findIdx?_map]
      rfl
    simp only [Checkpoint.position, List.length_modify]
    rw [scan, ids, ← scan]
  · rfl

theorem Checkpoint.updateItem_outcomes (ckpt : Checkpoint) (itemId : String) (status : ItemStatus)
    (fields : ItemFields) :
    (ckpt.updateItem itemId status fields).outcomes =
      match ckpt.position itemId with
      | some index => ckpt.outcomes.set index (status, fields.errorClass)
      | none => ckpt.outcomes := by
  unfold Checkpoint.updateItem
  cases h : ckpt.position itemId with
  | none => rfl
  | some index =>
    simp only [Checkpoint.outcomes]
    refine List.ext_getElem? fun i => ?_
    by_cases hi : index = i
    · subst hi
      have hlt := Checkpoint.position_lt h
      simp [hlt, CheckpointItem.update]
    · simp [hi]

end BacklinkPublisher.Checkpoints
