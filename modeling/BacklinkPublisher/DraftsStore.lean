import BacklinkPublisher.OrderedDicts
import BacklinkPublisher.SortedLists
import Mathlib.Data.Int.Order.Basic

set_option autoImplicit false

/-!
# The store of drafts

`DraftsSqliteStore` of `webui_store/drafts.py`, with `update` of `webui_store/sqlite_base.py`, and
the list that it replaced. The order of the list is in the column `inserted_at` of the table.
-/
namespace BacklinkPublisher.DraftsStore
open OrderedDicts SortedLists

/-! ## Drafts -/

/-- A JSON value; a list, an object and a number with a fraction are their texts. -/
inductive Value where
  | null
  | bool (b : Bool)
  | int (i : ℤ)
  | float (numeral : String)
  | text (s : String)
  | compound (json : String)
  deriving DecidableEq, Repr

/-- A `dict`. -/
structure Draft where
  entries : List (String × Value)
  nodup : (entries.map Prod.fst).Nodup
  deriving DecidableEq

def Draft.get (key : String) (draft : Draft) : Option Value :=
  (lookup Prod.fst key draft.entries).map Prod.snd

/-- `draft.update(fields)`. -/
def Draft.update (draft fields : Draft) : Draft where
  entries := fields.entries.foldl (fun held entry => put Prod.fst entry held) draft.entries
  nodup := nodup_keys_foldl_put draft.nodup

def Draft.textId (draft : Draft) : Option String :=
  match draft.get "id" with
  | some (.text id) => some id
  | _ => none

/-- What `sqlite3` binds; it takes no list, no object and no number of more than 64 bits. -/
def bind : Option Value → Option Value
  | none => some .null
  | some (.compound _) => none
  | some (.int i) => if -2 ^ 63 ≤ i ∧ i < 2 ^ 63 then some (.int i) else none
  | some value => some value

/-! ## The table -/

/-- `draft` is the value of `data_json`. -/
structure Row where
  id : String
  campaignId : Value
  insertedAt : ℤ
  draft : Draft
  deriving DecidableEq

/-- The row of a draft, `none` where a value cannot be bound. The id of a draft is a text. -/
def rowOf (draft : Draft) (insertedAt : ℤ) : Option Row := do
  let id ← draft.textId
  let campaignId ← bind (draft.get "campaign_id")
  some ⟨id, campaignId, insertedAt, draft⟩

/-- `ORDER BY inserted_at DESC`. -/
def newestFirst (rows : List Row) : List Row :=
  sortedBy (fun row => OrderDual.toDual row.insertedAt) rows

def load (rows : List Row) : List Draft := (newestFirst rows).map Row.draft

/-- `inserted_at` of a draft that `save` writes; `ahead` is `n - idx`. -/
def insertedAtOf (base : ℤ) (ahead : ℕ) (draft : Draft) : ℤ :=
  match draft.get "inserted_at" with
  | some (.int i) => i
  | some (.bool b) => if b then 1 else 0
  | _ => base + ahead

def rowsOf (base : ℤ) : List Draft → Option (List Row)
  | [] => some []
  | draft :: rest => do
    let row ← rowOf draft (insertedAtOf base (rest.length + 1) draft)
    let rows ← rowsOf base rest
    some (row :: rows)

/-- `_replace_all_rows`; ids are primary keys. -/
def replaceAllRows (rows : List Row) : Option (List Row) :=
  if (rows.map Row.id).Nodup then some rows else none

def save (now : ℤ) (value : List Draft) : Option (List Row) :=
  (rowsOf now value).bind replaceAllRows

/-- `SELECT MAX(inserted_at)`, 0 where there is no row. -/
def currentMax (rows : List Row) : ℤ := ((rows.map Row.insertedAt).max?).getD 0

/-- `INSERT OR REPLACE`. -/
def insertOrReplace (row : Row) (rows : List Row) : List Row :=
  rows.filter (fun held => held.id ≠ row.id) ++ [row]

def insertFirst (now : ℤ) (item : Draft) (rows : List Row) : Option (List Row) :=
  (rowOf item (max now (currentMax rows + 1))).map fun row => insertOrReplace row rows

/-- The statements that `update_item` and `bulk_update` run for an id, and whether there is a row
of that id. -/
def mergeItem (fields : Draft) (itemId : String) (rows : List Row) : Option (List Row × Bool) :=
  match rows.find? fun row => row.id = itemId with
  | none => some (rows, false)
  | some row => do
    let merged := row.draft.update fields
    let campaignId ← bind (merged.get "campaign_id")
    some (rows.map fun held =>
      if held.id = itemId then { held with campaignId := campaignId, draft := merged } else held,
      true)

/-- The loop of `bulk_update`. -/
def mergeItems (fields : Draft) : List String → List Row → Option (List Row × ℕ)
  | [], rows => some (rows, 0)
  | itemId :: ids, rows => do
    let merged ← mergeItem fields itemId rows
    let rest ← mergeItems fields ids merged.1
    some (rest.1, rest.2 + if merged.2 then 1 else 0)

/-- `DELETE` where a condition holds, with `rowcount`. -/
def deleteWhere (condition : Row → Bool) (rows : List Row) : List Row × ℕ :=
  (rows.filter fun row => !condition row, rows.countP condition)

inductive Reply where
  | nothing
  | found (known : Bool)
  | count (n : ℕ)
  | drafts (listed : List Draft)
  deriving DecidableEq

/-- The calls that write; `now` is what the clock reads. -/
inductive Call where
  | insertFirst (now : ℤ) (item : Draft)
  | updateItem (itemId : String) (fields : Draft)
  | bulkUpdate (ids : List String) (fields : Draft)
  | deleteItem (itemId : String)
  | bulkDelete (ids : List String)
  | update (now : ℤ) (fn : List Draft → List Draft)
  | save (now : ℤ) (value : List Draft)

/-- What a call makes of the table and what it returns, `none` where it raises. SQLite takes
`limit` parameters in a statement. -/
def perform (limit : ℕ) (rows : List Row) : Call → Option (List Row × Reply)
  | .insertFirst now item => (insertFirst now item rows).map fun rows => (rows, .drafts (load rows))
  | .updateItem itemId fields =>
    (mergeItem fields itemId rows).map fun merged => (merged.1, .found merged.2)
  | .bulkUpdate ids fields =>
    if ids = [] ∨ fields.entries = [] then some (rows, .count 0)
    else (mergeItems fields ids rows).map fun merged => (merged.1, .count merged.2)
  | .deleteItem itemId =>
    let deleted := deleteWhere (fun row => row.id = itemId) rows
    some (deleted.1, .found (0 < deleted.2))
  | .bulkDelete ids =>
    if ids = [] then some (rows, .count 0)
    else if limit < ids.length then none
    else
      let deleted := deleteWhere (fun row => row.id ∈ ids) rows
      some (deleted.1, .count deleted.2)
  | .update now fn => (save now (fn (load rows))).map fun rows' => (rows', .drafts (fn (load rows)))
  | .save now value => (save now value).map fun rows => (rows, .nothing)

def run (limit : ℕ) (rows : List Row) : List Call → Option (List Row × List Reply)
  | [] => some (rows, [])
  | call :: calls => do
    let done ← perform limit rows call
    let rest ← run limit done.1 calls
    some (rest.1, done.2 :: rest.2)

/-! ## The list -/

def hasId (itemId : String) (draft : Draft) : Bool := draft.textId = some itemId

def isAmong (ids : List String) (draft : Draft) : Bool := ids.any fun id => hasId id draft

/-- `update(fields)` of the drafts that meet a condition. -/
def mergeWhere (fields : Draft) (p : Draft → Bool) (drafts : List Draft) : List Draft :=
  drafts.map fun draft => if p draft then draft.update fields else draft

/-- A call on the list of drafts that the store replaced. -/
def onList (drafts : List Draft) : Call → List Draft × Reply
  | .insertFirst _ item => (item :: drafts, .drafts (item :: drafts))
  | .updateItem itemId fields =>
    (mergeWhere fields (hasId itemId) drafts, .found (drafts.any (hasId itemId)))
  | .bulkUpdate ids fields =>
    if ids = [] ∨ fields.entries = [] then (drafts, .count 0)
    else
      (mergeWhere fields (isAmong ids) drafts, .count (drafts.countP (isAmong ids)))
  | .deleteItem itemId =>
    (drafts.filter fun draft => !hasId itemId draft, .found (drafts.any (hasId itemId)))
  | .bulkDelete ids =>
    (drafts.filter fun draft => !isAmong ids draft, .count (drafts.countP (isAmong ids)))
  | .update _ fn => (fn drafts, .drafts (fn drafts))
  | .save _ value => (value, .nothing)

def runOnList (drafts : List Draft) : List Call → List Draft × List Reply
  | [] => (drafts, [])
  | call :: calls =>
    let done := onList drafts call
    let rest := runOnList done.1 calls
    (rest.1, done.2 :: rest.2)

/-! ## The calls in question -/

/-- A draft with a text id and no `inserted_at`. -/
structure Draft.Plain (draft : Draft) : Prop where
  textId : draft.textId.isSome = true
  unordered : draft.get "inserted_at" = none

def Bindable (draft : Draft) : Prop := (bind (draft.get "campaign_id")).isSome = true

/-- Drafts of pairwise distinct text ids, without `inserted_at`. -/
structure Listed (drafts : List Draft) : Prop where
  plain : ∀ draft ∈ drafts, draft.Plain
  distinct : (drafts.map Draft.textId).Nodup

/-- An update that sets neither the id nor `inserted_at`. -/
structure Draft.KeepsOrder (fields : Draft) : Prop where
  id : fields.get "id" = none
  insertedAt : fields.get "inserted_at" = none

/-- The calls on a list of drafts that leave drafts of that kind. -/
def Call.Proper (drafts : List Draft) : Call → Prop
  | .insertFirst _ item => Listed (item :: drafts)
  | .updateItem _ fields => fields.KeepsOrder
  | .bulkUpdate ids fields => fields.KeepsOrder ∧ ids.Nodup
  | .deleteItem _ => True
  | .bulkDelete ids => ids.Nodup
  | .update _ fn => Listed (fn drafts)
  | .save _ value => Listed value

/-- The calls whose values SQLite takes. -/
def Call.Fits (limit : ℕ) (drafts : List Draft) : Call → Prop
  | .insertFirst _ item => Bindable item
  | .updateItem _ fields => fields.get "campaign_id" = none ∨ Bindable fields
  | .bulkUpdate _ fields => fields.get "campaign_id" = none ∨ Bindable fields
  | .deleteItem _ => True
  | .bulkDelete ids => ids.length ≤ limit
  | .update _ fn => ∀ draft ∈ fn drafts, Bindable draft
  | .save _ value => ∀ draft ∈ value, Bindable draft

instance : DecidablePred Draft.Plain := fun draft =>
  decidable_of_iff (draft.textId.isSome = true ∧ draft.get "inserted_at" = none)
    ⟨fun h => ⟨h.1, h.2⟩, fun h => ⟨h.1, h.2⟩⟩

instance : DecidablePred Listed := fun drafts =>
  decidable_of_iff ((∀ draft ∈ drafts, draft.Plain) ∧ (drafts.map Draft.textId).Nodup)
    ⟨fun h => ⟨h.1, h.2⟩, fun h => ⟨h.1, h.2⟩⟩

instance : DecidablePred Draft.KeepsOrder := fun fields =>
  decidable_of_iff (fields.get "id" = none ∧ fields.get "inserted_at" = none)
    ⟨fun h => ⟨h.1, h.2⟩, fun h => ⟨h.1, h.2⟩⟩

instance : DecidablePred Bindable := fun draft =>
  inferInstanceAs (Decidable ((bind (draft.get "campaign_id")).isSome = true))

instance (drafts : List Draft) : DecidablePred (Call.Proper drafts)
  | .insertFirst _ item => inferInstanceAs (Decidable (Listed (item :: drafts)))
  | .updateItem _ fields => inferInstanceAs (Decidable fields.KeepsOrder)
  | .bulkUpdate ids fields => inferInstanceAs (Decidable (fields.KeepsOrder ∧ ids.Nodup))
  | .deleteItem _ => isTrue trivial
  | .bulkDelete ids => inferInstanceAs (Decidable ids.Nodup)
  | .update _ fn => inferInstanceAs (Decidable (Listed (fn drafts)))
  | .save _ value => inferInstanceAs (Decidable (Listed value))

instance (limit : ℕ) (drafts : List Draft) : DecidablePred (Call.Fits limit drafts)
  | .insertFirst _ item => inferInstanceAs (Decidable (Bindable item))
  | .updateItem _ fields | .bulkUpdate _ fields =>
    inferInstanceAs (Decidable (fields.get "campaign_id" = none ∨ Bindable fields))
  | .deleteItem _ => isTrue trivial
  | .bulkDelete ids => inferInstanceAs (Decidable (ids.length ≤ limit))
  | .update _ fn => inferInstanceAs (Decidable (∀ draft ∈ fn drafts, Bindable draft))
  | .save _ value => inferInstanceAs (Decidable (∀ draft ∈ value, Bindable draft))

/-- Every call is one of those with respect to the list that the calls before it leave. -/
def Calls (ok : List Draft → Call → Prop) (drafts : List Draft) : List Call → Prop
  | [] => True
  | call :: calls => ok drafts call ∧ Calls ok (onList drafts call).1 calls

def Calls.decide (ok : List Draft → Call → Prop) [∀ drafts, DecidablePred (ok drafts)] :
    ∀ (calls : List Call) (drafts : List Draft), Decidable (Calls ok drafts calls)
  | [], _ => isTrue trivial
  | call :: calls, drafts =>
    have := Calls.decide ok calls (onList drafts call).1
    inferInstanceAs (Decidable (ok drafts call ∧ Calls ok (onList drafts call).1 calls))

instance (ok : List Draft → Call → Prop) [∀ drafts, DecidablePred (ok drafts)]
    (drafts : List Draft) (calls : List Call) : Decidable (Calls ok drafts calls) :=
  Calls.decide ok calls drafts

/-! ## Drafts and their fields -/

variable {draft fields : Draft} {key : String}

theorem get_update : (draft.update fields).get key = (fields.get key).or (draft.get key) := by
  have reversed : lookup Prod.fst key fields.entries.reverse =
      lookup Prod.fst key fields.entries := by
    cases found : lookup Prod.fst key fields.entries with
    | none =>
      apply lookup_eq_none
      rw [List.map_reverse, List.mem_reverse]
      exact not_mem_keys_of_lookup found
    | some entry =>
      rw [lookup_eq_some fields.nodup] at found
      apply (lookup_eq_some _).2
      · rw [List.mem_reverse]
        exact found
      · rw [List.map_reverse, List.nodup_reverse]
        exact fields.nodup
  unfold Draft.get Draft.update
  rw [lookup_foldl_put, reversed]
  cases lookup Prod.fst key fields.entries <;> rfl

theorem textId_update (kept : fields.get "id" = none) :
    (draft.update fields).textId = draft.textId := by
  unfold Draft.textId
  rw [get_update, kept, Option.none_or]

theorem Draft.Plain.update (plain : draft.Plain) (kept : fields.KeepsOrder) :
    (draft.update fields).Plain where
  textId := by
    rw [textId_update kept.id]
    exact plain.textId
  unordered := by
    rw [get_update, kept.insertedAt, Option.none_or]
    exact plain.unordered

theorem bindable_update (bound : Bindable draft)
    (takes : fields.get "campaign_id" = none ∨ Bindable fields) :
    Bindable (draft.update fields) := by
  unfold Bindable at bound takes ⊢
  rw [get_update]
  cases given : fields.get "campaign_id" with
  | none => exact bound
  | some value =>
    rw [given] at takes
    rcases takes with absent | bound'
    · cases absent
    · exact bound'

theorem hasId_iff {itemId : String} : hasId itemId draft = true ↔ draft.textId = some itemId :=
  decide_eq_true_iff

theorem isAmong_iff {ids : List String} :
    isAmong ids draft = true ↔ ∃ id ∈ ids, draft.textId = some id := by
  unfold isAmong
  rw [List.any_eq_true]
  apply exists_congr
  intro id
  rw [hasId_iff]

/-! ## Rows in order -/

/-- The rows hold the drafts under order keys that tell them apart. -/
structure Represents (rows : List Row) (drafts : List Draft) : Prop where
  loaded : load rows = drafts
  times : DistinctKeys Row.insertedAt rows
  ids : ∀ row ∈ rows, row.draft.textId = some row.id
  bound : ∀ row ∈ rows, Bindable row.draft
  listed : Listed drafts

variable {rows : List Row} {drafts : List Draft}

theorem newestFirst_perm : (newestFirst rows).Perm rows := sortedBy_perm _ _

theorem load_perm : (load rows).Perm (rows.map Row.draft) := newestFirst_perm.map _

theorem dual_times (times : DistinctKeys Row.insertedAt rows) :
    DistinctKeys (fun row => OrderDual.toDual row.insertedAt) rows := by
  have mapped := List.Nodup.map OrderDual.toDual.injective times
  rw [List.map_map] at mapped
  exact mapped

theorem Represents.distinctIds (held : Represents rows drafts) : (rows.map Row.id).Nodup := by
  have distinct := held.listed.distinct
  rw [← held.loaded, (load_perm.map Draft.textId).nodup_iff, List.map_map] at distinct
  have same : rows.map (Draft.textId ∘ Row.draft) = (rows.map Row.id).map some := by
    rw [List.map_map]
    exact List.map_congr_left held.ids
  rw [same] at distinct
  exact distinct.of_map

theorem Represents.mem_drafts (held : Represents rows drafts) {row : Row} (member : row ∈ rows) :
    row.draft ∈ drafts := by
  rw [← held.loaded, load_perm.mem_iff]
  exact List.mem_map_of_mem member

/-- A condition on rows that their drafts decide meets as many of the one as of the other. -/
theorem Represents.countP (held : Represents rows drafts) {p : Row → Bool} {q : Draft → Bool}
    (agree : ∀ row ∈ rows, p row = q row.draft) : rows.countP p = drafts.countP q := by
  rw [← held.loaded, load_perm.countP_eq, List.countP_map]
  apply List.countP_congr
  intro row member
  rw [agree row member]
  rfl

theorem Represents.anyOf (held : Represents rows drafts) {p : Row → Bool} {q : Draft → Bool}
    (agree : ∀ row ∈ rows, p row = q row.draft) : decide (0 < rows.countP p) = drafts.any q := by
  rw [held.countP agree, Bool.eq_iff_iff, decide_eq_true_iff, List.countP_pos_iff, List.any_eq_true]

/-- A newest row comes first. -/
theorem load_append {row : Row} (times : DistinctKeys Row.insertedAt rows)
    (newest : ∀ held ∈ rows, held.insertedAt < row.insertedAt) :
    load (rows ++ [row]) = row.draft :: load rows ∧
      DistinctKeys Row.insertedAt (rows ++ [row]) := by
  have perm : (row :: newestFirst rows).Perm (rows ++ [row]) :=
    (newestFirst_perm.cons row).trans (List.perm_append_singleton row rows).symm
  have distinct : DistinctKeys Row.insertedAt (row :: newestFirst rows) := by
    unfold DistinctKeys
    rw [List.map_cons, List.nodup_cons]
    constructor
    · intro member
      have ⟨held, among, same⟩ := List.mem_map.1 member
      have older := newest held (newestFirst_perm.subset among)
      rw [same] at older
      exact lt_irrefl _ older
    · exact times.perm newestFirst_perm
  have distinct' : DistinctKeys Row.insertedAt (rows ++ [row]) := distinct.perm perm.symm
  refine ⟨?_, distinct'⟩
  have ordered : row :: newestFirst rows = newestFirst (rows ++ [row]) := by
    apply eq_sortedBy (dual_times distinct') perm
    rw [List.pairwise_cons]
    constructor
    · intro held among
      exact le_of_lt (newest held (newestFirst_perm.subset among))
    · exact sortedBy_pairwise rows
  unfold load
  rw [← ordered, List.map_cons]

theorem load_filter {p : Row → Bool} {q : Draft → Bool} (times : DistinctKeys Row.insertedAt rows)
    (agree : ∀ row ∈ rows, p row = q row.draft) : load (rows.filter p) = (load rows).filter q := by
  unfold load newestFirst
  rw [sortedBy_filter (dual_times times) p, List.filter_map]
  apply congrArg
  apply List.filter_congr
  intro row member
  exact agree row ((mem_sortedBy _).1 member)

theorem load_map {f : Row → Row} {g : Draft → Draft}
    (kept : ∀ row, (f row).insertedAt = row.insertedAt)
    (agree : ∀ row ∈ rows, (f row).draft = g row.draft) :
    load (rows.map f) = (load rows).map g := by
  have sorted : newestFirst (rows.map f) = (newestFirst rows).map f := by
    unfold newestFirst
    rw [← map_sortedBy]
    simp only [kept]
  unfold load
  rw [sorted, List.map_map, List.map_map]
  apply List.map_congr_left
  intro row member
  exact agree row (newestFirst_perm.subset member)

theorem Represents.empty : Represents [] [] where
  loaded := rfl
  times := List.nodup_nil
  ids := fun _ member => by cases member
  bound := fun _ member => by cases member
  listed := ⟨fun _ member => (by cases member), List.nodup_nil⟩

/-! ## Rows of drafts -/

theorem rowOf_eq (insertedAt : ℤ) (plain : draft.Plain) (bound : Bindable draft) :
    ∃ row, rowOf draft insertedAt = some row ∧ row.draft = draft ∧ row.insertedAt = insertedAt ∧
      draft.textId = some row.id := by
  have ⟨id, hid⟩ := Option.isSome_iff_exists.1 plain.textId
  have ⟨campaignId, hbound⟩ := Option.isSome_iff_exists.1 bound
  refine ⟨⟨id, campaignId, insertedAt, draft⟩, ?_, rfl, rfl, hid⟩
  unfold rowOf
  rw [hid, hbound]
  rfl

theorem insertedAtOf_plain {base : ℤ} {ahead : ℕ} (plain : draft.Plain) :
    insertedAtOf base ahead draft = base + ahead := by
  unfold insertedAtOf
  rw [plain.unordered]

/-- The rows that `save` writes are in descending order of time. -/
theorem rowsOf_eq (base : ℤ) (plain : ∀ draft ∈ drafts, draft.Plain)
    (bound : ∀ draft ∈ drafts, Bindable draft) :
    ∃ rows, rowsOf base drafts = some rows ∧ rows.map Row.draft = drafts ∧
      (rows.Pairwise fun a b => b.insertedAt < a.insertedAt) ∧
      (∀ row ∈ rows, row.insertedAt ≤ base + drafts.length) ∧
      ∀ row ∈ rows, row.draft.textId = some row.id := by
  induction drafts with
  | nil => exact ⟨[], rfl, rfl, List.Pairwise.nil, by simp, by simp⟩
  | cons draft rest ih =>
    rw [List.forall_mem_cons] at plain bound
    have ⟨rows, made, same, sorted, below, ids⟩ := ih plain.2 bound.2
    have ⟨row, made', same', time, id⟩ :=
      rowOf_eq (base + (rest.length + 1 : ℕ)) plain.1 bound.1
    refine ⟨row :: rows, ?_, ?_, ?_, ?_, ?_⟩
    · unfold rowsOf
      rw [insertedAtOf_plain plain.1, made', made]
      rfl
    · rw [List.map_cons, same, same']
    · rw [List.pairwise_cons]
      refine ⟨fun older member => ?_, sorted⟩
      have le := below older member
      omega
    · intro held member
      rw [List.length_cons]
      rcases List.mem_cons.1 member with rfl | member
      · exact le_of_eq time
      · have le := below held member
        omega
    · intro held member
      rcases List.mem_cons.1 member with rfl | member
      · rw [same']
        exact id
      · exact ids held member

theorem load_of_sorted (sorted : rows.Pairwise fun a b => b.insertedAt < a.insertedAt) :
    load rows = rows.map Row.draft ∧ DistinctKeys Row.insertedAt rows := by
  have distinct : DistinctKeys Row.insertedAt rows := by
    unfold DistinctKeys
    rw [List.Nodup, List.pairwise_map]
    exact sorted.imp fun older => ne_of_gt older
  have ordered : rows = newestFirst rows :=
    eq_sortedBy (dual_times distinct) (List.Perm.refl rows) (sorted.imp fun older => le_of_lt older)
  refine ⟨?_, distinct⟩
  unfold load
  rw [← ordered]

theorem le_currentMax {row : Row} (member : row ∈ rows) : row.insertedAt ≤ currentMax rows := by
  have among : row.insertedAt ∈ rows.map Row.insertedAt := List.mem_map_of_mem member
  unfold currentMax
  cases greatest : (rows.map Row.insertedAt).max? with
  | none =>
    rw [List.max?_eq_none_iff] at greatest
    rw [greatest] at among
    cases among
  | some time => exact (List.max?_eq_some_iff.1 greatest).2 _ among

/-! ## Each call -/

theorem Listed.mergeWhere (listed : Listed drafts) (kept : fields.KeepsOrder) (p : Draft → Bool) :
    Listed (mergeWhere fields p drafts) := by
  unfold DraftsStore.mergeWhere
  constructor
  · intro draft member
    have ⟨old, among, same⟩ := List.mem_map.1 member
    rw [← same]
    split_ifs
    · exact (listed.plain old among).update kept
    · exact listed.plain old among
  · have same : (drafts.map fun draft => if p draft then draft.update fields else draft).map
        Draft.textId = drafts.map Draft.textId := by
      rw [List.map_map]
      apply List.map_congr_left
      intro draft _
      change (if p draft then draft.update fields else draft).textId = draft.textId
      split_ifs
      · exact textId_update kept.id
      · rfl
    rw [same]
    exact listed.distinct

theorem mergeWhere_of_none {p : Draft → Bool} (none : drafts.any p = false) :
    mergeWhere fields p drafts = drafts := by
  rw [List.any_eq_false] at none
  calc
    mergeWhere fields p drafts = drafts.map id := by
      apply List.map_congr_left
      intro draft member
      rw [if_neg (none draft member)]
      rfl
    _ = drafts := List.map_id _

theorem Represents.hasId (held : Represents rows drafts) {itemId : String} :
    ∀ row ∈ rows, decide (row.id = itemId) = hasId itemId row.draft := by
  intro row member
  rw [Bool.eq_iff_iff, hasId_iff, held.ids row member, Option.some_inj, decide_eq_true_iff]

theorem Represents.isAmong (held : Represents rows drafts) {ids : List String} :
    ∀ row ∈ rows, decide (row.id ∈ ids) = isAmong ids row.draft := by
  intro row member
  rw [Bool.eq_iff_iff, isAmong_iff, held.ids row member, decide_eq_true_iff]
  constructor
  · intro among
    exact ⟨row.id, among, rfl⟩
  · rintro ⟨id, among, same⟩
    rw [Option.some_inj.1 same]
    exact among

/-- Rows and drafts that are changed alike, where the order keys stay. -/
theorem Represents.map (held : Represents rows drafts) {f : Row → Row} {g : Draft → Draft}
    (times : ∀ row, (f row).insertedAt = row.insertedAt)
    (ids : ∀ row ∈ rows, (f row).draft.textId = some (f row).id)
    (bound : ∀ row ∈ rows, Bindable (f row).draft)
    (agree : ∀ row ∈ rows, (f row).draft = g row.draft) (listed : Listed (drafts.map g)) :
    Represents (rows.map f) (drafts.map g) where
  loaded := by rw [load_map times agree, held.loaded]
  times := by
    unfold DistinctKeys
    rw [List.map_map, show Row.insertedAt ∘ f = Row.insertedAt from funext times]
    exact held.times
  ids := List.forall_mem_map.2 ids
  bound := List.forall_mem_map.2 bound
  listed := listed

/-- The rows of the drafts after `mergeItem`. -/
theorem mergeItem_eq (held : Represents rows drafts) (kept : fields.KeepsOrder)
    (takes : fields.get "campaign_id" = none ∨ Bindable fields) (itemId : String) :
    ∃ rows', mergeItem fields itemId rows = some (rows', drafts.any (hasId itemId)) ∧
      Represents rows' (mergeWhere fields (hasId itemId) drafts) := by
  unfold mergeItem
  cases found : rows.find? fun row => row.id = itemId with
  | none =>
    have absent : drafts.any (hasId itemId) = false := by
      rw [← held.anyOf held.hasId, decide_eq_false_iff_not, Nat.pos_iff_ne_zero, not_not,
        List.countP_eq_zero]
      exact List.find?_eq_none.1 found
    rw [absent, mergeWhere_of_none absent]
    exact ⟨rows, rfl, held⟩
  | some row =>
    have member : row ∈ rows := List.mem_of_find?_eq_some found
    have chosen := List.find?_some found
    have id : row.id = itemId := of_decide_eq_true chosen
    have bound : Bindable (row.draft.update fields) := bindable_update (held.bound row member) takes
    have ⟨campaignId, hbound⟩ := Option.isSome_iff_exists.1 bound
    have present : drafts.any (DraftsStore.hasId itemId) = true := by
      rw [List.any_eq_true]
      refine ⟨row.draft, held.mem_drafts member, ?_⟩
      rw [← held.hasId row member]
      exact decide_eq_true id
    have only : ∀ other ∈ rows, other.id = itemId → other = row := fun other among same =>
      List.inj_on_of_nodup_map held.distinctIds among member (same.trans id.symm)
    dsimp only
    rw [hbound, present]
    refine ⟨_, rfl, held.map ?_ ?_ ?_ ?_ (held.listed.mergeWhere kept _)⟩
    · intro other
      split_ifs <;> rfl
    · intro other among
      split_ifs with here
      · change (row.draft.update fields).textId = some other.id
        rw [textId_update kept.id, held.ids row member, here, id]
      · exact held.ids other among
    · intro other among
      split_ifs
      · exact bound
      · exact held.bound other among
    · intro other among
      rw [← held.hasId other among]
      by_cases same : other.id = itemId
      · rw [if_pos same, if_pos (decide_eq_true same), only other among same]
      · rw [if_neg same, if_neg (by simpa using same)]

/-! ## The loop of `bulk_update` -/

theorem any_hasId (listed : Listed drafts) (itemId : String) :
    drafts.countP (hasId itemId) = if drafts.any (hasId itemId) then 1 else 0 := by
  have counted : drafts.countP (hasId itemId) = (drafts.map Draft.textId).count (some itemId) := by
    rw [List.count, List.countP_map]
    apply List.countP_congr
    intro draft _
    rw [hasId_iff, Function.comp_apply, beq_iff_eq]
  rw [counted, listed.distinct.count]
  apply if_congr _ rfl rfl
  rw [List.mem_map, List.any_eq_true]
  exact exists_congr fun draft => and_congr_right fun _ => hasId_iff.symm

theorem isAmong_cons {itemId : String} {ids : List String} :
    isAmong (itemId :: ids) draft = (hasId itemId draft || isAmong ids draft) := rfl

theorem isAmong_of_hasId {itemId : String} {ids : List String} (fresh : itemId ∉ ids)
    (has : hasId itemId draft = true) : isAmong ids draft = false := by
  rw [← Bool.not_eq_true, isAmong_iff]
  rintro ⟨id, among, same⟩
  rw [hasId_iff.1 has, Option.some_inj] at same
  rw [same] at fresh
  exact fresh among

theorem isAmong_update (kept : fields.get "id" = none) {ids : List String} :
    isAmong ids (draft.update fields) = isAmong ids draft := by
  unfold isAmong DraftsStore.hasId
  rw [textId_update kept]

theorem countP_isAmong_cons (listed : Listed drafts) {itemId : String} {ids : List String}
    (fresh : itemId ∉ ids) : drafts.countP (isAmong (itemId :: ids)) =
      drafts.countP (isAmong ids) + if drafts.any (hasId itemId) then 1 else 0 := by
  rw [← any_hasId listed]
  clear listed
  induction drafts with
  | nil => rfl
  | cons draft drafts ih =>
    rw [List.countP_cons, List.countP_cons, List.countP_cons, ih, isAmong_cons]
    cases has : hasId itemId draft with
    | false =>
      rw [Bool.false_or]
      simp only [Bool.false_eq_true, if_false]
      omega
    | true =>
      rw [isAmong_of_hasId fresh has]
      simp only [Bool.true_or, if_true, Bool.false_eq_true, if_false]
      omega

theorem mergeWhere_cons (kept : fields.get "id" = none) {itemId : String} {ids : List String}
    (fresh : itemId ∉ ids) :
    mergeWhere fields (isAmong ids) (mergeWhere fields (hasId itemId) drafts) =
      mergeWhere fields (isAmong (itemId :: ids)) drafts := by
  unfold mergeWhere
  rw [List.map_map]
  apply List.map_congr_left
  intro draft _
  rw [Function.comp_apply, isAmong_cons]
  cases has : hasId itemId draft with
  | false =>
    rw [Bool.false_or]
    rfl
  | true =>
    rw [if_pos rfl, isAmong_update kept, isAmong_of_hasId fresh has]
    rfl

/-- Ids that do not repeat are merged one after another as if at once. -/
theorem mergeItems_eq (kept : fields.KeepsOrder)
    (takes : fields.get "campaign_id" = none ∨ Bindable fields) {ids : List String}
    (nodup : ids.Nodup) (held : Represents rows drafts) :
    ∃ rows', mergeItems fields ids rows = some (rows', drafts.countP (isAmong ids)) ∧
      Represents rows' (mergeWhere fields (isAmong ids) drafts) := by
  induction ids generalizing rows drafts with
  | nil =>
    have none : drafts.any (isAmong []) = false := List.any_eq_false.2 fun _ _ h => by cases h
    have zero : drafts.countP (isAmong []) = 0 := List.countP_eq_zero.2 fun _ _ h => by cases h
    rw [mergeWhere_of_none none, zero]
    exact ⟨rows, rfl, held⟩
  | cons itemId ids ih =>
    rw [List.nodup_cons] at nodup
    have ⟨merged, first, held'⟩ := mergeItem_eq held kept takes itemId
    have ⟨rows', rest, held''⟩ := ih nodup.2 held'
    have same : (mergeWhere fields (DraftsStore.hasId itemId) drafts).countP
        (DraftsStore.isAmong ids) = drafts.countP (DraftsStore.isAmong ids) := by
      unfold mergeWhere
      rw [List.countP_map]
      apply List.countP_congr
      intro draft _
      rw [Function.comp_apply]
      split_ifs
      · rw [isAmong_update kept.id]
      · rfl
    rw [mergeWhere_cons kept.id nodup.1] at held''
    refine ⟨rows', ?_, held''⟩
    unfold mergeItems
    rw [first, Option.bind_eq_bind, Option.bind_some, rest, same,
      countP_isAmong_cons held.listed nodup.1]
    rfl

/-! ## The other calls -/

theorem Represents.delete (held : Represents rows drafts) {p : Row → Bool} {q : Draft → Bool}
    (agree : ∀ row ∈ rows, p row = q row.draft) :
    Represents (deleteWhere p rows).1 (drafts.filter fun draft => !q draft) where
  loaded := by
    rw [← held.loaded]
    apply load_filter held.times
    intro row member
    rw [agree row member]
  times := held.times.sublist List.filter_sublist
  ids := fun row member => held.ids row (List.mem_of_mem_filter member)
  bound := fun row member => held.bound row (List.mem_of_mem_filter member)
  listed := by
    constructor
    · intro draft member
      exact held.listed.plain draft (List.mem_of_mem_filter member)
    · exact List.Nodup.sublist (List.filter_sublist.map _) held.listed.distinct

theorem insertFirst_eq (held : Represents rows drafts) {item : Draft}
    (listed : Listed (item :: drafts)) (bound : Bindable item) (now : ℤ) :
    ∃ rows', insertFirst now item rows = some rows' ∧ Represents rows' (item :: drafts) := by
  have ⟨row, made, same, time, id⟩ :=
    rowOf_eq (max now (currentMax rows + 1)) (listed.plain item List.mem_cons_self) bound
  have fresh : ∀ other ∈ rows, other.id ≠ row.id := by
    intro other member clash
    have distinct := listed.distinct
    rw [List.map_cons, List.nodup_cons, id, ← clash, ← held.ids other member] at distinct
    exact distinct.1 (List.mem_map_of_mem (held.mem_drafts member))
  have kept : rows.filter (fun other => other.id ≠ row.id) = rows := by
    rw [List.filter_eq_self]
    intro other member
    exact decide_eq_true (fresh other member)
  have newest : ∀ other ∈ rows, other.insertedAt < row.insertedAt := by
    intro other member
    have le := le_currentMax member
    omega
  have ⟨loaded, times⟩ := load_append held.times newest
  refine ⟨rows ++ [row], ?_, ?_⟩
  · unfold insertFirst insertOrReplace
    rw [made, Option.map_some, kept]
  · constructor
    · rw [loaded, held.loaded, same]
    · exact times
    · intro other member
      rcases List.mem_append.1 member with old | new
      · exact held.ids other old
      · rw [List.mem_singleton.1 new, same]
        exact id
    · intro other member
      rcases List.mem_append.1 member with old | new
      · exact held.bound other old
      · rw [List.mem_singleton.1 new, same]
        exact bound
    · exact listed

theorem save_eq (listed : Listed drafts) (bound : ∀ draft ∈ drafts, Bindable draft) (now : ℤ) :
    ∃ rows, save now drafts = some rows ∧ Represents rows drafts := by
  have ⟨rows, made, same, sorted, _, ids⟩ := rowsOf_eq now listed.plain bound
  have ⟨loaded, times⟩ := load_of_sorted sorted
  have represents : Represents rows drafts := by
    refine ⟨loaded.trans same, times, ids, ?_, listed⟩
    intro row member
    apply bound
    rw [← same]
    exact List.mem_map_of_mem member
  refine ⟨rows, ?_, represents⟩
  unfold save replaceAllRows
  rw [made, Option.bind_some, if_pos represents.distinctIds]

/-- A call does to the table what it does to the list. -/
theorem perform_eq {limit : ℕ} {call : Call} (held : Represents rows drafts)
    (proper : call.Proper drafts) (fits : call.Fits limit drafts) :
    ∃ rows', perform limit rows call = some (rows', (onList drafts call).2) ∧
      Represents rows' (onList drafts call).1 := by
  cases call with
  | insertFirst now item =>
    have ⟨rows', made, held'⟩ := insertFirst_eq held proper fits now
    refine ⟨rows', ?_, held'⟩
    unfold perform
    dsimp only
    rw [made, Option.map_some, held'.loaded]
    rfl
  | updateItem itemId fields =>
    have ⟨rows', made, held'⟩ := mergeItem_eq held proper fits itemId
    refine ⟨rows', ?_, held'⟩
    unfold perform
    dsimp only
    rw [made]
    rfl
  | bulkUpdate ids fields =>
    unfold perform onList
    dsimp only
    split_ifs with idle
    · exact ⟨rows, rfl, held⟩
    · have ⟨rows', made, held'⟩ := mergeItems_eq proper.1 fits proper.2 held
      refine ⟨rows', ?_, held'⟩
      rw [made]
      rfl
  | deleteItem itemId =>
    refine ⟨_, ?_, held.delete held.hasId⟩
    unfold perform onList
    dsimp only
    rw [← held.anyOf held.hasId]
    rfl
  | bulkDelete ids =>
    have within : ¬limit < ids.length := not_lt.2 fits
    unfold perform onList
    dsimp only
    rw [if_neg within]
    split_ifs with idle
    · subst idle
      have all : drafts.filter (fun draft => !DraftsStore.isAmong [] draft) = drafts :=
        List.filter_eq_self.2 fun _ _ => rfl
      have zero : drafts.countP (DraftsStore.isAmong []) = 0 :=
        List.countP_eq_zero.2 fun _ _ h => by cases h
      rw [all, zero]
      exact ⟨rows, rfl, held⟩
    · refine ⟨_, ?_, held.delete held.isAmong⟩
      rw [← held.countP held.isAmong]
      rfl
  | update now fn =>
    have ⟨rows', made, held'⟩ := save_eq proper fits now
    refine ⟨rows', ?_, held'⟩
    unfold perform
    dsimp only
    rw [held.loaded, made]
    rfl
  | save now value =>
    have ⟨rows', made, held'⟩ := save_eq proper fits now
    refine ⟨rows', ?_, held'⟩
    unfold perform
    dsimp only
    rw [made]
    rfl

theorem run_eq {limit : ℕ} {calls : List Call} (held : Represents rows drafts)
    (fit : Calls (fun drafts call => call.Proper drafts ∧ call.Fits limit drafts) drafts calls) :
    ∃ rows', run limit rows calls = some (rows', (runOnList drafts calls).2) ∧
      Represents rows' (runOnList drafts calls).1 := by
  induction calls generalizing rows drafts with
  | nil => exact ⟨rows, rfl, held⟩
  | cons call calls ih =>
    have ⟨⟨proper, fits⟩, later⟩ := fit
    have ⟨done, first, held'⟩ := perform_eq held proper fits
    have ⟨rows', rest, held''⟩ := ih held' later
    refine ⟨rows', ?_, held''⟩
    unfold run
    rw [first, Option.bind_eq_bind, Option.bind_some, rest]
    rfl

/-- The store of drafts is the list of drafts, whatever the clock reads. -/
theorem store_is_list (limit : ℕ) (calls : List Call)
    (fit : Calls (fun drafts call => call.Proper drafts ∧ call.Fits limit drafts) [] calls) :
    ∃ rows, run limit [] calls = some (rows, (runOnList [] calls).2) ∧
      load rows = (runOnList [] calls).1 := by
  have ⟨rows, done, held⟩ := run_eq Represents.empty fit
  exact ⟨rows, done, held.loaded⟩

/-- Head inserts around a rewrite, while the clock stalls and then goes back. -/
def stalledCalls : List Call :=
  [.insertFirst 5 ⟨[("id", .text "a")], by decide⟩,
    .save 5 [⟨[("id", .text "b")], by decide⟩, ⟨[("id", .text "a")], by decide⟩],
    .insertFirst 5 ⟨[("id", .text "c"), ("status", .text "pending")], by decide⟩,
    .bulkUpdate ["a", "c"] ⟨[("status", .text "failed")], by decide⟩,
    .insertFirst (-3) ⟨[("id", .text "d")], by decide⟩,
    .bulkDelete ["b", "e"]]

theorem stalled_store_is_list :
    ∃ rows, run 32766 [] stalledCalls = some (rows, (runOnList [] stalledCalls).2) ∧
      load rows = (runOnList [] stalledCalls).1 :=
  store_is_list 32766 stalledCalls (by decide)

/-- The list takes a campaign id that is a list; SQLite refuses it. -/
def compoundCalls : List Call :=
  [.insertFirst 0 ⟨[("id", .text "a"), ("campaign_id", .compound "[]")], by decide⟩]

/-- One id more than a statement takes. -/
def manyIds : List String := (List.range 32767).map fun n => String.ofList (List.replicate n 'a')

theorem nodup_manyIds : manyIds.Nodup := by
  apply List.Nodup.map _ List.nodup_range
  intro m n same
  have lengths := congrArg String.length same
  rw [String.length_ofList, String.length_ofList, List.length_replicate,
    List.length_replicate] at lengths
  exact lengths

theorem list_takes_more :
    (Calls Call.Proper [] compoundCalls ∧ run 32766 [] compoundCalls = none ∧
      (runOnList [] compoundCalls).1.length = 1) ∧
    (Calls Call.Proper [] [.bulkDelete manyIds] ∧ run 32766 [] [.bulkDelete manyIds] = none ∧
      (runOnList [] [.bulkDelete manyIds]).2 = [.count 0]) := by
  have many : manyIds.length = 32767 := by rw [manyIds, List.length_map, List.length_range]
  refine ⟨by decide, ⟨nodup_manyIds, trivial⟩, ?_, rfl⟩
  have some : manyIds ≠ [] := by
    intro empty
    rw [empty] at many
    cases many
  have refused : perform 32766 [] (.bulkDelete manyIds) = none := by
    unfold perform
    dsimp only
    rw [if_neg some, if_pos (by omega)]
  unfold run
  rw [refused]
  rfl

end BacklinkPublisher.DraftsStore
