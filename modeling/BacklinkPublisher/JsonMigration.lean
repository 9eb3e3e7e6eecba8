import BacklinkPublisher.TransitionSystems
import Mathlib.Data.Option.Basic
import Mathlib.Tactic.Common

set_option autoImplicit false

/-!
# The JSON migration

`migrate_from_json` of `webui_store/sqlite_base.py` for one store with a JSON predecessor, run by
one process after another. A process may die after any step. `imported` and `written` are ghosts:
whether an import has been committed, and the table as the last write since then has left it.
-/
namespace BacklinkPublisher.JsonMigration
open TransitionSystems

variable {δ : Type}

/-- A file that can be read: its JSON value, or text that is not JSON. -/
inductive JsonFile (δ : Type) where
  | corrupt
  | data (value : δ)
  deriving DecidableEq, Repr

/-- Where the process is: before it looks at the sentinel, at a step of the import, or past it. -/
inductive Phase (δ : Type) where
  | down
  | checking
  | reading
  | saving (value : δ)
  | renaming
  | chmod
  | marking
  | up
  deriving DecidableEq, Repr

structure Disk (δ : Type) where
  json : Option (JsonFile δ)
  migrated : Option (JsonFile δ)
  sentinel : Bool
  table : δ
  phase : Phase δ
  imported : Bool
  written : Option δ
  deriving DecidableEq, Repr

def Disk.start (json migrated : Option (JsonFile δ)) (sentinel : Bool) (table : δ) : Disk δ :=
  ⟨json, migrated, sentinel, table, .down, false, none⟩

inductive Action (δ : Type) where
  | boot
  | check
  | read (fails : Bool)
  | save (fails : Bool)
  | rename (fails : Bool)
  | chmod (fails : Bool)
  /-- A failing `write_text` raises, and may leave the file. -/
  | mark (fails leaves : Bool)
  | write (table : δ)
  | die
  deriving DecidableEq, Repr

/-- `isinstance(data, self._value_type)`, and `self._value_type()`. -/
structure ValueType (δ : Type) where
  isInstance : δ → Bool
  default : δ

def ValueType.coerceMigrated (valueType : ValueType δ) (data : δ) : δ :=
  if valueType.isInstance data then data else valueType.default

def step (valueType : ValueType δ) (d : Disk δ) : Action δ → Option (Disk δ)
  | .boot => match d.phase with
    | .down => some { d with phase := .checking }
    | _ => none
  | .check => match d.phase with
    | .checking =>
      if d.sentinel then some { d with phase := .up }
      -- renamed, but no sentinel written
      else if d.migrated.isSome then some { d with phase := .marking }
      else if d.json.isNone then some { d with phase := .up }
      else some { d with phase := .reading }
    | _ => none
  | .read fails => match d.phase, d.json with
    | .reading, some (.data value) =>
      some { d with
        phase := if fails then .up else .saving (valueType.coerceMigrated value) }
    | .reading, _ => some { d with phase := .up }
    | _, _ => none
  | .save fails => match d.phase with
    | .saving value =>
      if fails then some { d with phase := .up }
      else some { d with table := value, imported := true, phase := .renaming }
    | _ => none
  | .rename fails => match d.phase with
    | .renaming =>
      if fails then some { d with phase := .up }
      else some { d with json := none, migrated := d.json, phase := .chmod }
    | _ => none
  | .chmod _ => match d.phase with
    | .chmod => some { d with phase := .marking }
    | _ => none
  | .mark fails leaves => match d.phase with
    | .marking =>
      if fails then some { d with sentinel := d.sentinel || leaves, phase := .down }
      else some { d with sentinel := true, phase := .up }
    | _ => none
  | .write table => match d.phase with
    | .up => some { d with table := table, written := if d.imported then some table else none }
    | _ => none
  | .die => some { d with phase := .down }

/-- The next boot would import the file. -/
def Disk.importable (d : Disk δ) : Bool := !d.sentinel && d.migrated.isNone && d.json.isSome

/-- Between the commit of an import and the rename of its file nothing is written. -/
def undisturbed (d : Disk δ) : Action δ → Bool
  | .write _ => !(d.imported && d.importable)
  | _ => true

/-- The phases before the rename. -/
def Phase.importing : Phase δ → Bool
  | .reading | .saving _ | .renaming => true
  | _ => false

structure Invariant (d : Disk δ) : Prop where
  kept : ∀ table, d.written = some table → d.table = table
  fresh : d.phase.importing = true → d.written = none
  settled : d.written ≠ none → d.importable = false

theorem invariant_start (json migrated : Option (JsonFile δ)) (sentinel : Bool) (table : δ) :
    Invariant (Disk.start json migrated sentinel table) := by
  constructor <;> simp [Disk.start]

/-- The files that stop a boot stay, and no file appears. -/
theorem Invariant.move {d : Disk δ} (inv : Invariant d) {json migrated : Option (JsonFile δ)}
    {sentinel : Bool} (phase : Phase δ)
    (fresh : phase.importing = true → d.written = none)
    (settled : d.importable = false → (!sentinel && migrated.isNone && json.isSome) = false) :
    Invariant { d with
      json := json
      migrated := migrated
      sentinel := sentinel
      phase := phase } where
  kept := inv.kept
  fresh := fresh
  settled h := settled (inv.settled h)

theorem Invariant.goto {d : Disk δ} (inv : Invariant d) (phase : Phase δ)
    (fresh : phase.importing = true → d.written = none) : Invariant { d with phase := phase } :=
  inv.move phase fresh id

theorem Invariant.step {valueType : ValueType δ} {d d' : Disk δ} {a : Action δ}
    (inv : Invariant d) (quiet : undisturbed d a = true)
    (h : step valueType d a = some d') : Invariant d' := by
  cases a with
  | boot =>
    simp only [JsonMigration.step] at h
    split at h
    · cases h
      exact inv.goto .checking fun h => by cases h
    · cases h
  | check =>
    simp only [JsonMigration.step] at h
    split at h
    · split_ifs at h with marked renamed absent
      · cases h
        exact inv.goto .up fun h => by cases h
      · cases h
        exact inv.goto .marking fun h => by cases h
      · cases h
        exact inv.goto .up fun h => by cases h
      · cases h
        apply inv.goto .reading
        intro _
        by_contra written
        have stopped := inv.settled written
        cases hjson : d.json <;> cases hmigrated : d.migrated <;>
          simp_all [Disk.importable]
    · cases h
  | read fails =>
    simp only [JsonMigration.step] at h
    split at h
    · rename_i reading _
      cases h
      apply inv.goto
      intro _
      exact inv.fresh (by rw [reading]; rfl)
    · cases h
      exact inv.goto .up fun h => by cases h
    · cases h
  | save fails =>
    simp only [JsonMigration.step] at h
    split at h
    · rename_i value saving
      have unwritten := inv.fresh (by rw [saving]; rfl)
      split_ifs at h with failed
      · cases h
        exact inv.goto .up fun h => by cases h
      · cases h
        constructor
        case kept =>
          intro table written
          change d.written = _ at written
          rw [unwritten] at written
          cases written
        case fresh => exact fun _ => unwritten
        case settled => exact inv.settled
    · cases h
  | rename fails =>
    simp only [JsonMigration.step] at h
    split at h
    · split_ifs at h
      · cases h
        exact inv.goto .up fun h => by cases h
      · cases h
        exact inv.move .chmod (fun h => by cases h) fun _ => by simp
    · cases h
  | chmod fails =>
    simp only [JsonMigration.step] at h
    split at h
    · cases h
      exact inv.goto .marking fun h => by cases h
    · cases h
  | mark fails leaves =>
    simp only [JsonMigration.step] at h
    split at h
    · split_ifs at h
      · cases h
        apply inv.move .down fun h => by cases h
        intro stopped
        unfold Disk.importable at stopped
        cases leaves
        · simpa using stopped
        · simp
      · cases h
        exact inv.move .up (fun h => by cases h) fun _ => rfl
    · cases h
  | write table =>
    simp only [JsonMigration.step] at h
    split at h
    · rename_i up
      cases h
      constructor
      case kept =>
        intro last written
        change (if d.imported then some table else none) = some last at written
        split_ifs at written
        exact Option.some.inj written
      case fresh =>
        intro importing
        change d.phase.importing = true at importing
        rw [up] at importing
        cases importing
      case settled =>
        intro written
        change (if d.imported then some table else none) ≠ none at written
        change d.importable = false
        simp only [undisturbed] at quiet
        split_ifs at written with imported
        · simpa [imported] using quiet
        · exact absurd rfl written
    · cases h
  | die =>
    cases h
    exact inv.goto .down fun h => by cases h

/-- Where nothing is written between the commit of an import and the rename of its file, the table
is as the last write since the import has left it. -/
theorem written_after_import_kept (valueType : ValueType δ) (json migrated : Option (JsonFile δ))
    (sentinel : Bool) (table : δ) (d : Disk δ)
    (reached : Reaches (step valueType) (fun d a => undisturbed d a = true)
      (Disk.start json migrated sentinel table) d) :
    ∀ written, d.written = some written → d.table = written := by
  have inv : Invariant d := Reaches.invariant reached (invariant_start json migrated sentinel table)
    fun _ _ _ inv quiet hs => inv.step quiet hs
  exact inv.kept

section Schedules

/-- Tables as lists of names. -/
def names : ValueType (List String) := ⟨fun _ => true, []⟩

/-- A failing read, then a death before the rename, then a full import, a write and a boot. -/
def importedOnce : List (Action (List String)) :=
  [.boot, .check, .read true, .die, .boot, .check, .read false, .save false, .die, .boot, .check,
    .read false, .save false, .rename false, .chmod true, .mark true false, .boot, .check,
    .mark false false, .write ["a", "b"], .die, .boot, .check]

def afterImport : Disk (List String) :=
  final (step names) undisturbed (Disk.start (some (.data ["a"])) none false []) importedOnce

theorem written_after_import_kept_once :
    afterImport.written = some ["a", "b"] ∧ afterImport.table = ["a", "b"] :=
  ⟨by decide, written_after_import_kept names (some (.data ["a"])) none false [] afterImport
    (reaches_final undisturbed _ importedOnce (by decide)) ["a", "b"] (by decide)⟩

/-- The rename fails, and the next boot imports the file again. -/
def renameFails : List (Action (List String)) :=
  [.boot, .check, .read false, .save false, .rename true, .write ["a", "b"], .die, .boot, .check,
    .read false, .save false]

/-- The process dies before the rename, and the read of the next boot fails. -/
def diesBeforeRename : List (Action (List String)) :=
  [.boot, .check, .read false, .save false, .die, .boot, .check, .read true, .write ["a", "b"],
    .die, .boot, .check, .read false, .save false]

theorem import_repeated :
    ¬ ∀ (valueType : ValueType (List String)) (json migrated : Option (JsonFile (List String)))
      (sentinel : Bool) (table : List String) (d : Disk (List String)),
      Reaches (step valueType) (fun _ _ => True) (Disk.start json migrated sentinel table) d →
        ∀ written, d.written = some written → d.table = written := by
  intro always
  have kept := always names (some (.data ["a"])) none false [] _
    (Reaches.mono (reaches_final (fun _ _ => true) _ renameFails (by decide))
      fun _ _ _ => trivial) ["a", "b"] (by decide)
  exact absurd kept (by decide)

/-- The same loss after a death. -/
example : (final (step names) (fun _ _ => true) (Disk.start (some (.data ["a"])) none false [])
    diesBeforeRename).table = ["a"] := by decide

end Schedules

end BacklinkPublisher.JsonMigration
