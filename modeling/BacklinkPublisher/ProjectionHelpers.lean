import BacklinkPublisher.EventStore
import BacklinkPublisher.OptionFolds
import Mathlib.Data.List.Induction
import Mathlib.Logic.Function.Basic

set_option autoImplicit false

/-!
# What the reducers share

The helpers of `events/_project_helpers.py`, and the shape of a flush: one
transaction over the event tables and the cursor of one source file.
-/
namespace BacklinkPublisher.ProjectionHelpers
open EventStore

/-- What the reducers take from the standard library and from the URL and
scrubbing helpers. `none` is a raised exception, for the two `split` functions
the `ValueError` their callers expect. -/
structure Helpers where
  netloc : String → Option String
  canonicalizeUrl : String → Option String
  splitIsoWithOffset : String → Option (String × String)
  splitLocalNaive : String → Option (String × String)
  scrubText : String → String × Value
  clock : ℕ → String

def Helpers.hostOf (lib : Helpers) (url : Value) : Option (Option String) :=
  if !url.truthy then some none
  else match url with
    | .text s => (lib.netloc s).map fun netloc => if netloc = "" then none else some netloc
    | _ => none

/-- `host_of(target_url) if isinstance(target_url, str) else None`. -/
def hostOfText (lib : Helpers) (url : Value) : Option (Option String) :=
  match url with
  | .text _ => lib.hostOf url
  | _ => some none

def nonEmptyText (value : Value) : Option String := value.asText.filter (· ≠ "")

/-- `canonicalize_url(url) if url else None` of a value that `host_of` accepts. -/
def Helpers.canonicalOf (lib : Helpers) (url : Value) : Option (Option String) :=
  match nonEmptyText url with
  | some s => (lib.canonicalizeUrl s).map some
  | none => some none

/-- `scrub_text(error or "")`. -/
def Helpers.scrubError (lib : Helpers) (error : Value) : Option (String × Value) :=
  match error.orNull with
  | .text s => some (lib.scrubText s)
  | .null => some (lib.scrubText "")
  | _ => none

structure ProjectionResult where
  eventsInserted : ℕ := 0
  articlesInserted : ℕ := 0
  skippedDueToDedup : ℕ := 0
  cursorUpdated : Bool := false
  quarantined : ℕ := 0
  recordsConsidered : ℕ := 0
  deriving DecidableEq, Repr

structure ProjectedStore (C : Type) where
  events : List Event := []
  articles : List Article := []
  nextArticleId : ℕ := 1
  cursor : C

/-- What a flush that returns leaves: the store it commits, its counts, and the
quarantine records that it writes after the commit. -/
structure Flushed (C : Type) where
  store : ProjectedStore C
  result : ProjectionResult
  records : List QuarantineRecord

section Flushes
variable {C : Type}

def ProjectedStore.begin (store : ProjectedStore C) : Tx :=
  ⟨store.events, store.articles, store.nextArticleId, []⟩

def ProjectedStore.tables (store : ProjectedStore C) : List Event × List Article :=
  (store.events, store.articles)

/-- The end of a reducer: the cursor is saved and the counts are closed. -/
def finish (tx : Tx) (cursor : C) (result : ProjectionResult) : Flushed C where
  store := ⟨tx.events, tx.articles, tx.nextArticleId, cursor⟩
  result := { result with
    eventsInserted := result.eventsInserted -
      tx.pending.countP (fun record => record.failureType = "missing_field")
    cursorUpdated := true
    quarantined := tx.pending.length }
  records := tx.pending

/-- The store as a caller of `flush_for` finds it, committed or rolled back. -/
def flush (project : ProjectedStore C → Option (Flushed C)) (store : ProjectedStore C) :
    ProjectedStore C :=
  (project store).elim store Flushed.store

theorem flush_of_some {project : ProjectedStore C → Option (Flushed C)} {store : ProjectedStore C}
    {flushed : Flushed C} (h : project store = some flushed) :
    flush project store = flushed.store := by
  simp [flush, h]

end Flushes

/-! ## Cursors -/

/-- A cursor after one more record. `entry` is the id and the state that a record
is remembered by, `none` for a record that the reducer passes over. -/
def note {α β : Type} (entry : α → Option (String × β)) (cursor : String → Option β) (record : α) :
    String → Option β :=
  match entry record with
  | some (id, state) => Function.update cursor id (some state)
  | none => cursor

/-- The cursor that a pass over `records` leaves: the state of the last record of
each id. -/
def latest {α β : Type} (entry : α → Option (String × β)) (records : List α) : String → Option β :=
  records.foldl (note entry) fun _ => none

section Cursors
variable {α β : Type} {entry : α → Option (String × β)}

theorem latest_concat (records : List α) (record : α) :
    latest entry (records ++ [record]) = note entry (latest entry records) record := by
  simp [latest]

theorem isSome_latest {records : List α} {record : α} {id : String} {state : β}
    (hmem : record ∈ records) (hentry : entry record = some (id, state)) :
    (latest entry records id).isSome := by
  induction records using List.reverseRecOn with
  | nil => simp at hmem
  | append_singleton records last ih =>
    rw [latest_concat]
    rcases List.mem_append.1 hmem with hmem | hmem
    · cases hlast : entry last with
      | none => simpa [note, hlast] using ih hmem
      | some other =>
        by_cases hid : id = other.1
        · simp [note, hlast, hid]
        · simpa [note, hlast, hid] using ih hmem
    · obtain rfl : record = last := by simpa using hmem
      simp [note, hentry]

theorem latest_some {records : List α} {id : String} {state : β}
    (h : latest entry records id = some state) :
    ∃ record ∈ records, entry record = some (id, state) := by
  induction records using List.reverseRecOn with
  | nil => simp [latest] at h
  | append_singleton records last ih =>
    rw [latest_concat] at h
    have earlier (h : latest entry records id = some state) :
        ∃ record ∈ records ++ [last], entry record = some (id, state) := by
      obtain ⟨record, hmem, hentry⟩ := ih h
      exact ⟨record, by simp [hmem], hentry⟩
    cases hlast : entry last with
    | none => exact earlier (by simpa [note, hlast] using h)
    | some other =>
      by_cases hid : id = other.1
      · obtain rfl : other.2 = state := by simpa [note, hlast, hid] using h
        exact ⟨last, by simp, by rw [hlast, hid]⟩
      · exact earlier (by simpa [note, hlast, hid] using h)

end Cursors

/-! ## A plain environment -/

/-- Helpers that find a host in every URL, no time in any text and no secrets. -/
def plainHelpers : Helpers where
  netloc _ := some "blog.example"
  canonicalizeUrl := some
  splitIsoWithOffset _ := none
  splitLocalNaive _ := none
  scrubText s := (s, .compound 0 false)
  clock _ := "2026-01-01T00:00:00+00:00"

def noRecords {α : Type} : ProjectedStore (String → Option α) where
  cursor _ := none

end BacklinkPublisher.ProjectionHelpers
