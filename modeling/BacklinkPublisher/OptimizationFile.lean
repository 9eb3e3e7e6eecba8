import BacklinkPublisher.OptimizationState
import BacklinkPublisher.TransitionSystems
import Mathlib.Data.Fintype.Basic
import Mathlib.Logic.Function.Basic

set_option autoImplicit false

/-!
# One optimization file

`load`, `save` and the changing calls of `OptimizationState` in `optimization/state.py`, for `n`
objects in `m` processes, each process with its own cache of `_util/cache.py`. The lock of an object
lets one call at a time run, as its load and then its change with the save. `load` answers with the
cached dict itself, so a later change of it shows wherever it is held.
-/
namespace BacklinkPublisher.OptimizationFile
open TransitionSystems OptimizationState

inductive Call where
  | setWeight (slot : Slot) (weight : ℚ) (rule : String) (force intentionalZero : Bool) (now : ℚ)
  | updateManyWeights (updates : List WeightUpdate) (language : String) (now : ℚ)
  | lockWeight (slot : Slot) (locked : Bool)
  | updateStats (slot : Slot) (update : StatsUpdate)
  deriving DecidableEq, Repr

/-- `none` where the call returns without a save. -/
def Call.run : Call → OptimizationData → Option OptimizationData
  | .setWeight slot weight rule force intentionalZero now, data =>
    OptimizationState.setWeight slot weight rule force intentionalZero now data
  | .updateManyWeights updates language now, data =>
    some (OptimizationState.updateManyWeights updates language now data)
  | .lockWeight slot locked, data => some (OptimizationState.lockWeight slot locked data)
  | .updateStats slot update, data => some (OptimizationState.updateStats slot update data)

def Call.effect (call : Call) (data : OptimizationData) : OptimizationData :=
  (call.run data).getD data

/-- The calls one after the other, each on what the one before leaves. -/
def effects (calls : List Call) (data : OptimizationData) : OptimizationData :=
  calls.foldl (fun data call => call.effect data) data

theorem effects_concat (calls : List Call) (call : Call) (data : OptimizationData) :
    effects (calls ++ [call]) data = call.effect (effects calls data) := List.foldl_concat _ _ _ _

/-- A dict in memory, and how many saves of the file it holds. -/
structure Copy where
  data : OptimizationData
  saves : ℕ
  deriving DecidableEq

structure World (m n : ℕ) where
  /-- `none` where there is no file, or none that can be parsed. -/
  file : Option OptimizationData
  saves : ℕ
  copies : List Copy
  cache : Fin m → Option ℕ
  /-- The call that an object is in, and the dict that its load returned. -/
  holding : Fin n → Option (Call × ℕ)
  completed : List Call

def World.start (m n : ℕ) (file : Option OptimizationData) : World m n :=
  ⟨file, 0, [], fun _ => none, fun _ => none, []⟩

variable {m n : ℕ}

def World.content (w : World m n) : OptimizationData := w.file.getD defaultState

/-- The default state is not cached. -/
def World.load (w : World m n) (process : Fin m) : World m n × ℕ :=
  match w.cache process with
  | some copy => (w, copy)
  | none =>
    match w.file with
    | none => ({ w with copies := w.copies ++ [⟨defaultState, w.saves⟩] }, w.copies.length)
    | some data =>
      ({ w with
          copies := w.copies ++ [⟨data, w.saves⟩]
          cache := Function.update w.cache process (some w.copies.length) }, w.copies.length)

/-- The dict is changed, and the process forgets what it has cached. -/
def World.save (w : World m n) (process : Fin m) (copy : ℕ) (data : OptimizationData) :
    World m n :=
  { w with
    file := some data
    saves := w.saves + 1
    copies := w.copies.set copy ⟨data, w.saves + 1⟩
    cache := Function.update w.cache process none }

inductive Action (m n : ℕ) where
  | expire (process : Fin m)
  /-- A `load` other than that of a changing call. -/
  | read (object : Fin n)
  | load (object : Fin n) (call : Call)
  | save (object : Fin n)
  deriving DecidableEq, Repr

def step (process : Fin n → Fin m) (w : World m n) : Action m n → Option (World m n)
  | .expire process => some { w with cache := Function.update w.cache process none }
  | .read object => some (w.load (process object)).1
  | .load object call =>
    match w.holding object with
    | some _ => none
    | none =>
      let (loaded, copy) := w.load (process object)
      some { loaded with holding := Function.update w.holding object (some (call, copy)) }
  | .save object =>
    match w.holding object with
    | none => none
    | some (call, copy) =>
      (w.copies[copy]?).map fun held =>
        let next := match call.run held.data with
          | none => w
          | some data => w.save (process object) copy data
        { next with
          holding := Function.update w.holding object none
          completed := w.completed ++ [call] }

/-- The dict that a call ends on holds every save of the file so far: since the dict was read or
last saved, no other one was saved. -/
def undisturbed (w : World m n) : Action m n → Bool
  | .save object =>
    match w.holding object with
    | none => true
    | some (_, copy) => (w.copies[copy]?).all fun held => held.saves = w.saves
  | _ => true

/-! ## The file and the copies -/

structure Invariant (initial : OptimizationData) (w : World m n) : Prop where
  content : w.content = effects w.completed initial
  saves_le : ∀ copy ∈ w.copies, copy.saves ≤ w.saves
  current : ∀ copy ∈ w.copies, copy.saves = w.saves → copy.data = w.content

theorem Invariant.start (file : Option OptimizationData) :
    Invariant (file.getD defaultState) (World.start m n file) where
  content := rfl
  saves_le _ h := absurd h List.not_mem_nil
  current _ h := absurd h List.not_mem_nil

/-- What a `load` can do. -/
theorem load_eq (w : World m n) (process : Fin m) :
    (w.load process).1 = w ∨ ∃ cache,
      (w.load process).1 =
        { w with copies := w.copies ++ [⟨w.content, w.saves⟩], cache := cache } := by
  unfold World.load World.content
  cases w.cache process with
  | some copy => exact .inl rfl
  | none =>
    refine .inr ?_
    cases w.file with
    | none => exact ⟨_, rfl⟩
    | some data => exact ⟨_, rfl⟩

/-- Neither the cache nor the calls that objects are in enter the invariant. -/
theorem Invariant.congr {initial : OptimizationData} {w w' : World m n} (inv : Invariant initial w)
    (content : w'.content = w.content) (saves : w'.saves = w.saves) (copies : w'.copies = w.copies)
    (completed : w'.completed = w.completed) : Invariant initial w' where
  content := by rw [content, completed, inv.content]
  saves_le := by
    rw [copies, saves]
    exact inv.saves_le
  current := by
    rw [copies, saves, content]
    exact inv.current

theorem Invariant.load {initial : OptimizationData} {w : World m n} (inv : Invariant initial w)
    (process : Fin m) : Invariant initial (w.load process).1 := by
  rcases load_eq w process with eq | ⟨cache, eq⟩
  · rw [eq]
    exact inv
  · rw [eq]
    refine ⟨inv.content, ?_, ?_⟩
    · intro copy h
      rcases List.mem_append.1 h with h | h
      · exact inv.saves_le copy h
      · rw [List.mem_singleton.1 h]
    · intro copy h same
      rcases List.mem_append.1 h with h | h
      · exact inv.current copy h same
      · rw [List.mem_singleton.1 h]
        rfl

theorem Invariant.save {initial : OptimizationData} {w : World m n} (inv : Invariant initial w)
    (process : Fin m) {copy : ℕ} {held : Copy} (found : w.copies[copy]? = some held)
    (current : held.saves = w.saves) {call : Call} {data : OptimizationData}
    (run : call.run held.data = some data) :
    Invariant initial { w.save process copy data with completed := w.completed ++ [call] } where
  content := by
    have same : held.data = w.content := inv.current held (List.mem_of_getElem? found) current
    rw [effects_concat, ← inv.content, ← same]
    unfold Call.effect
    rw [run]
    rfl
  saves_le := by
    intro other h
    rcases List.mem_or_eq_of_mem_set h with h | h
    · exact (inv.saves_le other h).trans (Nat.le_succ _)
    · rw [h]
      exact Nat.le_refl _
  current := by
    intro other h same
    rcases List.mem_or_eq_of_mem_set h with h | h
    · have old := inv.saves_le other h
      change other.saves = w.saves + 1 at same
      omega
    · rw [h]
      rfl

theorem Invariant.skip {initial : OptimizationData} {w : World m n} (inv : Invariant initial w)
    {copy : ℕ} {held : Copy} (found : w.copies[copy]? = some held)
    (current : held.saves = w.saves) {call : Call} (run : call.run held.data = none) :
    Invariant initial { w with completed := w.completed ++ [call] } where
  content := by
    have same : held.data = w.content := inv.current held (List.mem_of_getElem? found) current
    rw [effects_concat, ← inv.content, ← same]
    unfold Call.effect
    rw [run]
    exact same.symm
  saves_le := inv.saves_le
  current := inv.current

theorem Invariant.step {process : Fin n → Fin m} {initial : OptimizationData} {w w' : World m n}
    {a : Action m n} (inv : Invariant initial w) (ok : undisturbed w a = true)
    (h : step process w a = some w') : Invariant initial w' := by
  cases a with
  | expire process =>
    cases h
    exact inv.congr rfl rfl rfl rfl
  | read object =>
    cases h
    exact inv.load _
  | load object call =>
    simp only [OptimizationFile.step] at h
    split at h
    · cases h
    · cases h
      exact (inv.load (process object)).congr rfl rfl rfl rfl
  | save object =>
    simp only [OptimizationFile.step] at h
    simp only [undisturbed] at ok
    split at h
    · cases h
    · rename_i call copy holding
      have ⟨held, found, eq⟩ := Option.map_eq_some_iff.1 h
      rw [holding] at ok
      have current : held.saves = w.saves := by simpa [found] using ok
      cases run : call.run held.data with
      | none =>
        rw [run] at eq
        rw [← eq]
        exact (inv.skip found current run).congr rfl rfl rfl rfl
      | some data =>
        rw [run] at eq
        rw [← eq]
        exact (inv.save (process object) found current run).congr rfl rfl rfl rfl

/-! ## What the calls leave -/

/-- A forced weight, or a lock that is set or cleared. -/
def Call.operatorOn (slot : Slot) : Call → Bool
  | .setWeight other _ _ force _ _ => force && decide (other = slot)
  | .lockWeight other _ => decide (other = slot)
  | _ => false

theorem effect_locked {data : OptimizationData} {slot : Slot} {call : Call}
    (automated : call.operatorOn slot = false) (locked : data.locked slot = true) :
    (call.effect data).entry slot = data.entry slot := by
  cases call with
  | setWeight other weight rule force intentionalZero now =>
    unfold Call.effect Call.run OptimizationState.setWeight
    dsimp only
    split_ifs with skipped
    · rfl
    · have elsewhere : slot ≠ other := by
        intro same
        subst same
        rw [locked, Bool.and_true] at skipped
        have free : force = false := by simpa [Call.operatorOn] using automated
        rw [free] at skipped
        exact skipped rfl
      rw [Option.getD_some, entry_putEntry, if_neg elsewhere]
  | updateManyWeights updates language now => exact entry_updateManyWeights_locked locked
  | lockWeight other lock =>
    have elsewhere : slot ≠ other := fun same => by simp [Call.operatorOn, same] at automated
    unfold Call.effect Call.run OptimizationState.lockWeight
    rw [Option.getD_some, entry_putEntry, if_neg elsewhere]
  | updateStats other update => rfl

theorem effects_locked {calls : List Call} {data : OptimizationData} {slot : Slot}
    (automated : ∀ call ∈ calls, call.operatorOn slot = false)
    (locked : data.locked slot = true) :
    (effects calls data).entry slot = data.entry slot := by
  unfold effects
  induction calls generalizing data with
  | nil => rfl
  | cons call calls ih =>
    rw [List.forall_mem_cons] at automated
    have kept := effect_locked automated.1 locked
    rw [List.foldl_cons, ih automated.2 ((locked_of_entry kept).trans locked), kept]

/-- Where every call ends on an up-to-date dict, the file holds the calls in the order in which
they ended, and what is locked stays as it is until the operator's next call for it. -/
theorem file_holds_every_call (process : Fin n → Fin m) (file : Option OptimizationData)
    {w : World m n}
    (h : Reaches (step process) (fun w a => undisturbed w a = true) (World.start m n file) w) :
    w.content = effects w.completed (file.getD defaultState) ∧
      ∀ before after slot, w.completed = before ++ after →
        (effects before (file.getD defaultState)).locked slot = true →
        (∀ call ∈ after, call.operatorOn slot = false) →
        w.content.entry slot = (effects before (file.getD defaultState)).entry slot := by
  have inv : Invariant (file.getD defaultState) w :=
    Reaches.invariant h (.start file) fun _ _ _ inv ok step => inv.step ok step
  refine ⟨inv.content, ?_⟩
  intro before after slot split_ locked automated
  have later : effects w.completed (file.getD defaultState) =
      effects after (effects before (file.getD defaultState)) := by
    rw [split_]
    exact List.foldl_append
  rw [inv.content, later]
  exact effects_locked automated locked

/-- An operator's lock, and then an automated weight from another process. -/
def lockThenWeight : List (Action 2 2) :=
  [.load 0 (.lockWeight { adapterName := "medium" } true), .save 0,
    .load 1 (.setWeight { adapterName := "medium" } (1/2) "canary_drift" false false 0), .save 1]

theorem file_holds_every_call_in_turn :
    let w := final (step id) undisturbed (World.start 2 2 none) lockThenWeight
    w.content = effects w.completed defaultState ∧
      ∀ before after slot, w.completed = before ++ after →
        (effects before defaultState).locked slot = true →
        (∀ call ∈ after, call.operatorOn slot = false) →
        w.content.entry slot = (effects before defaultState).entry slot :=
  file_holds_every_call id none (reaches_final undisturbed _ lockThenWeight (by decide))

/-- The other process has cached the file before the lock, and its weight writes the file without
the lock. -/
theorem stale_copy_reverts_lock :
    ¬ ∀ (process : Fin 2 → Fin 2) (file : Option OptimizationData) (w : World 2 2),
      Reaches (step process) (fun _ _ => True) (World.start 2 2 file) w →
      (∀ object, w.holding object = none) →
      w.content = effects w.completed (file.getD defaultState) := by
  intro h
  let last : World 2 2 := final (step id) (fun _ _ => true) (World.start 2 2 (some defaultState))
    (.read 1 :: lockThenWeight)
  have run : Reaches (step id) (fun _ _ => True) (World.start 2 2 (some defaultState)) last :=
    Reaches.mono (reaches_final (fun _ _ => true) _ (.read 1 :: lockThenWeight) (by decide))
      fun _ _ _ => trivial
  have eq : last.content = effects last.completed defaultState := h id _ last run (by decide)
  have reverted : last.content.locked { adapterName := "medium" } = false := by decide +kernel
  have kept : (effects last.completed defaultState).locked { adapterName := "medium" } = true := by
    decide +kernel
  rw [eq, kept] at reverted
  cases reverted

end BacklinkPublisher.OptimizationFile
