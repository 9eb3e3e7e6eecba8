import BacklinkPublisher.DedupGate
import BacklinkPublisher.TransitionSystems

set_option autoImplicit false

/-!
# Publish runs over one dedup store

Any number of runs and the operator, interleaved at transaction granularity.
A granted dispatch is one entry of `history`; its terminal write is the two
steps `readRow` and `writeRow`. `lastClaim` and `attempt` are ghosts: the run
whose claim of a key was granted last, and the run whose attempt the row of a
key still records (none once the operator has decided about the row).
-/
namespace BacklinkPublisher.DedupRuns
open DedupStore DedupGate TransitionSystems

inductive Progress where
  | inFlight
  | crashed
  | ended (outcome : Outcome)
  | reading (outcome : Outcome) (allowFromTerminal : Bool)
  | settled (outcome : Outcome)
  | dropped (outcome : Outcome)
  deriving DecidableEq, Repr

structure Dispatch where
  key : DedupKey
  run : PublishRun
  progress : Progress
  deriving DecidableEq, Repr

structure World where
  table : DedupTable
  history : List Dispatch
  lastClaim : DedupKey → Option PublishRun
  attempt : DedupKey → Option PublishRun

def World.start (table : DedupTable) : World := ⟨table, [], fun _ => none, fun _ => none⟩

inductive Action where
  /-- One call of `gate`; `stored = false` is a store error inside it. -/
  | gate (run : PublishRun) (key : DedupKey) (host : Host) (enforce force stored : Bool)
  /-- The adapter returned or raised. -/
  | finish (index : ℕ) (outcome : Outcome)
  | crash (index : ℕ)
  /-- `store.get` of the terminal write; `stored = false` raised and was swallowed. -/
  | readRow (index : ℕ) (stored : Bool)
  /-- `store.transition` of the terminal write; `stored = false` as above. -/
  | writeRow (index : ℕ) (stored : Bool) (writtenAt : ℚ)
  | adjudicate (key : DedupKey) (decision : Adjudication) (runId : Option String) (writtenAt : ℚ)
  | forget (key : DedupKey)

/-- Enter a dispatch, and the claim it rests on where the row was written. -/
def World.grant (w : World) (table : DedupTable) (key : DedupKey) (run : PublishRun)
    (claims : Bool) : World where
  table := table
  history := w.history ++ [⟨key, run, .inFlight⟩]
  lastClaim := if claims then Function.update w.lastClaim key (some run) else w.lastClaim
  attempt := if claims then Function.update w.attempt key (some run) else w.attempt

def World.put (w : World) (index : ℕ) (d : Dispatch) (progress : Progress) : World :=
  { w with history := w.history.set index { d with progress } }

def World.settle (w : World) (table : DedupTable) (index : ℕ) (d : Dispatch) (outcome : Outcome) :
    World :=
  { w.put index d (.settled outcome) with table }

def World.decide (w : World) (table : DedupTable) (key : DedupKey) : World :=
  { w with table := table, attempt := Function.update w.attempt key none }

/-- A crash loses a dispatch at any point before its terminal write is through. -/
def Progress.unsettled : Progress → Bool
  | .inFlight | .ended _ | .reading _ _ => true
  | .crashed | .settled _ | .dropped _ => false

def step (w : World) : Action → Option World
  | .gate run key host enforce force stored =>
    let (table, decision) := DedupGate.gate w.table (some key) run host enforce force stored
    some (if decision.verdict = .dispatch then
        w.grant table key run (enforce || (stored && (w.table key).isNone))
      else { w with table })
  | .finish index outcome =>
    match w.history[index]? with
    | some d => if d.progress = .inFlight then some (w.put index d (.ended outcome)) else none
    | none => none
  | .crash index =>
    match w.history[index]? with
    | some d => if d.progress.unsettled then some (w.put index d .crashed) else none
    | none => none
  | .readRow index stored =>
    match w.history[index]? with
    | some d =>
      match d.progress with
      | .ended outcome =>
        if stored then
          match terminalDecision (w.table d.key) outcome.toState with
          | some allow => some (w.put index d (.reading outcome allow))
          | none => some (w.put index d (.dropped outcome))
        else some (w.put index d (.dropped outcome))
      | _ => none
    | none => none
  | .writeRow index stored writtenAt =>
    match w.history[index]? with
    | some d =>
      match d.progress with
      | .reading outcome allow =>
        match if stored then terminalWrite w.table d.key d.run outcome allow writtenAt else none with
        | some table => some (w.settle table index d outcome)
        | none => some (w.put index d (.dropped outcome))
      | _ => none
    | none => none
  | .adjudicate key decision runId writtenAt =>
    (adjudicateOne w.table key decision runId writtenAt).map fun table => w.decide table key
  | .forget key => some (w.decide (DedupStore.forget w.table key).1 key)

/-- An enforce-mode gate call without a force flag, or a step of a dispatch. -/
def Action.enforced : Action → Bool
  | .gate _ _ _ enforce force _ => enforce && !force
  | .finish _ _ | .crash _ | .readRow _ _ | .writeRow _ _ _ => true
  | .adjudicate _ _ _ _ | .forget _ => false

/-- The automatic steps of runs in either mode, without a force flag. -/
def Action.automatic : Action → Bool
  | .gate _ _ _ _ force _ => !force
  | .finish _ _ | .crash _ | .readRow _ _ | .writeRow _ _ _ => true
  | .adjudicate _ _ _ _ | .forget _ => false

/-- Enforce-mode runs, forced or not, together with the operator verbs. -/
def Action.supervised : Action → Bool
  | .gate _ _ _ enforce _ _ => enforce
  | _ => true

/-! ## What one step does -/

/-- The shapes of a step. Every action is one of: a refused gate, a granted
dispatch, a change of one dispatch that leaves the table alone, the second
transaction of a terminal write, effective or not, or a verb of the operator. -/
inductive Effect (w : World) : Action → World → Prop where
  | refused (run : PublishRun) (key : DedupKey) (host : Host) (enforce force stored : Bool)
      (verdict : (DedupGate.gate w.table (some key) run host enforce force stored).2.verdict ≠
        .dispatch) :
      Effect w (.gate run key host enforce force stored)
        { w with table := (DedupGate.gate w.table (some key) run host enforce force stored).1 }
  | granted (run : PublishRun) (key : DedupKey) (host : Host) (enforce force stored : Bool)
      (verdict : (DedupGate.gate w.table (some key) run host enforce force stored).2.verdict =
        .dispatch) :
      Effect w (.gate run key host enforce force stored)
        (w.grant (DedupGate.gate w.table (some key) run host enforce force stored).1 key run
          (enforce || (stored && (w.table key).isNone)))
  | moved (a : Action) (index : ℕ) (d : Dispatch) (progress : Progress)
      (entry : w.history[index]? = some d) (before : d.progress.unsettled = true)
      (after : ∀ outcome, progress ≠ .settled outcome)
      (reads : ∀ outcome allow, progress = .reading outcome allow →
        terminalDecision (w.table d.key) outcome.toState = some allow)
      (unwritten : ∀ i stored writtenAt, a ≠ .writeRow i stored writtenAt) :
      Effect w a (w.put index d progress)
  | unwritten (index : ℕ) (stored : Bool) (writtenAt : ℚ) (d : Dispatch) (outcome : Outcome)
      (allow : Bool) (entry : w.history[index]? = some d)
      (before : d.progress = .reading outcome allow)
      (refused : stored = true → ∀ record, w.table d.key = some record →
        record.state.terminal = true ∧ allow = false) :
      Effect w (.writeRow index stored writtenAt) (w.put index d (.dropped outcome))
  | wrote (index : ℕ) (writtenAt : ℚ) (d : Dispatch) (outcome : Outcome) (allow : Bool)
      (record : DedupRecord) (entry : w.history[index]? = some d)
      (before : d.progress = .reading outcome allow) (row : w.table d.key = some record)
      (open_ : record.state.terminal = true → allow = true) :
      Effect w (.writeRow index true writtenAt)
        (w.settle (Function.update w.table d.key
          (some (settled record outcome.toState (outcome.args d.run allow) writtenAt)))
          index d outcome)
  | adjudicated (key : DedupKey) (decision : Adjudication) (runId : Option String) (writtenAt : ℚ)
      (record : DedupRecord) (row : w.table key = some record)
      (held : record.state = .uncertain) :
      Effect w (.adjudicate key decision runId writtenAt)
        (w.decide (Function.update w.table key (some (settled record decision.toState
          { runId, expectFrom := some [.uncertain] } writtenAt))) key)
  | forgotten (key : DedupKey) :
      Effect w (.forget key) (w.decide (Function.update w.table key none) key)

theorem step_effect {w w' : World} {a : Action} (h : step w a = some w') : Effect w a w' := by
  cases a with
  | gate run key host enforce force stored =>
    simp only [step, Option.some.injEq] at h
    split_ifs at h with hv
    · subst h; exact .granted run key host enforce force stored hv
    · subst h; exact .refused run key host enforce force stored hv
  | finish index outcome =>
    simp only [step] at h
    split at h
    · rename_i d hd
      split_ifs at h with hp
      obtain rfl := Option.some.inj h
      exact .moved _ index d _ hd (by simp [hp, Progress.unsettled]) (by simp) (by simp) (by simp)
    · cases h
  | crash index =>
    simp only [step] at h
    split at h
    · rename_i d hd
      split_ifs at h with hp
      obtain rfl := Option.some.inj h
      exact .moved _ index d _ hd hp (by simp) (by simp) (by simp)
    · cases h
  | readRow index stored =>
    simp only [step] at h
    split at h
    · rename_i d hd
      split at h
      · rename_i outcome hp
        have before : d.progress.unsettled = true := by simp [hp, Progress.unsettled]
        split_ifs at h
        · split at h
          · rename_i allow hallow
            obtain rfl := Option.some.inj h
            refine .moved _ index d _ hd before (by simp) ?_ (by simp)
            rintro _ _ ⟨rfl, rfl⟩
            exact hallow
          · obtain rfl := Option.some.inj h
            exact .moved _ index d _ hd before (by simp) (by simp) (by simp)
        · obtain rfl := Option.some.inj h
          exact .moved _ index d _ hd before (by simp) (by simp) (by simp)
      · cases h
    · cases h
  | writeRow index stored writtenAt =>
    simp only [step] at h
    split at h
    · rename_i d hd
      split at h
      · rename_i outcome allow hp
        split at h
        · rename_i table htable
          obtain rfl := Option.some.inj h
          cases stored with
          | false => simp at htable
          | true =>
            obtain ⟨record, hrow, hopen, rfl⟩ :=
              (terminalWrite_some_iff _ _ _ _ _ _ _).1 (by simpa using htable)
            exact .wrote index writtenAt d outcome allow record hd hp hrow hopen
        · rename_i refused
          obtain rfl := Option.some.inj h
          refine .unwritten index stored writtenAt d outcome allow hd hp fun hs record row => ?_
          exact terminalWrite_none (by simpa [hs] using refused) row
      · cases h
    · cases h
  | adjudicate key decision runId writtenAt =>
    simp only [step, Option.map_eq_some_iff] at h
    obtain ⟨table, htable, rfl⟩ := h
    obtain ⟨record, hrow, hheld, rfl⟩ := (adjudicateOne_some_iff _ _ _ _ _ _).1 htable
    exact .adjudicated key decision runId writtenAt record hrow hheld
  | forget key =>
    simp only [step, Option.some.injEq] at h
    subst h
    exact .forgotten key

theorem World.put_entry {w : World} {index : ℕ} {d : Dispatch} (entry : w.history[index]? = some d)
    (progress : Progress) (j : ℕ) (e : Dispatch) :
    (w.put index d progress).history[j]? = some e ↔
      (j = index ∧ e = { d with progress }) ∨ (j ≠ index ∧ w.history[j]? = some e) := by
  have hlt : index < w.history.length := (List.getElem?_eq_some_iff.1 entry).choose
  by_cases hj : j = index
  · subst hj
    simp [World.put, hlt, eq_comm]
  · simp [World.put, hj, Ne.symm hj]

theorem World.grant_entry (w : World) (table : DedupTable) (key : DedupKey) (run : PublishRun)
    (claims : Bool) (j : ℕ) (e : Dispatch) :
    (w.grant table key run claims).history[j]? = some e ↔
      (j = w.history.length ∧ e = ⟨key, run, .inFlight⟩) ∨ w.history[j]? = some e := by
  rcases Nat.lt_trichotomy j w.history.length with hj | hj | hj
  · have hne : j ≠ w.history.length := by omega
    simp [World.grant, List.getElem?_append_left hj, hne]
  · subst hj
    simp [World.grant, eq_comm]
  · have hne : j ≠ w.history.length := by omega
    have hlen : (w.history ++ [(⟨key, run, .inFlight⟩ : Dispatch)]).length ≤ j := by simp; omega
    simp [World.grant, List.getElem?_eq_none hlen, hne, List.getElem?_eq_none (Nat.le_of_lt hj)]

/-! ## Values for executed runs -/

def pageKey : DedupKey := ⟨"medium", "https://example.org/page", "default"⟩

def runA : PublishRun := ⟨some "run-a", 100⟩

def runB : PublishRun := ⟨some "run-b", 200⟩

def runC : PublishRun := ⟨some "run-c", 300⟩

/-- A host at time `t` on which every process is alive. -/
def hostAt (t : ℚ) : Host := ⟨t, t, fun _ => true⟩

end BacklinkPublisher.DedupRuns
