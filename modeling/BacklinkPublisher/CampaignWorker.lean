import BacklinkPublisher.OrderedDicts
import BacklinkPublisher.TransitionSystems
import Mathlib.Data.Fintype.Basic
import Mathlib.Logic.Function.Basic

set_option autoImplicit false

/-!
# The campaign worker

`CampaignWorker` of `webui_app/campaign_worker.py` with `n` request threads. `is_running`'s check,
`executor.submit` and the store into `_running` are steps of their own, and so is the `pop` of
`cancel_campaign`.
-/
namespace BacklinkPublisher.CampaignWorker
open TransitionSystems OrderedDicts

inductive FutureState where
  | pending
  | running
  | cancelled
  | finished
  deriving DecidableEq, Repr

def FutureState.done : FutureState → Bool
  | .cancelled | .finished => true
  | .pending | .running => false

/-- An entry of `_running`. -/
structure Entry where
  campaignId : String
  future : ℕ
  deriving DecidableEq, Repr

/-- Where a request thread is in its call. -/
inductive Phase where
  | idle
  /-- The call has raised `AlreadyRunningError`. -/
  | raised
  | checked (campaignId : String)
  | submitted (campaignId : String) (future : ℕ)
  /-- `future.cancel()` has returned `True`. -/
  | cancelled (campaignId : String) (future : ℕ)
  deriving DecidableEq, Repr

/-- A `start_campaign` between its check and its store. -/
def Phase.starting : Phase → Bool
  | .checked _ | .submitted _ _ => true
  | _ => false

def Phase.free : Phase → Bool
  | .idle | .raised => true
  | _ => false

structure Worker (n : ℕ) where
  /-- By the order of submission. -/
  futures : List FutureState
  queue : List ℕ
  running : List Entry
  phase : Fin n → Phase
  deriving DecidableEq

def Worker.start (n : ℕ) : Worker n := ⟨[], [], [], fun _ => .idle⟩

def maxWorkers : ℕ := 2

inductive Action (n : ℕ) where
  | check (thread : Fin n) (campaignId : String)
  | submit (thread : Fin n)
  | store (thread : Fin n)
  | isRunning (thread : Fin n)
  | cancel (thread : Fin n) (campaignId : String)
  | pop (thread : Fin n)
  /-- An executor thread takes the next work item. -/
  | take
  | finish (future : ℕ)
  deriving DecidableEq, Repr

variable {n : ℕ}

def Worker.goto (w : Worker n) (thread : Fin n) (phase : Phase) : Worker n :=
  { w with phase := Function.update w.phase thread phase }

def Worker.done (w : Worker n) (future : ℕ) : Bool :=
  (w.futures[future]?).all FutureState.done

/-- The pruning of `is_running`. -/
def Worker.prune (w : Worker n) : Worker n :=
  { w with running := w.running.filter fun e => !w.done e.future }

def Worker.put (w : Worker n) (e : Entry) : Worker n :=
  let running := ensure Entry.campaignId e w.running
  { w with running := adjust Entry.campaignId e.campaignId (fun _ => e) running }

def step (w : Worker n) : Action n → Option (Worker n)
  | .check thread campaignId =>
    if (w.phase thread).free then
      some (w.prune.goto thread (if w.prune.running = [] then .checked campaignId else .raised))
    else none
  | .submit thread =>
    match w.phase thread with
    | .checked campaignId =>
      some { w.goto thread (.submitted campaignId w.futures.length) with
        futures := w.futures ++ [.pending]
        queue := w.queue ++ [w.futures.length] }
    | _ => none
  | .store thread =>
    match w.phase thread with
    | .submitted campaignId future => some ((w.put ⟨campaignId, future⟩).goto thread .idle)
    | _ => none
  | .isRunning thread => if (w.phase thread).free then some (w.prune.goto thread .idle) else none
  | .cancel thread campaignId =>
    if (w.phase thread).free then
      match lookup Entry.campaignId campaignId w.running with
      | none => some (w.goto thread .idle)
      | some e =>
        -- `future.cancel()` is `False` for a running or finished future; one that another call
        -- has cancelled is done
        if w.futures[e.future]? = some .pending then
          some { w.goto thread (.cancelled campaignId e.future) with
            futures := w.futures.set e.future .cancelled }
        else some (w.goto thread .idle)
    else none
  | .pop thread =>
    match w.phase thread with
    | .cancelled campaignId _ =>
      some ({ w with running := remove Entry.campaignId campaignId w.running }.goto thread .idle)
    | _ => none
  | .take =>
    match w.queue with
    | [] => none
    | future :: queue =>
      if w.futures.count .running < maxWorkers then
        some { w with
          queue := queue
          futures := if w.futures[future]? = some .pending then w.futures.set future .running
            else w.futures }
      else none
  | .finish future =>
    if w.futures[future]? = some .running then
      some { w with futures := w.futures.set future .finished }
    else none

/-- The campaign has been accepted by the executor and has not finished. -/
def Worker.unfinished (w : Worker n) (future : ℕ) : Prop :=
  ∃ state, w.futures[future]? = some state ∧ state.done = false

/-- No `start_campaign` checks while another is between its check and its store, and no
`cancel_campaign` pops a future other than the one it has cancelled. -/
def undisturbed (w : Worker n) : Action n → Bool
  | .check _ _ => decide (∀ other, (w.phase other).starting = false)
  | .pop thread =>
    match w.phase thread with
    | .cancelled campaignId future =>
      w.running.all fun e => decide (e.campaignId = campaignId → e.future = future)
    | _ => true
  | _ => true

/-! ## Undisturbed runs -/

structure Invariant (w : Worker n) : Prop where
  one : ∀ a b, (w.phase a).starting = true → (w.phase b).starting = true → a = b
  empty : ∀ a, (w.phase a).starting = true → w.running = []
  single : ∀ e ∈ w.running, ∀ e' ∈ w.running, e = e'
  held : ∀ k, w.unfinished k →
    (∃ e ∈ w.running, e.future = k) ∨ ∃ a campaignId, w.phase a = .submitted campaignId k
  settled : ∀ a campaignId k, w.phase a = .cancelled campaignId k →
    w.futures[k]? = some .cancelled

theorem invariant_start (n : ℕ) : Invariant (Worker.start n) := by
  constructor <;> simp [Worker.start, Phase.starting, Worker.unfinished]

/-- A future is held in `_running`, whose only entry it is, or by the only start. -/
theorem Invariant.unique {w : Worker n} (inv : Invariant w) {j k : ℕ} (hj : w.unfinished j)
    (hk : w.unfinished k) : j = k := by
  rcases inv.held j hj with ⟨e, he, rfl⟩ | ⟨a, id, ha⟩
  · rcases inv.held k hk with ⟨e', he', rfl⟩ | ⟨b, id', hb⟩
    · rw [inv.single e he e' he']
    · rw [inv.empty b (by rw [hb]; rfl)] at he
      cases he
  · have starting : (w.phase a).starting = true := by rw [ha]; rfl
    rcases inv.held k hk with ⟨e', he', rfl⟩ | ⟨b, id', hb⟩
    · rw [inv.empty a starting] at he'
      cases he'
    · have same : a = b := inv.one a b starting (by rw [hb]; rfl)
      rw [same, hb] at ha
      cases ha
      rfl

theorem done_eq_false {w : Worker n} {k : ℕ} : w.done k = false ↔
    (w.unfinished k) := by
  unfold Worker.done Worker.unfinished
  cases w.futures[k]? with
  | none => simp
  | some state => simp

theorem phase_goto (w : Worker n) (thread a : Fin n) (phase : Phase) :
    (w.goto thread phase).phase a = if a = thread then phase else w.phase a :=
  Function.update_apply w.phase thread phase a

theorem Phase.free_ne {p : Phase} (free : p.free = true) :
    p.starting = false ∧ (∀ id k, p ≠ .submitted id k) ∧ ∀ id k, p ≠ .cancelled id k := by
  cases p <;> simp_all [Phase.free, Phase.starting]

/-- A thread that holds no future may return. -/
theorem Invariant.goto {w : Worker n} (inv : Invariant w) {thread : Fin n} {phase : Phase}
    (unheld : ∀ id k, w.phase thread ≠ .submitted id k) (free : phase.free = true) :
    Invariant (w.goto thread phase) := by
  have ⟨idle, unsubmitted, uncancelled⟩ := Phase.free_ne free
  have starts : ∀ a, ((w.goto thread phase).phase a).starting = true →
      (w.phase a).starting = true := by
    intro a h
    rw [phase_goto] at h
    split_ifs at h with same
    · rw [idle] at h
      cases h
    · exact h
  constructor
  case one =>
    intro a b ha hb
    exact inv.one a b (starts a ha) (starts b hb)
  case empty =>
    intro a ha
    exact inv.empty a (starts a ha)
  case single => exact inv.single
  case held =>
    intro k hk
    rcases inv.held k hk with stored | ⟨a, id, ha⟩
    · exact .inl stored
    · have other : a ≠ thread := by
        rintro rfl
        exact unheld id k ha
      refine .inr ⟨a, id, ?_⟩
      rw [phase_goto, if_neg other]
      exact ha
  case settled =>
    intro a id k ha
    rw [phase_goto] at ha
    split_ifs at ha with same
    · exact absurd ha (uncancelled id k)
    · exact inv.settled a id k ha

/-- Entries of finished futures may go. -/
theorem Invariant.drop {w : Worker n} (inv : Invariant w) (p : Entry → Bool)
    (kept : ∀ e ∈ w.running, w.unfinished e.future → p e = true) :
    Invariant { w with running := w.running.filter p } := by
  constructor
  case one => exact inv.one
  case empty =>
    intro a ha
    change w.running.filter p = []
    rw [inv.empty a ha]
    rfl
  case single =>
    intro e he e' he'
    exact inv.single e (List.mem_of_mem_filter he) e' (List.mem_of_mem_filter he')
  case held =>
    intro k hk
    rcases inv.held k hk with ⟨e, he, rfl⟩ | submitted
    · exact .inl ⟨e, List.mem_filter.2 ⟨he, kept e he hk⟩, rfl⟩
    · exact .inr submitted
  case settled => exact inv.settled

theorem Invariant.prune {w : Worker n} (inv : Invariant w) : Invariant w.prune := by
  apply inv.drop
  intro e _ unfinished
  rw [done_eq_false.2 unfinished]
  rfl

/-- A future may be taken, finished or cancelled. -/
theorem Invariant.advance {w : Worker n} (inv : Invariant w) {futures : List FutureState}
    (queue : List ℕ)
    (fewer : ∀ k state, futures[k]? = some state → state.done = false → w.unfinished k)
    (kept : ∀ k : ℕ, w.futures[k]? = some .cancelled → futures[k]? = some .cancelled) :
    Invariant { w with futures := futures, queue := queue } := by
  constructor
  case one => exact inv.one
  case empty => exact inv.empty
  case single => exact inv.single
  case held =>
    intro k hk
    have ⟨state, found, undone⟩ := hk
    exact inv.held k (fewer k state found undone)
  case settled =>
    intro a id k ha
    exact kept k (inv.settled a id k ha)

/-- One future moves on from a state that is not final. -/
theorem Invariant.advance_one {w : Worker n} (inv : Invariant w) (queue : List ℕ) {future : ℕ}
    {old : FutureState} (new : FutureState) (found : w.futures[future]? = some old)
    (undone : old.done = false) :
    Invariant { w with futures := w.futures.set future new, queue := queue } := by
  apply inv.advance
  · intro k state hk hstate
    by_cases same : future = k
    · exact ⟨old, same ▸ found, undone⟩
    · rw [List.getElem?_set_ne same] at hk
      exact ⟨state, hk, hstate⟩
  · intro k hk
    have other : future ≠ k := by
      rintro rfl
      rw [found] at hk
      cases hk
      cases undone
    rw [List.getElem?_set_ne other]
    exact hk

theorem Invariant.check {w : Worker n} (inv : Invariant w) {thread : Fin n} (campaignId : String)
    (quiet : ∀ other, (w.phase other).starting = false) (empty : w.running = []) :
    Invariant (w.goto thread (.checked campaignId)) := by
  have starts : ∀ a, ((w.goto thread (.checked campaignId)).phase a).starting = true →
      a = thread := by
    intro a ha
    rw [phase_goto] at ha
    split_ifs at ha with same
    · exact same
    · rw [quiet a] at ha
      cases ha
  constructor
  case one =>
    intro a b ha hb
    rw [starts a ha, starts b hb]
  case empty =>
    intro _ _
    exact empty
  case single => exact inv.single
  case held =>
    intro k hk
    rcases inv.held k hk with stored | ⟨a, id, ha⟩
    · exact .inl stored
    · have none_starting := quiet a
      rw [ha] at none_starting
      cases none_starting
  case settled =>
    intro a id k ha
    rw [phase_goto] at ha
    split_ifs at ha with same
    exact inv.settled a id k ha

/-- The thread that has passed its check is the only start, so the new future is the only
unfinished one. -/
theorem Invariant.submit {w : Worker n} (inv : Invariant w) {thread : Fin n} {campaignId : String}
    (checked : w.phase thread = .checked campaignId) :
    Invariant { w.goto thread (.submitted campaignId w.futures.length) with
      futures := w.futures ++ [.pending]
      queue := w.queue ++ [w.futures.length] } := by
  have starting : (w.phase thread).starting = true := by rw [checked]; rfl
  have empty := inv.empty thread starting
  have only : ∀ a, (w.phase a).starting = true → a = thread := fun a ha =>
    inv.one a thread ha starting
  have starts : ∀ a, ((w.goto thread (.submitted campaignId w.futures.length)).phase a).starting
      = true → a = thread := by
    intro a ha
    rw [phase_goto] at ha
    split_ifs at ha with same
    · exact same
    · exact only a ha
  constructor
  case one =>
    intro a b ha hb
    rw [starts a ha, starts b hb]
  case empty =>
    intro _ _
    exact empty
  case single => exact inv.single
  case held =>
    intro k ⟨state, found, undone⟩
    refine .inr ⟨thread, campaignId, ?_⟩
    change (w.goto thread _).phase thread = _
    rw [phase_goto, if_pos rfl]
    change (w.futures ++ [FutureState.pending])[k]? = some state at found
    by_cases old : k < w.futures.length
    · rw [List.getElem?_append_left old] at found
      rcases inv.held k ⟨state, found, undone⟩ with ⟨e, he, _⟩ | ⟨a, id, ha⟩
      · rw [empty] at he
        cases he
      · have same : a = thread := only a (by rw [ha]; rfl)
        rw [same, checked] at ha
        cases ha
    · have bound : k < (w.futures ++ [FutureState.pending]).length :=
        (List.getElem?_eq_some_iff.1 found).1
      rw [List.length_append, List.length_singleton] at bound
      have last : w.futures.length = k := by omega
      rw [last]
  case settled =>
    intro a id k ha
    change (w.goto thread _).phase a = _ at ha
    rw [phase_goto] at ha
    split_ifs at ha with same
    have found := inv.settled a id k ha
    have bound := (List.getElem?_eq_some_iff.1 found).1
    change (w.futures ++ [FutureState.pending])[k]? = _
    rw [List.getElem?_append_left bound]
    exact found

theorem put_of_empty {w : Worker n} (e : Entry) (empty : w.running = []) :
    (w.put e).running = [e] := by
  simp [Worker.put, ensure, adjust, empty]

theorem Invariant.store {w : Worker n} (inv : Invariant w) {thread : Fin n} {campaignId : String}
    {future : ℕ} (submitted : w.phase thread = .submitted campaignId future) :
    Invariant ((w.put ⟨campaignId, future⟩).goto thread .idle) := by
  have starting : (w.phase thread).starting = true := by rw [submitted]; rfl
  have stored := put_of_empty ⟨campaignId, future⟩ (inv.empty thread starting)
  have idle : ∀ a, (((w.put ⟨campaignId, future⟩).goto thread .idle).phase a).starting = false := by
    intro a
    rw [phase_goto]
    split_ifs with same
    · rfl
    · by_contra h
      exact same (inv.one a thread (Bool.not_eq_false _ ▸ h) starting)
  constructor
  case one =>
    intro a _ ha
    rw [idle a] at ha
    cases ha
  case empty =>
    intro a ha
    rw [idle a] at ha
    cases ha
  case single =>
    intro e he e' he'
    change e ∈ (w.put _).running at he
    change e' ∈ (w.put _).running at he'
    rw [stored, List.mem_singleton] at he he'
    rw [he, he']
  case held =>
    intro k hk
    rcases inv.held k hk with ⟨e, he, _⟩ | ⟨a, id, ha⟩
    · rw [inv.empty thread starting] at he
      cases he
    · have same : a = thread := inv.one a thread (by rw [ha]; rfl) starting
      rw [same, submitted] at ha
      cases ha
      refine .inl ⟨⟨campaignId, future⟩, ?_, rfl⟩
      change _ ∈ (w.put _).running
      rw [stored]
      exact List.mem_singleton_self _
  case settled =>
    intro a id k ha
    rw [phase_goto] at ha
    split_ifs at ha with same
    exact inv.settled a id k ha

/-- `future.cancel()` of a pending future. -/
theorem Invariant.cancel {w : Worker n} (inv : Invariant w) {thread : Fin n} (campaignId : String)
    {future : ℕ} (free : (w.phase thread).free = true)
    (pending : w.futures[future]? = some .pending) :
    Invariant { w.goto thread (.cancelled campaignId future) with
      futures := w.futures.set future .cancelled } := by
  have ⟨_, unsubmitted, _⟩ := Phase.free_ne free
  have advanced := inv.advance_one w.queue .cancelled pending rfl
  have starts : ∀ a, ((w.goto thread (.cancelled campaignId future)).phase a).starting = true →
      (w.phase a).starting = true := by
    intro a ha
    rw [phase_goto] at ha
    split_ifs at ha with same
    · cases ha
    · exact ha
  constructor
  case one =>
    intro a b ha hb
    exact inv.one a b (starts a ha) (starts b hb)
  case empty =>
    intro a ha
    exact inv.empty a (starts a ha)
  case single => exact inv.single
  case held =>
    intro k hk
    rcases advanced.held k hk with stored | ⟨a, id, ha⟩
    · exact .inl stored
    · have other : a ≠ thread := by
        rintro rfl
        exact unsubmitted id k ha
      refine .inr ⟨a, id, ?_⟩
      change (w.goto thread _).phase a = _
      rw [phase_goto, if_neg other]
      exact ha
  case settled =>
    intro a id k ha
    change (w.goto thread _).phase a = _ at ha
    rw [phase_goto] at ha
    split_ifs at ha with same
    · cases ha
      have bound := (List.getElem?_eq_some_iff.1 pending).1
      exact List.getElem?_set_self bound
    · exact advanced.settled a id k ha

theorem Invariant.step {w w' : Worker n} {a : Action n} (inv : Invariant w)
    (quiet : undisturbed w a = true) (h : step w a = some w') : Invariant w' := by
  cases a with
  | check thread campaignId =>
    simp only [CampaignWorker.step] at h
    split_ifs at h with free empty
    · cases h
      exact inv.prune.check campaignId (of_decide_eq_true quiet) empty
    · cases h
      exact inv.prune.goto (Phase.free_ne free).2.1 rfl
  | submit thread =>
    simp only [CampaignWorker.step] at h
    split at h
    · rename_i checked
      cases h
      exact inv.submit checked
    · cases h
  | store thread =>
    simp only [CampaignWorker.step] at h
    split at h
    · rename_i submitted
      cases h
      exact inv.store submitted
    · cases h
  | isRunning thread =>
    simp only [CampaignWorker.step] at h
    split_ifs at h with free
    cases h
    exact inv.prune.goto (Phase.free_ne free).2.1 rfl
  | cancel thread campaignId =>
    simp only [CampaignWorker.step] at h
    split_ifs at h with free
    split at h
    · cases h
      exact inv.goto (Phase.free_ne free).2.1 rfl
    · split_ifs at h with pending
      · cases h
        exact inv.cancel campaignId free pending
      · cases h
        exact inv.goto (Phase.free_ne free).2.1 rfl
  | pop thread =>
    simp only [CampaignWorker.step] at h
    split at h
    · rename_i campaignId future cancelled
      cases h
      have own : ∀ e ∈ w.running, e.campaignId = campaignId → e.future = future := by
        simp only [undisturbed, cancelled] at quiet
        intro e he
        exact of_decide_eq_true (List.all_eq_true.1 quiet e he)
      have dropped : Invariant { w with running := remove Entry.campaignId campaignId w.running } := by
        apply inv.drop
        intro e he unfinished
        have other : e.campaignId ≠ campaignId := by
          intro same
          obtain ⟨state, found, undone⟩ := unfinished
          rw [own e he same, inv.settled thread campaignId future cancelled] at found
          cases found
          cases undone
        exact decide_eq_true other
      exact dropped.goto (by simp [cancelled]) rfl
    · cases h
  | take =>
    simp only [CampaignWorker.step] at h
    split at h
    · cases h
    · split_ifs at h with _ pending
      · cases h
        exact inv.advance_one _ .running pending rfl
      · cases h
        exact inv.advance _ (fun k state found undone => ⟨state, found, undone⟩) fun _ => id
  | finish future =>
    simp only [CampaignWorker.step] at h
    split_ifs at h with running
    cases h
    exact inv.advance_one w.queue .finished running rfl

/-- In an undisturbed run at most one accepted campaign is unfinished, and while one is every
`start_campaign` raises. -/
theorem one_campaign_at_a_time (n : ℕ) (w : Worker n)
    (reached : Reaches step (fun w a => undisturbed w a = true) (Worker.start n) w) :
    (∀ j k, w.unfinished j → w.unfinished k → j = k) ∧
      ∀ k thread campaignId w', w.unfinished k → undisturbed w (.check thread campaignId) = true →
        step w (.check thread campaignId) = some w' → w'.phase thread = .raised := by
  have inv : Invariant w := Reaches.invariant reached (invariant_start n)
    fun _ _ _ inv quiet hs => inv.step quiet hs
  refine ⟨fun _ _ => inv.unique, ?_⟩
  intro k thread campaignId w' unfinished quiet h
  have quiet : ∀ other, (w.phase other).starting = false := of_decide_eq_true quiet
  simp only [step] at h
  split_ifs at h with free empty
  · rcases inv.prune.held k unfinished with ⟨e, he, _⟩ | ⟨a, id, ha⟩
    · rw [empty] at he
      cases he
    · have none_starting := quiet a
      change w.phase a = _ at ha
      rw [ha] at none_starting
      cases none_starting
  · cases h
    rw [phase_goto, if_pos rfl]

/-- One campaign runs to its end, the next is cancelled before an executor thread takes it. -/
def campaignsInTurn : List (Action 2) :=
  [.check 0 "spring", .submit 0, .store 0, .check 1 "summer", .take, .finish 0,
    .check 1 "summer", .submit 1, .store 1, .cancel 0 "summer", .pop 0, .check 0 "autumn",
    .submit 0, .store 0]

def afterCampaigns : Worker 2 := final step undisturbed (Worker.start 2) campaignsInTurn

theorem one_campaign_at_a_time_in_turn :
    (∀ j k, afterCampaigns.unfinished j → afterCampaigns.unfinished k → j = k) ∧
      ∀ k thread campaignId w', afterCampaigns.unfinished k →
        undisturbed afterCampaigns (.check thread campaignId) = true →
        step afterCampaigns (.check thread campaignId) = some w' → w'.phase thread = .raised :=
  one_campaign_at_a_time 2 afterCampaigns
    (reaches_final undisturbed _ campaignsInTurn (by decide))

/-- Both requests check before either has stored its future. -/
def startsTogether : List (Action 2) :=
  [.check 0 "spring", .check 1 "summer", .submit 0, .submit 1, .store 0, .store 1, .take, .take]

/-- The entry of the future that was submitted last is popped for the cancelled one. -/
def latePop : List (Action 2) :=
  [.check 0 "spring", .submit 0, .store 0, .cancel 0 "spring", .check 1 "spring", .submit 1,
    .store 1, .pop 0]

theorem campaigns_together :
    (¬ ∀ (n : ℕ) (w : Worker n), Reaches step (fun _ _ => True) (Worker.start n) w →
      ∀ j k, w.unfinished j → w.unfinished k → j = k) ∧
    ¬ ∀ (n : ℕ) (w : Worker n), Reaches step (fun _ _ => True) (Worker.start n) w →
      ∀ k thread campaignId w', w.unfinished k → step w (.check thread campaignId) = some w' →
        w'.phase thread = .raised := by
  constructor
  · intro always
    have one := always 2 (final step (fun _ _ => true) (Worker.start 2) startsTogether)
      (Reaches.mono (reaches_final (fun _ _ => true) _ startsTogether (by decide))
        fun _ _ _ => trivial) 0 1 ⟨.running, by decide, rfl⟩ ⟨.running, by decide, rfl⟩
    cases one
  · intro always
    have popped := always 2 (final step (fun _ _ => true) (Worker.start 2) latePop)
      (Reaches.mono (reaches_final (fun _ _ => true) _ latePop (by decide))
        fun _ _ _ => trivial) 1 0 "summer" _ ⟨.pending, by decide, rfl⟩ rfl
    exact absurd popped (by decide)

end BacklinkPublisher.CampaignWorker
