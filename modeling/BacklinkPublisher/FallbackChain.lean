import BacklinkPublisher.PublishSeams
import Mathlib.Data.Nat.Find

set_option autoImplicit false

/-!
# The adapter chain of a platform

`dispatch` of `publishing/_registry_dispatch.py` with the gate of
`publishing/reliability/transient_policy.py`. An entry carries the answers that one
dispatch gets from it.
-/
namespace BacklinkPublisher.FallbackChain
open PublishErrors PublishSeams

/-- An exception of an adapter and whether `mark_pre_create_429` stamped it. -/
structure AdapterError extends Raised where
  preCreate429 : Bool := false

def AdapterError.of (type : ErrorType) (message : String) (preCreate429 : Bool := false) :
    AdapterError :=
  { Raised.of type message with preCreate429 }

/-- The `except` clauses of `dispatch` in their order. -/
inductive Arm where
  | authExpired
  | dependency
  | externalService
  | uncaught
  deriving DecidableEq, Repr

def AdapterError.arm (exc : AdapterError) : Arm :=
  if exc.isInstance .authExpiredError then .authExpired
  else if exc.isInstance .dependencyError then .dependency
  else if exc.isInstance .externalServiceError then .externalService
  else .uncaught

structure Entry where
  name : String
  mechanism : String := "api"
  available : Bool
  /-- What the constructor and the banner stage raise, in front of `publish`. -/
  stage : Option AdapterError := none
  publish : Except AdapterError AdapterResult

/-- What the `try` block of the entry gives. -/
def Entry.attempt (entry : Entry) : Except AdapterError AdapterResult :=
  match entry.stage with
  | some exc => .error exc
  | none => entry.publish

/-! ## The gate -/

def idempotencySafe5xx : List String := []

def crossMechanismFallback : List (String × String) := [("MediumAPIAdapter", "MediumBraveAdapter")]

inductive TransientDecision where
  | fallbackSafe
  | failFast
  deriving DecidableEq, Repr

def classifyTransient (isWord : Char → Bool) (exc : AdapterError) (platform : String)
    (transition : String × String) (sameMechanism : Bool) : TransientDecision :=
  if exc.isInstance .antiBotChallengeError then .failFast
  else if !exc.isInstance .externalServiceError then .failFast
  else if !sameMechanism && transition ∉ crossMechanismFallback then .failFast
  else if classifyException isWord exc.toRaised = .http5xx then
    if platform ∈ idempotencySafe5xx then .fallbackSafe else .failFast
  else if exc.preCreate429 then .fallbackSafe
  else .failFast

/-- The error of a prior adapter with that adapter's name and mechanism. -/
structure PendingTransient where
  exc : AdapterError
  name : String
  mechanism : String

def PendingTransient.fallsBack (isWord : Char → Bool) (platform : String)
    (pending : PendingTransient) (entry : Entry) : Bool :=
  classifyTransient isWord pending.exc platform (pending.name, entry.name)
    (pending.mechanism = entry.mechanism) = .fallbackSafe

/-! ## The loop -/

/-- The entries whose `try` block ran, in order, and what the call returns or raises. -/
structure DispatchEnd where
  turns : List Entry
  outcome : Except AdapterError AdapterResult

def DispatchEnd.after (entry : Entry) (finish : DispatchEnd) : DispatchEnd :=
  { finish with turns := entry :: finish.turns }

def noAvailableAdapter (platform : String) : AdapterError :=
  .of .dependencyError ("No available adapter for platform '" ++ platform ++
    "' — every entry in the chain returned available()=False.")

section Walk
variable (isWord : Char → Bool) (platform : String)

def walk : List Entry → Option AdapterError → Option PendingTransient → DispatchEnd
  | [], _, some pending => ⟨[], .error pending.exc⟩
  | [], some exc, none => ⟨[], .error exc⟩
  | [], none, none => ⟨[], .error (noAvailableAdapter platform)⟩
  | entry :: chain, lastDepError, pending =>
    match pending.filter (fun pending => !pending.fallsBack isWord platform entry) with
    | some pending => ⟨[], .error pending.exc⟩
    | none =>
      if !entry.available then walk chain lastDepError pending
      else match entry.attempt with
        | .ok result => ⟨[entry], .ok result⟩
        | .error exc => match exc.arm with
          | .authExpired | .uncaught => ⟨[entry], .error exc⟩
          | .dependency => (walk chain (some exc) none).after entry
          | .externalService =>
            (walk chain lastDepError (some ⟨exc, entry.name, entry.mechanism⟩)).after entry

end Walk

def dispatch (isWord : Char → Bool) (registry : String → Option (List Entry)) (platform : String)
    (dryRun : Bool) : DispatchEnd :=
  if dryRun then
    ⟨[], .ok { status := "draft", adapter := platform ++ "-api", platform }⟩
  else match registry platform with
    | none => ⟨[], .error (.of .externalServiceError ("unsupported platform: " ++ platform))⟩
    | some chain => walk isWord platform chain none none

/-! ## What a call has to respect -/

/-- The edges on which a fall-back cannot publish a second time. -/
def SafeEdge (isWord : Char → Bool) (entry next : Entry) (exc : AdapterError) : Prop :=
  exc.preCreate429 = true ∧ exc.isInstance .antiBotChallengeError = false ∧
    classifyException isWord exc.toRaised ≠ .http5xx ∧
    (entry.mechanism = next.mechanism ∨ (entry.name, next.name) ∈ crossMechanismFallback)

/-- `publish` of the entry runs and raises an `ExternalServiceError`. -/
def Entry.Fails (entry : Entry) (exc : AdapterError) : Prop :=
  entry.stage = none ∧ entry.publish = .error exc ∧ exc.isInstance .externalServiceError = true

structure Respected (isWord : Char → Bool) (finish : DispatchEnd) : Prop where
  gated : finish.turns.Pairwise fun entry next =>
    ∀ exc, entry.Fails exc → next.stage = none → SafeEdge isWord entry next exc
  authExpired : ∀ pre entry post exc, finish.turns = pre ++ entry :: post →
    entry.attempt = .error exc → exc.isInstance .authExpiredError = true →
    post = [] ∧ finish.outcome = .error exc
  upstream : (∃ entry ∈ finish.turns, ∃ exc, entry.attempt = .error exc ∧
      exc.isInstance .externalServiceError = true) →
    (∀ entry ∈ finish.turns, ∃ exc, entry.attempt = .error exc ∧
      exc.isInstance .authExpiredError = false) →
    ∃ exc, finish.outcome = .error exc ∧ exc.isInstance .externalServiceError = true

/-- Every exception is a dependency error or an external service error, and none is both. -/
def Listed (chain : List Entry) : Prop :=
  ∀ entry ∈ chain, ∀ exc, entry.attempt = .error exc →
    exc.isInstance .dependencyError = !exc.isInstance .externalServiceError

section Positions
variable (isWord : Char → Bool) (platform : String) (chain : List Entry)

/-- No entry between the two positions is available. -/
def Adjacent (i l : ℕ) : Prop :=
  ∀ k entry, i < k → k < l → chain[k]? = some entry → entry.available = false

/-- The available entry at `i` fails in a way that lets the chain go on through every entry
before `n`: the gate is asked up to the next available entry. -/
def HandsOn (i n : ℕ) (entry : Entry) : Prop :=
  ∃ exc, entry.attempt = .error exc ∧ (exc.arm = .dependency ∨ exc.arm = .externalService ∧
    ∀ l next, i < l → l < n → Adjacent chain i l → chain[l]? = some next →
      PendingTransient.fallsBack isWord platform ⟨exc, entry.name, entry.mechanism⟩ next = true)

/-- All available entries before `m` hand the row on through those before `n`. -/
def Passed (m n : ℕ) : Prop :=
  ∀ i entry, i < m → chain[i]? = some entry → entry.available = true →
    HandsOn isWord platform chain i n entry

/-- The turn of the available entry at `i` comes. -/
def TurnComes (i : ℕ) (entry : Entry) : Prop :=
  chain[i]? = some entry ∧ entry.available = true ∧ Passed isWord platform chain i (i + 1)

/-- Between an upstream error and a later publish, with another adapter in between, the error
is safe to fall back from; and the last available adapter does not cover it with a dependency
error. -/
structure Guarded : Prop where
  edges : ∀ i k j entry via next exc, i < k → k < j →
    TurnComes isWord platform chain i entry →
    chain[k]? = some via → via.available = true →
    TurnComes isWord platform chain j next →
    entry.Fails exc → next.stage = none →
    PendingTransient.fallsBack isWord platform ⟨exc, entry.name, entry.mechanism⟩ next = true
  covered : Passed isWord platform chain chain.length chain.length →
    (∃ entry ∈ chain, entry.available = true ∧ ∃ exc, entry.attempt = .error exc ∧
      exc.arm = .externalService) →
    ∀ i entry exc, chain[i]? = some entry → entry.available = true →
      Adjacent chain i chain.length → entry.attempt = .error exc → exc.arm ≠ .dependency

end Positions

theorem fallsBack_iff (isWord : Char → Bool) (platform : String) (entry next : Entry)
    (exc : AdapterError) :
    PendingTransient.fallsBack isWord platform ⟨exc, entry.name, entry.mechanism⟩ next = true ↔
      exc.isInstance .externalServiceError = true ∧ SafeEdge isWord entry next exc := by
  unfold PendingTransient.fallsBack classifyTransient SafeEdge
  have unlisted : platform ∉ idempotencySafe5xx := List.not_mem_nil
  by_cases mechanism : entry.mechanism = next.mechanism <;>
    by_cases edge : (entry.name, next.name) ∈ crossMechanismFallback <;>
    cases exc.isInstance .antiBotChallengeError <;>
    cases exc.isInstance .externalServiceError <;>
    by_cases ambiguous : classifyException isWord exc.toRaised = .http5xx <;>
    cases exc.preCreate429 <;> simp [mechanism, edge, ambiguous, unlisted]

/-- What the loop does at an entry: the gate is closed, the entry is passed over, its turn ends
the call, or its error is kept as one of the two kinds and the chain goes on. -/
theorem walk_cons (isWord : Char → Bool) (platform : String) (entry : Entry) (rest : List Entry)
    (lastDepError : Option AdapterError) (pending : Option PendingTransient) :
    (∃ waiting, pending.filter (fun pending => !pending.fallsBack isWord platform entry) =
        some waiting ∧
      walk isWord platform (entry :: rest) lastDepError pending = ⟨[], .error waiting.exc⟩) ∨
    pending.filter (fun pending => !pending.fallsBack isWord platform entry) = none ∧
      (entry.available = false ∧ walk isWord platform (entry :: rest) lastDepError pending =
          walk isWord platform rest lastDepError pending ∨
        entry.available = true ∧
          ((∀ exc, entry.attempt = .error exc → exc.arm = .authExpired ∨ exc.arm = .uncaught) ∧
            walk isWord platform (entry :: rest) lastDepError pending =
              ⟨[entry], entry.attempt⟩ ∨
          ∃ exc pending', entry.attempt = .error exc ∧
            (exc.arm = .dependency ∧ pending' = none ∨
              exc.arm = .externalService ∧
                pending' = some ⟨exc, entry.name, entry.mechanism⟩) ∧
            walk isWord platform (entry :: rest) lastDepError pending =
              (walk isWord platform rest
                (if exc.arm = .dependency then some exc else lastDepError) pending').after
                  entry)) := by
  rw [walk]
  cases gate : pending.filter (fun pending => !pending.fallsBack isWord platform entry) with
  | some waiting => exact .inl ⟨waiting, rfl, rfl⟩
  | none =>
    refine .inr ⟨rfl, ?_⟩
    cases available : entry.available with
    | false => exact .inl ⟨rfl, rfl⟩
    | true =>
      refine .inr ⟨rfl, ?_⟩
      cases raised : entry.attempt with
      | ok result =>
        refine .inl ⟨fun exc h => ?_, rfl⟩
        cases h
      | error exc =>
        cases arm : exc.arm with
        | authExpired =>
          refine .inl ⟨fun exc' h => .inl ?_, by simp [arm]⟩
          rw [← Except.error.inj h, arm]
        | uncaught =>
          refine .inl ⟨fun exc' h => .inr ?_, by simp [arm]⟩
          rw [← Except.error.inj h, arm]
        | dependency =>
          exact .inr ⟨exc, none, rfl, .inl ⟨arm, rfl⟩, by simp [arm]⟩
        | externalService =>
          exact .inr ⟨exc, some ⟨exc, entry.name, entry.mechanism⟩, rfl, .inr ⟨arm, rfl⟩,
            by simp [arm]⟩

section Loop
variable {isWord : Char → Bool} {platform : String} {chain : List Entry}

theorem Passed.mono {m n m' n' : ℕ} (passed : Passed isWord platform chain m n) (hm : m' ≤ m)
    (hn : n' ≤ n) : Passed isWord platform chain m' n' := by
  intro i entry hi hentry available
  obtain ⟨exc, raised, arm⟩ := passed i entry (by omega) hentry available
  refine ⟨exc, raised, arm.imp_right fun ⟨arm, gates⟩ => ⟨arm, ?_⟩⟩
  intro l next hil hln
  exact gates l next hil (by omega)

theorem Passed.succ {n : ℕ} {entry : Entry} (passed : Passed isWord platform chain n (n + 1))
    (hentry : chain[n]? = some entry)
    (fails : entry.available = true →
      ∃ exc, entry.attempt = .error exc ∧ (exc.arm = .dependency ∨ exc.arm = .externalService)) :
    Passed isWord platform chain (n + 1) (n + 1) := by
  intro i other hi hother available
  rcases Nat.lt_succ_iff_lt_or_eq.1 hi with hlt | rfl
  · exact passed i other hlt hother available
  · have same : entry = other := Option.some.inj (hentry.symm.trans hother)
    rw [← same] at available ⊢
    obtain ⟨exc, raised, arm⟩ := fails available
    refine ⟨exc, raised, arm.imp_right fun arm => ⟨arm, ?_⟩⟩
    intro l next hil hln
    omega

/-- What holds when the loop arrives at the entry at `n`. -/
structure Head (isWord : Char → Bool) (platform : String) (chain : List Entry) (n : ℕ)
    (pending : Option PendingTransient) : Prop where
  passed : Passed isWord platform chain n n
  owner : ∀ waiting, pending = some waiting → ∃ i entry, i < n ∧ chain[i]? = some entry ∧
    entry.available = true ∧ Adjacent chain i n ∧ entry.attempt = .error waiting.exc ∧
    waiting.exc.arm = .externalService ∧ waiting = ⟨waiting.exc, entry.name, entry.mechanism⟩
  latest : ∀ i entry exc, i < n → chain[i]? = some entry → entry.available = true →
    Adjacent chain i n → entry.attempt = .error exc → exc.arm = .externalService →
    pending = some ⟨exc, entry.name, entry.mechanism⟩

theorem Head.start : Head isWord platform chain 0 none where
  passed := by intro i entry hi; omega
  owner := by intro waiting h; cases h
  latest := by intro i entry exc hi; omega

variable {n : ℕ} {pending : Option PendingTransient} {entry : Entry}

/-- An open gate lets the row through the entry at `n`. -/
theorem Head.open (head : Head isWord platform chain n pending) (hentry : chain[n]? = some entry)
    (gate : pending.filter (fun pending => !pending.fallsBack isWord platform entry) = none) :
    Passed isWord platform chain n (n + 1) := by
  intro i other hi hother available
  obtain ⟨exc, raised, arm⟩ := head.passed i other hi hother available
  refine ⟨exc, raised, arm.imp_right fun ⟨upstream, gates⟩ => ⟨upstream, ?_⟩⟩
  intro l next hil hln adjacent hnext
  rcases Nat.lt_succ_iff_lt_or_eq.1 hln with hlt | rfl
  · exact gates l next hil hlt adjacent hnext
  · have same : entry = next := Option.some.inj (hentry.symm.trans hnext)
    have waits := head.latest i other exc hi hother available adjacent raised upstream
    rw [waits, Option.filter_eq_none_iff] at gate
    simpa [same] using gate _ rfl

/-- A closed gate ends the chain in front of the entry at `n`. -/
theorem Head.blocked (head : Head isWord platform chain n pending) (hentry : chain[n]? = some entry)
    {waiting : PendingTransient}
    (gate : pending.filter (fun pending => !pending.fallsBack isWord platform entry) = some waiting)
    {m n' : ℕ} (hm : n ≤ m) (hn : n < n') : ¬ Passed isWord platform chain m n' := by
  intro passed
  obtain ⟨waits, closed⟩ := Option.filter_eq_some_iff.1 gate
  obtain ⟨i, other, hi, hother, available, adjacent, raised, arm, named⟩ := head.owner waiting waits
  obtain ⟨exc, raised', arm'⟩ := passed i other (by omega) hother available
  have same : waiting.exc = exc := by
    rw [raised] at raised'
    exact Except.error.inj raised'
  rw [same] at arm named
  rw [arm] at arm'
  have opened := (arm'.resolve_left (by decide)).2 n entry hi hn adjacent hentry
  rw [named, opened] at closed
  cases closed

theorem adjacent_succ {i : ℕ} (hentry : chain[n]? = some entry) (hi : i < n) :
    Adjacent chain i (n + 1) ↔ Adjacent chain i n ∧ entry.available = false := by
  constructor
  · intro adjacent
    exact ⟨fun k other hik hkn => adjacent k other hik (by omega),
      adjacent n entry hi (by omega) hentry⟩
  · intro ⟨adjacent, unavailable⟩ k other hik hkn hother
    rcases Nat.lt_succ_iff_lt_or_eq.1 hkn with hlt | rfl
    · exact adjacent k other hik hlt hother
    · rw [← Option.some.inj (hentry.symm.trans hother), unavailable]

theorem Head.skip (head : Head isWord platform chain n pending) (hentry : chain[n]? = some entry)
    (passed : Passed isWord platform chain n (n + 1)) (unavailable : entry.available = false) :
    Head isWord platform chain (n + 1) pending where
  passed := passed.succ hentry fun available => by rw [unavailable] at available; cases available
  owner := by
    intro waiting waits
    obtain ⟨i, other, hi, hother, available, adjacent, rest⟩ := head.owner waiting waits
    exact ⟨i, other, by omega, hother, available,
      (adjacent_succ hentry hi).2 ⟨adjacent, unavailable⟩, rest⟩
  latest := by
    intro i other exc hi hother available adjacent
    rcases Nat.lt_succ_iff_lt_or_eq.1 hi with hlt | rfl
    · exact head.latest i other exc hlt hother available ((adjacent_succ hentry hlt).1 adjacent).1
    · rw [← Option.some.inj (hentry.symm.trans hother), unavailable] at available
      cases available

/-- After a turn the pending error is the one of that turn, if it is an upstream error. -/
theorem Head.turn (hentry : chain[n]? = some entry) (passed : Passed isWord platform chain n (n + 1))
    (available : entry.available = true) {exc : AdapterError} (raised : entry.attempt = .error exc)
    (arm : exc.arm = .dependency ∧ pending = none ∨
      exc.arm = .externalService ∧ pending = some ⟨exc, entry.name, entry.mechanism⟩) :
    Head isWord platform chain (n + 1) pending where
  passed := passed.succ hentry fun _ => ⟨exc, raised, arm.imp And.left And.left⟩
  owner := by
    intro waiting waits
    rcases arm with ⟨-, none⟩ | ⟨upstream, some⟩
    · rw [none] at waits
      cases waits
    · have same := Option.some.inj (some.symm.trans waits)
      refine ⟨n, entry, by omega, hentry, available, ?_, ?_⟩
      · intro k other hnk hkn
        omega
      · rw [← same]
        exact ⟨raised, upstream, rfl⟩
  latest := by
    intro i other exc' hi hother available' adjacent raised' arm'
    rcases Nat.lt_succ_iff_lt_or_eq.1 hi with hlt | rfl
    · have unavailable := ((adjacent_succ hentry hlt).1 adjacent).2
      rw [available] at unavailable
      cases unavailable
    · have same : entry = other := Option.some.inj (hentry.symm.trans hother)
      rw [← same, raised] at raised'
      rw [← Except.error.inj raised'] at arm' ⊢
      rcases arm with ⟨dependency, -⟩ | ⟨-, some⟩
      · rw [dependency] at arm'
        cases arm'
      · rw [some, same]

/-- A turn that ends the call is the last one. -/
theorem not_passed_of_stop (hentry : chain[n]? = some entry) (available : entry.available = true)
    (stops : ∀ exc, entry.attempt = .error exc → exc.arm = .authExpired ∨ exc.arm = .uncaught)
    {m n' : ℕ} (hm : n < m) : ¬ Passed isWord platform chain m n' := by
  intro passed
  obtain ⟨exc, raised, arm⟩ := passed n entry hm hentry available
  rcases stops exc raised with stop | stop <;> rw [stop] at arm <;> simp at arm

end Loop

/-! ## The turns of a call -/

section Turns
variable (isWord : Char → Bool) (platform : String) (chain : List Entry)

open Classical in
/-- The entries of `rest`, which begins at `n`, whose turn comes. -/
noncomputable def comers (rest : List Entry) (n : ℕ) : List (Entry × ℕ) :=
  (rest.zipIdx n).filter fun entry =>
    entry.1.available = true ∧ Passed isWord platform chain entry.2 (entry.2 + 1)

variable {isWord platform chain}

theorem comers_eq_nil {rest : List Entry} {n : ℕ}
    (ended : ∀ m, n ≤ m → ¬ Passed isWord platform chain m (m + 1)) :
    comers isWord platform chain rest n = [] := by
  unfold comers
  rw [List.filter_eq_nil_iff]
  intro entry hmem
  have later : n ≤ entry.2 := List.le_snd_of_mem_zipIdx hmem
  simp [ended entry.2 later]

theorem comers_cons {entry : Entry} {rest : List Entry} {n : ℕ}
    (passed : Passed isWord platform chain n (n + 1)) :
    comers isWord platform chain (entry :: rest) n =
      if entry.available then (entry, n) :: comers isWord platform chain rest (n + 1)
      else comers isWord platform chain rest (n + 1) := by
  unfold comers
  rw [List.zipIdx_cons, List.filter_cons]
  cases entry.available <;> simp [passed]

theorem getElem?_of_drop {entry : Entry} {rest : List Entry} {n : ℕ}
    (hdrop : chain.drop n = entry :: rest) :
    chain[n]? = some entry ∧ chain.drop (n + 1) = rest := by
  constructor
  · rw [← List.head?_drop, hdrop]
    rfl
  · rw [← List.tail_drop, hdrop]
    rfl

theorem walk_turns (rest : List Entry) (n : ℕ) (lastDepError : Option AdapterError)
    (pending : Option PendingTransient) (hdrop : chain.drop n = rest)
    (head : Head isWord platform chain n pending) :
    (walk isWord platform rest lastDepError pending).turns =
      (comers isWord platform chain rest n).map Prod.fst := by
  induction rest generalizing n lastDepError pending with
  | nil => cases pending <;> cases lastDepError <;> rfl
  | cons entry rest ih =>
    obtain ⟨hentry, htail⟩ := getElem?_of_drop hdrop
    rcases walk_cons isWord platform entry rest lastDepError pending with
      ⟨waiting, gate, blocked⟩ | ⟨gate, turn⟩
    · rw [blocked, comers_eq_nil fun m hm => head.blocked hentry gate hm (by omega)]
      rfl
    · have passed := head.open hentry gate
      rw [comers_cons passed]
      rcases turn with ⟨unavailable, skips⟩ | ⟨available, ⟨stops, ends⟩ | goesOn⟩
      · rw [skips, unavailable]
        exact ih (n + 1) _ _ htail (head.skip hentry passed unavailable)
      · have stopped : comers isWord platform chain rest (n + 1) = [] :=
          comers_eq_nil fun m hm => not_passed_of_stop hentry available stops hm
        rw [ends, available, stopped]
        rfl
      · obtain ⟨exc, pending', raised, arm, walks⟩ := goesOn
        have tail := ih (n + 1) (if exc.arm = .dependency then some exc else lastDepError) pending'
          htail (Head.turn hentry passed available raised arm)
        rw [walks, available, DispatchEnd.after, tail]
        rfl

/-! ## What a call raises -/

theorem arm_authExpired (exc : AdapterError) :
    exc.arm = .authExpired ↔ exc.isInstance .authExpiredError = true := by
  unfold AdapterError.arm
  split_ifs <;> simp_all

theorem Listed.upstream_iff (listed : Listed chain) {entry : Entry} (hmem : entry ∈ chain)
    {exc : AdapterError} (raised : entry.attempt = .error exc) :
    exc.isInstance .externalServiceError = true ↔ exc.arm = .externalService := by
  have disjoint := listed entry hmem exc raised
  have derived := exc.inherits .authExpiredError .dependencyError rfl
  unfold AdapterError.arm
  cases expired : exc.isInstance .authExpiredError with
  | true =>
    rw [derived expired] at disjoint
    simp_all
  | false =>
    cases upstream : exc.isInstance .externalServiceError <;> rw [upstream] at disjoint <;>
      simp_all

theorem Listed.caught (listed : Listed chain) {entry : Entry} (hmem : entry ∈ chain)
    {exc : AdapterError} (raised : entry.attempt = .error exc) : exc.arm ≠ .uncaught := by
  have disjoint := listed entry hmem exc raised
  unfold AdapterError.arm
  cases upstream : exc.isInstance .externalServiceError <;> rw [upstream] at disjoint <;>
    simp_all <;> split_ifs <;> simp

theorem only_turn {first entry : Entry} {pre post : List Entry}
    (h : [first] = pre ++ entry :: post) : first = entry ∧ post = [] := by
  cases pre with
  | nil => simpa [eq_comm] using h
  | cons other pre => simp at h

/-- No entry is tried after an expired credential, whose error leaves the call. -/
theorem walk_authExpired (rest : List Entry) (lastDepError : Option AdapterError)
    (pending : Option PendingTransient) (pre : List Entry) (entry : Entry) (post : List Entry)
    (exc : AdapterError)
    (turns : (walk isWord platform rest lastDepError pending).turns = pre ++ entry :: post)
    (raised : entry.attempt = .error exc) (expired : exc.isInstance .authExpiredError = true) :
    post = [] ∧ (walk isWord platform rest lastDepError pending).outcome = .error exc := by
  induction rest generalizing lastDepError pending pre with
  | nil => cases pending <;> cases lastDepError <;> simp [walk] at turns
  | cons first rest ih =>
    rcases walk_cons isWord platform first rest lastDepError pending with
      ⟨waiting, _, blocked⟩ | ⟨_, ⟨_, skips⟩ | ⟨_, ⟨_, ends⟩ | goesOn⟩⟩
    · rw [blocked] at turns
      exact absurd turns.symm (List.append_ne_nil_of_right_ne_nil _ (List.cons_ne_nil _ _))
    · rw [skips] at turns ⊢
      exact ih _ _ _ turns
    · rw [ends] at turns ⊢
      obtain ⟨same, last⟩ := only_turn turns
      exact ⟨last, by rw [same, raised]⟩
    · obtain ⟨exc', pending', attempted, arm, walks⟩ := goesOn
      rw [walks] at turns ⊢
      cases pre with
      | nil =>
        have same : first = entry := (List.cons.inj turns).1
        rw [same, raised] at attempted
        rw [← Except.error.inj attempted, (arm_authExpired exc).2 expired] at arm
        simp at arm
      | cons other pre => exact ih _ _ pre (List.cons.inj turns).2

/-- The last available entry of the chain raised an upstream error. -/
def LastUpstream (chain : List Entry) : Prop :=
  ∃ i entry exc, chain[i]? = some entry ∧ entry.available = true ∧ Adjacent chain i chain.length ∧
    entry.attempt = .error exc ∧ exc.arm = .externalService

/-- A chain that runs out raises an upstream error exactly if its last available entry did;
any other call raises one, unless an entry returned or its credentials were expired. -/
def Concluded (isWord : Char → Bool) (platform : String) (chain : List Entry)
    (finish : DispatchEnd) : Prop :=
  (Passed isWord platform chain chain.length chain.length ∧
    ∃ exc, finish.outcome = .error exc ∧
      (exc.isInstance .externalServiceError = true ↔ LastUpstream chain)) ∨
  (¬ Passed isWord platform chain chain.length chain.length ∧
    ((∃ exc, finish.outcome = .error exc ∧ exc.isInstance .externalServiceError = true) ∨
      ∃ entry ∈ finish.turns, ∀ exc, entry.attempt = .error exc →
        exc.isInstance .authExpiredError = true))

theorem Concluded.after {finish : DispatchEnd} (entry : Entry)
    (concluded : Concluded isWord platform chain finish) :
    Concluded isWord platform chain (finish.after entry) := by
  rcases concluded with exhausted | ⟨stopped, upstream | ⟨other, hmem, stops⟩⟩
  · exact .inl exhausted
  · exact .inr ⟨stopped, .inl upstream⟩
  · exact .inr ⟨stopped, .inr ⟨other, List.mem_cons_of_mem _ hmem, stops⟩⟩

theorem walk_concluded (listed : Listed chain) (rest : List Entry) (n : ℕ)
    (lastDepError : Option AdapterError) (pending : Option PendingTransient)
    (hdrop : chain.drop n = rest) (hle : n ≤ chain.length)
    (head : Head isWord platform chain n pending)
    (missing : ∀ exc, lastDepError = some exc → exc.isInstance .externalServiceError = false) :
    Concluded isWord platform chain (walk isWord platform rest lastDepError pending) := by
  induction rest generalizing n lastDepError pending with
  | nil =>
    have last : n = chain.length := by
      have empty := List.drop_eq_nil_iff.1 hdrop
      omega
    rw [last] at head
    refine .inl ⟨head.passed, ?_⟩
    cases pending with
    | some waiting =>
      obtain ⟨i, entry, -, hentry, available, adjacent, raised, arm, -⟩ := head.owner waiting rfl
      have upstream := (listed.upstream_iff (List.mem_of_getElem? hentry) raised).2 arm
      exact ⟨waiting.exc, by cases lastDepError <;> rfl, iff_of_true upstream
        ⟨i, entry, waiting.exc, hentry, available, adjacent, raised, arm⟩⟩
    | none =>
      have none_last : ¬ LastUpstream chain := by
        intro ⟨i, entry, exc, hentry, available, adjacent, raised, arm⟩
        have hlt : i < chain.length := (List.getElem?_eq_some_iff.1 hentry).1
        cases head.latest i entry exc hlt hentry available adjacent raised arm
      cases lastDepError with
      | some exc => exact ⟨exc, rfl, by simp [missing exc rfl, none_last]⟩
      | none => exact ⟨noAvailableAdapter platform, rfl, iff_of_false Bool.false_ne_true none_last⟩
  | cons entry rest ih =>
    obtain ⟨hentry, htail⟩ := getElem?_of_drop hdrop
    have hlt : n < chain.length := (List.getElem?_eq_some_iff.1 hentry).1
    have hmem : entry ∈ chain := List.mem_of_getElem? hentry
    rcases walk_cons isWord platform entry rest lastDepError pending with
      ⟨waiting, gate, blocked⟩ | ⟨gate, turn⟩
    · obtain ⟨i, other, -, hother, -, -, raised, arm, -⟩ :=
        head.owner waiting (Option.filter_eq_some_iff.1 gate).1
      have upstream := (listed.upstream_iff (List.mem_of_getElem? hother) raised).2 arm
      rw [blocked]
      exact .inr ⟨head.blocked hentry gate hle hlt, .inl ⟨waiting.exc, rfl, upstream⟩⟩
    · have passed := head.open hentry gate
      rcases turn with ⟨unavailable, skips⟩ | ⟨available, ⟨stops, ends⟩ | goesOn⟩
      · rw [skips]
        exact ih (n + 1) _ _ htail hlt (head.skip hentry passed unavailable) missing
      · have expired : ∀ exc, entry.attempt = .error exc →
            exc.isInstance .authExpiredError = true := by
          intro exc raised
          have arm := (stops exc raised).resolve_right (listed.caught hmem raised)
          exact (arm_authExpired exc).1 arm
        rw [ends]
        exact .inr ⟨not_passed_of_stop hentry available stops hlt,
          .inr ⟨entry, List.mem_cons_self, expired⟩⟩
      · obtain ⟨exc, pending', raised, arm, walks⟩ := goesOn
        rw [walks]
        apply Concluded.after
        apply ih (n + 1) _ pending' htail hlt (Head.turn hentry passed available raised arm)
        intro exc' last
        split_ifs at last with dependency
        · rw [← Option.some.inj last, ← Bool.not_eq_true, listed.upstream_iff hmem raised,
            dependency]
          decide
        · exact missing exc' last

theorem turns_pairwise_iff (R : Entry → Entry → Prop) :
    (walk isWord platform chain none none).turns.Pairwise R ↔
      ∀ i j entry next, i < j → TurnComes isWord platform chain i entry →
        TurnComes isWord platform chain j next → R entry next := by
  rw [walk_turns chain 0 none none rfl Head.start, List.pairwise_map]
  unfold comers
  rw [List.pairwise_filter, List.pairwise_iff_getElem]
  simp only [List.getElem_zipIdx, List.length_zipIdx, Nat.zero_add, decide_eq_true_eq]
  constructor
  · intro pairwise i j entry next hij ⟨hentry, available, passed⟩ ⟨hnext, available', passed'⟩
    obtain ⟨hi, rfl⟩ := List.getElem?_eq_some_iff.1 hentry
    obtain ⟨hj, rfl⟩ := List.getElem?_eq_some_iff.1 hnext
    exact pairwise i j hi hj hij ⟨available, passed⟩ ⟨available', passed'⟩
  · intro turns i j hi hj hij ⟨available, passed⟩ ⟨available', passed'⟩
    exact turns i j _ _ hij ⟨List.getElem?_eq_getElem hi, available, passed⟩
      ⟨List.getElem?_eq_getElem hj, available', passed'⟩

theorem mem_turns_iff (entry : Entry) :
    entry ∈ (walk isWord platform chain none none).turns ↔
      ∃ i, TurnComes isWord platform chain i entry := by
  rw [walk_turns chain 0 none none rfl Head.start, List.mem_map]
  unfold comers
  simp only [List.mem_filter, decide_eq_true_eq, Prod.exists, List.mk_mem_zipIdx_iff_getElem?]
  constructor
  · rintro ⟨other, i, ⟨hentry, available, passed⟩, rfl⟩
    exact ⟨i, hentry, available, passed⟩
  · intro ⟨i, hentry, available, passed⟩
    exact ⟨entry, i, ⟨hentry, available, passed⟩, rfl⟩

/-- Every turn of a chain that runs out fails in one of the two ways that go on. -/
theorem Passed.turns (passed : Passed isWord platform chain chain.length chain.length) {i : ℕ}
    {entry : Entry} (hentry : chain[i]? = some entry) (available : entry.available = true) :
    TurnComes isWord platform chain i entry ∧ ∃ exc, entry.attempt = .error exc ∧
      (exc.arm = .dependency ∨ exc.arm = .externalService) := by
  have hlt : i < chain.length := (List.getElem?_eq_some_iff.1 hentry).1
  obtain ⟨exc, raised, arm⟩ := passed i entry hlt hentry available
  exact ⟨⟨hentry, available, passed.mono (by omega) (by omega)⟩, exc, raised,
    arm.imp_right And.left⟩

open Classical in
theorem exists_last_available {i : ℕ} {entry : Entry} (hentry : chain[i]? = some entry)
    (available : entry.available = true) :
    ∃ j last, chain[j]? = some last ∧ last.available = true ∧ Adjacent chain j chain.length := by
  let stands (k : ℕ) : Prop := ∃ entry, chain[k]? = some entry ∧ entry.available = true
  have hlt : i < chain.length := (List.getElem?_eq_some_iff.1 hentry).1
  have first : stands i := ⟨entry, hentry, available⟩
  obtain ⟨last, hlast, available'⟩ : stands (Nat.findGreatest stands chain.length) :=
    Nat.findGreatest_spec hlt.le first
  refine ⟨_, last, hlast, available', ?_⟩
  intro k other hk hkn hother
  rw [← Bool.not_eq_true]
  intro available''
  exact Nat.findGreatest_is_greatest hk hkn.le ⟨other, hother, available''⟩

theorem Adjacent.last_unique {i j : ℕ} {entry other : Entry} (hentry : chain[i]? = some entry)
    (available : entry.available = true) (adjacent : Adjacent chain i chain.length)
    (hother : chain[j]? = some other) (available' : other.available = true)
    (adjacent' : Adjacent chain j chain.length) : entry = other := by
  have hi : i < chain.length := (List.getElem?_eq_some_iff.1 hentry).1
  have hj : j < chain.length := (List.getElem?_eq_some_iff.1 hother).1
  rcases Nat.lt_trichotomy i j with hij | rfl | hji
  · rw [adjacent j other hij hj hother] at available'
    cases available'
  · exact Option.some.inj (hentry.symm.trans hother)
  · rw [adjacent' i entry hji hi hentry] at available
    cases available

/-! ## The exact condition -/

theorem gated_iff (listed : Listed chain) :
    ((walk isWord platform chain none none).turns.Pairwise fun entry next =>
      ∀ exc, entry.Fails exc → next.stage = none → SafeEdge isWord entry next exc) ↔
    ∀ i k j entry via next exc, i < k → k < j →
      TurnComes isWord platform chain i entry → chain[k]? = some via → via.available = true →
      TurnComes isWord platform chain j next → entry.Fails exc → next.stage = none →
      PendingTransient.fallsBack isWord platform ⟨exc, entry.name, entry.mechanism⟩ next = true := by
  rw [turns_pairwise_iff]
  constructor
  · intro gated i k j entry via next exc hik hkj comes _ _ comes' fails publishes
    have safe := gated i j entry next (by omega) comes comes' exc fails publishes
    exact (fallsBack_iff isWord platform entry next exc).2 ⟨fails.2.2, safe⟩
  · intro edges i j entry next hij comes comes' exc fails publishes
    have opened : PendingTransient.fallsBack isWord platform ⟨exc, entry.name, entry.mechanism⟩
        next = true := by
      by_cases adjacent : Adjacent chain i j
      · -- the gate of the loop stands between two neighbours
        obtain ⟨exc', raised, arm⟩ := comes'.2.2 i entry hij comes.1 comes.2.1
        have raised' : entry.attempt = .error exc := by
          unfold Entry.attempt
          rw [fails.1]
          exact fails.2.1
        have same : exc' = exc := by
          rw [raised] at raised'
          exact Except.error.inj raised'
        rw [same, (listed.upstream_iff (List.mem_of_getElem? comes.1) raised').1 fails.2.2] at arm
        exact (arm.resolve_left (by decide)).2 j next hij (by omega) adjacent comes'.1
      · unfold Adjacent at adjacent
        push Not at adjacent
        obtain ⟨k, via, hik, hkj, hvia, available⟩ := adjacent
        exact edges i k j entry via next exc hik hkj comes hvia (by simpa using available) comes'
          fails publishes
    exact ((fallsBack_iff isWord platform entry next exc).1 opened).2

theorem upstream_iff (listed : Listed chain) :
    ((∃ entry ∈ (walk isWord platform chain none none).turns, ∃ exc,
        entry.attempt = .error exc ∧ exc.isInstance .externalServiceError = true) →
      (∀ entry ∈ (walk isWord platform chain none none).turns, ∃ exc,
        entry.attempt = .error exc ∧ exc.isInstance .authExpiredError = false) →
      ∃ exc, (walk isWord platform chain none none).outcome = .error exc ∧
        exc.isInstance .externalServiceError = true) ↔
    (Passed isWord platform chain chain.length chain.length →
      (∃ entry ∈ chain, entry.available = true ∧ ∃ exc, entry.attempt = .error exc ∧
        exc.arm = .externalService) →
      ∀ i entry exc, chain[i]? = some entry → entry.available = true →
        Adjacent chain i chain.length → entry.attempt = .error exc → exc.arm ≠ .dependency) := by
  have concluded : Concluded isWord platform chain (walk isWord platform chain none none) :=
    walk_concluded listed chain 0 none none rfl (Nat.zero_le _) Head.start (by intro exc h; cases h)
  constructor
  · intro upstream passed ⟨failing, hmem, available, exc, raised, arm⟩ i last exc' hlast available'
      adjacent raised' dependency
    obtain ⟨k, hk⟩ := List.getElem?_of_mem hmem
    have turn := (mem_turns_iff failing).2 ⟨k, (passed.turns hk available).1⟩
    obtain ⟨raising, houtcome, instance_⟩ := upstream
      ⟨failing, turn, exc, raised, (listed.upstream_iff hmem raised).2 arm⟩ (by
        intro entry hturn
        obtain ⟨l, hentry, available, -⟩ := (mem_turns_iff entry).1 hturn
        obtain ⟨-, exc, raised, arm⟩ := passed.turns hentry available
        refine ⟨exc, raised, ?_⟩
        rw [← Bool.not_eq_true, ← arm_authExpired]
        rcases arm with arm | arm <;> rw [arm] <;> decide)
    rcases concluded with ⟨-, exc'', houtcome', iff⟩ | ⟨short, -⟩
    · rw [houtcome] at houtcome'
      rw [← Except.error.inj houtcome'] at iff
      obtain ⟨l, other, exc3, hother, available3, adjacent3, raised3, arm3⟩ := iff.1 instance_
      have same := adjacent.last_unique hlast available' hother available3 adjacent3
      rw [same, raised3] at raised'
      rw [← Except.error.inj raised', arm3] at dependency
      cases dependency
    · exact short passed
  · intro covered ⟨failing, hturn, exc, raised, instance_⟩ unexpired
    rcases concluded with ⟨passed, exc', houtcome, iff⟩ | ⟨-, upstream | ⟨entry, hentry, stops⟩⟩
    · obtain ⟨k, hk, available, -⟩ := (mem_turns_iff failing).1 hturn
      have hmem : failing ∈ chain := List.mem_of_getElem? hk
      obtain ⟨l, last, hlast, available', adjacent⟩ := exists_last_available hk available
      obtain ⟨-, exc'', raised'', arm⟩ := passed.turns hlast available'
      have undisguised := covered passed ⟨failing, hmem, available, exc, raised,
        (listed.upstream_iff hmem raised).1 instance_⟩ l last exc'' hlast available' adjacent raised''
      exact ⟨exc', houtcome, iff.2 ⟨l, last, exc'', hlast, available', adjacent, raised'',
        arm.resolve_left undisguised⟩⟩
    · exact upstream
    · obtain ⟨exc', raised', alive⟩ := unexpired entry hentry
      rw [stops exc' raised'] at alive
      cases alive

end Turns

/-- A call respects its gate and hides no upstream error exactly on a guarded chain. -/
theorem dispatch_respected_iff (isWord : Char → Bool) (registry : String → Option (List Entry))
    (platform : String) (dryRun : Bool) (chain : List Entry)
    (registered : registry platform = some chain) (listed : Listed chain) :
    Respected isWord (dispatch isWord registry platform dryRun) ↔
      dryRun = true ∨ Guarded isWord platform chain := by
  cases dryRun with
  | true =>
    refine iff_of_true ⟨List.Pairwise.nil, ?_, ?_⟩ (.inl rfl)
    · intro pre entry post exc turns
      simp [dispatch] at turns
    · intro ⟨entry, hturn, _⟩
      simp [dispatch] at hturn
  | false =>
    have called : dispatch isWord registry platform false = walk isWord platform chain none none := by
      simp [dispatch, registered]
    rw [called]
    constructor
    · intro respected
      exact .inr ⟨(gated_iff listed).1 respected.gated, (upstream_iff listed).1 respected.upstream⟩
    · intro guarded
      have guarded := guarded.resolve_left (by decide)
      exact ⟨(gated_iff listed).2 guarded.edges, walk_authExpired chain none none,
        (upstream_iff listed).2 guarded.covered⟩

def asciiWord (c : Char) : Bool := c.isAlphanum || c = '_'

def rateLimited : AdapterError := .of .externalServiceError "Medium API rate-limited (429)" true

def wrongSystem : AdapterError := .of .dependencyError "MediumBraveAdapter is macOS-only"

def apiEntry : Entry :=
  { name := "MediumAPIAdapter", available := true, publish := .error rateLimited }

def braveEntry : Entry :=
  { name := "MediumBraveAdapter", mechanism := "browser", available := true
    publish := .error wrongSystem }

def browserEntry (available : Bool) : Entry :=
  { name := "MediumBrowserAdapter", mechanism := "browser", available
    publish := .ok { status := "published", adapter := "medium-browser", platform := "medium" } }

def mediumRegistry (browser : Bool) (platform : String) : Option (List Entry) :=
  if platform = "medium" then some [apiEntry, braveEntry, browserEntry browser] else none

theorem dispatch_respected_iff_medium :
    Respected asciiWord (dispatch asciiWord (mediumRegistry true) "medium" false) ↔
      false = true ∨ Guarded asciiWord "medium" [apiEntry, braveEntry, browserEntry true] := by
  have listed : Listed [apiEntry, braveEntry, browserEntry true] := by
    intro entry hmem exc raised
    simp only [List.mem_cons, List.not_mem_nil, or_false] at hmem
    rcases hmem with rfl | rfl | rfl
    · rw [← Except.error.inj raised]
      rfl
    · rw [← Except.error.inj raised]
      rfl
    · cases raised
  exact dispatch_respected_iff asciiWord (mediumRegistry true) "medium" false _ rfl listed

/-- The rate limit is forgotten when Brave fails: the next adapter runs ungated, and without
one the caller hears of the missing prerequisite only. -/
theorem upstream_error_covered :
    ¬ Respected asciiWord (dispatch asciiWord (mediumRegistry true) "medium" false) ∧
      ¬ Respected asciiWord (dispatch asciiWord (mediumRegistry false) "medium" false) := by
  have opened : PendingTransient.fallsBack asciiWord "medium"
      ⟨rateLimited, "MediumAPIAdapter", "api"⟩ braveEntry = true := by decide +kernel
  have upstream : rateLimited.arm = .externalService := by decide
  have prerequisite : wrongSystem.arm = .dependency := by decide
  have called (browser : Bool) :
      dispatch asciiWord (mediumRegistry browser) "medium" false =
        ((walk asciiWord "medium" [browserEntry browser] (some wrongSystem) none).after
          braveEntry).after apiEntry := by
    have brave : braveEntry.attempt = .error wrongSystem := rfl
    have api : apiEntry.attempt = .error rateLimited := rfl
    change walk asciiWord "medium" [apiEntry, braveEntry, browserEntry browser] none none = _
    unfold walk
    simp only [Option.filter_none, api, upstream]
    unfold walk
    simp only [apiEntry, Option.filter_some, opened, brave, prerequisite]
    rfl
  constructor
  · intro respected
    rw [called] at respected
    have gated : [apiEntry, braveEntry, browserEntry true].Pairwise fun entry next =>
      ∀ exc, entry.Fails exc → next.stage = none → SafeEdge asciiWord entry next exc :=
      respected.gated
    have safe : SafeEdge asciiWord apiEntry (browserEntry true) rateLimited :=
      List.rel_of_pairwise_cons gated (List.mem_cons_of_mem _ List.mem_cons_self) rateLimited
        ⟨rfl, rfl, rfl⟩ rfl
    exact absurd safe.2.2.2 (by decide)
  · intro respected
    rw [called] at respected
    obtain ⟨exc, raised, instance_⟩ := respected.upstream
      ⟨apiEntry, List.mem_cons_self, rateLimited, rfl, rfl⟩ (by
        intro entry hmem
        rcases List.mem_cons.1 hmem with rfl | hmem
        · exact ⟨rateLimited, rfl, rfl⟩
        · rw [List.mem_singleton.1 hmem]
          exact ⟨wrongSystem, rfl, rfl⟩)
    rw [← Except.error.inj raised] at instance_
    cases instance_

end BacklinkPublisher.FallbackChain
