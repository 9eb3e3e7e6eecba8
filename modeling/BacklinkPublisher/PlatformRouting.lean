import BacklinkPublisher.LatestVerdicts
import BacklinkPublisher.Ledger
import BacklinkPublisher.OptimizationRules
import BacklinkPublisher.SortedLists
import Mathlib.Data.String.Basic

set_option autoImplicit false

/-!
# The platform of a row

`route` of `_dispatch_router/routing.py` with its filter, score and choice, over the signals of
`_dispatch_router/signals.py`, whose weights are those of `dispatch_weight` in
`publishing/registry.py`. Scores and weights are rational.
-/
namespace BacklinkPublisher.PlatformRouting
open LatestVerdicts (IsoTime)
open Ledger (DofollowStatus)
open OptimizationRules OptimizationState SortedLists

/-! ## Signals -/

/-- What the routing reads of a platform. `dofollow` is `none` where it is unknown. -/
structure PlatformSignal where
  name : String
  dofollow : Option DofollowStatus := none
  referral : Option String := none
  binding : String := "unbound"
  quarantined : Bool := false
  canaryLastOkAt : Option String := none
  languageWhitelist : List String := []
  visibility : String := "active"
  dispatchWeight : ℚ := 1
  deriving DecidableEq, Repr

/-- The dict of the signals, with its keys. -/
abbrev Signals := List (String × PlatformSignal)

/-- A row, of which the routing reads the language and the target. -/
structure Row where
  language : Option String := none
  lang : Option String := none
  url : Option String := none
  targetUrl : Option String := none
  uri : Option String := none
  deriving DecidableEq, Repr

/-- `a or b`, for texts. -/
def orElse (a b : Option String) : Option String := (a.filter fun s => decide (s ≠ "")).or b

def Row.languageOf (row : Row) : String := (orElse row.language (orElse row.lang none)).getD ""

def Row.target (row : Row) : String :=
  (orElse row.url (orElse row.targetUrl (orElse row.uri none))).getD ""

/-- The weight that a signal gets when it is collected: that of the language, or else that of the
default language. -/
def registryDispatchWeight (static : ℚ) (config : RulesConfig) (data : OptimizationData)
    (language name : String) : ℚ :=
  dispatchWeight static config data
    (if (data.entry ⟨language, name⟩).isSome then ⟨language, name⟩ else ⟨"default", name⟩)

/-! ## The gates -/

inductive Exclusion where
  | visibility
  | binding
  | language
  | quarantined
  deriving DecidableEq, Repr

/-- The gate that stops a signal. -/
def exclusion (rowLanguage : String) (sig : PlatformSignal) : Option Exclusion :=
  if sig.visibility = "retired" ∨ sig.visibility = "hidden" then some .visibility
  else if sig.binding ≠ "bound" then some .binding
  else if sig.languageWhitelist ≠ [] ∧ rowLanguage ≠ "" ∧ rowLanguage ∉ sig.languageWhitelist then
    some .language
  else if sig.quarantined then some .quarantined
  else none

def passes (rowLanguage : String) (sig : PlatformSignal) : Bool :=
  (exclusion rowLanguage sig).isNone

/-- `_filter_candidates`: the survivors, and the gates of the others. -/
def filterCandidates (signals : Signals) (rowLanguage : String) :
    List PlatformSignal × List (String × Exclusion) :=
  ((signals.map Prod.snd).filter (passes rowLanguage),
    signals.filterMap fun item => (exclusion rowLanguage item.2).map fun gate => (item.1, gate))

/-! ## The score -/

def scoreDofollowTier : Option DofollowStatus → ℚ
  | some .dofollow => 4
  | some .uncertain => 2
  | _ => 1

def scoreNofollowBonus (dofollow : Option DofollowStatus) (referral : Option String) : ℚ :=
  match dofollow with
  | some .dofollow | some .uncertain => 0
  | _ => if referral = some "high" then 1 else 0

def defaultCanaryStaleDays : ℤ := 7

/-- `_downgrade_if_stale`. `fromIso` is `datetime.fromisoformat`. -/
def downgradeIfStale (fromIso : String → Option IsoTime) (staleDays : Option ℤ) (now : ℚ)
    (sig : PlatformSignal) : Option DofollowStatus :=
  let days := staleDays.getD defaultCanaryStaleDays
  if days ≤ 0 then sig.dofollow
  else
    match (orElse sig.canaryLastOkAt none).bind fromIso with
    | none => sig.dofollow
    | some lastOk =>
      if (now - lastOk.utc) / 86400 ≤ days then sig.dofollow
      else
        match sig.dofollow with
        | some .dofollow => some .uncertain
        | some .uncertain => some .nofollow
        | other => other

def maxSpreadBonus : ℕ := 3

/-- `_strategy_score`; any other strategy is the balanced one. -/
def strategyScore (strategy : String) (baseScore spreadBonus : ℚ) : ℚ :=
  if strategy = "quality" then baseScore
  else if strategy = "spread" then baseScore * (1/2) + spreadBonus * 3
  else baseScore + spreadBonus

/-- What a run of the router holds fixed for a row. -/
structure Setting where
  fromIso : String → Option IsoTime
  now : ℚ
  strategy : String := "balanced"
  canaryStaleDays : Option ℤ := none
  liveDofollowPlatforms : List String := []

/-- The score before the weight. -/
def rawScore (setting : Setting) (sig : PlatformSignal) : ℚ :=
  let dofollow := downgradeIfStale setting.fromIso setting.canaryStaleDays setting.now sig
  strategyScore setting.strategy
    (scoreDofollowTier dofollow + scoreNofollowBonus dofollow sig.referral)
    ((maxSpreadBonus - setting.liveDofollowPlatforms.count sig.name : ℕ) : ℚ)

def scoreCandidate (setting : Setting) (sig : PlatformSignal) : ℚ :=
  rawScore setting sig * sig.dispatchWeight

/-! ## The choice -/

/-- Target URL to its live-dofollow platforms, as far as the ledger knows it. -/
abbrev LedgerMap := String → Option (List String)

structure Dispatch where
  strategy : String
  engineVersion : ℕ
  candidates : List String
  excluded : List (String × Exclusion)
  reason : List String
  deriving DecidableEq, Repr

structure RouteResult where
  platform : Option String
  dispatch : Dispatch
  deriving DecidableEq, Repr

def dofollowText : Option DofollowStatus → String
  | some .dofollow => "True"
  | some .nofollow => "False"
  | some .uncertain => "uncertain"
  | none => "unknown"

/-- The parts of `_build_reason`; `showWeight` is the text of a weight. -/
def buildReason (showWeight : ℚ → String) (setting : Setting) (sig : Option PlatformSignal) :
    List String :=
  setting.strategy :: match sig with
    | none => []
    | some sig =>
      let covers := setting.liveDofollowPlatforms.count sig.name
      ("dofollow=" ++ dofollowText sig.dofollow) ::
        ((if sig.dispatchWeight ≠ 1 then ["dispatch_weight=" ++ showWeight sig.dispatchWeight]
          else []) ++
        if setting.liveDofollowPlatforms = [] then []
        else if covers = 0 then ["new_platform"] else ["existing_cover=" ++ toString covers])

/-- Greatest score first, and among equals the least name. -/
def sortKey (scored : ℚ × String) : ℚ ×ₗ String := toLex (-scored.1, scored.2)

/-- The arguments of `route`, with the clock and the library functions it uses. -/
structure Request where
  fromIso : String → Option IsoTime
  showWeight : ℚ → String
  now : ℚ
  row : Row
  ledgerMap : LedgerMap := fun _ => none
  strategy : String := "balanced"
  canaryStaleDays : Option ℤ := none

def Request.setting (request : Request) : Setting where
  fromIso := request.fromIso
  now := request.now
  strategy := request.strategy
  canaryStaleDays := request.canaryStaleDays
  liveDofollowPlatforms := (request.ledgerMap request.row.target).getD []

def scoredCandidates (request : Request) (candidates : List PlatformSignal) : List (ℚ × String) :=
  candidates.map fun sig => (scoreCandidate request.setting sig, sig.name)

def route (request : Request) (signals : Signals) : RouteResult :=
  let (candidates, excluded) := filterCandidates signals request.row.languageOf
  if candidates = [] then
    ⟨none, ⟨request.strategy, 2, [], excluded, ["no_available_platforms"]⟩⟩
  else
    let scored := sortedBy sortKey (scoredCandidates request candidates)
    let best := scored.head?.map Prod.snd
    let sig := best.bind fun name =>
      if name = "" then none else OrderedDicts.lookup Prod.fst name signals |>.map Prod.snd
    ⟨best, ⟨request.strategy, 2, candidates.map PlatformSignal.name, excluded,
      buildReason request.showWeight request.setting sig⟩⟩

/-! ## The best candidate -/

section Best
variable {request : Request} {signals : Signals} {p : String}

def Candidate (request : Request) (signals : Signals) (sig : PlatformSignal) : Prop :=
  sig ∈ signals.map Prod.snd ∧ passes request.row.languageOf sig = true

theorem mem_candidates {sig : PlatformSignal} :
    sig ∈ (filterCandidates signals request.row.languageOf).1 ↔ Candidate request signals sig := by
  unfold filterCandidates Candidate
  rw [List.mem_filter]

def keyOf (request : Request) (sig : PlatformSignal) : ℚ ×ₗ String :=
  sortKey (scoreCandidate request.setting sig, sig.name)

theorem keyOf_le {sig other : PlatformSignal} :
    keyOf request sig ≤ keyOf request other ↔
      scoreCandidate request.setting other ≤ scoreCandidate request.setting sig ∧
        (scoreCandidate request.setting other = scoreCandidate request.setting sig →
          sig.name ≤ other.name) := by
  unfold keyOf sortKey
  rw [Prod.Lex.toLex_le_toLex]
  dsimp only
  rw [neg_lt_neg_iff, neg_inj]
  constructor
  · rintro (less | ⟨same, le⟩)
    · exact ⟨less.le, fun same => absurd same less.ne⟩
    · exact ⟨same.ge, fun _ => le⟩
  · rintro ⟨le, ties⟩
    rcases le.lt_or_eq with less | same
    · exact .inl less
    · exact .inr ⟨same.symm, ties same⟩

/-- A candidate of the name that no other candidate comes before. -/
def IsBest (request : Request) (signals : Signals) (p : String) : Prop :=
  ∃ sig, Candidate request signals sig ∧ sig.name = p ∧
    ∀ other, Candidate request signals other → keyOf request sig ≤ keyOf request other

theorem platform_eq (request : Request) (signals : Signals) :
    (route request signals).platform =
      (sortedBy sortKey (scoredCandidates request
        (filterCandidates signals request.row.languageOf).1)).head?.map Prod.snd := by
  unfold route
  dsimp only
  split_ifs with empty
  · rw [empty]
    rfl
  · rfl

theorem platform_isSome :
    (route request signals).platform.isSome ↔ ∃ sig, Candidate request signals sig := by
  rw [platform_eq, Option.isSome_map, head_sortedBy_isSome]
  unfold scoredCandidates
  rw [ne_eq, List.map_eq_nil_iff, ← ne_eq]
  constructor
  · intro some_
    have ⟨sig, hsig⟩ := List.exists_mem_of_ne_nil _ some_
    exact ⟨sig, mem_candidates.1 hsig⟩
  · rintro ⟨sig, candidate⟩
    exact List.ne_nil_of_mem (mem_candidates.2 candidate)

theorem platform_iff : (route request signals).platform = some p ↔ IsBest request signals p := by
  constructor
  · intro routed
    rw [platform_eq, Option.map_eq_some_iff] at routed
    have ⟨scored, head, named⟩ := routed
    have ⟨member, least⟩ := head_sortedBy head
    have ⟨sig, hsig, made⟩ := List.mem_map.1 member
    refine ⟨sig, mem_candidates.1 hsig, ?_, fun other hother => ?_⟩
    · rw [← named, ← made]
    · rw [← made] at least
      exact least _ (List.mem_map_of_mem (mem_candidates.2 hother))
  · rintro ⟨sig, candidate, rfl, least⟩
    have ⟨q, routed⟩ := Option.isSome_iff_exists.1 (platform_isSome.2 ⟨sig, candidate⟩)
    rw [routed]
    rw [platform_eq, Option.map_eq_some_iff] at routed
    have ⟨scored, head, named⟩ := routed
    have ⟨member, first⟩ := head_sortedBy head
    have ⟨winner, hwinner, made⟩ := List.mem_map.1 member
    have le : sortKey scored ≤ keyOf request sig :=
      first _ (List.mem_map_of_mem (mem_candidates.2 candidate))
    have ge : keyOf request sig ≤ sortKey scored := by
      rw [← made]
      exact least winner (mem_candidates.1 hwinner)
    have same : (ofLex (sortKey scored)).2 = (ofLex (keyOf request sig)).2 :=
      congrArg (fun k => (ofLex k).2) (le_antisymm le ge)
    rw [← named]
    exact congrArg some same

end Best

/-! ## Positive scores -/

theorem rawScore_pos (setting : Setting) (sig : PlatformSignal) : 0 < rawScore setting sig := by
  have tier : ∀ dofollow, 1 ≤ scoreDofollowTier dofollow := by
    intro dofollow
    unfold scoreDofollowTier
    split <;> norm_num
  have bonus : ∀ dofollow, 0 ≤ scoreNofollowBonus dofollow sig.referral := by
    intro dofollow
    unfold scoreNofollowBonus
    split
    · exact le_rfl
    · exact le_rfl
    · split_ifs <;> norm_num
  unfold rawScore strategyScore
  dsimp only
  have spread : (0 : ℚ) ≤
      ((maxSpreadBonus - setting.liveDofollowPlatforms.count sig.name : ℕ) : ℚ) := Nat.cast_nonneg _
  have base := add_le_add
    (tier (downgradeIfStale setting.fromIso setting.canaryStaleDays setting.now sig))
    (bonus (downgradeIfStale setting.fromIso setting.canaryStaleDays setting.now sig))
  split_ifs <;> linarith

theorem score_pos (setting : Setting) (sig : PlatformSignal) :
    0 < scoreCandidate setting sig ↔ 0 < sig.dispatchWeight :=
  mul_pos_iff_of_pos_left (rawScore_pos setting sig)

/-- The signal with another weight. -/
def PlatformSignal.weighted (sig : PlatformSignal) (weight : ℚ) : PlatformSignal :=
  { sig with dispatchWeight := weight }

theorem score_weighted (setting : Setting) (sig : PlatformSignal) {weight : ℚ}
    (le : sig.dispatchWeight ≤ weight) :
    scoreCandidate setting sig ≤ scoreCandidate setting (sig.weighted weight) :=
  mul_le_mul_of_nonneg_left le (rawScore_pos setting sig).le

/-- More weight for the platform that is chosen leaves it the best one. -/
theorem IsBest.weighted {request : Request} {before after : Signals} {key : String}
    {sig : PlatformSignal} {weight : ℚ} (le : sig.dispatchWeight ≤ weight)
    (candidate : passes request.row.languageOf sig = true)
    (best : IsBest request (before ++ (key, sig) :: after) sig.name) :
    IsBest request (before ++ (key, sig.weighted weight) :: after) sig.name := by
  have ⟨winner, ⟨member, passing⟩, named, least⟩ := best
  have raised : keyOf request (sig.weighted weight) ≤ keyOf request sig :=
    keyOf_le.2 ⟨score_weighted request.setting sig le, fun _ => le_rfl⟩
  have own : keyOf request winner ≤ keyOf request sig :=
    least sig ⟨List.mem_map.2 ⟨(key, sig), by simp, rfl⟩, candidate⟩
  -- The others are as they were, so the raised signal has only the winner of before to beat.
  have others : ∀ other, Candidate request (before ++ (key, sig.weighted weight) :: after) other →
      other = sig.weighted weight ∨ keyOf request winner ≤ keyOf request other := by
    rintro other ⟨hother, hpasses⟩
    have ⟨item, hitem, made⟩ := List.mem_map.1 hother
    rcases List.mem_append.1 hitem with early | late
    · exact .inr (least other ⟨List.mem_map.2 ⟨item, by simp [early], made⟩, hpasses⟩)
    · rcases List.mem_cons.1 late with rfl | late
      · exact .inl made.symm
      · exact .inr (least other ⟨List.mem_map.2 ⟨item, by simp [late], made⟩, hpasses⟩)
  have there : Candidate request (before ++ (key, sig.weighted weight) :: after)
      (sig.weighted weight) :=
    ⟨List.mem_map.2 ⟨(key, sig.weighted weight), by simp, rfl⟩, candidate⟩
  rcases le_total (keyOf request (sig.weighted weight)) (keyOf request winner) with wins | loses
  · refine ⟨sig.weighted weight, there, rfl, fun other hother => ?_⟩
    rcases others other hother with rfl | later
    · exact le_rfl
    · exact wins.trans later
  · by_cases same : winner = sig
    · rw [same] at others loses
      refine ⟨sig.weighted weight, there, rfl, fun other hother => ?_⟩
      rcases others other hother with rfl | later
      · exact le_rfl
      · exact raised.trans later
    · refine ⟨winner, ⟨?_, passing⟩, named, fun other hother => ?_⟩
      · have ⟨item, hitem, made⟩ := List.mem_map.1 member
        rcases List.mem_append.1 hitem with early | late
        · exact List.mem_map.2 ⟨item, by simp [early], made⟩
        · rcases List.mem_cons.1 late with rfl | late
          · exact absurd made.symm same
          · exact List.mem_map.2 ⟨item, by simp [late], made⟩
      · rcases others other hother with rfl | later
        · exact loses
        · exact later

/-! ## The weights of the registry -/

/-- The operator has locked the platform at 0, or a rule has meant its 0. -/
def Zeroed (data : OptimizationData) (language name : String) : Prop :=
  ∃ entry, data.entry (if (data.entry ⟨language, name⟩).isSome then ⟨language, name⟩
      else ⟨"default", name⟩) = some entry ∧
    entry.current = some 0 ∧ (entry.locked = true ∨ entry.intentionalZero = true)

theorem registryDispatchWeight_zero {static : ℚ} {config : RulesConfig} {data : OptimizationData}
    {language name : String} (zeroed : Zeroed data language name) :
    registryDispatchWeight static config data language name = 0 := by
  have ⟨entry, found, zero, kept⟩ := zeroed
  unfold registryDispatchWeight dispatchWeight
  rw [found]
  dsimp only
  rw [zero]
  dsimp only
  rw [if_neg]
  rintro ⟨_, unlocked, unmeant⟩
  rcases kept with locked | meant
  · rw [unlocked] at locked
    cases locked
  · rw [unmeant] at meant
    cases meant

/-! ## What `route` promises -/

/-- What is promised of one call of `route`. -/
structure RoutesBest (request : Request) (signals : Signals) : Prop where
  returns : (route request signals).platform.isSome ↔
    ∃ sig, Candidate request signals sig ∧ 0 < sig.dispatchWeight
  best : ∀ p, (route request signals).platform = some p →
    ∃ sig, Candidate request signals sig ∧ sig.name = p ∧ 0 < sig.dispatchWeight ∧
      ∀ other, Candidate request signals other →
        scoreCandidate request.setting other ≤ scoreCandidate request.setting sig ∧
          (scoreCandidate request.setting other = scoreCandidate request.setting sig →
            p ≤ other.name)
  zeroed : ∀ (static : ℚ) (config : RulesConfig) (data : OptimizationData) (language p : String),
    (∀ sig ∈ signals.map Prod.snd, sig.name = p →
      sig.dispatchWeight = registryDispatchWeight static config data language p) →
    Zeroed data language p → (route request signals).platform ≠ some p
  raised : ∀ (before after : Signals) (key : String) (sig : PlatformSignal) (weight : ℚ),
    signals = before ++ (key, sig) :: after → passes request.row.languageOf sig = true →
    sig.dispatchWeight ≤ weight → (route request signals).platform = some sig.name →
    (route request (before ++ (key, sig.weighted weight) :: after)).platform = some sig.name

/-- `route` keeps its promises but where platforms pass the gates and none of them has a positive
weight: then it returns one of these. -/
theorem route_best_iff (request : Request) (signals : Signals) :
    RoutesBest request signals ↔
      (∃ sig, Candidate request signals sig) →
        ∃ sig, Candidate request signals sig ∧ 0 < sig.dispatchWeight := by
  constructor
  · intro promised passing
    exact promised.returns.1 (platform_isSome.2 passing)
  · intro weighty
    have best : ∀ p, (route request signals).platform = some p →
        ∃ sig, Candidate request signals sig ∧ sig.name = p ∧ 0 < sig.dispatchWeight ∧
          ∀ other, Candidate request signals other →
            scoreCandidate request.setting other ≤ scoreCandidate request.setting sig ∧
              (scoreCandidate request.setting other = scoreCandidate request.setting sig →
                p ≤ other.name) := by
      intro p routed
      have ⟨sig, candidate, named, least⟩ := platform_iff.1 routed
      have ⟨heavy, hheavy, positive⟩ := weighty ⟨sig, candidate⟩
      have more := (keyOf_le.1 (least heavy hheavy)).1
      refine ⟨sig, candidate, named, ?_, fun other hother => ?_⟩
      · exact (score_pos _ _).1 (lt_of_lt_of_le ((score_pos request.setting heavy).2 positive) more)
      · rw [← named]
        exact keyOf_le.1 (least other hother)
    refine ⟨?_, best, ?_, ?_⟩
    · rw [platform_isSome]
      exact ⟨weighty, fun ⟨sig, candidate, _⟩ => ⟨sig, candidate⟩⟩
    · intro static config data language p registered zeroed routed
      have ⟨sig, candidate, named, positive, _⟩ := best p routed
      rw [registered sig candidate.1 named, registryDispatchWeight_zero zeroed] at positive
      exact lt_irrefl 0 positive
    · intro before after key sig weight made passing le routed
      rw [made] at routed
      exact platform_iff.2 (IsBest.weighted le passing (platform_iff.1 routed))

/-- A bound platform that its operator has turned off. -/
def offSignals : Signals := [("medium", { name := "medium", binding := "bound", dispatchWeight := 0 })]

def plainRequest : Request where
  fromIso := fun _ => none
  showWeight := fun _ => ""
  now := 0
  row := {}

/-- The only platform is chosen at a weight of 0. -/
theorem route_off : ¬ ∀ (request : Request) (signals : Signals), RoutesBest request signals := by
  intro promised
  have routed : (route plainRequest offSignals).platform = some "medium" := by decide +kernel
  have returned : (route plainRequest offSignals).platform.isSome := by rw [routed]; rfl
  have ⟨sig, ⟨member, _⟩, positive⟩ := (promised plainRequest offSignals).returns.1 returned
  rw [List.mem_singleton.1 member] at positive
  exact lt_irrefl 0 positive

end BacklinkPublisher.PlatformRouting
