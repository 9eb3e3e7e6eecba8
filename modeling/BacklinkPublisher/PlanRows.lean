import BacklinkPublisher.Generators
import BacklinkPublisher.InputSchema

set_option autoImplicit false

/-!
# The planning of a batch

`plan_rows` of `plan_backlinks/_engine.py` without its prefetch: the loop over the seed rows, and
for every row the loop over the payloads that `_dispatch_row` yields.
-/
namespace BacklinkPublisher.PlanRows
open Generators InputSchema JsonValues OutputSchema

/-- What a row's generation can raise; `exit` is `SystemExit`, which no handler of the loop
catches. -/
inductive Failure where
  | contentGate (kind url reason : String)
  | error (text : String)
  | exit

inductive DofollowStatus where
  | dofollow
  | nofollow
  | uncertain
  deriving DecidableEq

section Config
variable {Cfg : Type}

structure PlanConfig (Cfg : Type) where
  targetThreeUrl : List (String × Cfg) := []
  targetAnchorPools : List (String × List (String × List (String × List String))) := []
  siteUrlCategories : List (String × List (String × String)) := []
  cellAssignments : List (String × List String) := []
  configSha : String := ""
  bannerRuntime : Bool := false

/-- What stands outside the engine. The generators and the image service are asked for a line of
the batch and for the place of a payload on it, so that two like rows can fare differently.
`raisedText` is the text of the exception that a value raises where a text is wanted. -/
structure PlanHost (Cfg : Type) extends InputHost where
  planWorkThemedRow : ℕ → Fields → Cfg → Generator Failure Fields
  planZhShortRow : ℕ → Fields → Except Failure (Option Fields)
  generatePayload : ℕ → Fields → Except Failure Fields
  zeroCostLevers : ℕ → ℕ → String → String → Json → Except Failure (String × List String)
  linkKinds : Json → Except Failure (List String)
  asDict : Json → Except Failure Fields
  dofollowStatus : String → Option DofollowStatus
  referralValue : String → Option String
  generateBanner : ℕ → ℕ → Fields → Except Failure Json
  raisedText : Json → String

def removePrefix (start s : String) : String :=
  if startsWith start s then String.ofList (s.toList.drop start.length) else s

def normalizeDomainKey (domain : String) : String :=
  removePrefix "http://" (removePrefix "https://" (stripSlashes domain))

def getThreeUrlConfig (config : PlanConfig Cfg) (mainDomain : String) : Option Cfg :=
  let bare := normalizeDomainKey mainDomain
  [stripSlashes mainDomain, "https://" ++ bare, "http://" ++ bare, bare].findSome? fun candidate =>
    config.targetThreeUrl.lookup candidate

def getAnchorPoolV2 (config : PlanConfig Cfg) (mainDomain category anchorType : String) :
    List String :=
  let bare := stripSlashes mainDomain
  let pools := [bare, bare ++ "/"].findSome? fun candidate =>
    config.targetAnchorPools.lookup candidate
  match pools with
  | some categories => (((categories.lookup category).getD []).lookup anchorType).getD []
  | none => []

def schedulerEnabledFor (config : PlanConfig Cfg) (mainDomain : String) : Bool :=
  let key := stripSlashes mainDomain
  let categories := (config.siteUrlCategories.lookup key).getD []
  categories.any (fun category => category.1 = "home") &&
    categories.any (fun category => category.1 ≠ "home") &&
    !((config.targetAnchorPools.lookup key).getD []).isEmpty

def cellGateDrop (mainDomain platform : String) (cells : List (String × List String)) : Bool :=
  match cells.lookup (stripSlashes mainDomain) with
  | none => false
  | some platforms => platform ∉ platforms

end Config

/-! ## A row -/

/-- The text of a field; an accepted row has one in every required field. -/
def textField (field : String) (row : Fields) : String :=
  match get field row with
  | some (.text s) => s
  | _ => ""

/-- `value or default`. -/
def orElse (value : Option Json) (default : Json) : Json :=
  match value with
  | some value => if value.truthy then value else default
  | none => default

/-- `d[field]`, with the text of its `KeyError`. -/
def item (field : String) (fields : Fields) : Except Failure Json :=
  match get field fields with
  | some value => .ok value
  | none => .error (.error ("'" ++ field ++ "'"))

section Row
variable {Cfg : Type} (host : PlanHost Cfg) (config : PlanConfig Cfg) (line : ℕ)

def applyZeroCost (row : Fields) (i : ℕ) (payload : Fields) : Except Failure Fields :=
  let language := orElse (get "language" payload) ((get "language" row).getD (.text "en"))
  let mainDomain := orElse (get "main_domain" payload) ((get "main_domain" row).getD (.text ""))
  match mainDomain, orElse (get "content_markdown" payload) (.text "") with
  | .text domain, .text body => do
    let (augmented, applied) ← host.zeroCostLevers line i body (stripSlashes domain) language
    return setItem "_citability_levers" (.array (applied.map .text))
      (setItem "content_markdown" (.text augmented) payload)
  | .text _, body => .error (.error (host.raisedText body))
  | mainDomain, _ => .error (.error (host.raisedText mainDomain))

/-- The log line of a payload sorts the kinds of its links, which can raise. -/
def emitLinkCountRecon (payload : Fields) : Except Failure Fields :=
  (host.linkKinds (orElse (get "links" payload) (.array []))).map fun _ => payload

def longForm (row : Fields) : Generator Failure Fields :=
  .once ((host.generatePayload line row).bind (emitLinkCountRecon host))

def dispatchRow (row : Fields) : Generator Failure Fields :=
  let domain := textField "main_domain" row
  let language := textField "language" row
  let target := match get "target_language" row with
    | some (.text target) => target
    | _ => language
  let zeroCost (i : ℕ) (payload : Fields) :=
    (applyZeroCost host line row i payload).bind (emitLinkCountRecon host)
  match if target = language then getThreeUrlConfig config domain else none with
  | some threeUrl => (host.planWorkThemedRow line row threeUrl).through zeroCost 0
  | none =>
    if language = "zh-CN" ∧ target = language ∧ schedulerEnabledFor config domain then
      match host.planZhShortRow line row with
      | .error failure => .raises failure
      | .ok (some payload) => .once (zeroCost 0 payload)
      | .ok none => longForm host line row
    else longForm host line row

def dofollowTierMetadata : Json → Except Failure Fields
  | .text platform =>
    let status := host.dofollowStatus platform
    let tier := if status = some .dofollow then "dofollow" else "nofollow-signal"
    let referral := match host.referralValue platform with
      | some value => .text value
      | none => .null
    let pending := if status = some .uncertain then [("tier_pending", Json.bool true)] else []
    .ok ([("dofollow_tier", .text tier), ("referral_value", referral)] ++ pending)
  | platform =>
    if hashable platform then
      .ok [("dofollow_tier", .text "nofollow-signal"), ("referral_value", .null)]
    else .error (.error (host.raisedText platform))

/-- The body of the loop over the payloads of a row, up to `outputs.append`. -/
def decorate (i : ℕ) (payload : Fields) : Except Failure Fields := do
  let domain ← item "main_domain" payload
  let pool ← match domain with
    | .text domain => .ok (getAnchorPoolV2 config domain "home" "branded")
    | domain => .error (.error (host.raisedText domain))
  let metadata ← match orElse (get "metadata" payload) (.object []) with
    | .object metadata => .ok metadata
    | metadata => host.asDict metadata
  let metadata := setItem "branded_pool" (.array (pool.map .text)) metadata
  let metadata := setItem "config_sha" (.text config.configSha) metadata
  let platform ← item "platform" payload
  let tier ← dofollowTierMetadata host platform
  let metadata := update tier metadata
  let (metadata, payload) := match get "_citability_levers" payload with
    | some levers => (setItem "citability_levers" levers metadata,
        OrderedDicts.remove Prod.fst "_citability_levers" payload)
    | none => (metadata, payload)
  let payload := setItem "metadata" (.object metadata) payload
  let banner ← if config.bannerRuntime then host.generateBanner line i payload else .ok .null
  let payload := setItem "banner" banner payload
  -- the log line of the payload reads its id
  let _ ← item "id" payload
  return payload

end Row

/-! ## The batch -/

structure PlanOutcome where
  outputs : List Fields := []
  errors : List String := []
  validationDrops : List ℕ := []
  generationDrops : List ℕ := []
  contentGateDrops : List ℕ := []
  cellGateDrops : List ℕ := []

/-- The four drop lists together. -/
def PlanOutcome.drops (outcome : PlanOutcome) : List ℕ :=
  outcome.validationDrops ++ outcome.cellGateDrops ++ outcome.contentGateDrops ++
    outcome.generationDrops

/-- What ends the batch. -/
inductive Stopped where
  | raised (raised : Raised)
  | exit

section Batch
variable {Cfg : Type} (host : PlanHost Cfg) (config : PlanConfig Cfg)

/-- The body of the loop over the rows. -/
def planRow (outcome : PlanOutcome) (line : ℕ) (row : Fields) : Except Stopped PlanOutcome :=
  match validateAndConvertInput host.toInputHost line row with
  | .error raised => .error (.raised raised)
  | .ok ⟨row, seed, errs⟩ =>
    if errs ≠ [] ∨ seed.isNone then
      .ok { outcome with
        errors := outcome.errors ++ errs
        validationDrops := outcome.validationDrops ++ [line] }
    else if cellGateDrop (textField "main_domain" row) (textField "platform" row)
        config.cellAssignments then
      .ok { outcome with cellGateDrops := outcome.cellGateDrops ++ [line] }
    else
      let loop := (dispatchRow host config line row).through (decorate host config line) 0
      -- what was appended before an exception stays
      let outcome := { outcome with outputs := outcome.outputs ++ loop.items }
      match loop.raised with
      | none => .ok outcome
      | some (.contentGate kind url reason) =>
        let text := s!"content-gate failure: kind={kind} url={url} reason={reason}"
        .ok { outcome with
          errors := outcome.errors ++ [lineMessage line text]
          contentGateDrops := outcome.contentGateDrops ++ [line] }
      | some (.error exc) =>
        .ok { outcome with
          errors := outcome.errors ++ [lineMessage line s!"generation error: {exc}"]
          generationDrops := outcome.generationDrops ++ [line] }
      | some .exit => .error .exit

def planFrom (outcome : PlanOutcome) (line : ℕ) : List Fields → Except Stopped PlanOutcome
  | [] => .ok outcome
  | row :: rows =>
    match planRow host config outcome line row with
    | .error stopped => .error stopped
    | .ok outcome => planFrom outcome (line + 1) rows

def planRows (rows : List Fields) : Except Stopped PlanOutcome := planFrom host config {} 1 rows

end Batch

/-! ## What the loop does to a row -/

section Claims
variable {Cfg : Type} (host : PlanHost Cfg) (config : PlanConfig Cfg)

/-- The row comes to its generation, as the checks leave it. -/
def Reaches (line : ℕ) (row normalized : Fields) : Prop :=
  (∃ seed, validateAndConvertInput host.toInputHost line row = .ok ⟨normalized, some seed, []⟩) ∧
    cellGateDrop (textField "main_domain" normalized) (textField "platform" normalized)
      config.cellAssignments = false

/-- The segment holds all the payloads of the row, each of them decorated. -/
def Whole (line : ℕ) (row : Fields) (segment : List Fields) : Prop :=
  ∃ normalized, Reaches host config line row normalized ∧
    (dispatchRow host config line normalized).raised = none ∧
    Generator.Made (decorate host config line) 0 (dispatchRow host config line normalized).items
      segment

/-- If the generation of the row fails, then before its first payload is decorated. -/
def FailsFirst (line : ℕ) (row : Fields) : Prop :=
  ∀ normalized, Reaches host config line row normalized →
    (dispatchRow host config line normalized).Completes (decorate host config line) 0 ∨
      (dispatchRow host config line normalized).MakesNothing (decorate host config line) 0

/-- Every row is in one drop list, once, and has no payload in the outputs, or is in none and has
all its payloads there; the outputs are those of the rows in their order. -/
def Atomic (rows : List Fields) (outcome : PlanOutcome) : Prop :=
  (∀ line ∈ outcome.drops, 1 ≤ line ∧ line ≤ rows.length) ∧
    ∃ segments : List (List Fields), outcome.outputs = segments.flatten ∧
      List.Forall₂ (fun row segment =>
        (outcome.drops.count row.2 = 1 ∧ segment = []) ∨
          (outcome.drops.count row.2 = 0 ∧ Whole host config row.2 row.1 segment))
        (rows.zipIdx 1) segments

end Claims

section Rows
variable {Cfg : Type} {host : PlanHost Cfg} {config : PlanConfig Cfg}

theorem Reaches.unique {line : ℕ} {row first second : Fields}
    (one : Reaches host config line row first) (other : Reaches host config line row second) :
    first = second := by
  have ⟨⟨seed, left⟩, _⟩ := one
  have ⟨⟨seed', right⟩, _⟩ := other
  rw [left] at right
  cases right
  rfl

theorem Whole.unique {line : ℕ} {row : Fields} {first second : List Fields}
    (one : Whole host config line row first) (other : Whole host config line row second) :
    first = second := by
  have ⟨normalized, reaches, _, made⟩ := one
  have ⟨normalized', reaches', _, made'⟩ := other
  rw [reaches.unique reaches'] at made
  rw [← made.items_through, made'.items_through]

theorem Whole.failsFirst {line : ℕ} {row : Fields} {segment : List Fields}
    (whole : Whole host config line row segment) : FailsFirst host config line row := by
  intro normalized reaches
  have ⟨normalized', reaches', ended, made⟩ := whole
  rw [reaches.unique reaches']
  exact .inl ⟨ended, made.makes⟩

/-- A row whose generation fails has no payload in the outputs if and only if it fails first. -/
theorem failsFirst_iff {line : ℕ} {row normalized : Fields} {failure : Failure}
    (reaches : Reaches host config line row normalized)
    (fails : ((dispatchRow host config line normalized).through
      (decorate host config line) 0).raised = some failure) :
    ((dispatchRow host config line normalized).through (decorate host config line) 0).items = [] ↔
      FailsFirst host config line row := by
  rw [Generator.items_through_eq_nil]
  constructor
  · intro nothing normalized' reaches'
    rw [← reaches.unique reaches']
    exact .inr nothing
  · intro first
    apply (first normalized reaches).resolve_left
    intro completes
    rw [(Generator.raised_through _ _ _).2 completes] at fails
    cases fails

/-- One of the four lists takes one more line. -/
theorem drops_perm {outcome next : PlanOutcome} {line : ℕ}
    {validation cellGate contentGate generation : List ℕ}
    (validated : next.validationDrops = outcome.validationDrops ++ validation)
    (celled : next.cellGateDrops = outcome.cellGateDrops ++ cellGate)
    (gated : next.contentGateDrops = outcome.contentGateDrops ++ contentGate)
    (generated : next.generationDrops = outcome.generationDrops ++ generation)
    (one : validation ++ cellGate ++ contentGate ++ generation = [line]) :
    next.drops.Perm (outcome.drops ++ [line]) := by
  rw [List.perm_iff_count, ← one]
  intro l
  unfold PlanOutcome.drops
  rw [validated, celled, gated, generated]
  simp only [List.count_append]
  omega

/-- What a turn of the loop leaves: a row that is dropped by one list, or all its payloads. -/
def Turn (host : PlanHost Cfg) (config : PlanConfig Cfg) (line : ℕ) (row : Fields)
    (outcome next : PlanOutcome) : Prop :=
  ∃ segment, next.outputs = outcome.outputs ++ segment ∧
    ((next.drops.Perm (outcome.drops ++ [line]) ∧
        (segment = [] ↔ FailsFirst host config line row)) ∨
      (next.drops = outcome.drops ∧ Whole host config line row segment))

/-- A row that does not reach its generation is dropped with nothing put out. -/
theorem turn_of_dropped {outcome next : PlanOutcome} {line : ℕ} {row : Fields}
    (stays : ∀ normalized, ¬ Reaches host config line row normalized)
    (outputs : next.outputs = outcome.outputs)
    (dropped : next.drops.Perm (outcome.drops ++ [line])) :
    Turn host config line row outcome next := by
  refine ⟨[], outputs.trans (List.append_nil _).symm, .inl ⟨dropped, ?_⟩⟩
  exact iff_of_true rfl fun normalized reaches => absurd reaches (stays normalized)

theorem planRow_turn {outcome next : PlanOutcome} {line : ℕ} {row : Fields}
    (step : planRow host config outcome line row = .ok next) :
    Turn host config line row outcome next := by
  unfold planRow at step
  cases validated : validateAndConvertInput host.toInputHost line row with
  | error raised =>
    rw [validated] at step
    cases step
  | ok converted =>
    rw [validated] at step
    obtain ⟨normalized, seed, errs⟩ := converted
    dsimp only at step
    rcases validateAndConvertInput_cases validated with
      ⟨⟨model, seeded⟩, clean⟩ | ⟨_, failing⟩
    · dsimp only at seeded clean
      rw [seeded, clean] at step validated
      have accepted : ¬ (([] : List String) ≠ [] ∨ (some model).isNone = true) := by simp
      rw [if_neg accepted] at step
      split_ifs at step with gate
      · cases step
        have stays (other : Fields) : ¬ Reaches host config line row other := by
          rintro ⟨⟨_, reached⟩, admitted⟩
          rw [validated] at reached
          cases reached
          rw [gate] at admitted
          cases admitted
        refine turn_of_dropped stays rfl ?_
        exact drops_perm (List.append_nil _).symm rfl (List.append_nil _).symm
          (List.append_nil _).symm rfl
      · have reaches : Reaches host config line row normalized :=
          ⟨⟨model, validated⟩, Bool.eq_false_iff.2 gate⟩
        refine ⟨((dispatchRow host config line normalized).through
          (decorate host config line) 0).items, ?_⟩
        cases ended : ((dispatchRow host config line normalized).through
          (decorate host config line) 0).raised with
        | none =>
          rw [ended] at step
          cases step
          have completes := (Generator.raised_through _ _ _).1 ended
          exact ⟨rfl, .inr ⟨rfl, normalized, reaches, completes.1,
            Generator.made_through completes⟩⟩
        | some failure =>
          rw [ended] at step
          have first := failsFirst_iff reaches ended
          cases failure with
          | exit => cases step
          | contentGate kind url reason =>
            cases step
            refine ⟨rfl, .inl ⟨?_, first⟩⟩
            exact drops_perm (List.append_nil _).symm (List.append_nil _).symm rfl
              (List.append_nil _).symm rfl
          | error exc =>
            cases step
            refine ⟨rfl, .inl ⟨?_, first⟩⟩
            exact drops_perm (List.append_nil _).symm (List.append_nil _).symm
              (List.append_nil _).symm rfl rfl
    · rw [if_pos (.inl failing)] at step
      cases step
      have stays (other : Fields) : ¬ Reaches host config line row other := by
        rintro ⟨⟨_, reached⟩, _⟩
        rw [validated] at reached
        cases reached
        exact failing rfl
      refine turn_of_dropped stays rfl ?_
      exact drops_perm rfl (List.append_nil _).symm (List.append_nil _).symm
        (List.append_nil _).symm rfl

end Rows

/-! ## The batch, row by row -/

section Loop
variable {Cfg : Type} {host : PlanHost Cfg} {config : PlanConfig Cfg}

/-- What the loop leaves of the rows from a line on: a segment for each, empty for a dropped row
if and only if that row fails first. -/
theorem planFrom_segments {outcome final : PlanOutcome} {line : ℕ} {rows : List Fields}
    (run : planFrom host config outcome line rows = .ok final)
    (earlier : ∀ l ∈ outcome.drops, l < line) :
    (∀ l < line, final.drops.count l = outcome.drops.count l) ∧
      (∀ l ∈ final.drops, l < line + rows.length) ∧
      ∃ segments : List (List Fields), final.outputs = outcome.outputs ++ segments.flatten ∧
        List.Forall₂ (fun row segment =>
          (final.drops.count row.2 = 1 ∧ (segment = [] ↔ FailsFirst host config row.2 row.1)) ∨
            (final.drops.count row.2 = 0 ∧ Whole host config row.2 row.1 segment))
          (rows.zipIdx line) segments := by
  induction rows generalizing outcome line with
  | nil =>
    cases run
    refine ⟨fun _ _ => rfl, earlier, [], ?_, .nil⟩
    rw [List.flatten_nil, List.append_nil]
  | cons row rows ih =>
    rw [planFrom] at run
    cases step : planRow host config outcome line row with
    | error stopped =>
      rw [step] at run
      cases run
    | ok next =>
      rw [step] at run
      have ⟨segment, outputs, fate⟩ := planRow_turn step
      have fresh : outcome.drops.count line = 0 :=
        List.count_eq_zero.2 fun hmem => Nat.lt_irrefl _ (earlier line hmem)
      have kept : ∀ l < line, next.drops.count l = outcome.drops.count l := by
        intro l hl
        rcases fate with ⟨dropped, _⟩ | ⟨same, _⟩
        · rw [dropped.count_eq, List.count_append, List.count_singleton, if_neg]
          · rfl
          · simp
            omega
        · rw [same]
      have earlier' : ∀ l ∈ next.drops, l < line + 1 := by
        intro l hl
        rcases fate with ⟨dropped, _⟩ | ⟨same, _⟩
        · rcases List.mem_append.1 (dropped.mem_iff.1 hl) with before | now
          · exact Nat.lt_succ_of_lt (earlier l before)
          · rw [List.mem_singleton.1 now]
            exact Nat.lt_succ_self line
        · rw [same] at hl
          exact Nat.lt_succ_of_lt (earlier l hl)
      have ⟨later, bounded, segments, rest, fates⟩ := ih run earlier'
      have here : final.drops.count line = next.drops.count line :=
        later line (Nat.lt_succ_self line)
      refine ⟨fun l hl => ?_, fun l hl => ?_, segment :: segments, ?_, ?_⟩
      · rw [later l (Nat.lt_succ_of_lt hl), kept l hl]
      · have bound := bounded l hl
        rw [List.length_cons]
        omega
      · rw [rest, outputs, List.flatten_cons, List.append_assoc]
      · rw [List.zipIdx_cons]
        refine .cons ?_ fates
        dsimp only
        rw [here]
        rcases fate with ⟨dropped, first⟩ | ⟨same, whole⟩
        · refine .inl ⟨?_, first⟩
          rw [dropped.count_eq, List.count_append, fresh, List.count_singleton_self]
        · rw [same]
          exact .inr ⟨fresh, whole⟩

/-- A batch is atomic if and only if every row of it whose generation fails does so before its
first payload is decorated. -/
theorem atomic_iff {rows : List Fields} {outcome : PlanOutcome}
    (planned : planRows host config rows = .ok outcome) :
    Atomic host config rows outcome ↔
      ∀ row ∈ rows.zipIdx 1, FailsFirst host config row.2 row.1 := by
  have ⟨before, bounded, segments, outputs, fates⟩ :=
    planFrom_segments planned fun _ hmem => absurd hmem List.not_mem_nil
  rw [PlanOutcome.outputs, List.nil_append] at outputs
  constructor
  · rintro ⟨_, kept, outputs', atomic⟩
    have part : List.Forall₂ (fun k s => k = s ∨ k = []) kept segments := by
      apply forall₂_of_common atomic fates
      intro row k s claimed made
      rcases claimed with ⟨_, empty⟩ | ⟨none_, whole⟩
      · exact .inr empty
      · rcases made with ⟨one, _⟩ | ⟨_, whole'⟩
        · rw [one] at none_
          cases none_
        · exact .inl (whole.unique whole')
    have same : kept = segments := eq_of_flatten_eq part (outputs'.symm.trans outputs)
    rw [same] at atomic
    have both : List.Forall₂ (fun row (_ : List Fields) =>
        FailsFirst host config row.2 row.1 ∧ True) (rows.zipIdx 1) segments := by
      apply List.Forall₂.mp _ fates atomic
      intro row segment made claimed
      refine ⟨?_, trivial⟩
      rcases made with ⟨one, first⟩ | ⟨_, whole⟩
      · rcases claimed with ⟨_, empty⟩ | ⟨none_, _⟩
        · exact first.1 empty
        · rw [one] at none_
          cases none_
      · exact whole.failsFirst
    exact ((List.forall₂_and_left _ _).1 both).1
  · intro first
    refine ⟨fun line hline => ⟨?_, ?_⟩, segments, outputs, ?_⟩
    · by_contra low
      have none_ : outcome.drops.count line = 0 := before line (by omega)
      exact List.count_eq_zero.1 none_ hline
    · have bound := bounded line hline
      omega
    · apply ((List.forall₂_and_left _ _).2 ⟨first, fates⟩).imp
      rintro row segment ⟨early, made⟩
      exact made.imp (fun dropped => ⟨dropped.1, dropped.2.2 early⟩) id

end Loop

/-! ## A row that fails at its second payload -/

def article (id : String) : Fields :=
  [("id", .text id), ("platform", .text "blogger"), ("main_domain", .text "https://money.site")]

/-- A host whose generator of work-themed payloads is given. -/
def themedHost (works : Generator Failure Fields) : PlanHost Unit where
  str _ := ""
  repr _ := ""
  typeName _ := ""
  dumpsSize _ := .ok 0
  plannedError _ := none
  registeredPlatforms := ["blogger"]
  normalizeMainDomain := .ok
  seedPayload := .ok
  planWorkThemedRow _ _ _ := works
  planZhShortRow _ _ := .ok none
  generatePayload _ _ := .ok (article "a0")
  zeroCostLevers _ _ body _ _ := .ok (body, [])
  linkKinds _ := .ok []
  asDict _ := .ok []
  dofollowStatus _ := some .dofollow
  referralValue _ := none
  generateBanner _ _ _ := .ok .null
  raisedText _ := ""

def themedConfig : PlanConfig Unit where
  targetThreeUrl := [("https://money.site", ())]

def seedRow : Fields :=
  [("target_url", .text "https://money.site/a"), ("main_domain", .text "https://money.site"),
    ("language", .text "en"), ("platform", .text "blogger"), ("url_mode", .text "A"),
    ("publish_mode", .text "draft")]

/-- The second page of the site cannot be read. -/
def unreadable : Generator Failure Fields :=
  .yields (article "a1") (.raises (.error "page not readable"))

def readable : Generator Failure Fields := .yields (article "a1") (.yields (article "a2") .returns)

theorem atomic_iff_readable :
    ∃ outcome, planRows (themedHost readable) themedConfig [seedRow] = .ok outcome ∧
      (Atomic (themedHost readable) themedConfig [seedRow] outcome ↔
        ∀ row ∈ [seedRow].zipIdx 1, FailsFirst (themedHost readable) themedConfig row.2 row.1) := by
  have returns :
      (planRows (themedHost readable) themedConfig [seedRow]).toOption.isSome = true := by
    decide +kernel
  cases planned : planRows (themedHost readable) themedConfig [seedRow] with
  | error stopped =>
    rw [planned] at returns
    cases returns
  | ok outcome => exact ⟨outcome, rfl, atomic_iff planned⟩

/-- The row is dropped, and its first payload is in the outputs. -/
theorem dropped_row_emitted :
    ¬ ∀ (host : PlanHost Unit) (config : PlanConfig Unit) (rows : List Fields)
      (outcome : PlanOutcome), planRows host config rows = .ok outcome →
        Atomic host config rows outcome := by
  intro atomic
  have sizes : (planRows (themedHost unreadable) themedConfig [seedRow]).toOption.map
      (fun outcome => (outcome.outputs.length, outcome.drops)) = some (1, [1]) := by
    decide +kernel
  cases planned : planRows (themedHost unreadable) themedConfig [seedRow] with
  | error stopped =>
    rw [planned] at sizes
    cases sizes
  | ok outcome =>
    rw [planned] at sizes
    have same := Prod.mk.inj (Option.some.inj sizes)
    have ⟨_, segments, outputs, fates⟩ := atomic _ _ _ outcome planned
    rw [same.2] at fates
    cases fates with
    | cons first rest =>
      cases rest
      rcases first with ⟨_, empty⟩ | ⟨none_, _⟩
      · rw [outputs, empty] at same
        cases same.1
      · cases none_

end BacklinkPublisher.PlanRows
