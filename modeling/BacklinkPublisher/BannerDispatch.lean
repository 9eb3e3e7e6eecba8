import BacklinkPublisher.FallbackChain

set_option autoImplicit false

/-!
# Banners along the adapter chain

`apply` of `publishing/banner_dispatcher.py` inside the loop of `dispatch`. The payload is rebound
in the loop, so a body with an image stays for the adapters that come after.
-/
namespace BacklinkPublisher.BannerDispatch
open PublishErrors PublishSeams FallbackChain

/-- The `banner` field of a row; a plan-time failure leaves no path. -/
structure Banner where
  path : Option String
  alt : String := ""
  sourceUrl : Option String := none
  deriving DecidableEq, Repr

structure BannerEvent where
  kind : String
  platform : String
  reason : Option String := none
  deriving DecidableEq, Repr

/-- An entry of a chain with the answers that one dispatch gets from it. -/
structure Adapter where
  name : String
  mechanism : String := "api"
  available : Bool
  /-- What the constructor raises. -/
  construct : Option AdapterError := none
  /-- What `embed_banner` raises or returns, where the adapter has the method. -/
  embedBanner : Option (Except AdapterError (Option String)) := none
  publish : Except AdapterError AdapterResult

/-! ## The banner stage -/

def markdownImage (alt url : String) : String := "![" ++ alt ++ "](" ++ url ++ ")"

def withImage (alt url body : String) : String := markdownImage alt url ++ "\n\n" ++ body

def allowedSuffixes : List String := [".png", ".jpg", ".jpeg", ".gif", ".webp"]

def disallowedExtension (suffix : String) : AdapterError :=
  .of .bannerUploadError ("banner path has disallowed extension: '" ++ suffix ++ "'")

/-- A `source_url` is of use if it is there and not empty. -/
def Banner.usableSource (banner : Banner) : Option String :=
  banner.sourceUrl.filter fun url => url ≠ ""

/-- The two fallbacks to `source_url`, with the event of the one that has none. -/
def sourceFallback (banner : Banner) (platform reason skipped body : String) :
    String × List BannerEvent :=
  match banner.usableSource with
  | some url => (withImage banner.alt url body, [⟨"banner.source_url_fallback", platform, reason⟩])
  | none => (body, [⟨skipped, platform, none⟩])

/-- `apply` of the banner dispatcher: the body to publish and the events emitted. `suffix` is
`Path(raw).resolve().suffix`, which asks the file system. -/
def apply (suffix : String → String) (adapter : Adapter) (banner : Option Banner)
    (body platform : String) (strict : Bool) : Except AdapterError (String × List BannerEvent) :=
  match banner with
  | none => .ok (body, [])
  | some banner =>
    match banner.path with
    | none => .ok (body, [])
    | some rawPath =>
      match adapter.embedBanner with
      | none =>
        .ok (sourceFallback banner platform "adapter_no_method" "banner.skipped_no_method" body)
      | some uploaded =>
        if (suffix rawPath).toLower ∉ allowedSuffixes then
          .error (disallowedExtension (suffix rawPath))
        else match uploaded with
          | .error exc =>
            if exc.isInstance .bannerUploadError && !strict then
              .ok (body, [⟨"banner.failed", platform, exc.message⟩])
            else .error exc
          | .ok (some url) =>
            .ok (withImage banner.alt url body, [⟨"banner.embedded", platform, none⟩])
          | .ok none =>
            .ok (sourceFallback banner platform "adapter_returned_none"
              "banner.skipped_no_artifact" body)

/-! ## The loop -/

/-- What the loop reads beside the chain: `banner` is `banner_dict`, which is missing where no sink
for events is given. -/
structure Setting where
  isWord : Char → Bool
  suffix : String → String
  platform : String
  banner : Option Banner
  imageGenStrict : Bool

def Setting.doBanner (setting : Setting) : Bool := (setting.banner.bind Banner.path).isSome

def Setting.strict (setting : Setting) : Bool := setting.doBanner && setting.imageGenStrict

/-- What the `try` block does with an adapter: the body the payload has after it, whether `publish`
was called with that body, the events, and what came of it. -/
structure Turn where
  content : Option String
  published : Bool
  events : List BannerEvent
  attempt : Except AdapterError AdapterResult

def turn (setting : Setting) (adapter : Adapter) (content : Option String) : Turn :=
  match adapter.construct with
  | some exc => ⟨content, false, [], .error exc⟩
  | none =>
    if setting.doBanner then
      match apply setting.suffix adapter setting.banner (content.getD "") setting.platform
          setting.strict with
      | .error exc => ⟨content, false, [], .error exc⟩
      | .ok (newBody, events) =>
        ⟨if some newBody ≠ content then some newBody else content, true, events, adapter.publish⟩
    else ⟨content, true, [], adapter.publish⟩

/-- The calls of `publish` with the `content_markdown` each is handed, the events, and what the
dispatch returns or raises. -/
structure BannerEnd where
  publishes : List (Adapter × Option String)
  events : List BannerEvent
  outcome : Except AdapterError AdapterResult

def BannerEnd.after (finish : BannerEnd) (adapter : Adapter) (turn : Turn) : BannerEnd where
  publishes :=
    if turn.published then (adapter, turn.content) :: finish.publishes else finish.publishes
  events := turn.events ++ finish.events
  outcome := finish.outcome

/-- The adapter as the entry of a chain whose bodies do not matter. -/
def Adapter.entry (setting : Setting) (adapter : Adapter) : Entry where
  name := adapter.name
  mechanism := adapter.mechanism
  available := adapter.available
  stage :=
    match adapter.construct with
    | some exc => some exc
    | none =>
      if setting.doBanner then
        match apply setting.suffix adapter setting.banner "" setting.platform setting.strict with
        | .error exc => some exc
        | .ok _ => none
      else none
  publish := adapter.publish

def walk (setting : Setting) :
    List Adapter → Option AdapterError → Option PendingTransient → Option String → BannerEnd
  | [], _, some pending, _ => ⟨[], [], .error pending.exc⟩
  | [], some exc, none, _ => ⟨[], [], .error exc⟩
  | [], none, none, _ => ⟨[], [], .error (noAvailableAdapter setting.platform)⟩
  | adapter :: chain, lastDepError, pending, content =>
    match pending.filter (fun pending =>
      !pending.fallsBack setting.isWord setting.platform (adapter.entry setting)) with
    | some pending => ⟨[], [], .error pending.exc⟩
    | none =>
      if !adapter.available then walk setting chain lastDepError pending content
      else
        let turn := turn setting adapter content
        match turn.attempt with
        | .ok result => BannerEnd.after ⟨[], [], .ok result⟩ adapter turn
        | .error exc => match exc.arm with
          | .authExpired | .uncaught => BannerEnd.after ⟨[], [], .error exc⟩ adapter turn
          | .dependency => (walk setting chain (some exc) none turn.content).after adapter turn
          | .externalService =>
            (walk setting chain lastDepError (some ⟨exc, adapter.name, adapter.mechanism⟩)
              turn.content).after adapter turn

/-- What `dispatch` reads of a payload. -/
structure Payload where
  platform : String := ""
  contentMarkdown : Option String := none
  banner : Option Banner := none

/-- `bannerEmit` says whether a sink for events is given. -/
def Payload.setting (payload : Payload) (isWord : Char → Bool) (suffix : String → String)
    (bannerEmit imageGenStrict : Bool) : Setting where
  isWord
  suffix
  platform := payload.platform
  banner := if bannerEmit then payload.banner else none
  imageGenStrict

def dispatch (isWord : Char → Bool) (suffix : String → String)
    (registry : String → Option (List Adapter)) (payload : Payload)
    (dryRun bannerEmit imageGenStrict : Bool) : BannerEnd :=
  if dryRun then
    ⟨[], [], .ok { status := "draft", adapter := payload.platform ++ "-api"
                   platform := payload.platform }⟩
  else match registry payload.platform with
    | none =>
      ⟨[], [], .error (.of .externalServiceError ("unsupported platform: " ++ payload.platform))⟩
    | some chain =>
      walk (payload.setting isWord suffix bannerEmit imageGenStrict) chain none none
        payload.contentMarkdown

/-! ## The image of an adapter -/

/-- The image a body gets for this adapter, whatever the body. -/
def bannerImage (suffix : String → String) (adapter : Adapter) (banner : Banner)
    (rawPath : String) : Option String :=
  match adapter.embedBanner with
  | none => banner.usableSource
  | some uploaded =>
    if (suffix rawPath).toLower ∉ allowedSuffixes then none
    else match uploaded with
      | .error _ => none
      | .ok (some url) => some url
      | .ok none => banner.usableSource

def Setting.image (setting : Setting) (adapter : Adapter) : Option (String × String) :=
  setting.banner.bind fun banner => banner.path.bind fun rawPath =>
    (bannerImage setting.suffix adapter banner rawPath).map fun url => (banner.alt, url)

/-- The body with the image line in front, if there is one. -/
def prepend (image : Option (String × String)) (body : String) : String :=
  match image with
  | none => body
  | some (alt, url) => withImage alt url body

/-- Every adapter is handed the original body with no other image than its own. -/
def EmbedsOnce (image : Adapter → Option (String × String)) (body : Option String)
    (finish : BannerEnd) : Prop :=
  ∀ adapter content, (adapter, content) ∈ finish.publishes →
    content.getD "" = prepend (image adapter) (body.getD "")

/-- `publish` of the adapter at `i` is called. -/
def Publishes (setting : Setting) (chain : List Adapter) (i : ℕ) (adapter : Adapter) : Prop :=
  chain[i]? = some adapter ∧
    TurnComes setting.isWord setting.platform (chain.map (Adapter.entry setting)) i
      (adapter.entry setting) ∧
    (adapter.entry setting).stage = none

/-- An adapter that put an image is not the last to publish. -/
def CarriesImage (setting : Setting) (chain : List Adapter) : Prop :=
  ∃ i j adapter later, i < j ∧ Publishes setting chain i adapter ∧
    Publishes setting chain j later ∧ (setting.image adapter).isSome = true

/-! ## One turn -/

theorem sourceFallback_fst (banner : Banner) (platform reason skipped body : String) :
    (sourceFallback banner platform reason skipped body).1 =
      prepend (banner.usableSource.map fun url => (banner.alt, url)) body := by
  unfold sourceFallback
  cases banner.usableSource with
  | none => rfl
  | some url => rfl

theorem sourceFallback_snd (banner : Banner) (platform reason skipped body : String) :
    (sourceFallback banner platform reason skipped body).2 =
      (sourceFallback banner platform reason skipped "").2 := by
  unfold sourceFallback
  cases banner.usableSource with
  | none => rfl
  | some url => rfl

/-- Whether the stage raises, and which image and events it gives, does not depend on the body. -/
theorem apply_uniform (setting : Setting) (adapter : Adapter) :
    ∃ outcome : Except AdapterError (List BannerEvent), ∀ body,
      apply setting.suffix adapter setting.banner body setting.platform setting.strict =
        outcome.map fun events => (prepend (setting.image adapter) body, events) := by
  unfold apply Setting.image
  cases setting.banner with
  | none => exact ⟨.ok [], fun _ => rfl⟩
  | some banner =>
    dsimp only [Option.bind_some]
    cases banner.path with
    | none => exact ⟨.ok [], fun _ => rfl⟩
    | some rawPath =>
      dsimp only [Option.bind_some]
      unfold bannerImage
      cases adapter.embedBanner with
      | none =>
        refine ⟨.ok (sourceFallback banner setting.platform "adapter_no_method"
          "banner.skipped_no_method" "").2, fun body => ?_⟩
        exact congrArg Except.ok (Prod.ext (sourceFallback_fst ..) (sourceFallback_snd ..))
      | some uploaded =>
        dsimp only
        by_cases disallowed : (setting.suffix rawPath).toLower ∉ allowedSuffixes
        · rw [if_pos disallowed]
          exact ⟨.error _, fun _ => if_pos disallowed⟩
        · simp only [if_neg disallowed]
          cases uploaded with
          | error exc =>
            by_cases absorbed : exc.isInstance .bannerUploadError && !setting.strict
            · exact ⟨.ok [⟨"banner.failed", setting.platform, exc.message⟩],
                fun _ => if_pos absorbed⟩
            · exact ⟨.error exc, fun _ => if_neg absorbed⟩
          | ok url =>
            cases url with
            | some url => exact ⟨.ok [⟨"banner.embedded", setting.platform, none⟩], fun _ => rfl⟩
            | none =>
              refine ⟨.ok (sourceFallback banner setting.platform "adapter_returned_none"
                "banner.skipped_no_artifact" "").2, fun body => ?_⟩
              exact congrArg Except.ok (Prod.ext (sourceFallback_fst ..) (sourceFallback_snd ..))

theorem image_eq_none {setting : Setting} (no_banner : setting.doBanner = false)
    (adapter : Adapter) : setting.image adapter = none := by
  unfold Setting.doBanner at no_banner
  unfold Setting.image
  cases given : setting.banner with
  | none => rfl
  | some banner =>
    rw [given, Option.bind_some] at no_banner
    have missing : banner.path = none := by simpa using no_banner
    rw [Option.bind_some, missing]
    rfl

theorem turn_of_stage {setting : Setting} {adapter : Adapter} {exc : AdapterError}
    (raises : (adapter.entry setting).stage = some exc) (content : Option String) :
    turn setting adapter content = ⟨content, false, [], .error exc⟩ := by
  unfold Adapter.entry at raises
  unfold turn
  cases built : adapter.construct with
  | some exc' =>
    rw [built] at raises
    rw [Option.some.inj raises]
  | none =>
    have ⟨outcome, uniform⟩ := apply_uniform setting adapter
    simp only [built, uniform] at raises ⊢
    by_cases banner : setting.doBanner = true
    · rw [if_pos banner] at raises ⊢
      cases outcome with
      | error exc' => rw [← Option.some.inj raises]; rfl
      | ok events => cases raises
    · rw [if_neg banner] at raises
      cases raises

/-- What `publish` is called with is the body before the turn with this adapter's image. -/
theorem turn_of_no_stage {setting : Setting} {adapter : Adapter}
    (passes : (adapter.entry setting).stage = none) (content : Option String) :
    (turn setting adapter content).published = true ∧
      (turn setting adapter content).attempt = adapter.publish ∧
      (turn setting adapter content).content.getD "" =
        prepend (setting.image adapter) (content.getD "") := by
  unfold Adapter.entry at passes
  unfold turn
  cases built : adapter.construct with
  | some exc =>
    rw [built] at passes
    cases passes
  | none =>
    have ⟨outcome, uniform⟩ := apply_uniform setting adapter
    simp only [built, uniform] at passes ⊢
    by_cases banner : setting.doBanner = true
    · rw [if_pos banner] at passes ⊢
      cases outcome with
      | error exc => cases passes
      | ok events =>
        refine ⟨rfl, rfl, ?_⟩
        dsimp only [Except.map]
        split_ifs with same
        · rfl
        · exact (congrArg (Option.getD · "") (not_not.1 same)).symm
    · rw [if_neg banner, image_eq_none (by simpa using banner)]
      exact ⟨rfl, rfl, rfl⟩

theorem attempt_turn (setting : Setting) (adapter : Adapter) (content : Option String) :
    (turn setting adapter content).attempt = (adapter.entry setting).attempt := by
  unfold Entry.attempt
  cases stage : (adapter.entry setting).stage with
  | some exc => rw [turn_of_stage stage]
  | none => exact (turn_of_no_stage stage content).2.1

/-! ## The bodies of a run -/

/-- The bodies handed out along a list of adapters that all publish. -/
def handed (image : Adapter → Option (String × String)) : List Adapter → String →
    List (Adapter × String)
  | [], _ => []
  | adapter :: adapters, body =>
    (adapter, prepend (image adapter) body) :: handed image adapters (prepend (image adapter) body)

open Classical in
/-- The adapters of `rest`, which begins at `n`, that publish. -/
noncomputable def publishers (setting : Setting) (chain rest : List Adapter) (n : ℕ) :
    List (Adapter × ℕ) :=
  (rest.zipIdx n).filter fun adapter => adapter.1.available = true ∧
    Passed setting.isWord setting.platform (chain.map (Adapter.entry setting)) adapter.2
      (adapter.2 + 1) ∧
    (adapter.1.entry setting).stage = none

section Run
variable {setting : Setting} {chain : List Adapter}

theorem publishers_eq_nil {rest : List Adapter} {n : ℕ}
    (ended : ∀ m, n ≤ m → ¬ Passed setting.isWord setting.platform
      (chain.map (Adapter.entry setting)) m (m + 1)) :
    publishers setting chain rest n = [] := by
  unfold publishers
  rw [List.filter_eq_nil_iff]
  intro adapter hmem
  have later : n ≤ adapter.2 := List.le_snd_of_mem_zipIdx hmem
  simp [ended adapter.2 later]

theorem publishers_cons {adapter : Adapter} {rest : List Adapter} {n : ℕ}
    (passed : Passed setting.isWord setting.platform (chain.map (Adapter.entry setting)) n
      (n + 1)) :
    publishers setting chain (adapter :: rest) n =
      if adapter.available = true ∧ (adapter.entry setting).stage = none then
        (adapter, n) :: publishers setting chain rest (n + 1)
      else publishers setting chain rest (n + 1) := by
  unfold publishers
  rw [List.zipIdx_cons, List.filter_cons]
  simp [passed]

def BannerEnd.bodies (finish : BannerEnd) : List (Adapter × String) :=
  finish.publishes.map fun handed => (handed.1, handed.2.getD "")

/-- After a turn the rest of the run is handed the body as that turn left it. -/
theorem bodies_after {adapter : Adapter} {content : Option String} {finish : BannerEnd}
    {rest : List Adapter}
    (later : finish.bodies =
      handed setting.image rest ((turn setting adapter content).content.getD "")) :
    (finish.after adapter (turn setting adapter content)).bodies =
      handed setting.image
        (if (adapter.entry setting).stage = none then adapter :: rest else rest)
        (content.getD "") := by
  cases stage : (adapter.entry setting).stage with
  | some exc =>
    rw [turn_of_stage stage] at later ⊢
    exact later
  | none =>
    have ⟨published, _, body⟩ := turn_of_no_stage stage content
    rw [body] at later
    unfold BannerEnd.after BannerEnd.bodies at *
    dsimp only
    rw [if_pos published, List.map_cons, later, body, if_pos rfl]
    rfl

theorem walk_bodies (rest : List Adapter) (n : ℕ) (lastDepError : Option AdapterError)
    (pending : Option PendingTransient) (content : Option String) (hdrop : chain.drop n = rest)
    (head : Head setting.isWord setting.platform (chain.map (Adapter.entry setting)) n pending) :
    (walk setting rest lastDepError pending content).bodies =
      handed setting.image ((publishers setting chain rest n).map Prod.fst) (content.getD "") := by
  induction rest generalizing n lastDepError pending content with
  | nil => cases pending <;> cases lastDepError <;> rfl
  | cons adapter rest ih =>
    have hentries : (chain.map (Adapter.entry setting)).drop n =
        adapter.entry setting :: rest.map (Adapter.entry setting) := by
      rw [← List.map_drop, hdrop, List.map_cons]
    have htail : chain.drop (n + 1) = rest := by
      rw [← List.tail_drop, hdrop, List.tail_cons]
    have ⟨hentry, _⟩ := getElem?_of_drop hentries
    rw [walk]
    cases gate : pending.filter fun pending =>
        !pending.fallsBack setting.isWord setting.platform (adapter.entry setting) with
    | some waiting =>
      rw [publishers_eq_nil fun m hm => head.blocked hentry gate hm (by omega)]
      rfl
    | none =>
      have passed := head.open hentry gate
      rw [publishers_cons passed]
      cases available : adapter.available with
      | false =>
        simp only [Bool.false_eq_true, false_and, if_false]
        exact ih (n + 1) _ _ _ htail (head.skip hentry passed available)
      | true =>
        simp only [Bool.not_true, Bool.false_eq_true, if_false, true_and]
        have answers := attempt_turn setting adapter content
        have stopped (stops : ∀ exc, (adapter.entry setting).attempt = .error exc →
            exc.arm = .authExpired ∨ exc.arm = .uncaught) :
            publishers setting chain rest (n + 1) = [] :=
          publishers_eq_nil fun m hm => not_passed_of_stop hentry available stops hm
        have shape : ((if (adapter.entry setting).stage = none then
            (adapter, n) :: publishers setting chain rest (n + 1)
            else publishers setting chain rest (n + 1)).map Prod.fst) =
          if (adapter.entry setting).stage = none then
            adapter :: (publishers setting chain rest (n + 1)).map Prod.fst
          else (publishers setting chain rest (n + 1)).map Prod.fst := by
          split_ifs
          · rfl
          · rfl
        rw [shape]
        cases raised : (adapter.entry setting).attempt with
        | ok result =>
          rw [raised] at answers
          rw [answers]
          apply bodies_after
          rw [stopped fun exc h => by rw [raised] at h; cases h]
          rfl
        | error exc =>
          rw [raised] at answers
          rw [answers]
          dsimp only
          cases arm : exc.arm with
          | authExpired =>
            apply bodies_after
            rw [stopped fun exc' h => .inl (by rw [raised] at h; rw [← Except.error.inj h, arm])]
            rfl
          | uncaught =>
            apply bodies_after
            rw [stopped fun exc' h => .inr (by rw [raised] at h; rw [← Except.error.inj h, arm])]
            rfl
          | dependency =>
            apply bodies_after
            exact ih (n + 1) _ _ _ htail
              (Head.turn hentry passed available raised (.inl ⟨arm, rfl⟩))
          | externalService =>
            apply bodies_after
            exact ih (n + 1) _ _ _ htail
              (Head.turn hentry passed available raised (.inr ⟨arm, rfl⟩))

end Run

/-! ## When each body has one image -/

theorem prepend_injective (image : Option (String × String)) {body body' : String}
    (same : prepend image body = prepend image body') : body = body' := by
  cases image with
  | none => exact same
  | some image =>
    unfold prepend withImage at same
    exact (String.append_right_inj _).1 same

theorem prepend_ne (image : String × String) (body : String) : prepend (some image) body ≠ body := by
  intro same
  have length := congrArg String.length same
  unfold prepend withImage markdownImage at length
  simp only [String.length_append] at length
  have bang : "![".length = 2 := rfl
  omega

theorem handed_once_iff (image : Adapter → Option (String × String)) (adapters : List Adapter)
    (body : String) :
    (∀ pair ∈ handed image adapters body, pair.2 = prepend (image pair.1) body) ↔
      adapters.Pairwise fun adapter _ => image adapter = none := by
  induction adapters generalizing body with
  | nil => simp [handed]
  | cons adapter adapters ih =>
    unfold handed
    rw [List.forall_mem_cons, List.pairwise_cons]
    cases put : image adapter with
    | none =>
      have unchanged : prepend none body = body := rfl
      rw [unchanged, ih]
      simp
    | some own =>
      cases adapters with
      | nil => simp [handed]
      | cons next adapters =>
        constructor
        · rintro ⟨_, rest⟩
          have first := rest _ List.mem_cons_self
          exact absurd (prepend_injective _ first) (prepend_ne own body)
        · rintro ⟨missing, _⟩
          cases missing next List.mem_cons_self

theorem publishers_pairwise_iff (setting : Setting) (chain : List Adapter) :
    (((publishers setting chain chain 0).map Prod.fst).Pairwise fun adapter _ =>
      setting.image adapter = none) ↔ ¬ CarriesImage setting chain := by
  rw [List.pairwise_map]
  unfold publishers
  rw [List.pairwise_filter, List.pairwise_iff_getElem]
  simp only [List.getElem_zipIdx, List.length_zipIdx, Nat.zero_add, decide_eq_true_eq]
  have entry_at : ∀ (i : ℕ) (adapter : Adapter), chain[i]? = some adapter →
      (chain.map (Adapter.entry setting))[i]? = some (adapter.entry setting) := by
    intro i adapter found
    rw [List.getElem?_map, found, Option.map_some]
  constructor
  · rintro pairwise ⟨i, j, adapter, later, before, ⟨found, ⟨_, available, passed⟩, stage⟩,
      ⟨found', ⟨_, available', passed'⟩, stage'⟩, put⟩
    obtain ⟨hi, rfl⟩ := List.getElem?_eq_some_iff.1 found
    obtain ⟨hj, rfl⟩ := List.getElem?_eq_some_iff.1 found'
    have missing := pairwise i j hi hj before ⟨available, passed, stage⟩
      ⟨available', passed', stage'⟩
    rw [missing] at put
    cases put
  · intro clean i j hi hj before ⟨available, passed, stage⟩ ⟨available', passed', stage'⟩
    rw [← Option.not_isSome_iff_eq_none]
    intro put
    have found := List.getElem?_eq_getElem hi
    have found' := List.getElem?_eq_getElem hj
    exact clean ⟨i, j, _, _, before, ⟨found, ⟨entry_at i _ found, available, passed⟩, stage⟩,
      ⟨found', ⟨entry_at j _ found', available', passed'⟩, stage'⟩, put⟩

theorem embedsOnce_iff_bodies (image : Adapter → Option (String × String)) (body : Option String)
    (finish : BannerEnd) : EmbedsOnce image body finish ↔
      ∀ pair ∈ finish.bodies, pair.2 = prepend (image pair.1) (body.getD "") := by
  unfold EmbedsOnce BannerEnd.bodies
  rw [List.forall_mem_map]
  exact ⟨fun once pair held => once pair.1 pair.2 held,
    fun once adapter content held => once (adapter, content) held⟩

/-- Every adapter gets the original body with its own image alone exactly when no adapter that put
an image is followed by another that publishes. -/
theorem dispatch_embedsOnce_iff (isWord : Char → Bool) (suffix : String → String)
    (registry : String → Option (List Adapter)) (payload : Payload)
    (dryRun bannerEmit imageGenStrict : Bool) :
    EmbedsOnce (payload.setting isWord suffix bannerEmit imageGenStrict).image
        payload.contentMarkdown
        (dispatch isWord suffix registry payload dryRun bannerEmit imageGenStrict) ↔
      dryRun = true ∨ ∀ chain, registry payload.platform = some chain →
        ¬ CarriesImage (payload.setting isWord suffix bannerEmit imageGenStrict) chain := by
  unfold dispatch
  cases dryRun with
  | true => simp [EmbedsOnce]
  | false =>
    cases found : registry payload.platform with
    | none => simp [EmbedsOnce]
    | some chain =>
      rw [embedsOnce_iff_bodies]
      simp only [Bool.false_eq_true, if_false, false_or, Option.some.injEq, forall_eq']
      rw [walk_bodies chain 0 none none _ rfl Head.start, handed_once_iff,
        publishers_pairwise_iff]

/-! ## Medium with a banner that has a `source_url` -/

def apiAdapter : Adapter :=
  { name := "MediumAPIAdapter", available := true, publish := .error rateLimited }

def braveAdapter : Adapter :=
  { name := "MediumBraveAdapter", mechanism := "browser", available := true
    publish := .ok { status := "draft", adapter := "medium-brave", platform := "medium" } }

def bannerPayload : Payload where
  platform := "medium"
  contentMarkdown := some "body"
  banner := some { path := some "/tmp/b.png", alt := "b", sourceUrl := some "https://e.x/b.png" }

/-- A whitelisted rate limit hands the row to the second adapter with the first one's image. -/
theorem dispatch_embeds_twice :
    ¬ EmbedsOnce (bannerPayload.setting asciiWord (fun _ => ".png") true false).image
      bannerPayload.contentMarkdown
      (dispatch asciiWord (fun _ => ".png") (fun _ => some [apiAdapter, braveAdapter])
        bannerPayload false true false) := by
  have second : ((dispatch asciiWord (fun _ => ".png") (fun _ => some [apiAdapter, braveAdapter])
      bannerPayload false true false).publishes[1]?.map fun handed =>
        decide (handed.2.getD "" = prepend ((bannerPayload.setting asciiWord (fun _ => ".png") true
          false).image handed.1) "body")) = some false := by
    decide +kernel
  intro once
  rw [Option.map_eq_some_iff] at second
  have ⟨⟨adapter, content⟩, handed, differs⟩ := second
  exact of_decide_eq_false differs (once adapter content (List.mem_of_getElem? handed))

end BacklinkPublisher.BannerDispatch
