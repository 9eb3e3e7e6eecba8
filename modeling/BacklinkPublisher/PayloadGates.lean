import BacklinkPublisher.OutputSchema
import BacklinkPublisher.UrlSplit

set_option autoImplicit false

/-!
# The gates of a payload

`_enhance_payload` of `_validate_engine/_payload.py`, with `check_anchor_language` of
`anchor/lang.py`. How a text's language is detected is left to the host.
-/
namespace BacklinkPublisher.PayloadGates
open ConfigSections (isSpace)
open JsonValues OutputSchema
open scoped Texts

/-- Where a banner's path resolves to. -/
inductive BannerPlace where
  | outside
  | missing
  | there
  deriving DecidableEq, Repr

/-- What the gates take from elsewhere: NFC, the detectors of `linkcheck/language.py`, the patterns
of Latin anchors, the `<a href>` values of the HTML parser, the punycode of a host name and the
control characters of Unicode, the place of a path, and a ratio in percent. -/
structure GateHost extends SchemaHost where
  unicode : UrlSplit.UnicodeData
  nfc : String → String
  detectMarkdown : String → String
  detectHtml : String → String
  latinPatterns : List String
  hrefs : String → List String
  idna : List Char → Option (List Char)
  isControl : Char → Bool
  bannerPlace : String → Except Raised BannerPlace
  percent : ℕ → ℕ → String

/-- The branded pool of a main domain, where there is a configuration. -/
abbrev BrandedPools := Option (Json → List String)

def supportedLanguages : List String := ["zh-CN", "ru", "en", "ko"]

/-! ## Anchors -/

def countIn (low high : ℕ) (text : String) : ℕ :=
  text.toList.countP fun c => low ≤ c.toNat && c.toNat ≤ high

def hasIn (low high : ℕ) (text : String) : Bool :=
  text.toList.any fun c => low ≤ c.toNat && c.toNat ≤ high

def hasCjk : String → Bool := hasIn 0x4E00 0x9FFF

def hasCyrillic : String → Bool := hasIn 0x0400 0x04FF

def hasHangul : String → Bool := hasIn 0xAC00 0xD7AF

def hasLatinLetter (text : String) : Bool := text.toList.any Char.isAlpha

section Gates
variable (host : GateHost)

def isAllowedLatinAnchor (anchor : String) : Bool :=
  let lower := String.ofList (host.unicode.lower anchor.toList)
  host.latinPatterns.any fun pattern => contains pattern lower

/-- The rules of the languages; the text is why an anchor fails. -/
def languageRule (language anchor : String) : Option String :=
  if language = "zh-CN" then
    if hasCjk anchor || isAllowedLatinAnchor host anchor then none
    else some "anchor missing CJK codepoint"
  else if language = "ru" then
    if hasCyrillic anchor then none else some "anchor missing Cyrillic codepoint"
  else if language = "en" then
    if !hasLatinLetter anchor then some "anchor missing Latin letter"
    else if hasCjk anchor then some "en anchor contains CJK codepoint"
    else if hasCyrillic anchor then some "en anchor contains Cyrillic codepoint"
    else none
  else
    if !hasHangul anchor then some "anchor missing Hangul codepoint"
    else if hasCjk anchor then some "ko anchor contains CJK codepoint"
    else if hasCyrillic anchor then some "ko anchor contains Cyrillic codepoint"
    else none

def gatedKinds : List String := ["main_domain", "target"]

/-- The anchors of a `PlannedPayload` are texts. -/
def checkAnchorLanguage (anchor : Json) (rowLanguage : String) (linkKind : Json)
    (brandedPool : List String) : Except Raised (Option String) :=
  if hashable linkKind = false then .error .typeError
  else if isOneOf gatedKinds linkKind = false then .ok none
  else if isOneOf brandedPool anchor then .ok none
  else if rowLanguage ∉ supportedLanguages then .ok none
  else
    match anchor with
    | .text anchor => .ok (languageRule host rowLanguage anchor)
    | _ => .error .typeError

def resolveBrandedPool (row : Fields) (config : BrandedPools) : List String :=
  let snapshot := ((get "metadata" row).bind Json.asObject).bind fun metadata =>
    (get "branded_pool" metadata).bind Json.asArray
  match snapshot with
  | some snap => snap.map host.format
  | none =>
    match config with
    | none => []
    | some pools =>
      let mainDomain := (get "main_domain" row).getD (.text "")
      if mainDomain.truthy then pools mainDomain else []

/-! ## NFC -/

def nfcField (field : String) (fields : Fields) : Fields :=
  match get field fields with
  | some (.text s) => setItem field (.text (host.nfc s)) fields
  | _ => fields

def nfcLink : Json → Json
  | .object link => .object (nfcField host "anchor" link)
  | link => link

/-- `_nfc_normalize_in_place`. -/
def nfcNormalize (row : Fields) : Fields :=
  let row := nfcField host "content_html" (nfcField host "content_markdown" row)
  match get "links" row with
  | some (.array links) => setItem "links" (.array (links.map (nfcLink host))) row
  | _ => row

/-! ## The language of the body -/

inductive SourceUsed where
  | markdown
  | html
  | bothMatch
  | bothMismatch (tag : String)
  | absent
  deriving DecidableEq, Repr

/-- The text under a field, where it is present. -/
def present (field : String) (row : Fields) : Option String :=
  match get field row with
  | some (.text s) => if isFieldPresent (some (.text s)) then some s else none
  | _ => none

def detectRowBodyLanguage (row : Fields) : String × SourceUsed :=
  match present "content_markdown" row, present "content_html" row with
  | some md, some html =>
    let mdLang := host.detectMarkdown md
    let htmlLang := host.detectHtml html
    if mdLang = htmlLang then (mdLang, .bothMatch)
    else ("unknown", .bothMismatch s!"md={mdLang}/html={htmlLang}")
  | some md, none => (host.detectMarkdown md, .markdown)
  | none, some html => (host.detectHtml html, .html)
  | none, none => ("unknown", .absent)

def languageMatches (detected requested : String) : Bool :=
  detected = "unknown" || requested = "unknown" || detected ∉ supportedLanguages ||
    requested ∉ supportedLanguages || detected = requested

/-- `row.get("content_markdown") or row.get("content_html") or ""`. -/
def bodyText (row : Fields) : String :=
  match (get "content_markdown" row).filter Json.truthy,
    (get "content_html" row).filter Json.truthy with
  | some (.text md), _ => md
  | _, some (.text html) => html
  | _, _ => ""

/-- The CJK and Hangul characters, and those with the Latin letters. -/
def cjkCounts (text : String) : ℕ × ℕ :=
  let cjk := countIn 0x4E00 0x9FFF text + countIn 0xAC00 0xD7AF text
  (cjk, text.toList.countP Char.isAlpha + cjk)

/-- A share of 0.30. -/
def cjkRelaxed (text : String) : Bool :=
  let (cjk, total) := cjkCounts text
  0 < total && 3 * total ≤ 10 * cjk

def mismatchError (tag : String) : String :=
  "body language mismatch between content_markdown and content_html (" ++ tag ++
    "); operator must use single-source workflow or update both fields"

/-- The errors and the warnings. A `validation` that is no dict takes no mark of the relaxation. -/
def checkBodyLanguageGate (row : Fields) (detected : String) (sourceUsed : SourceUsed)
    (requested : String) : Except Raised (List String × List String) :=
  match sourceUsed with
  | .bothMismatch tag => .ok ([mismatchError tag], [])
  | _ =>
    let failed := s!"body language '{detected}' does not match requested '{requested}'"
    if languageMatches detected requested then .ok ([], [])
    else if requested = "zh-CN" ∧ cjkRelaxed (bodyText row) = true then
      let (cjk, total) := cjkCounts (bodyText row)
      let ratio := host.percent cjk total
      let relaxed := s!"body language '{detected}' != requested 'zh-CN', but CJK ratio " ++
        s!"({ratio}) suggests zh-CN content; downgraded from error. Best practice: ensure ≥30% " ++
        "of the body text uses CJK codepoints."
      match (get "validation" row).getD (.object []) with
      | .object _ => .ok ([], [relaxed])
      | _ => .error .typeError
    else .ok ([failed], [])

/-! ## The host of the HTML -/

/-- A user name or a password before the host. -/
def hasUserinfo (netloc : List Char) : Bool :=
  let info := netloc.take (netloc.length - (UrlSplit.afterUserinfo netloc).length - 1)
  decide ('@' ∈ netloc) && decide (info ∉ [[], [':']])

def strip (s : String) : List Char := (s.toList.dropWhile isSpace).rdropWhile isSpace

/-- The host name of a web link that can be compared. -/
def linkHost (href : String) : Option (List Char) :=
  (UrlSplit.urlsplit host.unicode (strip href)).bind fun parsed =>
    if host.unicode.lower parsed.scheme ∉ ["http".toList, "https".toList] then none
    else if hasUserinfo parsed.netloc then none
    else
      (UrlSplit.hostname host.unicode parsed.netloc).bind fun name =>
        if ':' ∈ name then none
        else if name.any fun c => isSpace c || host.isControl c then none
        else host.idna name

def checkMainDomainInHtml (html mainDomainNormalized : String) : Bool :=
  let target := host.unicode.lower (strip mainDomainNormalized)
  mainDomainNormalized ≠ "" &&
    (host.hrefs html).any fun href => (linkHost host href).any fun name =>
      name = target || ('.' :: target).isSuffixOf name

/-! ## The payload -/

def resolveBannerPath (banner : Fields) : Except Raised (Option String) :=
  match get "path" banner with
  | some (.text path) =>
    if path = "" then .ok none
    else
      match host.bannerPlace path with
      | .error raised => .error raised
      | .ok .outside => .ok (some s!"banner_path outside allowed directory: {path}")
      | .ok .missing => .ok (some s!"banner.path points to a file that does not exist: {path}")
      | .ok .there => .ok none
  | _ => .ok none

def linkField (field : String) : Json → Json
  | .object link => (get field link).getD (.text "")
  | _ => .text ""

def anchorErrors (requested : String) (brandedPool : List String) (idx : ℕ) (link : Json) :
    Except Raised (List String) :=
  (checkAnchorLanguage host (linkField "anchor" link) requested (linkField "kind" link)
    brandedPool).map fun reason =>
      let anchor := host.repr (linkField "anchor" link)
      reason.toList.map fun reason => s!"link[{idx}] anchor {anchor} failed: {reason}"

/-- The links of a `PlannedPayload` are a list. -/
def linksOf (row : Fields) : List Json := ((get "links" row).bind Json.asArray).getD []

def languageErrors (row : Fields) (config : BrandedPools) :
    Except Raised (List String × List String) :=
  match (get "language" row).getD (.text "") with
  | .text requested =>
    if requested ∉ supportedLanguages then .ok ([], [])
    else
      let (detected, sourceUsed) := detectRowBodyLanguage host row
      match checkBodyLanguageGate host row detected sourceUsed requested with
      | .error raised => .error raised
      | .ok (errors, warnings) =>
        match (linksOf row).zipIdx.mapM fun (link, idx) =>
          anchorErrors host requested (resolveBrandedPool host row config) idx link with
        | .error raised => .error raised
        | .ok anchors => .ok (errors ++ anchors.flatten, warnings)
  | requested => if hashable requested then .ok ([], []) else .error .typeError

def htmlErrors (row : Fields) : List String :=
  match present "content_html" row with
  | none => []
  | some html =>
    match (get "main_domain_normalized" row).getD (.text "") with
    | .text domain =>
      if domain = "" then
        ["content_html present but main_domain_normalized missing — " ++
          "schema-time normalization should have populated it"]
      else if checkMainDomainInHtml host html domain then []
      else
        [s!"main_domain '{domain}' is not the host of any <a href> in content_html (substring " ++
          "matches in comments / attributes do not count)"]
    | _ =>
      ["content_html present but main_domain_normalized missing — " ++
        "schema-time normalization should have populated it"]

def bannerErrors (row : Fields) : Except Raised (List String) :=
  match get "banner" row with
  | some (.object banner) => (resolveBannerPath host banner).map Option.toList
  | _ => .ok []

/-- The errors and the warnings of a normalized row. -/
def gateErrors (row : Fields) (config : BrandedPools) :
    Except Raised (List String × List String) :=
  match languageErrors host row config with
  | .error raised => .error raised
  | .ok (errors, warnings) =>
    match bannerErrors host row with
    | .error raised => .error raised
    | .ok banner => .ok (errors ++ htmlErrors host row ++ banner, warnings)

def validationBlock (checkedAt : String) (warnings errors : List String) : Json :=
  .object [("status", .text (if errors = [] then "passed" else "failed")),
    ("checked_at", .text checkedAt), ("warnings", .array (warnings.map Json.text)),
    ("errors", .array (errors.map Json.text))]

def enhancePayload (checkedAt : String) (row : Fields) (config : BrandedPools) :
    Except Raised Fields :=
  let row := nfcNormalize host row
  match gateErrors host row config with
  | .error raised => .error raised
  | .ok (errors, warnings) =>
    .ok (setItem "validation" (validationBlock checkedAt warnings errors) row)

end Gates

/-! ## What the gates ask -/

/-- The anchor has letters of the language, and none of those that it must not have. -/
structure Speaks (host : GateHost) (language anchor : String) : Prop where
  zhCn : language = "zh-CN" → hasCjk anchor = true ∨ isAllowedLatinAnchor host anchor = true
  ru : language = "ru" → hasCyrillic anchor = true
  en : language = "en" →
    hasLatinLetter anchor = true ∧ hasCjk anchor = false ∧ hasCyrillic anchor = false
  ko : language = "ko" →
    hasHangul anchor = true ∧ hasCjk anchor = false ∧ hasCyrillic anchor = false

/-- The two bodies agree, and what is detected is what is requested, or close enough. -/
structure BodySpeaks (host : GateHost) (row : Fields) (requested : String) : Prop where
  one : ∀ md html, present "content_markdown" row = some md →
    present "content_html" row = some html → host.detectMarkdown md = host.detectHtml html
  same : languageMatches (detectRowBodyLanguage host row).1 requested = true ∨
    requested = "zh-CN" ∧ cjkRelaxed (bodyText row) = true

/-- What a normalized row needs to pass. -/
structure ContentGates (host : GateHost) (row : Fields) (config : BrandedPools) : Prop where
  body : ∀ requested ∈ supportedLanguages, get "language" row = some (.text requested) →
    BodySpeaks host row requested
  anchors : ∀ requested ∈ supportedLanguages, get "language" row = some (.text requested) →
    ∀ link ∈ linksOf row, isOneOf gatedKinds (linkField "kind" link) = true →
      isOneOf (resolveBrandedPool host row config) (linkField "anchor" link) = true ∨
        ∃ anchor, linkField "anchor" link = .text anchor ∧ Speaks host requested anchor
  html : ∀ html, present "content_html" row = some html →
    ∃ domain, get "main_domain_normalized" row = some (.text domain) ∧
      checkMainDomainInHtml host html domain = true
  banner : ∀ banner path, get "banner" row = some (.object banner) →
    get "path" banner = some (.text path) → path ≠ "" → host.bannerPlace path = .ok .there

section Asked
variable {host : GateHost} {row : Fields} {config : BrandedPools}

/-- The rule of a script that admits neither CJK nor Cyrillic letters. -/
theorem strictRule_none (own cjk cyrillic : Bool) (reason reason' reason'' : String) :
    (if !own then some reason else if cjk then some reason'
      else if cyrillic then some reason'' else none) = none ↔
      own = true ∧ cjk = false ∧ cyrillic = false := by
  cases own <;> cases cjk <;> cases cyrillic <;> simp

theorem languageRule_none {language anchor : String} (supported : language ∈ supportedLanguages) :
    languageRule host language anchor = none ↔ Speaks host language anchor := by
  have known : language = "zh-CN" ∨ language = "ru" ∨ language = "en" ∨ language = "ko" := by
    simpa [supportedLanguages] using supported
  unfold languageRule
  rcases known with rfl | rfl | rfl | rfl
  · rw [if_pos rfl]
    split_ifs with passes
    · exact iff_of_true rfl ⟨fun _ => Bool.or_eq_true_iff.1 passes, fun h => absurd h (by decide),
        fun h => absurd h (by decide), fun h => absurd h (by decide)⟩
    · exact iff_of_false not_false fun speaks =>
        passes (Bool.or_eq_true_iff.2 (speaks.zhCn rfl))
  · rw [if_neg (by decide), if_pos rfl]
    split_ifs with passes
    · exact iff_of_true rfl ⟨fun h => absurd h (by decide), fun _ => passes,
        fun h => absurd h (by decide), fun h => absurd h (by decide)⟩
    · exact iff_of_false not_false fun speaks => passes (speaks.ru rfl)
  · rw [if_neg (by decide), if_neg (by decide), if_pos rfl, strictRule_none]
    exact ⟨fun passes => ⟨fun h => absurd h (by decide), fun h => absurd h (by decide),
      fun _ => passes, fun h => absurd h (by decide)⟩, fun speaks => speaks.en rfl⟩
  · rw [if_neg (by decide), if_neg (by decide), if_neg (by decide), strictRule_none]
    exact ⟨fun passes => ⟨fun h => absurd h (by decide), fun h => absurd h (by decide),
      fun h => absurd h (by decide), fun _ => passes⟩, fun speaks => speaks.ko rfl⟩

theorem bodyGate_nil {requested : String} {errors warnings : List String}
    (checked : checkBodyLanguageGate host row (detectRowBodyLanguage host row).1
      (detectRowBodyLanguage host row).2 requested = .ok (errors, warnings)) :
    errors = [] ↔ BodySpeaks host row requested := by
  have one : (∃ tag, (detectRowBodyLanguage host row).2 = .bothMismatch tag) ↔
      ∃ md html, present "content_markdown" row = some md ∧ present "content_html" row = some html ∧
        host.detectMarkdown md ≠ host.detectHtml html := by
    unfold detectRowBodyLanguage
    cases present "content_markdown" row with
    | none => cases present "content_html" row <;> simp
    | some md =>
      cases present "content_html" row with
      | none => simp
      | some html =>
        dsimp only
        split_ifs with same
        · simp [same]
        · simp [same]
  unfold checkBodyLanguageGate at checked
  cases source : (detectRowBodyLanguage host row).2 with
  | bothMismatch tag =>
    rw [source] at checked
    cases checked
    refine iff_of_false (List.cons_ne_nil _ _) fun speaks => ?_
    have ⟨md, html, markdown, hypertext, differ⟩ := one.1 ⟨tag, source⟩
    exact differ (speaks.one md html markdown hypertext)
  | _ =>
    have agree : ∀ md html, present "content_markdown" row = some md →
        present "content_html" row = some html →
          host.detectMarkdown md = host.detectHtml html := by
      intro md html markdown hypertext
      by_contra differ
      have ⟨tag, mismatch⟩ := one.2 ⟨md, html, markdown, hypertext, differ⟩
      rw [source] at mismatch
      cases mismatch
    rw [source] at checked
    dsimp only at checked
    split_ifs at checked with same relaxed
    · cases checked
      exact iff_of_true rfl ⟨agree, .inl same⟩
    · split at checked
      · cases checked
        exact iff_of_true rfl ⟨agree, .inr relaxed⟩
      · cases checked
    · cases checked
      refine iff_of_false (List.cons_ne_nil _ _) fun speaks => ?_
      exact speaks.same.elim same relaxed

theorem anchorErrors_nil {requested : String} (supported : requested ∈ supportedLanguages)
    {pool : List String} {idx : ℕ} {link : Json} {errors : List String}
    (checked : anchorErrors host requested pool idx link = .ok errors) :
    errors = [] ↔ (isOneOf gatedKinds (linkField "kind" link) = true →
      isOneOf pool (linkField "anchor" link) = true ∨
        ∃ anchor, linkField "anchor" link = .text anchor ∧ Speaks host requested anchor) := by
  unfold anchorErrors checkAnchorLanguage at checked
  split_ifs at checked with unhashable free branded
  · cases checked
  · cases checked
    refine iff_of_true rfl fun gated => ?_
    rw [gated] at free
    cases free
  · cases checked
    exact iff_of_true rfl fun _ => .inl branded
  · have gated : isOneOf gatedKinds (linkField "kind" link) = true := by simpa using free
    rw [imp_iff_right gated, or_iff_right branded]
    cases anchor : linkField "anchor" link with
    | text text =>
      rw [anchor] at checked
      cases checked
      rw [List.map_eq_nil_iff, Option.toList_eq_nil_iff, languageRule_none supported]
      constructor
      · exact fun speaks => ⟨text, rfl, speaks⟩
      · rintro ⟨_, same, speaks⟩
        cases same
        exact speaks
    | _ =>
      rw [anchor] at checked
      cases checked

/-- The results of a loop that does not raise, one by one. -/
theorem forall₂_of_mapM {α β : Type} {f : α → Except Raised β} {xs : List α} {ys : List β}
    (done : xs.mapM f = .ok ys) : List.Forall₂ (fun x y => f x = .ok y) xs ys := by
  induction xs generalizing ys with
  | nil =>
    cases done
    exact .nil
  | cons x xs ih =>
    rw [List.mapM_cons] at done
    cases first : f x with
    | error raised =>
      rw [first] at done
      cases done
    | ok y =>
      rw [first] at done
      cases rest : xs.mapM f with
      | error raised =>
        rw [rest] at done
        cases done
      | ok zs =>
        rw [rest] at done
        cases done
        exact .cons first (ih rest)

theorem anchors_nil {requested : String} (supported : requested ∈ supportedLanguages)
    {pool : List String} {links : List Json} {errors : List (List String)}
    (checked : (links.zipIdx.mapM fun (link, idx) => anchorErrors host requested pool idx link) =
      .ok errors) :
    errors.flatten = [] ↔ ∀ link ∈ links, isOneOf gatedKinds (linkField "kind" link) = true →
      isOneOf pool (linkField "anchor" link) = true ∨
        ∃ anchor, linkField "anchor" link = .text anchor ∧ Speaks host requested anchor := by
  have each := forall₂_of_mapM checked
  have names : links.zipIdx.map Prod.fst = links := List.zipIdx_map_fst 0 links
  rw [List.flatten_eq_nil_iff, ← names]
  clear checked names
  generalize links.zipIdx = numbered at each
  induction each with
  | nil =>
    exact iff_of_true (fun _ h => absurd h List.not_mem_nil) fun _ h => absurd h List.not_mem_nil
  | cons first rest ih =>
    rw [List.map_cons, List.forall_mem_cons, List.forall_mem_cons]
    exact and_congr (anchorErrors_nil supported first) ih

/-- A language that the gate knows is the row's own. -/
theorem language_of_supported {requested : String} (supported : requested ∈ supportedLanguages)
    (language : (get "language" row).getD (.text "") = .text requested) :
    get "language" row = some (.text requested) := by
  cases got : get "language" row with
  | some value =>
    rw [got] at language
    exact congrArg some language
  | none =>
    rw [got] at language
    cases language
    exact absurd supported (by decide)

theorem languageErrors_nil {errors warnings : List String}
    (checked : languageErrors host row config = .ok (errors, warnings)) :
    errors = [] ↔ ∀ requested ∈ supportedLanguages, get "language" row = some (.text requested) →
      BodySpeaks host row requested ∧
        ∀ link ∈ linksOf row, isOneOf gatedKinds (linkField "kind" link) = true →
          isOneOf (resolveBrandedPool host row config) (linkField "anchor" link) = true ∨
            ∃ anchor, linkField "anchor" link = .text anchor ∧ Speaks host requested anchor := by
  unfold languageErrors at checked
  cases language : (get "language" row).getD (.text "") with
  | text requested =>
    rw [language] at checked
    dsimp only at checked
    have known : ∀ other ∈ supportedLanguages, get "language" row = some (.text other) →
        other = requested := by
      intro other _ named
      rw [named] at language
      exact Json.text.inj language
    by_cases foreign : requested ∉ supportedLanguages
    · rw [if_pos foreign] at checked
      cases checked
      refine iff_of_true rfl fun other supported named => ?_
      rw [known other supported named] at supported
      exact absurd supported foreign
    · have supported := not_not.1 foreign
      rw [if_neg foreign] at checked
      have named := language_of_supported supported language
      cases body : checkBodyLanguageGate host row (detectRowBodyLanguage host row).1
          (detectRowBodyLanguage host row).2 requested with
      | error raised =>
        rw [body] at checked
        cases checked
      | ok result =>
        rw [body] at checked
        dsimp only at checked
        cases anchors : (linksOf row).zipIdx.mapM fun (link, idx) =>
            anchorErrors host requested (resolveBrandedPool host row config) idx link with
        | error raised =>
          rw [anchors] at checked
          cases checked
        | ok found =>
          rw [anchors] at checked
          cases checked
          rw [List.append_eq_nil_iff, bodyGate_nil body, anchors_nil supported anchors]
          constructor
          · intro both other supported' named'
            rw [known other supported' named']
            exact both
          · intro all
            exact all requested supported named
  | _ =>
    rw [language] at checked
    have absent : ∀ other, get "language" row ≠ some (.text other) := by
      intro other named
      rw [named] at language
      cases language
    dsimp only at checked
    split_ifs at checked
    · cases checked
      exact iff_of_true rfl fun other _ named => absurd named (absent other)

theorem htmlErrors_nil : htmlErrors host row = [] ↔
    ∀ html, present "content_html" row = some html →
      ∃ domain, get "main_domain_normalized" row = some (.text domain) ∧
        checkMainDomainInHtml host html domain = true := by
  unfold htmlErrors
  cases present "content_html" row with
  | none => exact iff_of_true rfl fun _ h => absurd h (Option.some_ne_none _).symm
  | some html =>
    dsimp only
    have blank (html : String) : checkMainDomainInHtml host html "" = false := rfl
    constructor
    · intro quiet html' same
      cases same
      cases got : get "main_domain_normalized" row with
      | none =>
        rw [got] at quiet
        cases quiet
      | some value =>
        rw [got] at quiet
        cases value with
        | text domain =>
          dsimp only [Option.getD_some] at quiet
          split_ifs at quiet with empty found
          · exact ⟨domain, rfl, found⟩
        | _ => cases quiet
    · intro asked
      have ⟨domain, got, found⟩ := asked html rfl
      have filled : domain ≠ "" := by
        rintro rfl
        rw [blank] at found
        cases found
      rw [got]
      dsimp only [Option.getD_some]
      rw [if_neg filled, if_pos found]

/-- A row with a banner at a path is asked for that path only. -/
theorem banner_asked {banner : Fields} {path : String} {there : String → Prop}
    (located : get "path" banner = some (.text path)) :
    (∀ banner' path', some (Json.object banner) = some (.object banner') →
      get "path" banner' = some (.text path') → path' ≠ "" → there path') ↔
        (path ≠ "" → there path) := by
  constructor
  · exact fun all => all banner path rfl located
  · intro one banner' path' same named
    cases same
    rw [located] at named
    cases named
    exact one

theorem bannerErrors_nil {errors : List String} (checked : bannerErrors host row = .ok errors) :
    errors = [] ↔ ∀ banner path, get "banner" row = some (.object banner) →
      get "path" banner = some (.text path) → path ≠ "" → host.bannerPlace path = .ok .there := by
  unfold bannerErrors at checked
  cases got : get "banner" row with
  | none =>
    rw [got] at checked
    cases checked
    exact iff_of_true rfl fun _ _ h => absurd h (Option.some_ne_none _).symm
  | some value =>
    rw [got] at checked
    cases value with
    | object banner =>
      dsimp only at checked
      unfold resolveBannerPath at checked
      cases located : get "path" banner with
      | none =>
        rw [located] at checked
        cases checked
        refine iff_of_true rfl fun banner' path same named => ?_
        cases same
        rw [located] at named
        cases named
      | some place =>
        rw [located] at checked
        cases place with
        | text path =>
          dsimp only at checked
          rw [banner_asked located]
          split_ifs at checked with empty
          · cases checked
            exact iff_of_true rfl fun filled => absurd empty filled
          · rw [imp_iff_right empty]
            cases resolved : host.bannerPlace path with
            | error raised =>
              rw [resolved] at checked
              cases checked
            | ok spot =>
              rw [resolved] at checked
              cases spot <;> cases checked <;> simp
        | _ =>
          cases checked
          refine iff_of_true rfl fun banner' path same named => ?_
          cases same
          rw [located] at named
          cases named
    | _ =>
      cases checked
      refine iff_of_true rfl fun _ _ same => ?_
      cases same

/-- A normalized row passes if and only if it meets the gates. -/
theorem gateErrors_nil {errors warnings : List String}
    (checked : gateErrors host row config = .ok (errors, warnings)) :
    errors = [] ↔ ContentGates host row config := by
  unfold gateErrors at checked
  cases language : languageErrors host row config with
  | error raised =>
    rw [language] at checked
    cases checked
  | ok result =>
    rw [language] at checked
    dsimp only at checked
    cases banner : bannerErrors host row with
    | error raised =>
      rw [banner] at checked
      cases checked
    | ok found =>
      rw [banner] at checked
      cases checked
      rw [List.append_eq_nil_iff, List.append_eq_nil_iff, languageErrors_nil language,
        htmlErrors_nil, bannerErrors_nil banner]
      constructor
      · rintro ⟨⟨languages, html⟩, banner⟩
        exact ⟨fun requested supported named => (languages requested supported named).1,
          fun requested supported named => (languages requested supported named).2, html, banner⟩
      · intro gates
        exact ⟨⟨fun requested supported named =>
          ⟨gates.body requested supported named, gates.anchors requested supported named⟩,
          gates.html⟩, gates.banner⟩

end Asked

end BacklinkPublisher.PayloadGates
