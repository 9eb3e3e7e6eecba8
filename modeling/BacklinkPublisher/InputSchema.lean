import BacklinkPublisher.OutputSchema

set_option autoImplicit false

/-!
# The schema of a seed row

`_schema_input.py`: the checks that a seed row passes before articles are planned for it, and the
normalized main domain that they store in it.
-/
namespace BacklinkPublisher.InputSchema
open JsonValues OutputSchema SortedLists

/-- `normalizeMainDomain` gives the text of the `ValueError` where it raises one, `seedPayload`
that of the `ValidationError` of `SeedPayload.model_validate`. -/
structure InputHost extends SchemaHost where
  normalizeMainDomain : String → Except String String
  seedPayload : Fields → Except String Fields

def inputSchemaFields : List (String × FieldType) :=
  [("target_url", .str), ("main_domain", .str), ("language", .str), ("platform", .str),
    ("url_mode", .str), ("publish_mode", .str)]

def inputOptionalFields : List (String × FieldType) :=
  [("topic", .str), ("seed_keywords", .list), ("extra_urls", .list), ("custom_title", .str),
    ("custom_tags", .str), ("target_language", .str)]

def supportedLanguages : List String := ["zh-CN", "ru", "en", "ko"]

def urlModes : List String := ["A", "B", "C"]

def publishModes : List String := ["draft", "publish"]

def maxSeedKeywords : ℕ := 100

def maxExtraUrls : ℕ := 200

def maxItemLength : ℕ := 500

def lineMessage (line : ℕ) (text : String) : String := "line " ++ toString line ++ ": " ++ text

/-! ## The checks -/

section Checks
variable (host : InputHost) (line : ℕ) (row : Fields)

def fieldTypeErrors (field : String) (ftype : FieldType) (value : Json) : List String :=
  if ftype.admits value then []
  else
    let wanted := ftype.name
    [lineMessage line s!"field '{field}' must be {wanted}"]

def checkInputRequiredFields : List String :=
  inputSchemaFields.flatMap fun (field, ftype) =>
    match get field row with
    | none => [lineMessage line s!"missing required field '{field}'"]
    | some value => fieldTypeErrors line field ftype value

def checkInputOptionalFieldTypes : List String :=
  inputOptionalFields.flatMap fun (field, ftype) =>
    match get field row with
    | none => []
    | some value => fieldTypeErrors line field ftype value

/-- A value that cannot be hashed cannot be looked for in a set. -/
def checkEnumerated (field wording : String) (allowed : List String) :
    Except Raised (List String) :=
  match get field row with
  | none => .ok []
  | some value =>
    if hashable value = false then .error .typeError
    else if isOneOf allowed value then .ok []
    else
      let shown := host.format value
      let supported := ", ".intercalate (sortedBy id allowed)
      .ok [lineMessage line s!"{wording} {field} '{shown}'. Supported: {supported}"]

def checkInputEnumeratedValues : Except Raised (List String) := do
  let language ← checkEnumerated host line row "language" "unsupported" supportedLanguages
  let platform ← checkEnumerated host line row "platform" "unsupported" host.registeredPlatforms
  let urlMode ← checkEnumerated host line row "url_mode" "invalid" urlModes
  let publishMode ← checkEnumerated host line row "publish_mode" "invalid" publishModes
  return language ++ platform ++ urlMode ++ publishMode

def isWebUrl (url : String) : Bool := startsWith "http://" url || startsWith "https://" url

def urlErrors (field url : String) : List String :=
  if isWebUrl url then [] else [lineMessage line s!"field '{field}' is not a valid URL: {url}"]

/-- The row with the main domain normalized, and the errors. -/
def checkInputUrlsAndNormalize : Fields × List String :=
  let target := match get "target_url" row with
    | none => []
    | some value => urlErrors line "target_url" (host.format value)
  match get "main_domain" row with
  | none => (row, target)
  | some value =>
    let url := host.format value
    if isWebUrl url then
      match host.normalizeMainDomain url with
      | .ok normalized => (setItem "main_domain_normalized" (.text normalized) row, target)
      | .error exc =>
        (row, target ++ [lineMessage line s!"field 'main_domain' could not be normalized: {exc}"])
    else (row, target ++ urlErrors line "main_domain" url)

def itemErrors (field : String) (i : ℕ) : Json → List String
  | .text s =>
    if maxItemLength < s.length then
      [lineMessage line s!"{field}[{i}] exceeds {maxItemLength} chars"]
    else []
  | _ => [lineMessage line s!"'{field}' items must be strings"]

def checkInputItems (field : String) (cap : ℕ) : List String :=
  match get field row with
  | some (.array items) =>
    (if cap < items.length then [lineMessage line s!"'{field}' exceeds {cap} items"] else []) ++
      (items.take cap).zipIdx.flatMap fun (item, i) => itemErrors line field i item
  | _ => []

def checkInputSeedKeywords : List String := checkInputItems line row "seed_keywords" maxSeedKeywords

def checkInputExtraUrls : List String := checkInputItems line row "extra_urls" maxExtraUrls

/-- The row as the checks leave it, and the errors. -/
def validateInputPayload : Except Raised (Fields × List String) := do
  let enumerated ← checkInputEnumeratedValues host line row
  let (normalized, urls) := checkInputUrlsAndNormalize host line row
  return (normalized, checkInputRequiredFields line row ++ checkInputOptionalFieldTypes line row ++
    enumerated ++ urls ++ checkInputSeedKeywords line normalized ++
    checkInputExtraUrls line normalized)

structure Converted where
  row : Fields
  seed : Option Fields
  errors : List String

def validateAndConvertInput : Except Raised Converted :=
  match validateInputPayload host line row with
  | .error raised => .error raised
  | .ok (normalized, errors) =>
    if errors ≠ [] then .ok ⟨normalized, none, errors⟩
    else
      match host.seedPayload normalized with
      | .error exc =>
        .ok ⟨normalized, none, [lineMessage line s!"Pydantic validation failed: {exc}"]⟩
      | .ok seed => .ok ⟨normalized, some seed, []⟩

end Checks

section Results
variable {host : InputHost} {line : ℕ} {row : Fields}

/-- A row is converted or has errors. -/
theorem validateAndConvertInput_cases {converted : Converted}
    (validated : validateAndConvertInput host line row = .ok converted) :
    ((∃ seed, converted.seed = some seed) ∧ converted.errors = []) ∨
      (converted.seed = none ∧ converted.errors ≠ []) := by
  unfold validateAndConvertInput at validated
  cases checked : validateInputPayload host line row with
  | error raised =>
    rw [checked] at validated
    cases validated
  | ok result =>
    rw [checked] at validated
    dsimp only at validated
    split_ifs at validated with failing
    · cases validated
      exact .inr ⟨rfl, failing⟩
    · cases modelled : host.seedPayload result.1 with
      | error exc =>
        rw [modelled] at validated
        cases validated
        exact .inr ⟨rfl, List.cons_ne_nil _ _⟩
      | ok seed =>
        rw [modelled] at validated
        cases validated
        exact .inl ⟨⟨seed, rfl⟩, rfl⟩

theorem get_setItem_of_ne {key other : String} (differ : other ≠ key) (value : Json)
    (fields : Fields) : get other (setItem key value fields) = get other fields := by
  unfold JsonValues.get setItem
  rw [OrderedDicts.lookup_put, if_neg differ.symm]

theorem get_normalized {field : String} (differ : field ≠ "main_domain_normalized") :
    get field (checkInputUrlsAndNormalize host line row).1 = get field row := by
  unfold checkInputUrlsAndNormalize
  dsimp only
  cases get "main_domain" row with
  | none => rfl
  | some value =>
    dsimp only
    split_ifs
    · cases host.normalizeMainDomain (host.format value) with
      | ok normalized => exact get_setItem_of_ne differ _ _
      | error exc => rfl
    · rfl

theorem required_text (sound : checkInputRequiredFields line row = []) {field : String}
    (required : (field, FieldType.str) ∈ inputSchemaFields) :
    ∃ s, get field row = some (.text s) := by
  have checked := List.flatMap_eq_nil_iff.1 sound _ required
  cases present : get field row with
  | none =>
    simp only [present] at checked
    cases checked
  | some value =>
    simp only [present, fieldTypeErrors] at checked
    cases value with
    | text s => exact ⟨s, rfl⟩
    | _ => cases checked

/-- An accepted row has a text in every required field. -/
theorem accepted_text {normalized seed : Fields} {errors : List String}
    (accepted : validateAndConvertInput host line row = .ok ⟨normalized, some seed, errors⟩)
    {field : String} (required : (field, FieldType.str) ∈ inputSchemaFields) :
    ∃ s, get field normalized = some (.text s) := by
  unfold validateAndConvertInput validateInputPayload at accepted
  cases enumerated : checkInputEnumeratedValues host line row with
  | error raised =>
    rw [enumerated] at accepted
    cases accepted
  | ok texts =>
    rw [enumerated] at accepted
    dsimp only [bind, Except.bind, pure, Except.pure] at accepted
    split_ifs at accepted with failing
    · cases accepted
    · have sound : checkInputRequiredFields line row = [] := by
        simp only [ne_eq, not_not, List.append_eq_nil_iff] at failing
        exact failing.1.1.1.1.1
      cases modelled : host.seedPayload (checkInputUrlsAndNormalize host line row).1 with
      | error exc =>
        rw [modelled] at accepted
        cases accepted
      | ok made =>
        rw [modelled] at accepted
        cases accepted
        have differ : field ≠ "main_domain_normalized" := by
          rintro rfl
          revert required
          decide
        rw [get_normalized differ]
        exact required_text sound required

end Results

end BacklinkPublisher.InputSchema
