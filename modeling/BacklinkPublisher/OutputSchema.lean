import BacklinkPublisher.ConfigSections
import BacklinkPublisher.JsonValues
import BacklinkPublisher.SortedLists
import Mathlib.Data.List.DropRight
import Mathlib.Data.String.Basic

set_option autoImplicit false

/-!
# The schema of a planned row

`schema.py` and `_schema_output.py`: the checks that a planned row passes before it is enhanced.
-/
namespace BacklinkPublisher.OutputSchema
open ConfigSections (isSpace)
open JsonValues SortedLists

/-- An exception that no caller here catches. -/
inductive Raised where
  | typeError
  | valueError
  | recursionError
  deriving DecidableEq, Repr

/-- What the checks take from Python and its libraries: `str`, `repr`, the name of a type, the
bytes of `json.dumps` where it and its encoding raise nothing, the error of
`PlannedPayload.model_validate`, and the registered platforms. -/
structure SchemaHost where
  str : Json → String
  repr : Json → String
  typeName : Json → String
  dumpsSize : Fields → Except Raised ℕ
  plannedError : Fields → Option String
  registeredPlatforms : List String

/-- `str`, which leaves a text as it is. -/
def SchemaHost.format (host : SchemaHost) : Json → String
  | .text s => s
  | value => host.str value

/-! ## Fields -/

inductive FieldType where
  | str
  | list
  | dict
  deriving DecidableEq, Repr

def FieldType.name : FieldType → String
  | .str => "str"
  | .list => "list"
  | .dict => "dict"

def FieldType.admits : FieldType → Json → Bool
  | .str, .text _ => true
  | .list, .array _ => true
  | .dict, .object _ => true
  | _, _ => false

def outputRequiredFields : List (String × FieldType) :=
  [("id", .str), ("platform", .str), ("language", .str), ("publish_mode", .str),
    ("target_url", .str), ("main_domain", .str), ("url_mode", .str), ("title", .str),
    ("slug", .str), ("excerpt", .str), ("tags", .list), ("links", .list), ("seo", .dict)]

def outputOneOfGroups : List (List String) := [["content_markdown", "content_html"]]

def outputOptionalFields : List (String × FieldType) :=
  [("content_markdown", .str), ("content_html", .str), ("main_domain_normalized", .str)]

def linkKinds : List String :=
  ["main_domain", "target", "supporting", "extra", "category", "detail"]

def maxPayloadSizeBytes : ℕ := 256 * 1024

def maxContentHtmlBytes : ℕ := 1048576

def isFieldPresent : Option Json → Bool
  | some (.text s) => s.toList.any fun c => !isSpace c
  | _ => false

/-- A value that a set can be asked for. -/
def hashable : Json → Bool
  | .array _ => false
  | .object _ => false
  | _ => true

/-- `value in texts`, for a value that can be hashed. -/
def isOneOf (texts : List String) : Json → Bool
  | .text s => s ∈ texts
  | _ => false

def startsWith (start s : String) : Bool := start.toList.isPrefixOf s.toList

/-- `sub in s`. -/
def contains (sub s : String) : Bool := sub.toList <:+: s.toList

/-! ## The platform -/

def rejectUnsupportedPlatform (host : SchemaHost) (platform : Json) :
    Except Raised (Option String) :=
  if hashable platform = false then .error .typeError
  else if isOneOf host.registeredPlatforms platform then .ok none
  else
    let shown := host.format platform
    let supported := ", ".intercalate (sortedBy id host.registeredPlatforms)
    .ok (some s!"platform '{shown}' is not supported. Supported: {supported}")

/-! ## The checks -/

section Checks
variable (host : SchemaHost) (row : Fields)

def typeErrors (field : String) (ftype : FieldType) (value : Json) : List String :=
  if ftype.admits value then []
  else
    let wanted := ftype.name
    let got := host.typeName value
    [s!"field '{field}' must be {wanted}, got {got}"]

def checkOutputRequiredFields : List String :=
  outputRequiredFields.flatMap fun (field, ftype) =>
    match get field row with
    | none => [s!"missing required output field '{field}'"]
    | some value => typeErrors host field ftype value

def checkOutputOptionalFieldTypes : List String :=
  outputOptionalFields.flatMap fun (field, ftype) =>
    match get field row with
    | none => []
    | some value => typeErrors host field ftype value

def listRepr (names : List String) : String :=
  "[" ++ ", ".intercalate (names.map fun name => "'" ++ name ++ "'") ++ "]"

def checkOutputOneOfGroups : List String :=
  outputOneOfGroups.flatMap fun group =>
    if group.any fun field => isFieldPresent (get field row) then []
    else
      let names := listRepr group
      [s!"at least one of {names} must be present and non-empty"]

def checkContentHtmlSize : List String :=
  match get "content_html" row with
  | some (.text html) =>
    let size := html.utf8ByteSize
    if maxContentHtmlBytes < size then
      [s!"content_html size {size} bytes exceeds {maxContentHtmlBytes} byte cap"]
    else []
  | _ => []

/-- `re.match` of a URL that is no text raises, as does a kind that cannot be hashed. -/
def checkLink (i : ℕ) : Json → Except Raised (List String)
  | .object link => do
    let missing := (["url", "anchor", "kind", "required"].filter fun req =>
      (get req link).isNone).map fun req => s!"links[{i}]: missing field '{req}'"
    let urls ← match get "url" link with
      | none => .ok []
      | some (.text url) =>
        if startsWith "http://" url || startsWith "https://" url then .ok []
        else .ok [s!"links[{i}]: invalid URL format: {url}"]
      | some _ => .error .typeError
    let kinds ← match get "kind" link with
      | none => .ok []
      | some kind =>
        let shown := host.format kind
        if hashable kind = false then .error .typeError
        else if isOneOf linkKinds kind then .ok []
        else .ok [s!"links[{i}]: invalid kind '{shown}'"]
    return missing ++ urls ++ kinds
  | _ => .ok [s!"links[{i}] must be a dict"]

def checkLinksStructure : Except Raised (List String) :=
  match get "links" row with
  | some (.array links) =>
    (links.zipIdx.mapM fun (link, i) => checkLink host i link).map List.flatten
  | _ => .ok []

/-- One character of the pattern `s`, which the long s matches too when case is ignored. -/
def sameLetter (pattern c : Char) : Bool := c.toLower = pattern || (pattern = 's' && c = 'ſ')

def webScheme (pattern : List Char) (url : List Char) : Bool :=
  pattern.length ≤ url.length && (pattern.zip url).all fun (p, c) => sameLetter p c

def canonicalChar (c : Char) : Bool :=
  !isSpace c && c ∉ ['"', '\'', '<', '>', Char.ofNat 0x60] && 0x20 ≤ c.toNat && c.toNat ≠ 0x7f

/-- `re.match` of the pattern; its `$` also matches before a final line feed. -/
def isCanonicalUrl (url : String) : Bool :=
  let body := if url.toList.getLast? = some '\n' then url.toList.dropLast else url.toList
  let after := if webScheme "https://".toList body then body.drop 8
    else if webScheme "http://".toList body then body.drop 7 else []
  !after.isEmpty && after.all canonicalChar

def checkSeoStructure : List String :=
  match get "seo" row with
  | some (.object seo) =>
    let missing := ["title", "description", "canonical_url"].flatMap fun req =>
      match get req seo with
      | none => [s!"seo: missing field '{req}'"]
      | some (.text _) => []
      | some _ => [s!"seo.{req} must be a string"]
    let canonical := match get "canonical_url" seo with
      | some (.text canonical) =>
        let shown := host.repr (.text canonical)
        if canonical ≠ "" ∧ isCanonicalUrl canonical = false then
          ["seo.canonical_url is not a valid http(s) URL (must match ^https?:// and contain no " ++
            "whitespace, quotes, angle brackets, backticks, or control chars): " ++ shown]
        else []
      | _ => []
    missing ++ canonical
  | _ => []

/-- `len` of what has no length raises. -/
def checkLinkCount : Except Raised (List String) :=
  let errors (count : ℕ) :=
    if count < 6 ∨ 8 < count then [s!"link count {count} is not between 6 and 8"] else []
  match (get "links" row).getD (.array []) with
  | .array links => .ok (errors links.length)
  | .object fields => .ok (errors fields.length)
  | .text s => .ok (errors s.length)
  | _ => .error .typeError

def checkNonemptyTextFields : List String :=
  ["title", "excerpt", "slug"].flatMap fun field =>
    match get field row with
    | some (.text s) => if s.toList.all isSpace then [s!"{field} must not be empty"] else []
    | _ => []

def checkPayloadSize : Except Raised (List String) := do
  let size ← host.dumpsSize row
  return if maxPayloadSizeBytes < size then
      [s!"payload size {size} bytes exceeds {maxPayloadSizeBytes} byte cap"]
    else []

def stripSlashes (s : String) : String := String.ofList (s.toList.rdropWhile (· = '/'))

def checkMainDomainPresence : Option String :=
  match get "main_domain" row, get "content_markdown" row with
  | some (.text domain), some (.text md) =>
    if isFieldPresent (some (.text md)) && !contains (stripSlashes domain) md &&
        !contains domain md then
      some s!"main_domain '{domain}' does not appear in content_markdown"
    else none
  | _, _ => none

def validateOutputPayload : Except Raised (List String) := do
  let links ← checkLinksStructure host row
  let count ← checkLinkCount row
  let size ← checkPayloadSize host row
  return checkOutputRequiredFields host row ++ checkOutputOptionalFieldTypes host row ++
    checkOutputOneOfGroups row ++ checkContentHtmlSize row ++ links ++
    checkSeoStructure host row ++ count ++ checkNonemptyTextFields row ++ size ++
    (checkMainDomainPresence row).toList

/-- The row as a `PlannedPayload`, or the errors. -/
def validateAndConvertOutput : Except Raised (Option Fields × List String) :=
  match validateOutputPayload host row with
  | .error raised => .error raised
  | .ok errors =>
    if errors ≠ [] then .ok (none, errors)
    else
      match host.plannedError row with
      | some error => .ok (none, [s!"Pydantic validation failed: {error}"])
      | none => .ok (some row, [])

end Checks

/-- A row is converted or has errors. -/
theorem validateAndConvertOutput_cases {host : SchemaHost} {row : Fields} {plan : Option Fields}
    {errs : List String} (validated : validateAndConvertOutput host row = .ok (plan, errs)) :
    (plan = some row ∧ errs = []) ∨ (plan = none ∧ errs ≠ []) := by
  unfold validateAndConvertOutput at validated
  cases checked : validateOutputPayload host row with
  | error raised =>
    rw [checked] at validated
    cases validated
  | ok errors =>
    rw [checked] at validated
    dsimp only at validated
    split_ifs at validated with failing
    · cases validated
      exact .inr ⟨rfl, failing⟩
    · cases planned : host.plannedError row with
      | some error =>
        rw [planned] at validated
        cases validated
        exact .inr ⟨rfl, List.cons_ne_nil _ _⟩
      | none =>
        rw [planned] at validated
        cases validated
        exact .inl ⟨rfl, rfl⟩

end BacklinkPublisher.OutputSchema
