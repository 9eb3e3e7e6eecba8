import BacklinkPublisher.OutputSchema

set_option autoImplicit false

/-!
# What output validation accepts

Which rows `validate_output_payload` of `_schema_output.py` returns for, which it finds no error in,
and what their URLs are then.
-/
namespace BacklinkPublisher.OutputValidity
open ConfigSections (isSpace)
open JsonValues OutputSchema

/-! ## Which rows -/

def WebUrl (url : String) : Prop :=
  startsWith "http://" url = true ∨ startsWith "https://" url = true

/-- A link with a URL that can be matched and a kind that can be hashed, where it has them. -/
def Testable : Json → Prop
  | .object link => (∀ value, get "url" link = some value → ∃ url, value = .text url) ∧
      ∀ kind, get "kind" link = some kind → hashable kind = true
  | _ => True

def ValidLink : Json → Prop
  | .object link => (∃ url, get "url" link = some (.text url) ∧ WebUrl url) ∧
      (∃ kind, get "kind" link = some (.text kind) ∧ kind ∈ linkKinds) ∧
      (get "anchor" link).isSome = true ∧ (get "required" link).isSome = true
  | _ => False

/-- What `len` takes. -/
def Sized : Json → Prop
  | .array _ => True
  | .object _ => True
  | .text _ => True
  | _ => False

/-- `row['seo']['canonical_url']`, where it is a text. -/
def canonicalUrl (row : Fields) : Option String :=
  match get "seo" row with
  | some (.object seo) =>
    match get "canonical_url" seo with
    | some (.text url) => some url
    | _ => none
  | _ => none

/-- A row that every check can read. -/
structure Checkable (host : SchemaHost) (row : Fields) : Prop where
  links : ∀ links, get "links" row = some (.array links) → ∀ link ∈ links, Testable link
  sized : ∀ links, get "links" row = some links → Sized links
  writable : ∃ size, host.dumpsSize row = .ok size

/-- A row without errors. -/
structure Accepted (host : SchemaHost) (row : Fields) : Prop where
  required : ∀ entry ∈ outputRequiredFields,
    ∃ value, get entry.1 row = some value ∧ entry.2.admits value = true
  optional : ∀ entry ∈ outputOptionalFields, ∀ value, get entry.1 row = some value →
    entry.2.admits value = true
  content : ∀ group ∈ outputOneOfGroups, ∃ field ∈ group, isFieldPresent (get field row) = true
  html : ∀ html, get "content_html" row = some (.text html) →
    html.utf8ByteSize ≤ maxContentHtmlBytes
  links : ∃ links, get "links" row = some (.array links) ∧ 6 ≤ links.length ∧ links.length ≤ 8 ∧
    ∀ link ∈ links, ValidLink link
  seo : ∀ seo, get "seo" row = some (.object seo) →
    ∀ field ∈ ["title", "description", "canonical_url"], ∃ s, get field seo = some (.text s)
  canonical : ∀ url, canonicalUrl row = some url → url = "" ∨ isCanonicalUrl url = true
  texts : ∀ field ∈ ["title", "excerpt", "slug"], ∀ s, get field row = some (.text s) →
    s.toList.all isSpace = false
  size : ∃ size, host.dumpsSize row = .ok size ∧ size ≤ maxPayloadSizeBytes
  domain : ∀ domain md, get "main_domain" row = some (.text domain) →
    get "content_markdown" row = some (.text md) → isFieldPresent (some (.text md)) = true →
      contains (stripSlashes domain) md = true ∨ contains domain md = true

/-! ## What is asked of it -/

/-- The categories `Cc` and whitespace, and the delimiters of HTML. -/
def Hostile (c : Char) : Prop :=
  isSpace c = true ∨ c.toNat < 0x20 ∨ (0x7f ≤ c.toNat ∧ c.toNat ≤ 0x9f) ∨
    c ∈ ['"', '\'', '<', '>', Char.ofNat 0x60]

def Inert (url : String) : Prop := url = "" ∨ WebUrl url ∧ ∀ c ∈ url.toList, ¬ Hostile c

structure Sound (host : SchemaHost) (row : Fields) : Prop where
  returns : ∃ errors, validateOutputPayload host row = .ok errors
  converts : ∃ result, validateAndConvertOutput host row = .ok result
  canonical : validateOutputPayload host row = .ok [] →
    ∃ url, canonicalUrl row = some url ∧ Inert url
  links : validateOutputPayload host row = .ok [] → ∃ links, get "links" row = some (.array links) ∧
    ∀ link ∈ links, ∃ fields url, link = .object fields ∧ get "url" fields = some (.text url) ∧
      WebUrl url

/-- A canonical URL without what the pattern lets through. -/
def Plain (url : String) : Prop :=
  WebUrl url ∧ url.toList.getLast? ≠ some '\n' ∧
    ∀ c ∈ url.toList, ¬ (0x80 ≤ c.toNat ∧ c.toNat ≤ 0x9f)

/-- The row can be checked, and the canonical URL of an accepted one is plain. -/
structure Covered (host : SchemaHost) (row : Fields) : Prop where
  checkable : Checkable host row
  plain : Accepted host row → ∀ url, canonicalUrl row = some url → url ≠ "" → Plain url

/-! ## Traversals that can raise -/

section Traversals
variable {α β ε : Type} {f : α → Except ε β} {as : List α}

theorem mapM_returns : (∃ out, as.mapM f = .ok out) ↔ ∀ a ∈ as, ∃ b, f a = .ok b := by
  induction as with
  | nil => exact ⟨fun _ _ member => (by cases member), fun _ => ⟨[], rfl⟩⟩
  | cons a as ih =>
    rw [List.mapM_cons, List.forall_mem_cons, ← ih]
    cases head : f a with
    | error e => exact ⟨fun ⟨_, h⟩ => (by cases h), fun ⟨⟨_, h⟩, _⟩ => (by cases h)⟩
    | ok b =>
      cases tail : as.mapM f with
      | error e => exact ⟨fun ⟨_, h⟩ => (by cases h), fun ⟨_, _, h⟩ => (by cases h)⟩
      | ok bs => exact ⟨fun _ => ⟨⟨b, rfl⟩, bs, rfl⟩, fun _ => ⟨b :: bs, rfl⟩⟩

theorem map_returns (returned : Except ε α) (g : α → β) :
    (∃ out, returned.map g = .ok out) ↔ ∃ out, returned = .ok out := by
  cases returned with
  | error e =>
    constructor
    · rintro ⟨out, h⟩
      cases h
    · rintro ⟨out, h⟩
      cases h
  | ok out => exact ⟨fun _ => ⟨out, rfl⟩, fun _ => ⟨g out, rfl⟩⟩

/-- A traversal that collects errors finds none exactly where no step does. -/
theorem mapM_flatten_nil {f : α → Except ε (List β)} :
    (as.mapM f).map List.flatten = .ok [] ↔ ∀ a ∈ as, f a = .ok [] := by
  induction as with
  | nil => exact ⟨fun _ _ member => (by cases member), fun _ => rfl⟩
  | cons a as ih =>
    rw [List.mapM_cons, List.forall_mem_cons, ← ih]
    cases head : f a with
    | error e => exact ⟨fun h => (by cases h), fun h => (by cases h.1)⟩
    | ok b =>
      cases tail : as.mapM f with
      | error e => exact ⟨fun h => (by cases h), fun h => (by cases h.2)⟩
      | ok bs =>
        change Except.ok (b ++ bs.flatten) = .ok [] ↔ Except.ok b = .ok [] ∧
          Except.ok bs.flatten = .ok []
        rw [Except.ok.injEq, Except.ok.injEq, Except.ok.injEq, List.append_eq_nil_iff]

end Traversals

/-! ## The links -/

variable {host : SchemaHost} {row : Fields} {i : ℕ}

theorem isOneOf_iff {texts : List String} {value : Json} :
    isOneOf texts value = true ↔ ∃ s, value = .text s ∧ s ∈ texts := by
  cases value with
  | text s => simp [isOneOf]
  | _ => simp [isOneOf]

def missingFields (i : ℕ) (link : Fields) : List String :=
  (["url", "anchor", "kind", "required"].filter fun req => (get req link).isNone).map fun req =>
    s!"links[{i}]: missing field '{req}'"

def urlErrors (i : ℕ) : Option Json → Except Raised (List String)
  | none => .ok []
  | some (.text url) =>
    if startsWith "http://" url || startsWith "https://" url then .ok []
    else .ok [s!"links[{i}]: invalid URL format: {url}"]
  | some _ => .error .typeError

def kindErrors (host : SchemaHost) (i : ℕ) : Option Json → Except Raised (List String)
  | none => .ok []
  | some kind =>
    let shown := host.format kind
    if hashable kind = false then .error .typeError
    else if isOneOf linkKinds kind then .ok []
    else .ok [s!"links[{i}]: invalid kind '{shown}'"]

theorem checkLink_object (link : Fields) : checkLink host i (.object link) =
    (urlErrors i (get "url" link)).bind fun urls =>
      (kindErrors host i (get "kind" link)).map fun kinds =>
        missingFields i link ++ urls ++ kinds := by
  unfold checkLink
  dsimp only
  have kinds : ∀ errors : List String, (do
      let kinds ← match get "kind" link with
        | none => .ok []
        | some kind =>
          let shown := host.format kind
          if hashable kind = false then .error .typeError
          else if isOneOf linkKinds kind then .ok []
          else .ok [s!"links[{i}]: invalid kind '{shown}'"]
      return errors ++ kinds) =
        (kindErrors host i (get "kind" link)).map fun kinds => errors ++ kinds := by
    intro errors
    cases get "kind" link with
    | none => rfl
    | some kind =>
      unfold kindErrors
      dsimp only
      split_ifs <;> rfl
  cases get "url" link with
  | none => exact kinds _
  | some url =>
    cases url with
    | text s =>
      unfold urlErrors
      dsimp only
      split_ifs
      · exact kinds _
      · exact kinds _
    | _ => rfl

theorem missingFields_nil {link : Fields} : missingFields i link = [] ↔
    ∀ req ∈ ["url", "anchor", "kind", "required"], (get req link).isSome = true := by
  unfold missingFields
  rw [List.map_eq_nil_iff, List.filter_eq_nil_iff]
  apply forall₂_congr
  intro req _
  cases get req link with
  | none => simp
  | some value => simp

theorem urlErrors_returns {value : Option Json} : (∃ errors, urlErrors i value = .ok errors) ↔
    ∀ url, value = some url → ∃ s, url = .text s := by
  cases value with
  | none => exact ⟨fun _ _ h => (by cases h), fun _ => ⟨[], rfl⟩⟩
  | some value =>
    cases value with
    | text s =>
      refine ⟨fun _ url h => ⟨s, (Option.some.inj h).symm⟩, fun _ => ?_⟩
      unfold urlErrors
      dsimp only
      split_ifs
      · exact ⟨_, rfl⟩
      · exact ⟨_, rfl⟩
    | _ =>
      constructor
      · intro ⟨_, h⟩
        cases h
      · intro texts
        have ⟨_, h⟩ := texts _ rfl
        cases h

theorem urlErrors_nil {value : Option Json} : urlErrors i value = .ok [] ↔
    ∀ url, value = some url → ∃ s, url = .text s ∧ WebUrl s := by
  cases value with
  | none => exact ⟨fun _ _ h => (by cases h), fun _ => rfl⟩
  | some value =>
    cases value with
    | text s =>
      have web_iff : (startsWith "http://" s || startsWith "https://" s) = true ↔ WebUrl s := by
        rw [Bool.or_eq_true]
        rfl
      unfold urlErrors
      dsimp only
      split_ifs with web
      · exact ⟨fun _ url h => ⟨s, (Option.some.inj h).symm, web_iff.1 web⟩, fun _ => rfl⟩
      · constructor
        · intro h
          cases h
        · intro texts
          have ⟨t, same, web'⟩ := texts _ rfl
          cases same
          exact (web (web_iff.2 web')).elim
    | _ =>
      constructor
      · intro h
        cases h
      · intro texts
        have ⟨_, h, _⟩ := texts _ rfl
        cases h

theorem kindErrors_returns {value : Option Json} :
    (∃ errors, kindErrors host i value = .ok errors) ↔
      ∀ kind, value = some kind → hashable kind = true := by
  cases value with
  | none => exact ⟨fun _ _ h => (by cases h), fun _ => ⟨[], rfl⟩⟩
  | some kind =>
    unfold kindErrors
    dsimp only
    split_ifs with unhashable known
    · simp [unhashable]
    · simp [unhashable]
    · simp [unhashable]

theorem kindErrors_nil {value : Option Json} : kindErrors host i value = .ok [] ↔
    ∀ kind, value = some kind → ∃ s, kind = .text s ∧ s ∈ linkKinds := by
  cases value with
  | none => exact ⟨fun _ _ h => (by cases h), fun _ => rfl⟩
  | some kind =>
    unfold kindErrors
    dsimp only
    split_ifs with unhashable known
    · constructor
      · intro h
        cases h
      · intro texts
        have ⟨s, h, _⟩ := texts kind rfl
        rw [h] at unhashable
        cases unhashable
    · exact ⟨fun _ other h => isOneOf_iff.1 (Option.some.inj h ▸ known), fun _ => rfl⟩
    · exact ⟨fun h => (by cases h), fun texts => (known (isOneOf_iff.2 (texts kind rfl))).elim⟩

theorem checkLink_returns {link : Json} :
    (∃ errors, checkLink host i link = .ok errors) ↔ Testable link := by
  cases link with
  | object link =>
    unfold Testable
    dsimp only
    have kinds : (∃ errors, kindErrors host i (get "kind" link) = .ok errors) ↔ _ :=
      kindErrors_returns
    rw [checkLink_object, ← urlErrors_returns (i := i), ← kinds]
    cases urlErrors i (get "url" link) with
    | error e => exact ⟨fun ⟨_, h⟩ => (by cases h), fun ⟨⟨_, h⟩, _⟩ => (by cases h)⟩
    | ok urls =>
      cases kindErrors host i (get "kind" link) with
      | error e => exact ⟨fun ⟨_, h⟩ => (by cases h), fun ⟨_, _, h⟩ => (by cases h)⟩
      | ok kinds => exact ⟨fun _ => ⟨⟨urls, rfl⟩, kinds, rfl⟩, fun _ => ⟨_, rfl⟩⟩
  | _ => exact ⟨fun _ => trivial, fun _ => ⟨_, rfl⟩⟩

theorem checkLink_nil {link : Json} : checkLink host i link = .ok [] ↔ ValidLink link := by
  cases link with
  | object link =>
    unfold ValidLink
    dsimp only
    rw [checkLink_object]
    have split :
        ((urlErrors i (get "url" link)).bind fun urls =>
          (kindErrors host i (get "kind" link)).map fun kinds =>
            missingFields i link ++ urls ++ kinds) = .ok [] ↔
        missingFields i link = [] ∧ urlErrors i (get "url" link) = .ok [] ∧
          kindErrors host i (get "kind" link) = .ok [] := by
      cases urlErrors i (get "url" link) with
      | error e => exact ⟨fun h => (by cases h), fun h => (by cases h.2.1)⟩
      | ok urls =>
        cases kindErrors host i (get "kind" link) with
        | error e => exact ⟨fun h => (by cases h), fun h => (by cases h.2.2)⟩
        | ok kinds =>
          change Except.ok (missingFields i link ++ urls ++ kinds) = .ok [] ↔ _
          simp only [Except.ok.injEq, List.append_eq_nil_iff, and_assoc]
    rw [split, missingFields_nil, urlErrors_nil, kindErrors_nil]
    constructor
    · intro ⟨present, urls, kinds⟩
      have ⟨url, known⟩ := Option.isSome_iff_exists.1 (present "url" (by decide))
      have ⟨s, same, web⟩ := urls url known
      have ⟨kind, known'⟩ := Option.isSome_iff_exists.1 (present "kind" (by decide))
      have ⟨t, same', member⟩ := kinds kind known'
      rw [same] at known
      rw [same'] at known'
      exact ⟨⟨s, known, web⟩, ⟨t, known', member⟩, present "anchor" (by decide),
        present "required" (by decide)⟩
    · intro ⟨⟨s, known, web⟩, ⟨t, known', member⟩, anchor, required⟩
      refine ⟨?_, fun url h => ?_, fun kind h => ?_⟩
      · simp [known, known', anchor, required]
      · rw [known] at h
        exact ⟨s, (Option.some.inj h).symm, web⟩
      · rw [known'] at h
        exact ⟨t, (Option.some.inj h).symm, member⟩
  | _ => exact ⟨fun h => (by cases h), fun h => h.elim⟩

theorem forall_mem_zipIdx {α : Type} {P : α → Prop} (as : List α) :
    (∀ entry ∈ as.zipIdx, P entry.1) ↔ ∀ a ∈ as, P a := by
  rw [← List.forall_mem_map (f := Prod.fst), List.zipIdx_map_fst]

theorem checkLinksStructure_returns : (∃ errors, checkLinksStructure host row = .ok errors) ↔
    ∀ links, get "links" row = some (.array links) → ∀ link ∈ links, Testable link := by
  unfold checkLinksStructure
  cases get "links" row with
  | none => exact ⟨fun _ _ h => (by cases h), fun _ => ⟨[], rfl⟩⟩
  | some value =>
    cases value with
    | array links =>
      have own : (∀ others, some (Json.array links) = some (.array others) →
          ∀ link ∈ others, Testable link) ↔ ∀ link ∈ links, Testable link := by
        constructor
        · intro testable
          exact testable links rfl
        · intro testable others same
          cases same
          exact testable
      dsimp only
      rw [own, map_returns, mapM_returns, ← forall_mem_zipIdx links]
      exact forall₂_congr fun _ _ => checkLink_returns
    | _ => exact ⟨fun _ _ h => (by cases h), fun _ => ⟨[], rfl⟩⟩

theorem checkLinksStructure_nil : checkLinksStructure host row = .ok [] ↔
    ∀ links, get "links" row = some (.array links) → ∀ link ∈ links, ValidLink link := by
  unfold checkLinksStructure
  cases get "links" row with
  | none => exact ⟨fun _ _ h => (by cases h), fun _ => rfl⟩
  | some value =>
    cases value with
    | array links =>
      dsimp only
      rw [mapM_flatten_nil]
      have each : (∀ entry ∈ links.zipIdx, checkLink host entry.2 entry.1 = .ok []) ↔
          ∀ link ∈ links, ValidLink link := by
        rw [← forall_mem_zipIdx links]
        exact forall₂_congr fun _ _ => checkLink_nil
      constructor
      · intro clean others same
        cases same
        exact each.1 clean
      · intro valid
        exact each.2 (valid links rfl)
    | _ => exact ⟨fun _ _ h => (by cases h), fun _ => rfl⟩

theorem checkLinkCount_returns : (∃ errors, checkLinkCount row = .ok errors) ↔
    ∀ links, get "links" row = some links → Sized links := by
  unfold checkLinkCount
  cases get "links" row with
  | none => exact ⟨fun _ _ h => (by cases h), fun _ => ⟨_, rfl⟩⟩
  | some value =>
    cases value with
    | array links => exact ⟨fun _ _ h => (by cases h; exact trivial), fun _ => ⟨_, rfl⟩⟩
    | object fields => exact ⟨fun _ _ h => (by cases h; exact trivial), fun _ => ⟨_, rfl⟩⟩
    | text s => exact ⟨fun _ _ h => (by cases h; exact trivial), fun _ => ⟨_, rfl⟩⟩
    | _ => exact ⟨fun ⟨_, h⟩ => (by cases h), fun sized => (sized _ rfl).elim⟩

theorem checkLinkCount_nil {links : List Json} (known : get "links" row = some (.array links)) :
    checkLinkCount row = .ok [] ↔ 6 ≤ links.length ∧ links.length ≤ 8 := by
  unfold checkLinkCount
  rw [known]
  change Except.ok (if links.length < 6 ∨ 8 < links.length then _ else _) = .ok [] ↔ _
  split_ifs with outside
  · exact ⟨fun h => (by cases h), fun inside => (by omega)⟩
  · exact ⟨fun _ => (by omega), fun _ => rfl⟩

/-! ## The size -/

theorem checkPayloadSize_returns : (∃ errors, checkPayloadSize host row = .ok errors) ↔
    ∃ size, host.dumpsSize row = .ok size := by
  unfold checkPayloadSize
  cases host.dumpsSize row with
  | error e => exact ⟨fun ⟨_, h⟩ => (by cases h), fun ⟨_, h⟩ => (by cases h)⟩
  | ok size => exact ⟨fun _ => ⟨size, rfl⟩, fun _ => ⟨_, rfl⟩⟩

theorem checkPayloadSize_nil : checkPayloadSize host row = .ok [] ↔
    ∃ size, host.dumpsSize row = .ok size ∧ size ≤ maxPayloadSizeBytes := by
  unfold checkPayloadSize
  cases host.dumpsSize row with
  | error e => exact ⟨fun h => (by cases h), fun ⟨_, h, _⟩ => (by cases h)⟩
  | ok size =>
    change Except.ok (if maxPayloadSizeBytes < size then _ else _) = .ok [] ↔ _
    split_ifs with large
    · constructor
      · intro h
        cases h
      · intro ⟨other, same, small⟩
        cases same
        omega
    · exact ⟨fun _ => ⟨size, rfl, by omega⟩, fun _ => rfl⟩

/-! ## The fields -/

theorem typeErrors_nil {field : String} {ftype : FieldType} {value : Json} :
    typeErrors host field ftype value = [] ↔ ftype.admits value = true := by
  unfold typeErrors
  split_ifs with admitted
  · exact ⟨fun _ => admitted, fun _ => rfl⟩
  · exact ⟨fun h => (by cases h), fun h => (admitted h).elim⟩

theorem checkOutputRequiredFields_nil : checkOutputRequiredFields host row = [] ↔
    ∀ entry ∈ outputRequiredFields,
      ∃ value, get entry.1 row = some value ∧ entry.2.admits value = true := by
  unfold checkOutputRequiredFields
  rw [List.flatMap_eq_nil_iff]
  apply forall₂_congr
  intro (field, ftype) _
  dsimp only
  cases get field row with
  | none => exact ⟨fun h => (by cases h), fun ⟨_, h, _⟩ => (by cases h)⟩
  | some value =>
    dsimp only
    rw [typeErrors_nil]
    exact ⟨fun h => ⟨value, rfl, h⟩, fun ⟨_, same, h⟩ => Option.some.inj same ▸ h⟩

theorem checkOutputOptionalFieldTypes_nil : checkOutputOptionalFieldTypes host row = [] ↔
    ∀ entry ∈ outputOptionalFields, ∀ value, get entry.1 row = some value →
      entry.2.admits value = true := by
  unfold checkOutputOptionalFieldTypes
  rw [List.flatMap_eq_nil_iff]
  apply forall₂_congr
  intro (field, ftype) _
  dsimp only
  cases get field row with
  | none => exact ⟨fun _ _ h => (by cases h), fun _ => rfl⟩
  | some value =>
    dsimp only
    rw [typeErrors_nil]
    exact ⟨fun h _ same => Option.some.inj same ▸ h, fun h => h value rfl⟩

theorem checkOutputOneOfGroups_nil : checkOutputOneOfGroups row = [] ↔
    ∀ group ∈ outputOneOfGroups, ∃ field ∈ group, isFieldPresent (get field row) = true := by
  unfold checkOutputOneOfGroups
  rw [List.flatMap_eq_nil_iff]
  apply forall₂_congr
  intro group _
  rw [← List.any_eq_true]
  split_ifs with present
  · exact ⟨fun _ => present, fun _ => rfl⟩
  · exact ⟨fun h => (by cases h), fun h => (present h).elim⟩

theorem checkContentHtmlSize_nil : checkContentHtmlSize row = [] ↔
    ∀ html, get "content_html" row = some (.text html) →
      html.utf8ByteSize ≤ maxContentHtmlBytes := by
  unfold checkContentHtmlSize
  cases get "content_html" row with
  | none => exact ⟨fun _ _ h => (by cases h), fun _ => rfl⟩
  | some value =>
    cases value with
    | text html =>
      dsimp only
      split_ifs with large
      · constructor
        · intro h
          cases h
        · intro small
          exact absurd (small html rfl) (by omega)
      · constructor
        · intro _ other same
          cases same
          omega
        · exact fun _ => rfl
    | _ => exact ⟨fun _ _ h => (by cases h), fun _ => rfl⟩

theorem checkNonemptyTextFields_nil : checkNonemptyTextFields row = [] ↔
    ∀ field ∈ ["title", "excerpt", "slug"], ∀ s, get field row = some (.text s) →
      s.toList.all isSpace = false := by
  unfold checkNonemptyTextFields
  rw [List.flatMap_eq_nil_iff]
  apply forall₂_congr
  intro field _
  cases get field row with
  | none => exact ⟨fun _ _ h => (by cases h), fun _ => rfl⟩
  | some value =>
    cases value with
    | text s =>
      dsimp only
      split_ifs with blank
      · constructor
        · intro h
          cases h
        · intro visible
          rw [visible s rfl] at blank
          cases blank
      · constructor
        · intro _ other same
          cases same
          exact Bool.eq_false_of_not_eq_true blank
        · exact fun _ => rfl
    | _ => exact ⟨fun _ _ h => (by cases h), fun _ => rfl⟩

theorem checkMainDomainPresence_none : checkMainDomainPresence row = none ↔
    ∀ domain md, get "main_domain" row = some (.text domain) →
      get "content_markdown" row = some (.text md) → isFieldPresent (some (.text md)) = true →
        contains (stripSlashes domain) md = true ∨ contains domain md = true := by
  unfold checkMainDomainPresence
  split
  · rename_i domain md hdomain hmd
    constructor
    · intro h domain' md' same same' present
      rw [hdomain] at same
      rw [hmd] at same'
      cases same
      cases same'
      by_contra absent
      push Not at absent
      rw [if_pos (by simp [present, absent])] at h
      cases h
    · intro found
      apply if_neg
      intro failing
      simp only [Bool.and_eq_true, Bool.not_eq_true'] at failing
      rcases found domain md hdomain hmd failing.1.1 with h | h
      · rw [failing.1.2] at h
        cases h
      · rw [failing.2] at h
        cases h
  · rename_i other
    exact ⟨fun _ domain md hdomain hmd => (other domain md hdomain hmd).elim, fun _ => rfl⟩

/-! ## The `seo` block -/

theorem checkSeoStructure_nil : checkSeoStructure host row = [] ↔
    (∀ seo, get "seo" row = some (.object seo) →
      ∀ field ∈ ["title", "description", "canonical_url"], ∃ s, get field seo = some (.text s)) ∧
    ∀ url, canonicalUrl row = some url → url = "" ∨ isCanonicalUrl url = true := by
  unfold checkSeoStructure canonicalUrl
  cases get "seo" row with
  | none => exact ⟨fun _ => ⟨fun _ h => (by cases h), fun _ h => (by cases h)⟩, fun _ => rfl⟩
  | some value =>
    cases value with
    | object seo =>
      dsimp only
      rw [List.append_eq_nil_iff, List.flatMap_eq_nil_iff]
      apply and_congr
      · constructor
        · intro clean other same field member
          cases same
          have missing := clean field member
          cases known : get field seo with
          | none =>
            rw [known] at missing
            cases missing
          | some value =>
            rw [known] at missing
            cases value with
            | text s => exact ⟨s, rfl⟩
            | _ => cases missing
        · intro texts field member
          have ⟨s, known⟩ := texts seo rfl field member
          rw [known]
      · cases get "canonical_url" seo with
        | none => exact ⟨fun _ _ h => (by cases h), fun _ => rfl⟩
        | some value =>
          cases value with
          | text url =>
            dsimp only
            split_ifs with hostile
            · constructor
              · intro h
                cases h
              · intro clean
                rcases clean url rfl with h | h
                · exact (hostile.1 h).elim
                · rw [hostile.2] at h
                  cases h
            · constructor
              · intro _ other same
                cases same
                by_contra bad
                push Not at bad
                exact hostile ⟨bad.1, Bool.eq_false_of_not_eq_true bad.2⟩
              · exact fun _ => rfl
          | _ => exact ⟨fun _ _ h => (by cases h), fun _ => rfl⟩
    | _ => exact ⟨fun _ => ⟨fun _ h => (by cases h), fun _ h => (by cases h)⟩, fun _ => rfl⟩

/-! ## All checks -/

/-- What the checks that raise nothing find, around the errors of the other three. -/
theorem validateOutputPayload_eq : validateOutputPayload host row =
    (checkLinksStructure host row).bind fun links => (checkLinkCount row).bind fun count =>
      (checkPayloadSize host row).map fun size =>
        checkOutputRequiredFields host row ++ checkOutputOptionalFieldTypes host row ++
          checkOutputOneOfGroups row ++ checkContentHtmlSize row ++ links ++
          checkSeoStructure host row ++ count ++ checkNonemptyTextFields row ++ size ++
          (checkMainDomainPresence row).toList := by
  unfold validateOutputPayload
  cases checkLinksStructure host row with
  | error e => rfl
  | ok links =>
    cases checkLinkCount row with
    | error e => rfl
    | ok count =>
      cases checkPayloadSize host row with
      | error e => rfl
      | ok size => rfl

/-- Validation returns exactly where the links can be tested and counted and the row written. -/
theorem validateOutputPayload_returns :
    (∃ errors, validateOutputPayload host row = .ok errors) ↔ Checkable host row := by
  have parts : (∃ errors, validateOutputPayload host row = .ok errors) ↔
      (∃ errors, checkLinksStructure host row = .ok errors) ∧
        (∃ errors, checkLinkCount row = .ok errors) ∧
          ∃ errors, checkPayloadSize host row = .ok errors := by
    rw [validateOutputPayload_eq]
    cases checkLinksStructure host row with
    | error e => exact ⟨fun ⟨_, h⟩ => (by cases h), fun ⟨⟨_, h⟩, _⟩ => (by cases h)⟩
    | ok links =>
      cases checkLinkCount row with
      | error e => exact ⟨fun ⟨_, h⟩ => (by cases h), fun ⟨_, ⟨_, h⟩, _⟩ => (by cases h)⟩
      | ok count =>
        cases checkPayloadSize host row with
        | error e => exact ⟨fun ⟨_, h⟩ => (by cases h), fun ⟨_, _, _, h⟩ => (by cases h)⟩
        | ok size => exact ⟨fun _ => ⟨⟨_, rfl⟩, ⟨_, rfl⟩, _, rfl⟩, fun _ => ⟨_, rfl⟩⟩
  rw [parts, checkLinksStructure_returns, checkLinkCount_returns, checkPayloadSize_returns]
  exact ⟨fun ⟨links, sized, writable⟩ => ⟨links, sized, writable⟩,
    fun checkable => ⟨checkable.links, checkable.sized, checkable.writable⟩⟩

/-- Validation finds nothing exactly in a row that every check accepts. -/
theorem validateOutputPayload_nil :
    validateOutputPayload host row = .ok [] ↔ Accepted host row := by
  have parts : validateOutputPayload host row = .ok [] ↔
      checkOutputRequiredFields host row = [] ∧ checkOutputOptionalFieldTypes host row = [] ∧
        checkOutputOneOfGroups row = [] ∧ checkContentHtmlSize row = [] ∧
        checkLinksStructure host row = .ok [] ∧ checkSeoStructure host row = [] ∧
        checkLinkCount row = .ok [] ∧ checkNonemptyTextFields row = [] ∧
        checkPayloadSize host row = .ok [] ∧ checkMainDomainPresence row = none := by
    rw [validateOutputPayload_eq]
    cases checkLinksStructure host row with
    | error e => exact ⟨fun h => (by cases h), fun ⟨_, _, _, _, h, _⟩ => (by cases h)⟩
    | ok links =>
      cases checkLinkCount row with
      | error e => exact ⟨fun h => (by cases h), fun ⟨_, _, _, _, _, _, h, _⟩ => (by cases h)⟩
      | ok count =>
        cases checkPayloadSize host row with
        | error e =>
          exact ⟨fun h => (by cases h), fun ⟨_, _, _, _, _, _, _, _, h, _⟩ => (by cases h)⟩
        | ok size =>
          change Except.ok _ = Except.ok [] ↔ _
          simp only [Except.ok.injEq, List.append_eq_nil_iff, and_assoc, Option.toList_eq_nil_iff]
  rw [parts, checkOutputRequiredFields_nil, checkOutputOptionalFieldTypes_nil,
    checkOutputOneOfGroups_nil, checkContentHtmlSize_nil, checkLinksStructure_nil,
    checkSeoStructure_nil, checkNonemptyTextFields_nil, checkPayloadSize_nil,
    checkMainDomainPresence_none]
  constructor
  · intro ⟨required, optional, content, html, links, seo, count, texts, size, domain⟩
    have ⟨value, known, listed⟩ := required ("links", .list) (by decide)
    cases value with
    | array items =>
      have ⟨least, most⟩ := (checkLinkCount_nil known).1 count
      exact ⟨required, optional, content, html, ⟨items, known, least, most, links items known⟩,
        seo.1, seo.2, texts, size, domain⟩
    | _ => cases listed
  · intro accepted
    have ⟨items, known, least, most, valid⟩ := accepted.links
    refine ⟨accepted.required, accepted.optional, accepted.content, accepted.html, ?_,
      ⟨accepted.seo, accepted.canonical⟩, (checkLinkCount_nil known).2 ⟨least, most⟩,
      accepted.texts, accepted.size, accepted.domain⟩
    intro others same
    rw [known] at same
    cases same
    exact valid

theorem validateAndConvertOutput_returns :
    (∃ result, validateAndConvertOutput host row = .ok result) ↔ Checkable host row := by
  rw [← validateOutputPayload_returns]
  unfold validateAndConvertOutput
  cases validateOutputPayload host row with
  | error e => exact ⟨fun ⟨_, h⟩ => (by cases h), fun ⟨_, h⟩ => (by cases h)⟩
  | ok errors =>
    refine ⟨fun _ => ⟨errors, rfl⟩, fun _ => ?_⟩
    dsimp only
    split_ifs
    · exact ⟨_, rfl⟩
    · cases host.plannedError row with
      | none => exact ⟨_, rfl⟩
      | some error => exact ⟨_, rfl⟩

/-! ## The canonical URL -/

theorem startsWith_iff {start s : String} :
    startsWith start s = true ↔ start.toList <+: s.toList := List.isPrefixOf_iff_prefix

theorem not_hostile_of_canonicalChar {c : Char} (clean : canonicalChar c = true)
    (plain : ¬ (0x80 ≤ c.toNat ∧ c.toNat ≤ 0x9f)) : ¬ Hostile c := by
  unfold canonicalChar at clean
  simp only [Bool.and_eq_true, Bool.not_eq_true', decide_eq_true_eq] at clean
  obtain ⟨⟨⟨space, delimiter⟩, low⟩, delete⟩ := clean
  intro hostile
  rcases hostile with h | h | h | h
  · rw [space] at h
    cases h
  · omega
  · omega
  · exact delimiter h

theorem webScheme_https (rest : List Char) :
    webScheme "https://".toList ("https://".toList ++ rest) = true := by
  unfold webScheme
  rw [Bool.and_eq_true]
  exact ⟨by simp, by simp [sameLetter]⟩

theorem webScheme_http (rest : List Char) :
    webScheme "http://".toList ("http://".toList ++ rest) = true ∧
      webScheme "https://".toList ("http://".toList ++ rest) = false := by
  unfold webScheme
  constructor
  · rw [Bool.and_eq_true]
    exact ⟨by simp, by simp [sameLetter]⟩
  · rw [Bool.and_eq_false_iff]
    exact .inr (by simp [sameLetter])

/-- A plain URL that the pattern matches is inert. -/
theorem inert_of_plain {url : String} (matched : isCanonicalUrl url = true) (plain : Plain url) :
    Inert url := by
  have ⟨web, line, high⟩ := plain
  refine .inr ⟨web, fun c member => ?_⟩
  have tail : ∃ scheme rest, url.toList = scheme ++ rest ∧
      (∀ c ∈ scheme, canonicalChar c = true) ∧ ∀ c ∈ rest, canonicalChar c = true := by
    unfold isCanonicalUrl at matched
    rw [if_neg line] at matched
    rcases web with h | h
    · have ⟨rest, split⟩ := startsWith_iff.1 h
      have ⟨http, https⟩ := webScheme_http rest
      rw [← split] at matched
      dsimp only at matched
      rw [https, http, if_neg Bool.false_ne_true, if_pos rfl, Bool.and_eq_true,
        List.all_eq_true] at matched
      exact ⟨_, rest, split.symm, List.all_eq_true.1 (by decide), matched.2⟩
    · have ⟨rest, split⟩ := startsWith_iff.1 h
      rw [← split] at matched
      dsimp only at matched
      rw [webScheme_https, if_pos rfl, Bool.and_eq_true, List.all_eq_true] at matched
      exact ⟨_, rest, split.symm, List.all_eq_true.1 (by decide), matched.2⟩
  have ⟨scheme, rest, split, clean, clean'⟩ := tail
  apply not_hostile_of_canonicalChar ?_ (high c member)
  rw [split] at member
  rcases List.mem_append.1 member with h | h
  · exact clean c h
  · exact clean' c h

theorem plain_of_inert {url : String} (some_ : url ≠ "") (inert : Inert url) : Plain url := by
  have ⟨web, quiet⟩ := inert.resolve_left some_
  refine ⟨web, fun line => ?_, fun c member high => ?_⟩
  · exact quiet '\n' (List.mem_of_getLast? line) (.inl (by decide))
  · exact quiet c member (.inr (.inr (.inl (by omega))))

/-- Output validation is total and its URLs inert exactly where the row can be checked and the
canonical URL of an accepted row is plain. -/
theorem sound_iff (host : SchemaHost) (row : Fields) : Sound host row ↔ Covered host row := by
  constructor
  · intro sound
    refine ⟨validateOutputPayload_returns.1 sound.returns, fun accepted url known some_ => ?_⟩
    have ⟨other, same, inert⟩ := sound.canonical (validateOutputPayload_nil.2 accepted)
    rw [known] at same
    cases same
    exact plain_of_inert some_ inert
  · intro covered
    refine ⟨validateOutputPayload_returns.2 covered.checkable,
      validateAndConvertOutput_returns.2 covered.checkable, fun clean => ?_, fun clean => ?_⟩
    · have accepted := validateOutputPayload_nil.1 clean
      have ⟨value, known, listed⟩ := accepted.required ("seo", .dict) (by decide)
      cases value with
      | object seo =>
        have ⟨url, text⟩ := accepted.seo seo known "canonical_url" (by decide)
        have canonical : canonicalUrl row = some url := by
          unfold canonicalUrl
          rw [known]
          dsimp only
          rw [text]
        refine ⟨url, canonical, ?_⟩
        by_cases empty : url = ""
        · exact .inl empty
        · exact inert_of_plain ((accepted.canonical url canonical).resolve_left empty)
            (covered.plain accepted url canonical empty)
      | _ => cases listed
    · have accepted := validateOutputPayload_nil.1 clean
      have ⟨items, known, _, _, valid⟩ := accepted.links
      refine ⟨items, known, fun link member => ?_⟩
      have ok := valid link member
      cases link with
      | object fields => exact ⟨fields, ok.1.choose, rfl, ok.1.choose_spec⟩
      | _ => exact ok.elim

/-! ## Rows that fail -/

def plainHost : SchemaHost where
  str _ := ""
  repr _ := ""
  typeName _ := ""
  dumpsSize _ := .ok 0
  plannedError _ := none
  registeredPlatforms := ["blogger"]

def link (url : Json) : Json :=
  .object [("url", url), ("anchor", .text "a"), ("kind", .text "target"), ("required", .bool true)]

/-- A row with six links and this canonical URL. -/
def rowWith (canonical : String) : Fields :=
  [("id", .text "1"), ("platform", .text "blogger"), ("language", .text "en"),
    ("publish_mode", .text "draft"), ("target_url", .text "https://a.com/x"),
    ("main_domain", .text "https://a.com"), ("url_mode", .text "A"), ("title", .text "t"),
    ("slug", .text "s"), ("excerpt", .text "e"), ("tags", .array []),
    ("links", .array (List.replicate 6 (link (.text "https://a.com/")))),
    ("seo", .object [("title", .text "t"), ("description", .text ""),
      ("canonical_url", .text canonical)]),
    ("content_markdown", .text "see https://a.com")]

/-- A final line feed and a C1 control pass, and a URL or kind of another type, or links that have
no length, raise. -/
theorem accepted_url_hostile :
    (validateOutputPayload plainHost (rowWith "https://a.com/\n") = .ok [] ∧
      ¬ Sound plainHost (rowWith "https://a.com/\n")) ∧
    validateOutputPayload plainHost (rowWith "https://a.com/\u0090") = .ok [] ∧
    validateOutputPayload plainHost [("links", .array [link (.number 1)])] = .error .typeError ∧
    validateOutputPayload plainHost [("links", .array [.object [("kind", .array [])]])] =
      .error .typeError ∧
    validateOutputPayload plainHost [("links", .null)] = .error .typeError := by
  have clean : validateOutputPayload plainHost (rowWith "https://a.com/\n") = .ok [] := by
    decide +kernel
  refine ⟨⟨clean, fun sound => ?_⟩, by decide +kernel, by decide +kernel, by decide +kernel,
    by decide +kernel⟩
  have ⟨url, known, inert⟩ := sound.canonical clean
  have same : canonicalUrl (rowWith "https://a.com/\n") = some "https://a.com/\n" := by
    decide +kernel
  rw [same] at known
  cases known
  have ⟨_, quiet⟩ := inert.resolve_left (by decide)
  exact quiet '\n' (by decide) (.inl (by decide))

end BacklinkPublisher.OutputValidity
