import BacklinkPublisher.PayloadGates

set_option autoImplicit false

/-!
# The validation of a batch

`validate_rows` of `_validate_engine/engine.py` without the check of URLs. Its outcome says where
every row of the batch went.
-/
namespace BacklinkPublisher.ValidateRows
open JsonValues OutputSchema PayloadGates

structure ValidateOutcome where
  outputs : List Fields := []
  errors : List String := []
  platformDrops : List ℕ := []
  validationDrops : List ℕ := []
  inputCount : ℕ := 0

def routeTierMatrix : List (String × String) := [("blogger", "a"), ("medium", "b")]

def rowMessage (idx : ℕ) (text : String) : String := "row " ++ toString idx ++ ": " ++ text

section Engine
variable (host : GateHost) (config : BrandedPools) (checkedAt : ℕ → String)

def routeTierFor : Json → String
  | .text platform =>
    let key := String.ofList (host.unicode.lower (strip platform))
    (routeTierMatrix.lookup key).getD "c"
  | _ => "c"

def rowPlatform (row : Fields) : Json := (get "platform" row).getD (.text "")

/-- A row with HTML only, of a platform whose route takes Markdown only. -/
def htmlOnly (row : Fields) : Bool :=
  isFieldPresent (get "content_html" row) && !isFieldPresent (get "content_markdown" row) &&
    routeTierFor host (rowPlatform row) ≠ "a"

def tierError (row : Fields) : String :=
  let platform := host.format (rowPlatform row)
  s!"platform '{platform}' does not yet accept content_html (only markdown). Provide " ++
    "content_markdown or wait for adapter retrofit."

/-- `enhanced["validation"][field]`. -/
def validationField (field : String) (enhanced : Fields) : Json :=
  (((get "validation" enhanced).bind Json.asObject).bind fun block => get field block).getD .null

/-- The body of the loop. -/
def validateRow (outcome : ValidateOutcome) (idx : ℕ) (row : Fields) :
    Except Raised ValidateOutcome :=
  match rejectUnsupportedPlatform host.toSchemaHost (rowPlatform row) with
  | .error raised => .error raised
  | .ok (some msg) =>
    .ok { outcome with
      errors := outcome.errors ++ [rowMessage idx msg]
      platformDrops := outcome.platformDrops ++ [idx] }
  | .ok none =>
    if htmlOnly host row then
      .ok { outcome with
        errors := outcome.errors ++ [rowMessage idx (tierError host row)]
        platformDrops := outcome.platformDrops ++ [idx] }
    else
      match validateAndConvertOutput host.toSchemaHost row with
      | .error raised => .error raised
      | .ok (plan, errs) =>
        if errs ≠ [] ∨ plan.isNone then
          .ok { outcome with
            errors := outcome.errors ++ errs.map (rowMessage idx)
            validationDrops := outcome.validationDrops ++ [idx] }
        else
          match enhancePayload host (checkedAt idx) row config with
          | .error raised => .error raised
          | .ok enhanced =>
            if isOneOf ["failed"] (validationField "status" enhanced) then
              -- no drop list takes the row here
              let errs := ((validationField "errors" enhanced).asArray.getD []).map host.format
              .ok { outcome with errors := outcome.errors ++ errs.map (rowMessage idx) }
            else .ok { outcome with outputs := outcome.outputs ++ [enhanced] }

def validateFrom (outcome : ValidateOutcome) (idx : ℕ) :
    List Fields → Except Raised ValidateOutcome
  | [] => .ok outcome
  | row :: rows =>
    match validateRow host config checkedAt outcome idx row with
    | .error raised => .error raised
    | .ok outcome => validateFrom outcome (idx + 1) rows

def validateRows (rows : List Fields) : Except Raised ValidateOutcome :=
  validateFrom host config checkedAt { inputCount := rows.length } 1 rows

end Engine

/-! ## A row -/

/-- The row passes the gates of the platform and the schema. -/
structure Admitted (host : GateHost) (row : Fields) : Prop where
  platform : rejectUnsupportedPlatform host.toSchemaHost (rowPlatform row) = .ok none
  tier : htmlOnly host row = false
  schema : validateAndConvertOutput host.toSchemaHost row = .ok (some row, [])

/-- The normalized row meets the gates of the payload. -/
def Passes (host : GateHost) (config : BrandedPools) (row : Fields) : Prop :=
  ContentGates host (nfcNormalize host row) config

section Rows
variable {host : GateHost} {config : BrandedPools} {checkedAt : ℕ → String}

theorem get_setItem (key : String) (value : Json) (fields : Fields) :
    get key (setItem key value fields) = some value := by
  unfold JsonValues.get setItem
  rw [OrderedDicts.lookup_put, if_pos rfl]
  rfl

/-- An enhanced row says whether it passed, and why not. -/
theorem enhancePayload_block {at_ : String} {row enhanced : Fields}
    (made : enhancePayload host at_ row config = .ok enhanced) :
    ∃ errors, (errors = [] ↔ Passes host config row) ∧
      validationField "status" enhanced = .text (if errors = [] then "passed" else "failed") ∧
      validationField "errors" enhanced = .array (errors.map Json.text) := by
  unfold enhancePayload at made
  dsimp only at made
  cases gates : gateErrors host (nfcNormalize host row) config with
  | error raised =>
    rw [gates] at made
    cases made
  | ok result =>
    rw [gates] at made
    cases made
    refine ⟨result.1, gateErrors_nil gates, ?_, ?_⟩
    · unfold validationField
      rw [get_setItem]
      rfl
    · unfold validationField
      rw [get_setItem]
      rfl

/-- The five exits of the loop, the two of the platform as one. -/
theorem validateRow_cases {outcome next : ValidateOutcome} {idx : ℕ} {row : Fields}
    (step : validateRow host config checkedAt outcome idx row = .ok next) :
    (¬ Admitted host row ∧ ∃ msg, next = { outcome with
        errors := outcome.errors ++ [rowMessage idx msg]
        platformDrops := outcome.platformDrops ++ [idx] }) ∨
    (¬ Admitted host row ∧ ∃ errs ≠ [], next = { outcome with
        errors := outcome.errors ++ errs.map (rowMessage idx)
        validationDrops := outcome.validationDrops ++ [idx] }) ∨
    ((Admitted host row ∧ ¬ Passes host config row) ∧ ∃ errs ≠ [], next = { outcome with
        errors := outcome.errors ++ errs.map (rowMessage idx) }) ∨
    (Passes host config row ∧ ∃ enhanced,
      enhancePayload host (checkedAt idx) row config = .ok enhanced ∧
        next = { outcome with outputs := outcome.outputs ++ [enhanced] }) := by
  unfold validateRow at step
  cases platform : rejectUnsupportedPlatform host.toSchemaHost (rowPlatform row) with
  | error raised =>
    rw [platform] at step
    cases step
  | ok rejected =>
    rw [platform] at step
    cases rejected with
    | some msg =>
      cases step
      refine .inl ⟨fun admitted => ?_, msg, rfl⟩
      have passed := admitted.platform
      rw [platform] at passed
      cases passed
    | none =>
      dsimp only at step
      split_ifs at step with tier
      · cases step
        refine .inl ⟨fun admitted => ?_, _, rfl⟩
        rw [admitted.tier] at tier
        cases tier
      · cases schema : validateAndConvertOutput host.toSchemaHost row with
        | error raised =>
          rw [schema] at step
          cases step
        | ok converted =>
          rw [schema] at step
          dsimp only at step
          rcases validateAndConvertOutput_cases schema with ⟨plan, errs⟩ | ⟨plan, errs⟩
          · have accepted : ¬ (converted.2 ≠ [] ∨ converted.1.isNone = true) := by
              rw [plan, errs]
              simp
            rw [if_neg accepted] at step
            have admitted : Admitted host row := by
              refine ⟨platform, Bool.eq_false_iff.2 tier, ?_⟩
              rw [schema, ← plan, ← errs]
            cases made : enhancePayload host (checkedAt idx) row config with
            | error raised =>
              rw [made] at step
              cases step
            | ok enhanced =>
              rw [made] at step
              dsimp only at step
              have ⟨errors, passes, status, listed⟩ := enhancePayload_block made
              have texts : ((validationField "errors" enhanced).asArray.getD []).map host.format =
                  errors := by
                rw [listed]
                change (errors.map Json.text).map host.format = errors
                rw [List.map_map]
                exact List.map_id errors
              rw [status, texts] at step
              by_cases clean : errors = []
              · rw [if_pos clean] at step
                cases step
                exact .inr (.inr (.inr ⟨passes.1 clean, enhanced, rfl, rfl⟩))
              · rw [if_neg clean] at step
                cases step
                have fails : ¬ Passes host config row := fun h => clean (passes.2 h)
                exact .inr (.inr (.inl ⟨⟨admitted, fails⟩, errors, clean, rfl⟩))
          · rw [if_pos (.inl errs)] at step
            cases step
            refine .inr (.inl ⟨fun admitted => ?_, _, errs, rfl⟩)
            have passed := admitted.schema
            rw [schema] at passed
            cases passed
            cases plan

end Rows

/-! ## The batch -/

theorem toList_rowMessage (idx : ℕ) (text : String) :
    (rowMessage idx text).toList =
      "row ".toList ++ (Nat.toDigits 10 idx ++ ':' :: ' ' :: text.toList) := by
  unfold rowMessage
  rw [String.toList_append, String.toList_append, String.toList_append, List.append_assoc,
    List.append_assoc]
  congr 2
  exact Nat.toList_repr

/-- The message is one of the row. -/
def About (idx : ℕ) (message : String) : Prop :=
  (rowMessage idx "").toList <+: message.toList

theorem about_rowMessage {i j : ℕ} {text : String} : About i (rowMessage j text) ↔ i = j := by
  unfold About
  rw [toList_rowMessage, toList_rowMessage, List.prefix_append_right_inj]
  have digits (n : ℕ) : ∀ c ∈ Nat.toDigits 10 n, c.isDigit = true := fun c hc =>
    Nat.isDigit_of_mem_toDigits (by decide) (by decide) hc
  have number (n : ℕ) (after : List Char) :
      (Nat.toDigits 10 n ++ ':' :: after).takeWhile Char.isDigit = Nat.toDigits 10 n := by
    rw [List.takeWhile_append_of_pos (digits n)]
    exact List.append_nil _
  constructor
  · rintro ⟨rest, same⟩
    rw [List.append_assoc] at same
    have read := congrArg (List.takeWhile Char.isDigit) same
    rw [List.cons_append, number, number] at read
    calc
      i = Nat.ofDigitChars 10 (Nat.toDigits 10 i) 0 := Nat.ofDigitChars_ten_toDigits.symm
      _ = Nat.ofDigitChars 10 (Nat.toDigits 10 j) 0 := by rw [read]
      _ = j := Nat.ofDigitChars_ten_toDigits
  · rintro rfl
    rw [List.prefix_append_right_inj]
    exact ⟨text.toList, rfl⟩

/-- The messages are about the rows of a list, and about each of them. -/
structure Told (dropped : List ℕ) (errors : List String) : Prop where
  told : ∀ i ∈ dropped, ∃ text, rowMessage i text ∈ errors
  about : ∀ message ∈ errors, ∃ i ∈ dropped, ∃ text, message = rowMessage i text

theorem Told.concat {dropped dropped' : List ℕ} {errors errs : List String} {idx : ℕ}
    (told : Told dropped errors) (some_ : errs ≠ [])
    (same : ∀ i, i ∈ dropped' ↔ i ∈ dropped ∨ i = idx) :
    Told dropped' (errors ++ errs.map (rowMessage idx)) where
  told := by
    intro i hi
    rcases (same i).1 hi with before | now
    · have ⟨text, hmem⟩ := told.told i before
      exact ⟨text, List.mem_append_left _ hmem⟩
    · have ⟨text, hmem⟩ := List.exists_mem_of_ne_nil errs some_
      rw [now]
      exact ⟨text, List.mem_append_right _ (List.mem_map_of_mem hmem)⟩
  about := by
    intro message hmem
    rcases List.mem_append.1 hmem with before | now
    · have ⟨i, hi, text, said⟩ := told.about message before
      exact ⟨i, (same i).2 (.inl hi), text, said⟩
    · have ⟨text, _, said⟩ := List.mem_map.1 now
      exact ⟨idx, (same idx).2 (.inr rfl), text, said.symm⟩

section Batch
variable (host : GateHost) (config : BrandedPools) (checkedAt : ℕ → String) (rows : List Fields)
  (outcome : ValidateOutcome)

/-- The payload is what `_enhance_payload` makes of the row of the index. -/
def EnhancedRow (idx : ℕ) (enhanced : Fields) : Prop :=
  ∃ row, rows[idx - 1]? = some row ∧ enhancePayload host (checkedAt idx) row config = .ok enhanced

/-- The rows of `kept` are in the outputs, in order, every other row is in one drop list, once, and
the messages are about the rows that are dropped. -/
structure AccountedBy (kept : List ℕ) : Prop where
  partition : (kept ++ outcome.platformDrops ++ outcome.validationDrops).Perm
    (List.range' 1 rows.length)
  ordered : kept.Pairwise (· < ·)
  outputs : List.Forall₂ (EnhancedRow host config checkedAt rows) kept outcome.outputs
  counted : outcome.inputCount = outcome.outputs.length + outcome.platformDrops.length +
    outcome.validationDrops.length
  told : ∀ i ∈ List.range' 1 rows.length, i ∉ kept ↔ ∃ message ∈ outcome.errors, About i message

def Accounted : Prop := ∃ kept, AccountedBy host config checkedAt rows outcome kept

/-- What the loop keeps; the rows of `failed` are in no list of the outcome. -/
structure Books (kept failed : List ℕ) : Prop where
  partition : (kept ++ outcome.platformDrops ++ outcome.validationDrops ++ failed).Perm
    (List.range' 1 rows.length)
  ordered : kept.Pairwise (· < ·)
  outputs : List.Forall₂ (EnhancedRow host config checkedAt rows) kept outcome.outputs
  failed_nil : failed = [] ↔ ∀ row ∈ rows, Admitted host row → Passes host config row
  told : Told (outcome.platformDrops ++ outcome.validationDrops ++ failed) outcome.errors

end Batch

section Loop
variable {host : GateHost} {config : BrandedPools} {checkedAt : ℕ → String} {rows : List Fields}
  {outcome : ValidateOutcome} {kept failed : List ℕ}

theorem EnhancedRow.concat {idx : ℕ} {enhanced : Fields}
    (made : EnhancedRow host config checkedAt rows idx enhanced) (row : Fields) :
    EnhancedRow host config checkedAt (rows ++ [row]) idx enhanced := by
  have ⟨old, found, enhances⟩ := made
  have inside := (List.getElem?_eq_some_iff.1 found).1
  refine ⟨old, ?_, enhances⟩
  rw [List.getElem?_append_left inside]
  exact found

/-- One row more: its line joins the others wherever it is put. -/
theorem Books.numbered (books : Books host config checkedAt rows outcome kept failed)
    (row : Fields) {lines : List ℕ}
    (one : ∀ i, lines.count i =
      (kept ++ outcome.platformDrops ++ outcome.validationDrops ++ failed).count i +
        [rows.length + 1].count i) :
    lines.Perm (List.range' 1 (rows ++ [row]).length) := by
  have numbers : List.range' 1 (rows ++ [row]).length =
      List.range' 1 rows.length ++ [rows.length + 1] := by
    rw [List.length_append, List.length_singleton, List.range'_concat, Nat.one_mul, Nat.add_comm 1]
  rw [numbers, List.perm_iff_count]
  intro i
  rw [one i, books.partition.count_eq, List.count_append]

/-- A row that a gate refuses is dropped by the platform or by the schema. -/
theorem Books.drop (books : Books host config checkedAt rows outcome kept failed) {row : Fields}
    {next : ValidateOutcome} {errs : List String} (refused : ¬ Admitted host row)
    (some_ : errs ≠ []) (outputs : next.outputs = outcome.outputs)
    (errors : next.errors = outcome.errors ++ errs.map (rowMessage (rows.length + 1)))
    (dropped : (next.platformDrops ++ next.validationDrops).Perm
      (outcome.platformDrops ++ outcome.validationDrops ++ [rows.length + 1])) :
    Books host config checkedAt (rows ++ [row]) next kept failed where
  partition := by
    apply books.numbered row
    intro i
    have count := dropped.count_eq i
    simp only [List.count_append] at count ⊢
    omega
  ordered := books.ordered
  outputs := by
    rw [outputs]
    exact books.outputs.imp fun _ _ made => EnhancedRow.concat made row
  failed_nil := by
    rw [List.forall_mem_append, List.forall_mem_singleton, books.failed_nil]
    exact (and_iff_left fun admitted => absurd admitted refused).symm
  told := by
    rw [errors]
    apply books.told.concat some_
    intro i
    rw [List.mem_append, dropped.mem_iff]
    simp only [List.mem_append, List.mem_singleton]
    tauto

theorem Books.step (books : Books host config checkedAt rows outcome kept failed) {row : Fields}
    {next : ValidateOutcome}
    (step : validateRow host config checkedAt outcome (rows.length + 1) row = .ok next) :
    ∃ kept failed, Books host config checkedAt (rows ++ [row]) next kept failed := by
  have outputs := books.outputs.imp fun _ _ made => EnhancedRow.concat made row
  have failed_nil : failed = [] ∧ (Admitted host row → Passes host config row) ↔
      ∀ r ∈ rows ++ [row], Admitted host r → Passes host config r := by
    rw [books.failed_nil, List.forall_mem_append, List.forall_mem_singleton]
  have known : ∀ i ∈ kept, i < rows.length + 1 := by
    intro i hi
    have inside := books.partition.mem_iff.1 (List.mem_append_left failed
      (List.mem_append_left _ (List.mem_append_left _ hi)))
    have bounds := List.mem_range'_1.1 inside
    omega
  rcases validateRow_cases step with ⟨refused, msg, made⟩ | ⟨refused, errs, some_, made⟩ |
    ⟨fails, errs, some_, made⟩ | ⟨passes, enhanced, made, kept_⟩
  · rw [made]
    refine ⟨kept, failed, books.drop refused (List.cons_ne_nil msg []) rfl rfl ?_⟩
    dsimp only
    rw [List.append_assoc, List.append_assoc]
    exact List.perm_append_comm.append_left _
  · rw [made]
    refine ⟨kept, failed, books.drop refused some_ rfl rfl ?_⟩
    dsimp only
    rw [List.append_assoc]
  · rw [made]
    refine ⟨kept, failed ++ [rows.length + 1], ?_, books.ordered, outputs, ?_, ?_⟩
    · apply books.numbered row
      intro i
      rw [← List.append_assoc, List.count_append]
    · rw [← failed_nil]
      refine iff_of_false ?_ fun both => fails.2 (both.2 fails.1)
      exact List.append_ne_nil_of_right_ne_nil _ (List.cons_ne_nil _ _)
    · apply books.told.concat some_
      intro i
      rw [← List.append_assoc, List.mem_append, List.mem_singleton]
  · rw [kept_]
    refine ⟨kept ++ [rows.length + 1], failed, ?_, ?_, ?_, ?_, books.told⟩
    · apply books.numbered row
      intro i
      simp only [List.count_append]
      omega
    · rw [List.pairwise_append]
      refine ⟨books.ordered, List.pairwise_singleton _ _, fun i hi j hj => ?_⟩
      rw [List.mem_singleton.1 hj]
      exact known i hi
    · refine List.rel_append outputs (.cons ⟨row, ?_, made⟩ .nil)
      rw [Nat.add_sub_cancel, List.getElem?_concat_length]
    · rw [← failed_nil]
      exact (and_iff_left fun _ => passes).symm

theorem Books.run {idx : ℕ} {later : List Fields} {final : ValidateOutcome}
    (books : Books host config checkedAt rows outcome kept failed) (next : idx = rows.length + 1)
    (run : validateFrom host config checkedAt outcome idx later = .ok final) :
    ∃ kept failed, Books host config checkedAt (rows ++ later) final kept failed := by
  induction later generalizing rows outcome kept failed idx with
  | nil =>
    cases run
    rw [List.append_nil]
    exact ⟨kept, failed, books⟩
  | cons row later ih =>
    rw [validateFrom, next] at run
    cases step : validateRow host config checkedAt outcome (rows.length + 1) row with
    | error raised =>
      rw [step] at run
      cases run
    | ok outcome' =>
      rw [step] at run
      have ⟨kept', failed', books'⟩ := books.step step
      rw [List.append_cons]
      apply ih books' _ run
      rw [List.length_append, List.length_singleton]

theorem validateFrom_inputCount {idx : ℕ} {later : List Fields} {final : ValidateOutcome}
    (run : validateFrom host config checkedAt outcome idx later = .ok final) :
    final.inputCount = outcome.inputCount := by
  induction later generalizing outcome idx with
  | nil =>
    cases run
    rfl
  | cons row later ih =>
    rw [validateFrom] at run
    cases step : validateRow host config checkedAt outcome idx row with
    | error raised =>
      rw [step] at run
      cases run
    | ok outcome' =>
      rw [step] at run
      rw [ih run]
      rcases validateRow_cases step with ⟨_, msg, made⟩ | ⟨_, errs, _, made⟩ |
        ⟨_, errs, _, made⟩ | ⟨_, enhanced, _, made⟩ <;> rw [made]

theorem validateRows_books {final : ValidateOutcome}
    (validated : validateRows host config checkedAt rows = .ok final) :
    ∃ kept failed, Books host config checkedAt rows final kept failed := by
  have start : Books host config checkedAt [] { inputCount := rows.length } [] [] :=
    ⟨List.Perm.refl _, .nil, .nil, iff_of_true rfl fun _ h => absurd h List.not_mem_nil,
      fun _ h => absurd h List.not_mem_nil, fun _ h => absurd h List.not_mem_nil⟩
  exact start.run rfl validated

/-- The outcome accounts for every row if and only if no row passes the gates of the platform and
the schema and then fails those of the payload. -/
theorem accounted_iff {final : ValidateOutcome}
    (validated : validateRows host config checkedAt rows = .ok final) :
    Accounted host config checkedAt rows final ↔
      ∀ row ∈ rows, Admitted host row → Passes host config row := by
  have ⟨kept, failed, books⟩ := validateRows_books validated
  have count : final.inputCount = rows.length := validateFrom_inputCount validated
  have lengths := books.partition.length_eq
  have kept_length := books.outputs.length_eq
  simp only [List.length_append, List.length_range'] at lengths
  rw [← books.failed_nil]
  constructor
  · rintro ⟨kept', accounted⟩
    have counted := accounted.counted
    apply List.eq_nil_of_length_eq_zero
    omega
  · intro nothing
    rw [nothing] at books
    have partition := books.partition
    rw [List.append_nil] at partition
    have told := books.told
    rw [List.append_nil] at told
    have nodup := partition.nodup_iff.2 List.nodup_range'
    rw [List.append_assoc, List.nodup_append] at nodup
    refine ⟨kept, partition, books.ordered, books.outputs, ?_, fun i hi => ⟨fun absent => ?_, ?_⟩⟩
    · rw [nothing, List.length_nil] at lengths
      omega
    · have placed := partition.mem_iff.2 hi
      rw [List.append_assoc, List.mem_append] at placed
      have ⟨text, said⟩ := told.told i (placed.resolve_left absent)
      exact ⟨_, said, about_rowMessage.2 rfl⟩
    · rintro ⟨message, said, named⟩ held
      have ⟨j, dropped, text, made⟩ := told.about message said
      rw [made, about_rowMessage] at named
      rw [← named] at dropped
      exact nodup.2.2 i held i dropped rfl

end Loop

/-! ## An anchor in no language -/

def plainHost : GateHost where
  str _ := ""
  repr _ := ""
  typeName _ := ""
  dumpsSize _ := .ok 0
  plannedError _ := none
  registeredPlatforms := ["blogger"]
  unicode := UrlSplit.asciiData
  nfc text := text
  detectMarkdown _ := "en"
  detectHtml _ := "unknown"
  latinPatterns := []
  hrefs _ := []
  idna host := some host
  isControl _ := false
  bannerPlace _ := .ok .there
  percent _ _ := ""

def linkOf (kind anchor : String) : Json :=
  .object [("url", .text "https://money.site/"), ("anchor", .text anchor), ("kind", .text kind),
    ("required", .bool true)]

/-- An English row with the anchor on its target. -/
def plannedRow (anchor : String) : Fields :=
  [("id", .text "a1"), ("platform", .text "blogger"), ("language", .text "en"),
    ("publish_mode", .text "draft"), ("target_url", .text "https://money.site/"),
    ("main_domain", .text "https://money.site"), ("url_mode", .text "A"), ("title", .text "Money"),
    ("slug", .text "money"), ("excerpt", .text "On money."), ("tags", .array []),
    ("links", .array (linkOf "target" anchor :: List.replicate 5 (linkOf "supporting" "MDN"))),
    ("seo", .object [("title", .text "Money"), ("description", .text "On money."),
      ("canonical_url", .text "")]),
    ("content_markdown", .text "See https://money.site for more.")]

def validates (anchor : String) : Except Raised ValidateOutcome :=
  validateRows plainHost none (fun _ => "2026-01-01T00:00:00+00:00") [plannedRow anchor]

theorem accounted_iff_money : ∃ outcome, validates "Money" = .ok outcome ∧
    (Accounted plainHost none (fun _ => "2026-01-01T00:00:00+00:00") [plannedRow "Money"] outcome ↔
      ∀ row ∈ [plannedRow "Money"], Admitted plainHost row → Passes plainHost none row) := by
  have returns : (validates "Money").toOption.isSome = true := by decide +kernel
  cases validated : validates "Money" with
  | error raised =>
    rw [validated] at returns
    cases returns
  | ok outcome => exact ⟨outcome, rfl, accounted_iff validated⟩

/-- The row is neither put out nor counted as dropped. -/
theorem failed_anchor_lost :
    ¬ ∀ (host : GateHost) (config : BrandedPools) (checkedAt : ℕ → String) (rows : List Fields)
      (outcome : ValidateOutcome), validateRows host config checkedAt rows = .ok outcome →
        Accounted host config checkedAt rows outcome := by
  intro accounted
  have sizes : (validates "123").toOption.map (fun outcome => (outcome.inputCount,
      outcome.outputs.length, outcome.platformDrops, outcome.validationDrops)) =
        some (1, 0, [], []) := by decide +kernel
  cases validated : validates "123" with
  | error raised =>
    rw [validated] at sizes
    cases sizes
  | ok outcome =>
    have ⟨kept, books⟩ := accounted _ _ _ _ outcome validated
    have counted := books.counted
    rw [validated] at sizes
    have same := Option.some.inj sizes
    rw [Prod.mk.injEq, Prod.mk.injEq, Prod.mk.injEq] at same
    rw [same.1, same.2.1, same.2.2.1, same.2.2.2] at counted
    cases counted

end BacklinkPublisher.ValidateRows
