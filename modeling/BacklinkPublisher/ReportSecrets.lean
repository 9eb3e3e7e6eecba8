import BacklinkPublisher.ErrorReports

set_option autoImplicit false

/-!
# Secrets in error reports

No configured secret is to survive in a sanitized report. Which secrets survive is decided by the
levels that the masking goes down, by the keys, which are not masked, and by the cut of long texts.
-/
namespace BacklinkPublisher.ReportSecrets
open ErrorReports ObjectHeaps OrderedDicts Replacements SortedLists

/-! ## What is asked of a report -/

/-- The text is one of the report, or a key. -/
inductive Spells (s : Text) : Report → Prop where
  | text : Spells s (.leaf (.text s))
  | key {entries : List (Text × Report)} {entry : Text × Report} (member : entry ∈ entries)
      (same : entry.1 = s) : Spells s (.node (.dict entries))
  | child {inner : Node Text Report} {tree : Report} (member : tree ∈ inner.values)
      (spells : Spells s tree) : Spells s (.node inner)

section Statement
variable (host : Host) (knownSecrets : List Text)

/-- No secret occurs in the text. -/
def Plain (text : Text) : Prop := ∀ secret ∈ knownSecrets, ¬ secret <:+: text

def Clean (tree : Report) : Prop := ∀ text, Spells text tree → Plain knownSecrets text

/-- The texts that are put in the place of others. -/
def Marker (text : Text) : Prop :=
  text = mask ∨ text = "<unrepresentable>".toList ∨ ∃ overflow, text = truncationMarker overflow

/-- No secret contains `*` or is part of a marker. -/
def Admissible : Prop :=
  ∀ secret ∈ knownSecrets, '*' ∉ secret ∧ ∀ marker, Marker marker → ¬ secret <:+: marker

def topKeys : Report → List Text
  | .node (.dict entries) => entries.map Prod.fst
  | _ => []

/-- Of a report on the heap, which the sanitizer returns from without raising: nothing that was on
the heap has changed, and the result keeps the top-level keys and shows no secret. -/
structure Safe (heap : Objects) (report : Item) (tree : Report) : Prop where
  unchanged : heap <+: (sanitizeErrorReport host knownSecrets heap report).1
  result : ∃ made, Shows (sanitizeErrorReport host knownSecrets heap report).1
      (sanitizeErrorReport host knownSecrets heap report).2 made ∧
    (∀ key ∈ topKeys tree, key ∈ topKeys made) ∧ Clean knownSecrets made

/-! ## When it is so -/

/-- A secret goes over the cut of a long text into the marker that is put behind it. -/
def Straddles (s : Text) : Prop :=
  maxFieldLen < s.length ∧ ∃ secret ∈ knownSecrets, ∃ front back, front ≠ [] ∧ back ≠ [] ∧
    secret = front ++ back ∧ front <:+ s.take maxFieldLen ∧
    back <+: truncationMarker (s.length - maxFieldLen)

/-- A text whose secrets are masked, and where no secret goes over the cut. -/
def Uncut (s : Text) : Prop := ¬ Straddles knownSecrets (maskKnownSecretValues knownSecrets s)

/-- Below a dict, with so many levels left: the masking does not reach what lies deeper, nor the
keys. -/
def CoveredBelow : ℕ → Report → Prop
  | 0, tree => Clean knownSecrets tree
  | _ + 1, .leaf (.text s) => Uncut knownSecrets s
  | _ + 1, .leaf _ => True
  | n + 1, .node (.list items) => ∀ item ∈ items, CoveredBelow n item
  | n + 1, .node (.dict entries) => ∀ entry ∈ entries, Plain knownSecrets entry.1 ∧
      (isSensitiveKey host entry.1 = true ∨ CoveredBelow n entry.2)

def filteredText (key s : Text) : Text :=
  if isUrlField host key then filterUrlQueryTokens host s else s

/-- The value can be sanitized in the levels that the stack has room for. -/
def handled (key : Text) : ℕ → Report → Bool
  | 0, _ => false
  | _ + 1, .leaf (.text s) => (host.scrubText (filteredText host key s)).isSome
  | _ + 1, .leaf (.foreign _) => false
  | _ + 1, .leaf _ => true
  | n + 1, .node (.dict entries) => Tree.fits n (.node (.dict entries))
  | n + 1, .node (.list items) => items.all (handled key n)

def CoveredValue (key : Text) : ℕ → Report → Prop
  | 0, _ => True
  | _ + 1, .leaf (.text s) => ∀ cleaned, host.scrubText (filteredText host key s) = some cleaned →
      Uncut knownSecrets cleaned
  | _ + 1, .leaf _ => True
  | _ + 1, .node (.dict entries) =>
    CoveredBelow host knownSecrets maxRedactDepth (.node (.dict entries))
  | n + 1, .node (.list items) => ∀ item ∈ items, CoveredValue key n item

/-- A value that is written as a text instead. -/
def CoveredText (tree : Report) : Prop :=
  ∀ text, writtenText host tree = some text →
    Uncut knownSecrets ((host.scrubText text).getD text)

def CoveredField (key : Text) (tree : Report) : Prop :=
  if handled host key host.stack tree then CoveredValue host knownSecrets key host.stack tree
  else CoveredText host knownSecrets tree

def Covered : Report → Prop
  | .node (.dict entries) => Plain knownSecrets degradedKey ∧
      ∀ entry ∈ entries, Plain knownSecrets entry.1 ∧
        (entry.1 = degradedKey ∨ CoveredField host knownSecrets entry.1 entry.2)
  | tree => Plain knownSecrets degradedKey ∧ Plain knownSecrets rawKey ∧
      CoveredText host knownSecrets tree

end Statement

/-! ## Texts -/

variable {host : Host} {knownSecrets : List Text}

theorem Admissible.ne_nil (admissible : Admissible knownSecrets) :
    ∀ secret ∈ knownSecrets, secret ≠ [] := by
  intro secret member empty
  apply (admissible secret member).2 mask (.inl rfl)
  rw [empty]
  exact List.nil_infix

theorem mem_sorted {secret : Text} (admissible : Admissible knownSecrets)
    (member : secret ∈ knownSecrets) :
    secret ∈ (sortedBy (fun secret => OrderDual.toDual secret.length) knownSecrets).filter
      fun secret => secret ≠ [] := by
  rw [List.mem_filter, mem_sortedBy]
  exact ⟨member, decide_eq_true (admissible.ne_nil secret member)⟩

theorem plain_maskKnownSecretValues (admissible : Admissible knownSecrets) (s : Text) :
    Plain knownSecrets (maskKnownSecretValues knownSecrets s) := by
  intro secret member
  apply not_infix_replaceAll (by decide) _ secret (mem_sorted admissible member)
  intro word sorted
  have ⟨among, some_⟩ := List.mem_filter.1 sorted
  have known : word ∈ knownSecrets := (mem_sortedBy ..).1 among
  refine ⟨of_decide_eq_true some_, fun c inWord inMask => ?_⟩
  have star : c = '*' := by simpa [mask] using inMask
  exact (admissible word known).1 (star ▸ inWord)

theorem plain_applyLengthCap_iff (admissible : Admissible knownSecrets) {s : Text}
    (plain : Plain knownSecrets s) :
    Plain knownSecrets (applyLengthCap s) ↔ ¬ Straddles knownSecrets s := by
  unfold applyLengthCap
  split_ifs with short
  · exact iff_of_true plain fun straddles => absurd straddles.1 (not_lt.2 short)
  · constructor
    · intro capped ⟨_, secret, member, front, back, some_, some', split, suffix, start⟩
      exact capped secret member (List.infix_append_iff_ne_nil.2
        (.inr (.inr ⟨front, back, some_, some', split, suffix, start⟩)))
    · intro uncut secret member found
      rcases List.infix_append_iff_ne_nil.1 found with before | behind | ⟨front, back, h⟩
      · exact plain secret member (before.trans (List.take_prefix _ _).isInfix)
      · exact (admissible secret member).2 _ (.inr (.inr ⟨_, rfl⟩)) behind
      · exact uncut ⟨not_le.1 short, secret, member, front, back, h⟩

theorem plain_capped_iff (admissible : Admissible knownSecrets) (s : Text) :
    Plain knownSecrets (applyLengthCap (maskKnownSecretValues knownSecrets s)) ↔
      Uncut knownSecrets s :=
  plain_applyLengthCap_iff admissible (plain_maskKnownSecretValues admissible s)

theorem plain_mask (admissible : Admissible knownSecrets) : Plain knownSecrets mask :=
  fun secret member => (admissible secret member).2 mask (.inl rfl)

/-- The marker of a redacted key stays as it is. -/
theorem capped_mask (admissible : Admissible knownSecrets) :
    applyLengthCap (maskKnownSecretValues knownSecrets mask) = mask := by
  have kept : maskKnownSecretValues knownSecrets mask = mask := by
    apply replaceAll_of_not_infix
    intro secret sorted
    have known : secret ∈ knownSecrets := (mem_sortedBy ..).1 (List.mem_of_mem_filter sorted)
    exact plain_mask admissible secret known
  rw [kept]
  rfl

theorem plain_degradedText_iff (admissible : Admissible knownSecrets) (written : Option Text) :
    Plain knownSecrets (degradedText host knownSecrets written) ↔
      ∀ text, written = some text → Uncut knownSecrets ((host.scrubText text).getD text) := by
  cases written with
  | none =>
    refine iff_of_true (fun secret member => ?_) fun _ h => by cases h
    exact (admissible secret member).2 _ (.inr (.inl rfl))
  | some text =>
    unfold degradedText
    dsimp only
    rw [plain_capped_iff admissible]
    exact ⟨fun uncut _ same => Option.some.inj same ▸ uncut, fun uncut => uncut text rfl⟩

/-! ## Trees -/

theorem clean_text_iff {s : Text} :
    Clean knownSecrets (.leaf (.text s)) ↔ Plain knownSecrets s := by
  constructor
  · exact fun clean => clean s .text
  · intro plain text spells
    cases spells
    exact plain

theorem clean_scalar {s : Scalar} (other : ∀ text, s ≠ .text text) :
    Clean knownSecrets (.leaf s) := by
  intro text spells
  cases spells
  exact (other text rfl).elim

theorem clean_list_iff {items : List Report} :
    Clean knownSecrets (.node (.list items)) ↔ ∀ item ∈ items, Clean knownSecrets item := by
  constructor
  · intro clean item member text spells
    exact clean text (.child member spells)
  · intro each text spells
    cases spells with
    | child member below => exact each _ member text below

theorem clean_dict_iff {entries : List (Text × Report)} :
    Clean knownSecrets (.node (.dict entries)) ↔
      ∀ entry ∈ entries, Plain knownSecrets entry.1 ∧ Clean knownSecrets entry.2 := by
  constructor
  · intro clean entry member
    refine ⟨clean entry.1 (.key member rfl), fun text spells => ?_⟩
    exact clean text (.child (List.mem_map_of_mem member) spells)
  · intro each text spells
    cases spells with
    | key member same => exact same ▸ (each _ member).1
    | child member below =>
      have ⟨entry, among, same⟩ := List.mem_map.1 member
      exact (each entry among).2 text (same ▸ below)

theorem clean_finalized_mask (admissible : Admissible knownSecrets) (n : ℕ) :
    Clean knownSecrets (finalized knownSecrets n (.leaf (.text mask))) := by
  cases n with
  | zero => exact clean_text_iff.2 (plain_mask admissible)
  | succ n =>
    rw [finalized, clean_text_iff, capped_mask admissible]
    exact plain_mask admissible

theorem clean_finalized_iff (admissible : Admissible knownSecrets) (n : ℕ) (tree : Report) :
    Clean knownSecrets (finalized knownSecrets n (redacted host n tree)) ↔
      CoveredBelow host knownSecrets n tree := by
  induction n generalizing tree with
  | zero => exact Iff.rfl
  | succ n ih =>
    cases tree with
    | leaf s =>
      cases s with
      | text s =>
        rw [redacted, finalized, clean_text_iff, plain_capped_iff admissible]
        rfl
      | _ => exact iff_of_true (clean_scalar fun _ h => by cases h) trivial
    | node inner =>
      cases inner with
      | list items =>
        rw [redacted, finalized]
        change Clean knownSecrets (.node (.list ((items.map (redacted host n)).map _))) ↔ _
        rw [clean_list_iff, List.map_map, List.forall_mem_map]
        exact forall₂_congr fun item _ => ih item
      | dict entries =>
        rw [redacted, finalized]
        unfold Node.values Node.fill
        dsimp only
        rw [List.map_map, List.map_map, List.map_map, List.zip_map', clean_dict_iff,
          List.forall_mem_map]
        unfold CoveredBelow
        refine forall₂_congr fun entry _ => and_congr_right fun _ => ?_
        dsimp only [Function.comp_apply]
        split_ifs with sensitive
        · exact iff_of_true (clean_finalized_mask admissible n) (.inl sensitive)
        · rw [ih]
          exact ⟨.inr, fun h => h.resolve_left sensitive⟩

/-! ## Fields -/

theorem mapM_isSome {f : Report → Option Report} {items : List Report} :
    (items.mapM f).isSome = items.all fun item => (f item).isSome := by
  induction items with
  | nil => rfl
  | cons item items ih =>
    rw [List.mapM_cons, List.all_cons, ← ih]
    cases f item with
    | none => rfl
    | some made => cases items.mapM f <;> rfl

theorem sanitizedValue_isSome (key : Text) (n : ℕ) (tree : Report) :
    (sanitizedValue host knownSecrets key n tree).isSome = handled host key n tree := by
  induction n generalizing tree with
  | zero => rfl
  | succ n ih =>
    cases tree with
    | leaf s =>
      cases s with
      | text s =>
        rw [sanitizedValue, Option.isSome_map, handled]
        unfold sanitizeStringField filteredText
        dsimp only
        cases host.scrubText _ <;> rfl
      | _ => rfl
    | node inner =>
      cases inner with
      | list items =>
        rw [sanitizedValue, handled]
        unfold Tree.rebuild Node.values
        dsimp only
        rw [Option.isSome_map, mapM_isSome]
        exact congrArg items.all (funext ih)
      | dict entries =>
        rw [sanitizedValue, handled]
        split_ifs with fits
        · exact fits.symm
        · exact (Bool.eq_false_of_not_eq_true fits).symm

theorem clean_sanitizedValue_iff (admissible : Admissible knownSecrets) {key : Text} {n : ℕ}
    {tree made : Report} (sanitized : sanitizedValue host knownSecrets key n tree = some made) :
    Clean knownSecrets made ↔ CoveredValue host knownSecrets key n tree := by
  induction n generalizing tree made with
  | zero => cases sanitized
  | succ n ih =>
    cases tree with
    | leaf s =>
      cases s with
      | text s =>
        have ⟨text, field, same⟩ := Option.map_eq_some_iff.1 sanitized
        have ⟨cleaned, scrubbed, capped⟩ := Option.bind_eq_some_iff.1 field
        rw [← same, clean_text_iff, ← Option.some.inj capped, plain_capped_iff admissible]
        unfold CoveredValue filteredText
        constructor
        · intro uncut other again
          rw [← Option.some.inj (scrubbed.symm.trans again)]
          exact uncut
        · exact fun uncut => uncut cleaned scrubbed
      | foreign => cases sanitized
      | _ =>
        cases sanitized
        exact iff_of_true (clean_scalar fun _ h => by cases h) trivial
    | node inner =>
      cases inner with
      | list items =>
        have ⟨others, all, same⟩ := Option.map_eq_some_iff.1 sanitized
        rw [← same]
        change Clean knownSecrets (.node (.list others)) ↔ _
        rw [clean_list_iff]
        unfold CoveredValue
        have pairs := mapM_eq_some_iff.1 all
        clear all same sanitized
        change List.Forall₂ _ items others at pairs
        induction pairs with
        | nil => simp
        | cons first _ rest =>
          rw [List.forall_mem_cons, List.forall_mem_cons]
          exact and_congr (ih first) rest
      | dict entries =>
        rw [sanitizedValue] at sanitized
        split_ifs at sanitized with fits
        rw [← Option.some.inj sanitized, clean_finalized_iff admissible]
        rfl

theorem clean_sanitizedField_iff (admissible : Admissible knownSecrets) (key : Text)
    (tree : Report) : Clean knownSecrets (sanitizedField host knownSecrets key tree) ↔
      CoveredField host knownSecrets key tree := by
  unfold sanitizedField CoveredField
  rw [← @sanitizedValue_isSome host knownSecrets]
  cases sanitized : sanitizedValue host knownSecrets key host.stack tree with
  | none =>
    rw [if_neg (by simp), Option.getD_none, clean_text_iff, plain_degradedText_iff admissible]
    rfl
  | some made =>
    rw [if_pos (Option.isSome_some ..), Option.getD_some,
      clean_sanitizedValue_iff admissible sanitized]

theorem clean_sanitizedReport_iff (admissible : Admissible knownSecrets) (tree : Report) :
    Clean knownSecrets (sanitizedReport host knownSecrets tree) ↔
      Covered host knownSecrets tree := by
  have raw : ∀ tree : Report,
      Clean knownSecrets (.node (.dict [(degradedKey, .leaf (.bool true)),
        (rawKey, .leaf (.text (degradedText host knownSecrets (writtenText host tree))))])) ↔
        Plain knownSecrets degradedKey ∧ Plain knownSecrets rawKey ∧
          CoveredText host knownSecrets tree := by
    intro tree
    have flag : Clean knownSecrets (.leaf (.bool true)) := clean_scalar fun _ h => by cases h
    rw [clean_dict_iff, List.forall_mem_cons, List.forall_mem_singleton, clean_text_iff,
      plain_degradedText_iff admissible, and_iff_left flag]
    rfl
  cases tree with
  | leaf s => exact raw _
  | node inner =>
    cases inner with
    | list items => exact raw _
    | dict entries =>
      unfold sanitizedReport Covered
      dsimp only
      rw [clean_dict_iff]
      constructor
      · intro each
        refine ⟨(each _ (mem_put.2 (.inl rfl))).1, fun entry member => ?_⟩
        by_cases flag : entry.1 = degradedKey
        · have first := each _ (mem_put.2 (.inl rfl))
          exact ⟨flag ▸ first.1, .inl flag⟩
        · have own := each _ (mem_put.2 (.inr ⟨List.mem_map_of_mem member, flag⟩))
          exact ⟨own.1, .inr ((clean_sanitizedField_iff admissible _ _).1 own.2)⟩
      · intro ⟨flag, each⟩ field member
        rcases mem_put.1 member with same | ⟨among, other⟩
        · rw [same]
          exact ⟨flag, clean_scalar fun _ h => by cases h⟩
        · have ⟨entry, held, same⟩ := List.mem_map.1 among
          rw [← same] at other ⊢
          have own := each entry held
          exact ⟨own.1, (clean_sanitizedField_iff admissible _ _).2 (own.2.resolve_left other)⟩

theorem topKeys_sanitizedReport (tree : Report) :
    ∀ key ∈ topKeys tree, key ∈ topKeys (sanitizedReport host knownSecrets tree) := by
  intro key member
  unfold topKeys at member
  split at member
  · apply mem_keys_put
    rw [List.map_map]
    exact member
  · cases member

/-- **Secrets in reports.** A report is safe exactly if it is covered. -/
theorem report_safe_iff (host : Host) (knownSecrets : List Text) (heap : Objects) (report : Item)
    (tree : Report) (admissible : Admissible knownSecrets) (shown : Shows heap report tree) :
    Safe host knownSecrets heap report tree ↔ Covered host knownSecrets tree := by
  have ⟨sub, made⟩ := @sanitizeErrorReport_shows host knownSecrets heap report tree shown
  rw [← clean_sanitizedReport_iff admissible]
  constructor
  · intro ⟨_, other, again, _, clean⟩
    rw [made.unique again]
    exact clean
  · exact fun clean => ⟨sub, _, made, topKeys_sanitizedReport tree, clean⟩

/-! ## Reports that are not safe -/

/-- A host that finds no secrets of its own. -/
def plainHost : Host where
  unicode := UrlSplit.asciiData
  casefold s := s.map Char.toLower
  scrubText := some
  str _ := none
  stack := 100
  strStack := 100

def hatenaKey : Text := "hatenaKey789xyz".toList

/-- A text below so many dicts. -/
def nested (s : Text) : ℕ → Report
  | 0 => .leaf (.text s)
  | n + 1 => .node (.dict [("detail".toList, nested s n)])

def nestedHeap (s : Text) (n : ℕ) : Objects :=
  (List.range n).map fun i =>
    .dict [("detail".toList, if i = 0 then .leaf (.text s) else .ref (i - 1))]

/-- No marker has this letter. -/
theorem admissible_of_letter {secret : Text} (letter : 'y' ∈ secret) (star : '*' ∉ secret) :
    Admissible [secret] := by
  intro other member
  rw [List.mem_singleton.1 member]
  refine ⟨star, fun marker isMarker part => ?_⟩
  have inMarker := part.subset letter
  rcases isMarker with same | same | ⟨overflow, same⟩
  · exact absurd (same ▸ inMarker) (by decide)
  · exact absurd (same ▸ inMarker) (by decide)
  · rw [same] at inMarker
    unfold truncationMarker at inMarker
    rw [List.mem_append, List.mem_append] at inMarker
    rcases inMarker with (head | digit) | tail
    · exact absurd head (by decide)
    · exact absurd (Nat.isDigit_of_mem_toDigits (by decide) (by decide) digit) (by decide)
    · exact absurd tail (by decide)

theorem hatenaKey_admissible : Admissible [hatenaKey] :=
  admissible_of_letter (by decide) (by decide)

theorem clean_of_coveredBelow {s : Text} {n : ℕ}
    (covered : CoveredBelow plainHost knownSecrets n (nested s n)) :
    Plain knownSecrets s := by
  induction n with
  | zero => exact clean_text_iff.1 covered
  | succ n ih =>
    have shownKey : ¬ isSensitiveKey plainHost "detail".toList = true := by decide
    exact ih ((covered _ List.mem_cons_self).2.resolve_left shownKey)

theorem not_uncut_replicate : ¬ Uncut ["y<".toList] (List.replicate 4001 'y') := by
  have absent : ¬ "y<".toList <:+: List.replicate 4001 'y' := by
    intro part
    have letter : '<' = 'y' :=
      List.eq_of_mem_replicate (part.subset (List.mem_cons_of_mem 'y' List.mem_cons_self))
    exact absurd letter (by decide)
  have kept : maskKnownSecretValues ["y<".toList] (List.replicate 4001 'y') =
      List.replicate 4001 'y' := by
    apply replaceAll_of_not_infix
    intro secret sorted
    have known := (mem_sortedBy ..).1 (List.mem_of_mem_filter sorted)
    rw [List.mem_singleton.1 known]
    exact absent
  intro uncut
  apply uncut
  rw [kept]
  refine ⟨by rw [List.length_replicate]; decide, "y<".toList, List.mem_cons_self, ['y'], ['<'],
    by decide, by decide, rfl, ?_, ?_⟩
  · rw [List.take_replicate]
    exact ⟨List.replicate 3999 'y', List.replicate_succ'.symm⟩
  · rw [List.length_replicate]
    exact ⟨_, rfl⟩

theorem not_safe_of_not_covered {heap : Objects} {report : Item} {tree : Report}
    (admissible : Admissible knownSecrets) (shown : Shows heap report tree)
    (open_ : ¬ Covered host knownSecrets tree) : ¬ Safe host knownSecrets heap report tree := by
  intro ⟨_, made, again, _, clean⟩
  have shows := (@sanitizeErrorReport_shows host knownSecrets heap report tree shown).2
  rw [← shows.unique again, clean_sanitizedReport_iff admissible] at clean
  exact open_ clean

/-- A secret survives eight dicts below a field, as a key, and over the cut of a long text. -/
theorem deep_secret_survives :
    (Shows (nestedHeap hatenaKey 9) (.ref 8) (nested hatenaKey 9) ∧
      ¬ Safe plainHost [hatenaKey] (nestedHeap hatenaKey 9) (.ref 8) (nested hatenaKey 9)) ∧
    ¬ Safe plainHost [hatenaKey] [.dict [(hatenaKey, .leaf .null)]] (.ref 0)
      (.node (.dict [(hatenaKey, .leaf .null)])) ∧
    ¬ Safe plainHost ["y<".toList]
      [.dict [("message".toList, .leaf (.text (List.replicate 4001 'y')))]] (.ref 0)
      (.node (.dict [("message".toList, .leaf (.text (List.replicate 4001 'y')))])) := by
  have shown : Shows (nestedHeap hatenaKey 9) (.ref 8) (nested hatenaKey 9) := ⟨10, rfl⟩
  refine ⟨⟨shown, ?_⟩, ?_, ?_⟩
  · apply not_safe_of_not_covered hatenaKey_admissible shown
    intro ⟨_, each⟩
    have field := (each _ List.mem_cons_self).2.resolve_left (by decide)
    unfold CoveredField at field
    rw [if_pos (by decide)] at field
    exact clean_of_coveredBelow field hatenaKey List.mem_cons_self (List.infix_refl _)
  · apply not_safe_of_not_covered hatenaKey_admissible ⟨2, rfl⟩
    intro ⟨_, each⟩
    exact (each _ List.mem_cons_self).1 hatenaKey List.mem_cons_self (List.infix_refl _)
  · apply not_safe_of_not_covered (admissible_of_letter (by decide) (by decide)) ⟨2, rfl⟩
    intro ⟨_, each⟩
    have field : CoveredField plainHost ["y<".toList] "message".toList
        (.leaf (.text (List.replicate 4001 'y'))) :=
      (each _ List.mem_cons_self).2.resolve_left (by decide)
    have scrubbed : handled plainHost "message".toList plainHost.stack
        (.leaf (.text (List.replicate 4001 'y'))) = true := rfl
    unfold CoveredField at field
    rw [if_pos scrubbed] at field
    have uncut := field _ rfl
    unfold filteredText at uncut
    rw [if_neg (by decide)] at uncut
    exact not_uncut_replicate uncut

theorem nested_safe_iff :
    Safe plainHost [hatenaKey] (nestedHeap hatenaKey 9) (.ref 8) (nested hatenaKey 9) ↔
      Covered plainHost [hatenaKey] (nested hatenaKey 9) :=
  report_safe_iff plainHost [hatenaKey] (nestedHeap hatenaKey 9) (.ref 8) (nested hatenaKey 9)
    hatenaKey_admissible ⟨10, rfl⟩

end BacklinkPublisher.ReportSecrets
