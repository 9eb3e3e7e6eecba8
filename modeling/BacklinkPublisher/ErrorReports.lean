import BacklinkPublisher.FormEncoding
import BacklinkPublisher.ObjectHeaps
import BacklinkPublisher.OrderedDicts
import BacklinkPublisher.Replacements
import BacklinkPublisher.SortedLists
import BacklinkPublisher.UrlSplit
import Mathlib.Data.Rat.Defs
import Mathlib.Order.OrderDual

set_option autoImplicit false

/-!
# Sanitized error reports

`sanitize_error_report` of `webui_app/services/error_report_sanitizer.py` with `_redact_in_place` of
`_util/logger.py`, on the heap that holds the caller's report, and the function on trees that it
computes.
-/
namespace BacklinkPublisher.ErrorReports
open FormEncoding ObjectHeaps OrderedDicts Replacements SortedLists UrlSplit
open scoped Texts

abbrev Text := List Char

/-- What a report holds besides lists and dicts. `foreign` is a value that JSON does not have. -/
inductive Scalar where
  | null
  | bool (b : Bool)
  | number (q : ℚ)
  | text (s : Text)
  | foreign (code : ℕ)

abbrev Report := ObjectHeaps.Tree Text Scalar
abbrev Objects := Heap Text Scalar
abbrev Item := Value Scalar

/-- What the sanitizer calls: `casefold`, `scrub_text` and `str`, which may raise, and how many
levels of a report the stack has room for, when it is walked and when it is written. -/
structure Host where
  unicode : UnicodeData
  casefold : Text → Text
  scrubText : Text → Option Text
  str : Report → Option Text
  stack : ℕ
  strStack : ℕ

def maxFieldLen : ℕ := 4000

def maxRedactDepth : ℕ := 8

def mask : Text := "***".toList

def sensitiveQueryExact : List Text :=
  ["token", "access_token", "accesstoken", "api_key", "apikey", "session", "session_id",
    "sessionid", "sid", "sig", "signature", "csrf", "csrf_token", "csrftoken", "xsrf", "xsrf_token",
    "xsrftoken", "auth", "auth_token", "authtoken", "authorization", "secret", "client_secret",
    "clientsecret", "password", "refresh_token", "refreshtoken", "id_token",
    "idtoken"].map String.toList

def sensitiveQuerySubstrings : List Text :=
  ["token", "secret", "password", "csrf", "xsrf", "session", "api_key", "apikey",
    "authorization"].map String.toList

def sensitiveKeys : List Text :=
  ["client_secret", "integration_token", "access_token", "refresh_token", "id_token", "api_key",
    "password", "secret", "token", "authorization", "bearer", "hpassword", "auth_response",
    "challenge", "cookie", "storage_state", "form_body", "post_data", "formhash",
    "sid"].map String.toList

/-! ## Texts -/

section Texts
variable (host : Host) (knownSecrets : List Text)

def isSensitiveQueryParam (name : Text) : Bool :=
  let n := host.casefold name
  decide (n ∈ sensitiveQueryExact) || sensitiveQuerySubstrings.any fun marker => marker <:+: n

def filterUrlQueryTokens (url : Text) : Text :=
  match urlsplit host.unicode url with
  | none => url
  | some parts =>
    if parts.query = [] then url
    else
      let filtered := (parseQsl parts.query).map fun field =>
        (field.1, if isSensitiveQueryParam host field.1 then mask else field.2)
      urlunsplit { parts with query := urlencode filtered }

def isUrlField (key : Text) : Bool :=
  let k := host.casefold key
  k = "url".toList ∨ "_url".toList <:+ k

def truncationMarker (overflow : ℕ) : Text :=
  "<TRUNCATED:".toList ++ Nat.toDigits 10 overflow ++ " more chars>".toList

def applyLengthCap (s : Text) : Text :=
  if s.length ≤ maxFieldLen then s
  else s.take maxFieldLen ++ truncationMarker (s.length - maxFieldLen)

/-- The longest secret first; to replace what is not there changes nothing. -/
def maskKnownSecretValues (s : Text) : Text :=
  replaceAll ((sortedBy (fun secret => OrderDual.toDual secret.length) knownSecrets).filter
    fun secret => secret ≠ []) mask s

def sanitizeStringField (key value : Text) : Option Text := do
  let value := if isUrlField host key then filterUrlQueryTokens host value else value
  let cleaned ← host.scrubText value
  some (applyLengthCap (maskKnownSecretValues knownSecrets cleaned))

def isSensitiveKey (key : Text) : Bool := host.casefold key ∈ sensitiveKeys

/-- The text of a value for which there is no other way. -/
def degradedText (text : Option Text) : Text :=
  match text with
  | none => "<unrepresentable>".toList
  | some text =>
    applyLengthCap (maskKnownSecretValues knownSecrets ((host.scrubText text).getD text))

end Texts

/-! ## Reports on the heap -/

section Heaps
variable (host : Host) (knownSecrets : List Text)

/-- `_redact_in_place` with so many levels left. -/
def redactInPlace : ℕ → Objects → Item → Objects × Item
  | 0, heap, value => (heap, value)
  | _ + 1, heap, .leaf s => (heap, .leaf s)
  | n + 1, heap, .ref address =>
    match heap[address]? with
    | none => (heap, .ref address)
    | some (.dict entries) =>
      let change := fun heap (entry : Text × Item) =>
        if isSensitiveKey host entry.1 then (heap, .leaf (.text mask))
        else redactInPlace n heap entry.2
      (updateEach change address 0 entries heap, .ref address)
    | some (.list items) => (updateEach (redactInPlace n) address 0 items heap, .ref address)

/-- `_finalize_leaf` with so many levels left. -/
def finalizeLeaf : ℕ → Objects → Item → Option (Objects × Item)
  | 0, heap, value => some (heap, value)
  | _ + 1, heap, .leaf (.text s) =>
    some (heap, .leaf (.text (applyLengthCap (maskKnownSecretValues knownSecrets s))))
  | _ + 1, heap, .leaf s => some (heap, .leaf s)
  | n + 1, heap, .ref address => heap[address]?.bind (rebuild (finalizeLeaf n) heap)

def sanitizeStructuredField (stack : ℕ) (heap : Objects) (value : Item) :
    Option (Objects × Item) := do
  let (heap, working) ← deepcopy stack heap value
  let (heap, working) := redactInPlace host maxRedactDepth heap working
  finalizeLeaf knownSecrets maxRedactDepth heap working

/-- `_sanitize_value`, `none` where it raises. -/
def sanitizeValue (key : Text) : ℕ → Objects → Item → Option (Objects × Item)
  | 0, _, _ => none
  | _ + 1, heap, .leaf (.text s) =>
    (sanitizeStringField host knownSecrets key s).map fun s => (heap, .leaf (.text s))
  | _ + 1, _, .leaf (.foreign _) => none
  | _ + 1, heap, .leaf s => some (heap, .leaf s)
  | n + 1, heap, .ref address =>
    match heap[address]? with
    | none => none
    | some (.dict _) => sanitizeStructuredField host knownSecrets n heap (.ref address)
    | some (.list items) => rebuild (sanitizeValue key n) heap (.list items)

def bestEffortString (heap : Objects) (value : Item) : Text :=
  degradedText host knownSecrets ((view heap host.strStack value).bind host.str)

/-- The loop over the fields, and whether one of them degraded. What was allocated for a field that
degraded is garbage. -/
def sanitizeFields : Objects → List (Text × Item) → Objects × List (Text × Item) × Bool
  | heap, [] => (heap, [], false)
  | heap, (key, value) :: rest =>
    match sanitizeValue host knownSecrets key host.stack heap value with
    | some (heap, made) =>
      let (heap, fields, degraded) := sanitizeFields heap rest
      (heap, (key, made) :: fields, degraded)
    | none =>
      let text := bestEffortString host knownSecrets heap value
      let (heap, fields, _) := sanitizeFields heap rest
      (heap, (key, .leaf (.text text)) :: fields, true)

def degradedKey : Text := "sanitize_degraded".toList

def rawKey : Text := "raw".toList

def sanitizeErrorReport (heap : Objects) (report : Item) : Objects × Item :=
  let asDict : Option (List (Text × Item)) :=
    match report with
    | .ref address =>
      match heap[address]? with
      | some (.dict entries) => some entries
      | _ => none
    | .leaf _ => none
  match asDict with
  | none =>
    let raw := bestEffortString host knownSecrets heap report
    (heap ++ [.dict [(degradedKey, .leaf (.bool true)), (rawKey, .leaf (.text raw))]],
      .ref heap.length)
  | some entries =>
    let (heap, result, degraded) := sanitizeFields host knownSecrets heap entries
    (heap ++ [.dict (put Prod.fst (degradedKey, .leaf (.bool degraded)) result)], .ref heap.length)

end Heaps

/-! ## Reports as trees -/

section Trees
variable (host : Host) (knownSecrets : List Text)

def redacted : ℕ → Report → Report
  | 0, tree => tree
  | _ + 1, .leaf s => .leaf s
  | n + 1, .node (.list items) => .node (.list (items.map (redacted n)))
  | n + 1, .node (.dict entries) =>
    .node (.dict (entries.map fun entry =>
      (entry.1, if isSensitiveKey host entry.1 then .leaf (.text mask) else redacted n entry.2)))

def finalized : ℕ → Report → Report
  | 0, tree => tree
  | _ + 1, .leaf (.text s) =>
    .leaf (.text (applyLengthCap (maskKnownSecretValues knownSecrets s)))
  | _ + 1, .leaf s => .leaf s
  | n + 1, .node inner => .node (inner.fill (inner.values.map (finalized n)))

def sanitizedValue (key : Text) : ℕ → Report → Option Report
  | 0, _ => none
  | _ + 1, .leaf (.text s) =>
    (sanitizeStringField host knownSecrets key s).map fun s => .leaf (.text s)
  | _ + 1, .leaf (.foreign _) => none
  | _ + 1, .leaf s => some (.leaf s)
  | n + 1, .node (.dict entries) =>
    if Tree.fits n (.node (.dict entries)) then
      some (finalized knownSecrets maxRedactDepth
        (redacted host maxRedactDepth (.node (.dict entries))))
    else none
  | n + 1, .node (.list items) => Tree.rebuild (sanitizedValue key n) (.list items)

def writtenText (tree : Report) : Option Text :=
  if tree.fits host.strStack then host.str tree else none

def sanitizedField (key : Text) (tree : Report) : Report :=
  (sanitizedValue host knownSecrets key host.stack tree).getD
    (.leaf (.text (degradedText host knownSecrets (writtenText host tree))))

def sanitizedReport : Report → Report
  | .node (.dict entries) =>
    let degraded := entries.any fun entry =>
      (sanitizedValue host knownSecrets entry.1 host.stack entry.2).isNone
    .node (.dict (put Prod.fst (degradedKey, .leaf (.bool degraded))
      (entries.map fun entry => (entry.1, sanitizedField host knownSecrets entry.1 entry.2))))
  | tree =>
    .node (.dict [(degradedKey, .leaf (.bool true)),
      (rawKey, .leaf (.text (degradedText host knownSecrets (writtenText host tree))))])

end Trees

/-! ## The heap computes the trees -/

variable {host : Host} {knownSecrets : List Text} {heap : Objects} {value : Item} {tree : Report}

theorem zip_map_changed (change : Text → Report → Report) (entries : List (Text × Item))
    (trees : List Report) :
    ((entries.map Prod.fst).zip trees).map (fun entry => (entry.1, change entry.1 entry.2)) =
      (entries.map Prod.fst).zip
        (List.zipWith (fun entry tree => change entry.1 tree) entries trees) := by
  induction entries generalizing trees with
  | nil => rfl
  | cons entry entries ih =>
    cases trees with
    | nil => rfl
    | cons tree trees => exact congrArg ((entry.1, change entry.1 tree) :: ·) (ih trees)

theorem map_eq_zipWith (change : Report → Report) {items : List Item} {trees : List Report}
    (length : trees.length = items.length) :
    trees.map change = List.zipWith (fun _ tree => change tree) items trees := by
  induction items generalizing trees with
  | nil =>
    rw [List.length_eq_zero_iff.1 length]
    rfl
  | cons item items ih =>
    cases trees with
    | nil => cases length
    | cons tree trees => exact congrArg (change tree :: ·) (ih (Nat.succ.inj length))

/-- The redaction writes to what the value owns, so many levels down. -/
theorem redactInPlace_owns (host : Host) (m n : ℕ) :
    ChangesOwned n id (redactInPlace host m) fun _ => redacted host m := by
  induction m generalizing n with
  | zero => exact fun heap lo hi value tree owned => ⟨rfl, fun _ _ => rfl, owned⟩
  | succ m ih =>
    intro heap lo hi value tree owned
    cases n with
    | zero => cases owned
    | succ n =>
      cases value with
      | leaf s =>
        have same : tree = .leaf s := owned.2
        rw [same]
        exact ⟨rfl, fun _ _ => rfl, owned.1, rfl⟩
      | ref address =>
        have ⟨below, node, trees, read, run, shape⟩ := owned
        have length : trees.length = node.values.length := run.length_eq.symm
        rw [redactInPlace, read, shape]
        cases node with
        | list items =>
          have whole := updateEach_owned (ih n) below read (List.map_id items).symm run
          have length' : trees.length = items.length := length
          rw [← map_eq_zipWith (redacted host m) length'] at whole
          exact whole
        | dict entries =>
          have entryOwns : ChangesOwned n Prod.snd
              (fun heap (entry : Text × Item) =>
                if isSensitiveKey host entry.1 then (heap, .leaf (.text mask))
                else redactInPlace host m heap entry.2)
              fun entry tree =>
                if isSensitiveKey host entry.1 then .leaf (.text mask)
                else redacted host m tree := by
            intro heap lo hi entry tree owned
            dsimp only
            split_ifs with sensitive
            · cases n with
              | zero => cases owned
              | succ n => exact ⟨rfl, fun _ _ => rfl, owned.le, rfl⟩
            · exact ih n heap lo hi entry.2 tree owned
          have whole := updateEach_owned entryOwns below read rfl run
          have shape' : redacted host (m + 1) (.node (Node.fill (.dict entries) trees)) =
              .node (Node.fill (.dict entries) (List.zipWith (fun entry tree =>
                if isSensitiveKey host entry.1 then .leaf (.text mask) else redacted host m tree)
                entries trees)) :=
            congrArg (fun entries => ObjectHeaps.Tree.node (.dict entries))
              (zip_map_changed (fun key tree =>
                if isSensitiveKey host key then .leaf (.text mask) else redacted host m tree)
                entries trees)
          rw [← shape'] at whole
          exact whole

theorem rebuild_some (change : Report → Report) (inner : Node Text Report) :
    Tree.rebuild (fun tree => some (change tree)) inner =
      some (.node (inner.fill (inner.values.map change))) := by
  have all : inner.values.mapM (fun tree => some (change tree)) =
      some (inner.values.map change) := by
    rw [mapM_eq_some_iff, List.forall₂_map_right_iff, List.forall₂_same]
    exact fun _ _ => rfl
  unfold Tree.rebuild
  rw [all]
  rfl

theorem finalizeLeaf_implements (knownSecrets : List Text) (m : ℕ) :
    Implements Showing (finalizeLeaf knownSecrets m) fun tree =>
      some (finalized knownSecrets m tree) := by
  induction m with
  | zero =>
    constructor
    · exact fun _ _ _ _ raised => (by cases raised)
    · intro heap value tree made shown returned
      rw [← Option.some.inj returned]
      exact ⟨heap, value, rfl, List.prefix_refl heap, le_rfl, shown⟩
  | succ m ih =>
    constructor
    · exact fun _ _ _ _ raised => (by cases raised)
    · intro heap value tree made shown returned
      rw [← Option.some.inj returned]
      cases value with
      | leaf s =>
        rw [shown.of_leaf]
        cases s with
        | text s => exact ⟨heap, _, rfl, List.prefix_refl heap, le_rfl, Shows.leaf _⟩
        | _ => exact ⟨heap, _, rfl, List.prefix_refl heap, le_rfl, Shows.leaf _⟩
      | ref address =>
        have ⟨node, trees, read, below, shape⟩ := shows_ref_iff.1 shown
        rw [finalizeLeaf, read, Option.bind_some, shape]
        exact (rebuild_showing ih below).2 _ (rebuild_some (finalized knownSecrets m) _)

theorem sanitizeStructuredField_implements (host : Host) (knownSecrets : List Text) (n : ℕ) :
    Implements Showing (sanitizeStructuredField host knownSecrets n) fun tree =>
      if tree.fits n then
        some (finalized knownSecrets maxRedactDepth (redacted host maxRedactDepth tree))
      else none := by
  have copies := @deepcopy_implements Text Scalar n
  constructor
  · intro heap value tree shown raised
    have deep : (if tree.fits n then some tree else none) = none := by
      split_ifs at raised ⊢ with fits
      rfl
    unfold sanitizeStructuredField
    rw [copies.raises heap value tree shown deep]
    rfl
  · intro heap value tree made shown returned
    split_ifs at returned with fits
    rw [← Option.some.inj returned]
    have ⟨heap₁, working, copied, sub₁, owned⟩ :=
      copies.returns heap value tree tree shown (if_pos fits)
    have ⟨length₂, same₂, owned₂⟩ := redactInPlace_owns host maxRedactDepth n heap₁ _ _ working
      tree owned
    have sub₂ : heap <+: (redactInPlace host maxRedactDepth heap₁ working).1 := by
      rw [List.prefix_iff_getElem?] at sub₁ ⊢
      intro a bound
      rw [← sub₁ a bound]
      exact same₂ a (.inl bound)
    have ⟨heap₃, result, done, sub₃, showing⟩ :=
      (finalizeLeaf_implements knownSecrets maxRedactDepth).returns _ _ _ _ owned₂.shows rfl
    refine ⟨heap₃, result, ?_, sub₂.trans sub₃, (sub₂.trans sub₃).length_le, showing.2⟩
    unfold sanitizeStructuredField
    rw [copied]
    exact done

theorem sanitizeValue_implements (host : Host) (knownSecrets : List Text) (key : Text) (n : ℕ) :
    Implements Showing (sanitizeValue host knownSecrets key n)
      (sanitizedValue host knownSecrets key n) := by
  induction n with
  | zero =>
    constructor
    · exact fun _ _ _ _ _ => rfl
    · exact fun _ _ _ _ _ returned => (by cases returned)
  | succ n ih =>
    have structured := sanitizeStructuredField_implements host knownSecrets n
    constructor
    · intro heap value tree shown raised
      cases value with
      | leaf s =>
        rw [shown.of_leaf] at raised
        cases s with
        | text s =>
          rw [sanitizedValue, Option.map_eq_none_iff] at raised
          rw [sanitizeValue, raised]
          rfl
        | foreign => rfl
        | _ => cases raised
      | ref address =>
        have ⟨node, trees, read, below, shape⟩ := shows_ref_iff.1 shown
        rw [sanitizeValue, read]
        rw [shape] at raised
        cases node with
        | list items => exact (rebuild_showing ih below).1 raised
        | dict entries =>
          rw [shape] at shown
          exact structured.raises heap _ _ shown raised
    · intro heap value tree made shown returned
      cases value with
      | leaf s =>
        rw [shown.of_leaf] at returned
        cases s with
        | text s =>
          have ⟨cleaned, sanitized, same⟩ := Option.map_eq_some_iff.1 returned
          rw [← same]
          refine ⟨heap, .leaf (.text cleaned), ?_, List.prefix_refl heap, le_rfl, Shows.leaf _⟩
          rw [sanitizeValue, sanitized]
          rfl
        | foreign => cases returned
        | _ =>
          cases returned
          exact ⟨heap, _, rfl, List.prefix_refl heap, le_rfl, Shows.leaf _⟩
      | ref address =>
        have ⟨node, trees, read, below, shape⟩ := shows_ref_iff.1 shown
        rw [sanitizeValue, read]
        rw [shape] at returned
        cases node with
        | list items => exact (rebuild_showing ih below).2 made returned
        | dict entries =>
          rw [shape] at shown
          exact structured.returns heap _ _ made shown returned

/-! ## The fields -/

/-- Entries on the heap that show the entries of a tree. -/
def EntriesShow (heap : Objects) (entries : List (Text × Item)) (fields : List (Text × Report)) :
    Prop :=
  List.Forall₂ (fun entry field => entry.1 = field.1 ∧ Shows heap entry.2 field.2) entries fields

theorem EntriesShow.mono {heap' : Objects} {entries : List (Text × Item)}
    {fields : List (Text × Report)} (shown : EntriesShow heap entries fields)
    (sub : heap <+: heap') : EntriesShow heap' entries fields :=
  shown.imp fun _ _ h => ⟨h.1, h.2.mono sub⟩

theorem shows_dict_iff {address : ℕ} {entries : List (Text × Item)}
    (read : heap[address]? = some (.dict entries)) :
    Shows heap (.ref address) tree ↔
      ∃ fields, EntriesShow heap entries fields ∧ tree = .node (.dict fields) := by
  have split : ∀ fields : List (Text × Report), EntriesShow heap entries fields ↔
      List.Forall₂ (Shows heap) (entries.map Prod.snd) (fields.map Prod.snd) ∧
        fields = (entries.map Prod.fst).zip (fields.map Prod.snd) := by
    intro fields
    clear read
    unfold EntriesShow
    induction entries generalizing fields with
    | nil =>
      cases fields with
      | nil => simp
      | cons => simp
    | cons entry entries ih =>
      cases fields with
      | nil => simp
      | cons field fields =>
        rw [List.forall₂_cons, ih]
        simp only [List.map_cons, List.forall₂_cons, List.zip_cons_cons, List.cons.injEq,
          Prod.ext_iff, and_true]
        constructor
        · intro ⟨⟨key, first⟩, rest, whole⟩
          exact ⟨⟨first, rest⟩, key.symm, whole⟩
        · intro ⟨⟨first, rest⟩, key, whole⟩
          exact ⟨⟨key.symm, first⟩, rest, whole⟩
  constructor
  · intro shown
    have ⟨trees, below, shape⟩ := exists_node shown read
    have length : trees.length = entries.length := by
      rw [← below.length_eq]
      exact List.length_map _
    have values : ((entries.map Prod.fst).zip trees).map Prod.snd = trees :=
      List.map_snd_zip (by rw [List.length_map]; exact length.le)
    refine ⟨(entries.map Prod.fst).zip trees, (split _).2 ⟨?_, ?_⟩, shape⟩
    · rw [values]
      exact below
    · rw [values]
  · intro ⟨fields, shown, shape⟩
    have ⟨below, whole⟩ := (split fields).1 shown
    refine shows_ref_iff.2 ⟨.dict entries, fields.map Prod.snd, read, below, ?_⟩
    rw [shape]
    exact congrArg (fun fields => ObjectHeaps.Tree.node (.dict fields)) whole

theorem EntriesShow.keys_eq {entries : List (Text × Item)} {fields : List (Text × Report)}
    (shown : EntriesShow heap entries fields) : entries.map Prod.fst = fields.map Prod.fst := by
  unfold EntriesShow at shown
  induction shown with
  | nil => rfl
  | cons first _ ih => rw [List.map_cons, List.map_cons, first.1, ih]

theorem EntriesShow.put {entries : List (Text × Item)} {fields : List (Text × Report)}
    (shown : EntriesShow heap entries fields) (key : Text) (s : Scalar) :
    EntriesShow heap (put Prod.fst (key, .leaf s) entries)
      (put Prod.fst (key, .leaf s) fields) := by
  have keys := shown.keys_eq
  unfold OrderedDicts.put
  dsimp only
  rw [← keys]
  split_ifs with present
  · unfold adjust
    unfold EntriesShow
    rw [List.forall₂_map_left_iff, List.forall₂_map_right_iff]
    refine shown.imp fun entry field h => ?_
    rw [← h.1]
    split_ifs
    · exact ⟨rfl, Shows.leaf s⟩
    · exact h
  · exact List.rel_append shown (.cons ⟨rfl, Shows.leaf s⟩ .nil)

theorem bestEffortString_eq (shown : Shows heap value tree) :
    bestEffortString host knownSecrets heap value =
      degradedText host knownSecrets (writtenText host tree) := by
  unfold bestEffortString writtenText
  congr 1
  have levels := @view_isSome_iff _ _ _ _ _ host.strStack shown
  cases written : view heap host.strStack value with
  | none =>
    have deep : ¬ tree.fits host.strStack = true := by
      rw [← levels, written]
      exact fun h => by cases h
    rw [if_neg deep]
    rfl
  | some other =>
    have same : other = tree := Shows.unique ⟨_, written⟩ shown
    rw [if_pos (levels.1 (by rw [written, same])), same]
    rfl

theorem sanitizeFields_shows {entries : List (Text × Item)} {fields : List (Text × Report)}
    (shown : EntriesShow heap entries fields) :
    heap <+: (sanitizeFields host knownSecrets heap entries).1 ∧
      EntriesShow (sanitizeFields host knownSecrets heap entries).1
        (sanitizeFields host knownSecrets heap entries).2.1
        (fields.map fun field => (field.1, sanitizedField host knownSecrets field.1 field.2)) ∧
      (sanitizeFields host knownSecrets heap entries).2.2 = fields.any fun field =>
        (sanitizedValue host knownSecrets field.1 host.stack field.2).isNone := by
  induction entries generalizing heap fields with
  | nil =>
    cases shown
    exact ⟨List.prefix_refl heap, .nil, rfl⟩
  | cons entry entries ih =>
    have ⟨field, others, first, rest, split⟩ := List.forall₂_cons_left_iff.1 shown
    have ⟨key, value⟩ := entry
    have ⟨name, tree⟩ := field
    have ⟨same, shows⟩ := first
    dsimp only at same shows
    have implements := sanitizeValue_implements host knownSecrets name host.stack
    rw [split, sanitizeFields, List.map_cons, List.any_cons, same]
    dsimp only
    cases outcome : sanitizedValue host knownSecrets name host.stack tree with
    | none =>
      have ⟨sub, later, degraded⟩ := ih rest
      rw [implements.raises heap value tree shows outcome]
      refine ⟨sub, .cons ⟨rfl, ?_⟩ later, rfl⟩
      unfold sanitizedField
      rw [outcome, bestEffortString_eq shows]
      exact Shows.leaf _
    | some made =>
      have ⟨heap₁, result, returned, sub₁, showing⟩ :=
        implements.returns heap value tree made shows outcome
      have ⟨sub, later, degraded⟩ := ih (EntriesShow.mono rest sub₁)
      rw [returned]
      refine ⟨sub₁.trans sub, .cons ⟨rfl, ?_⟩ later, degraded⟩
      unfold sanitizedField
      rw [outcome]
      exact showing.2.mono sub

/-- What comes out shows the sanitized report, and nothing that was on the heap has changed. -/
theorem sanitizeErrorReport_shows (shown : Shows heap value tree) :
    heap <+: (sanitizeErrorReport host knownSecrets heap value).1 ∧
      Shows (sanitizeErrorReport host knownSecrets heap value).1
        (sanitizeErrorReport host knownSecrets heap value).2
        (sanitizedReport host knownSecrets tree) := by
  have whole : ∀ (heap' : Objects) (entries : List (Text × Item)) (fields : List (Text × Report)),
      EntriesShow heap' entries fields →
        Shows (heap' ++ [.dict entries]) (.ref heap'.length) (.node (.dict fields)) :=
    fun heap' entries fields entriesShow => (shows_dict_iff List.getElem?_concat_length).2
      ⟨fields, entriesShow.mono (List.prefix_append _ _), rfl⟩
  have raw : EntriesShow heap
      [(degradedKey, .leaf (.bool true)),
        (rawKey, .leaf (.text (bestEffortString host knownSecrets heap value)))]
      [(degradedKey, .leaf (.bool true)), (rawKey, .leaf (.text (degradedText host knownSecrets
        (writtenText host tree))))] := by
    rw [bestEffortString_eq shown]
    exact .cons ⟨rfl, Shows.leaf _⟩ (.cons ⟨rfl, Shows.leaf _⟩ .nil)
  unfold sanitizeErrorReport
  cases value with
  | leaf s =>
    rw [shown.of_leaf] at raw ⊢
    exact ⟨List.prefix_append _ _, whole _ _ _ raw⟩
  | ref address =>
    have ⟨node, trees, read, below, shape⟩ := shows_ref_iff.1 shown
    dsimp only
    rw [read]
    cases node with
    | list items =>
      rw [shape] at raw ⊢
      exact ⟨List.prefix_append _ _, whole _ _ _ raw⟩
    | dict entries =>
      have ⟨fields, entriesShow, same⟩ := (shows_dict_iff read).1 shown
      have ⟨sub, made, degraded⟩ :=
        @sanitizeFields_shows host knownSecrets heap entries fields entriesShow
      rw [same]
      refine ⟨sub.trans (List.prefix_append _ _), ?_⟩
      unfold sanitizedReport
      dsimp only
      rw [← degraded]
      exact whole _ _ _ (made.put degradedKey _)

end BacklinkPublisher.ErrorReports
