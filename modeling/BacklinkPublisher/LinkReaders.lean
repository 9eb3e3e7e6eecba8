import BacklinkPublisher.AnchorTags
import BacklinkPublisher.CanonicalUrl
import Mathlib.Data.List.Infix

set_option autoImplicit false

/-!
# Three readers of a backlink

`_target_verdicts`, the scan of `inspect_target_anchor` and `body_has_required_link` decide of the
same page whether it links to a target, and the first two also whether that link is nofollow.
-/
namespace BacklinkPublisher.LinkReaders
open AnchorTags CanonicalUrl FormEncoding UrlSplit
open scoped Texts

variable (T : TextData)

/-! ## Links and redirects -/

def canonicalizeForMatch (href : List Char) : Option (List Char) :=
  if href = [] then none else canonicalizeUrl T.toUnicodeData href

/-- The canonical form, where there is one that is not empty. -/
def checkable (url : List Char) : Option (List Char) :=
  (canonicalizeForMatch T url).filter (· ≠ [])

def interstitialQueryKeys : List (List Char) :=
  ["target", "url", "u", "to", "dest", "redirect"].map String.toList

/-- The decoded value, if it is an absolute URL of the web. -/
def wrappedUrl (raw : List Char) : Option (List Char) :=
  if raw = [] then none
  else
    (urlsplit T.toUnicodeData (unquote raw)).bind fun parsed =>
      if parsed.scheme ∈ ["http".toList, "https".toList] ∧ parsed.netloc ≠ [] then
        some (unquote raw)
      else none

/-- The value of the last field with the key in lower case. -/
def lowered (fields : List (List Char × List Char)) (key : List Char) : Option (List Char) :=
  (fields.reverse.find? fun field => T.lower field.1 = key).map Prod.snd

def unwrapInterstitial (href : List Char) : List Char :=
  if href = [] then href
  else
    match urlsplit T.toUnicodeData href with
    | none => href
    | some parsed =>
      if parsed.query = [] then href
      else
        (interstitialQueryKeys.findSome? fun key =>
          (lowered T (parseQsl parsed.query) key).bind (wrappedUrl T)).getD href

/-! ## The verdicts -/

structure Anchor where
  direct : Option (List Char)
  effective : Option (List Char)
  nofollow : Bool

/-- `none` for a tag without a `href`. -/
def parseTag (tag : List Char) : Option Anchor :=
  (tagHref T tag).map fun href =>
    { direct := canonicalizeForMatch T href
      effective := canonicalizeForMatch T (unwrapInterstitial T href)
      nofollow := relIsNofollow T (tagRel T tag) }

structure Flags where
  directMatch : Bool := false
  hasDofollow : Bool := false
  hasNofollow : Bool := false

def Flags.scan (canon : List Char) (flags : Flags) (anchor : Anchor) : Flags :=
  if anchor.direct = some canon ∨ anchor.effective = some canon then
    { directMatch := flags.directMatch || anchor.direct = some canon
      hasDofollow := flags.hasDofollow || !anchor.nofollow
      hasNofollow := flags.hasNofollow || anchor.nofollow }
  else flags

structure TargetFields where
  targetFound : Bool := true
  nofollowUrls : List (List Char) := []
  missingUrls : List (List Char) := []
  rewrittenUrls : List (List Char) := []

def TargetFields.targetNofollow (fields : TargetFields) : Bool := fields.nofollowUrls ≠ []

def TargetFields.add (parsed : List Anchor) (fields : TargetFields)
    (target : List Char × List Char) : TargetFields :=
  let (raw, canon) := target
  let flags := parsed.foldl (Flags.scan canon) {}
  if flags.hasDofollow || flags.hasNofollow then
    { fields with
      rewrittenUrls := if flags.directMatch then fields.rewrittenUrls
        else fields.rewrittenUrls ++ [raw]
      nofollowUrls := if flags.hasDofollow then fields.nofollowUrls
        else fields.nofollowUrls ++ [raw] }
  else { fields with targetFound := false, missingUrls := fields.missingUrls ++ [raw] }

def targetVerdicts (tags : List (List Char)) (targetUrls : List (List Char)) :
    Option TargetFields :=
  let targets := targetUrls.filterMap fun raw => (checkable T raw).map fun canon => (raw, canon)
  if targets = [] then none
  else some (targets.foldl (TargetFields.add (tags.filterMap (parseTag T))) {})

/-! ## The inspection -/

inductive Reason
  | emptyBody
  | targetUncanonicalizable
  deriving DecidableEq

structure Inspection where
  pageReadable : Bool := false
  targetAnchorFound : Bool := false
  targetRel : Option (List Char) := none
  targetIsNofollow : Bool := false
  reason : Option Reason := none

/-- The first anchor whose unwrapped link is the target decides. -/
def inspectTags (canon : List Char) (result : Inspection) : List (List Char) → Inspection
  | [] => result
  | tag :: tags =>
    match tagHref T tag with
    | none => inspectTags canon result tags
    | some href =>
      if canonicalizeForMatch T (unwrapInterstitial T href) = some canon then
        { result with
          targetAnchorFound := true
          targetRel := tagRel T tag
          targetIsNofollow := relIsNofollow T (tagRel T tag) }
      else inspectTags canon result tags

/-- `inspect_target_anchor` on a page that was fetched. -/
def inspectTargetAnchor (text target : List Char) : Inspection :=
  if text = [] then { reason := some .emptyBody }
  else
    match checkable T target with
    | some canon => inspectTags T canon { pageReadable := true } (aTags text)
    | none =>
      { pageReadable := true
        reason := if target ≠ [] then some .targetUncanonicalizable else none }

/-! ## The gate -/

def bodyHasRequiredLink (body : List Char) (requiredUrls : List (List Char)) : Bool :=
  if requiredUrls = [] then true
  else if requiredUrls.any fun url => url <:+: body then true
  else
    let wanted := requiredUrls.filterMap (checkable T)
    if wanted = [] then false
    else
      (aTags body).any fun tag =>
        (tagHref T tag).any fun href =>
          (canonicalizeForMatch T href).any (· ∈ wanted) ||
            (canonicalizeForMatch T (unwrapInterstitial T href)).any (· ∈ wanted)

/-! ## What each of them finds -/

def Anchor.PointsAt (canon : List Char) (anchor : Anchor) : Prop :=
  anchor.direct = some canon ∨ anchor.effective = some canon

instance (canon : List Char) : DecidablePred (Anchor.PointsAt canon) := fun anchor =>
  inferInstanceAs (Decidable (anchor.direct = some canon ∨ anchor.effective = some canon))

def anchors (text : List Char) : List Anchor := (aTags text).filterMap (parseTag T)

section Readers
variable {T} {text target canon : List Char}

theorem scan_flags (parsed : List Anchor) (flags : Flags) :
    parsed.foldl (Flags.scan canon) flags =
      { directMatch := flags.directMatch || parsed.any fun a => a.direct = some canon
        hasDofollow := flags.hasDofollow ||
          parsed.any fun a => a.PointsAt canon ∧ a.nofollow = false
        hasNofollow := flags.hasNofollow ||
          parsed.any fun a => a.PointsAt canon ∧ a.nofollow = true } := by
  induction parsed generalizing flags with
  | nil => simp only [List.foldl_nil, List.any_nil, Bool.or_false]
  | cons a parsed ih =>
    rw [List.foldl_cons, ih, Flags.scan]
    by_cases points : a.direct = some canon ∨ a.effective = some canon
    · have pointed : a.PointsAt canon := points
      rw [if_pos points]
      cases strips : a.nofollow with
      | false => simp [List.any_cons, pointed, strips, Bool.or_assoc]
      | true => simp [List.any_cons, pointed, strips, Bool.or_assoc]
    · have missed : ¬ a.PointsAt canon := points
      have other : ¬ a.direct = some canon := fun same => points (Or.inl same)
      rw [if_neg points]
      simp [List.any_cons, missed, other]

/-- The verdicts on one target. -/
theorem targetVerdicts_single (known : checkable T target = some canon) :
    targetVerdicts T (aTags text) [target] =
      some (TargetFields.add (anchors T text) {} (target, canon)) := by
  rw [targetVerdicts, List.filterMap_cons, known]
  rfl

theorem hasDofollow_iff (parsed : List Anchor) :
    (parsed.foldl (Flags.scan canon) {}).hasDofollow = true ↔
      ∃ a ∈ parsed, a.PointsAt canon ∧ a.nofollow = false := by
  simp only [scan_flags, Bool.false_or, List.any_eq_true, decide_eq_true_eq]

theorem hasNofollow_iff (parsed : List Anchor) :
    (parsed.foldl (Flags.scan canon) {}).hasNofollow = true ↔
      ∃ a ∈ parsed, a.PointsAt canon ∧ a.nofollow = true := by
  simp only [scan_flags, Bool.false_or, List.any_eq_true, decide_eq_true_eq]

theorem seen_iff (parsed : List Anchor) :
    ((parsed.foldl (Flags.scan canon) {}).hasDofollow ||
      (parsed.foldl (Flags.scan canon) {}).hasNofollow) = true ↔
        ∃ a ∈ parsed, a.PointsAt canon := by
  rw [Bool.or_eq_true, hasDofollow_iff, hasNofollow_iff]
  constructor
  · rintro (⟨a, mem, points, -⟩ | ⟨a, mem, points, -⟩)
    · exact ⟨a, mem, points⟩
    · exact ⟨a, mem, points⟩
  · rintro ⟨a, mem, points⟩
    cases strips : a.nofollow with
    | false => exact Or.inl ⟨a, mem, points, strips⟩
    | true => exact Or.inr ⟨a, mem, points, strips⟩

theorem targetFound_iff (parsed : List Anchor) :
    (TargetFields.add parsed {} (target, canon)).targetFound = true ↔
      ∃ a ∈ parsed, a.PointsAt canon := by
  rw [TargetFields.add, ← seen_iff]
  dsimp only
  by_cases seen : ((parsed.foldl (Flags.scan canon) {}).hasDofollow ||
      (parsed.foldl (Flags.scan canon) {}).hasNofollow) = true
  · rw [if_pos seen]
    exact iff_of_true rfl seen
  · rw [if_neg seen]
    exact iff_of_false Bool.false_ne_true seen

theorem targetNofollow_iff (parsed : List Anchor) :
    (TargetFields.add parsed {} (target, canon)).targetNofollow = true ↔
      (∃ a ∈ parsed, a.PointsAt canon) ∧
        ∀ a ∈ parsed, a.PointsAt canon → a.nofollow = true := by
  have all_iff : (∀ a ∈ parsed, a.PointsAt canon → a.nofollow = true) ↔
      ¬ (parsed.foldl (Flags.scan canon) {}).hasDofollow = true := by
    rw [hasDofollow_iff]
    constructor
    · rintro all ⟨a, mem, points, follows⟩
      rw [all a mem points] at follows
      exact Bool.false_ne_true follows.symm
    · intro none a mem points
      rw [← Bool.not_eq_false]
      exact fun follows => none ⟨a, mem, points, follows⟩
  rw [all_iff, ← seen_iff, TargetFields.targetNofollow, TargetFields.add, decide_eq_true_eq]
  dsimp only
  by_cases seen : ((parsed.foldl (Flags.scan canon) {}).hasDofollow ||
      (parsed.foldl (Flags.scan canon) {}).hasNofollow) = true
  · rw [if_pos seen]
    dsimp only
    split_ifs with dofollow
    · exact iff_of_false (not_not_intro rfl) fun both => both.2 dofollow
    · exact iff_of_true (List.cons_ne_nil _ _) ⟨seen, dofollow⟩
  · rw [if_neg seen]
    exact iff_of_false (not_not_intro rfl) fun both => seen both.1

/-- The inspection stops at the first anchor whose unwrapped link is the target. -/
theorem inspectTags_eq (result : Inspection) (tags : List (List Char)) :
    (∃ a, (tags.filterMap (parseTag T)).find? (fun a => a.effective = some canon) = some a ∧
        (inspectTags T canon result tags).targetAnchorFound = true ∧
        (inspectTags T canon result tags).targetIsNofollow = a.nofollow) ∨
      ((∀ a ∈ tags.filterMap (parseTag T), a.effective ≠ some canon) ∧
        inspectTags T canon result tags = result) := by
  induction tags with
  | nil => exact Or.inr ⟨fun _ mem => absurd mem List.not_mem_nil, rfl⟩
  | cons tag tags ih =>
    rw [List.filterMap_cons, inspectTags, parseTag]
    cases link : tagHref T tag with
    | none => exact ih
    | some href =>
      rw [Option.map_some]
      dsimp only
      by_cases unwraps : canonicalizeForMatch T (unwrapInterstitial T href) = some canon
      · left
        rw [if_pos unwraps]
        refine ⟨_, List.find?_cons_of_pos ?_, rfl, rfl⟩
        exact decide_eq_true unwraps
      · rw [if_neg unwraps, List.find?_cons_of_neg]
        · refine ih.imp_right fun none => ⟨fun a mem => ?_, none.2⟩
          rcases List.mem_cons.mp mem with rfl | later
          · exact unwraps
          · exact none.1 a later
        · rw [decide_eq_true_eq]
          exact unwraps

theorem inspectTargetAnchor_cases (known : checkable T target = some canon) :
    (∃ a, (anchors T text).find? (fun a => a.effective = some canon) = some a ∧
        (inspectTargetAnchor T text target).targetAnchorFound = true ∧
        (inspectTargetAnchor T text target).targetIsNofollow = a.nofollow) ∨
      ((∀ a ∈ anchors T text, a.effective ≠ some canon) ∧
        (inspectTargetAnchor T text target).targetAnchorFound = false) := by
  rw [inspectTargetAnchor, known]
  by_cases empty : text = []
  · rw [if_pos empty, empty]
    exact Or.inr ⟨fun _ mem => absurd mem List.not_mem_nil, rfl⟩
  · rw [if_neg empty]
    refine (inspectTags_eq { pageReadable := true } (aTags text)).imp_right fun none => ?_
    exact ⟨none.1, congrArg Inspection.targetAnchorFound none.2⟩

theorem bodyHasRequiredLink_iff (text : List Char) (known : checkable T target = some canon) :
    bodyHasRequiredLink T text [target] = true ↔
      target <:+: text ∨ ∃ a ∈ anchors T text, a.PointsAt canon := by
  rw [bodyHasRequiredLink, if_neg (List.cons_ne_nil _ _)]
  have fast : ([target].any fun url => url <:+: text) = true ↔ target <:+: text := by
    rw [List.any_cons, List.any_nil, Bool.or_false, decide_eq_true_eq]
  by_cases verbatim : target <:+: text
  · rw [if_pos (fast.mpr verbatim)]
    exact iff_of_true rfl (Or.inl verbatim)
  · have wanted : [target].filterMap (checkable T) = [canon] := by
      rw [List.filterMap_cons, known]
      rfl
    rw [if_neg fun found => verbatim (fast.mp found), wanted]
    dsimp only
    rw [if_neg (List.cons_ne_nil _ _), List.any_eq_true, or_iff_right verbatim]
    have matches_iff : ∀ url : Option (List Char),
        (url.any fun c => decide (c ∈ [canon])) = true ↔ url = some canon := by
      intro url
      cases url with
      | none => exact iff_of_false Bool.false_ne_true (Option.some_ne_none _).symm
      | some c =>
        rw [Option.any_some, decide_eq_true_eq, List.mem_singleton, Option.some_inj]
    constructor
    · rintro ⟨tag, mem, points⟩
      rw [Option.any_eq_true] at points
      have ⟨href, link, found⟩ := points
      rw [Bool.or_eq_true, matches_iff, matches_iff] at found
      have parsed := congrArg (Option.map fun href =>
        { direct := canonicalizeForMatch T href
          effective := canonicalizeForMatch T (unwrapInterstitial T href)
          nofollow := relIsNofollow T (tagRel T tag) : Anchor }) link
      exact ⟨_, List.mem_filterMap.mpr ⟨tag, mem, parsed⟩, found⟩
    · rintro ⟨a, mem, points⟩
      have ⟨tag, inside, parsed⟩ := List.mem_filterMap.mp mem
      rw [parseTag, Option.map_eq_some_iff] at parsed
      have ⟨href, link, made⟩ := parsed
      refine ⟨tag, inside, ?_⟩
      rw [link, Option.any_some, Bool.or_eq_true, matches_iff, matches_iff]
      rw [← made] at points
      exact points

/-! ## Agreement -/

/-- The three readers agree on the presence of the target, and two of them on its `rel`. -/
structure Agree (T : TextData) (text target : List Char) : Prop where
  verdict_iff : (targetVerdicts T (aTags text) [target]).any TargetFields.targetFound = true ↔
    (inspectTargetAnchor T text target).targetAnchorFound = true
  gate_iff : (inspectTargetAnchor T text target).targetAnchorFound = true ↔
    bodyHasRequiredLink T text [target] = true
  nofollow : (targetVerdicts T (aTags text) [target]).any TargetFields.targetFound = true →
    ((targetVerdicts T (aTags text) [target]).any TargetFields.targetNofollow = true ↔
      (inspectTargetAnchor T text target).targetIsNofollow = true)

/-- What the links of a page have to be for the readers to agree on the target. -/
structure Settled (canon : List Char) (verbatim : Prop) (links : List Anchor) : Prop where
  /-- If a link is the target, then one is the target when unwrapped. -/
  unwrapped : (∃ a ∈ links, a.direct = some canon) → ∃ a ∈ links, a.effective = some canon
  /-- If the page holds the text of the target, then some link points at the target. -/
  linked : verbatim → ∃ a ∈ links, a.PointsAt canon
  /-- The first link that unwraps to the target is nofollow only if all links to the target are. -/
  uniform : ∀ a, links.find? (fun a => a.effective = some canon) = some a → a.nofollow = true →
    ∀ b ∈ links, b.PointsAt canon → b.nofollow = true

/-- **Agreement of the readers.** They agree on a page and a target if and only if its links settle
the target. -/
theorem readers_agree_iff (known : checkable T target = some canon) :
    Agree T text target ↔ Settled canon (target <:+: text) (anchors T text) := by
  have verdict : (targetVerdicts T (aTags text) [target]).any TargetFields.targetFound = true ↔
      ∃ a ∈ anchors T text, a.PointsAt canon := by
    rw [targetVerdicts_single known, Option.any_some, targetFound_iff]
  have strips : (targetVerdicts T (aTags text) [target]).any TargetFields.targetNofollow = true ↔
      (∃ a ∈ anchors T text, a.PointsAt canon) ∧
        ∀ a ∈ anchors T text, a.PointsAt canon → a.nofollow = true := by
    rw [targetVerdicts_single known, Option.any_some, targetNofollow_iff]
  have gate := bodyHasRequiredLink_iff text known
  rcases inspectTargetAnchor_cases known with ⟨a, first, found, rel⟩ | ⟨none, found⟩
  · have unwraps := List.find?_some first
    rw [decide_eq_true_eq] at unwraps
    have mem := List.mem_of_find?_eq_some first
    have present : ∃ a ∈ anchors T text, a.PointsAt canon := ⟨a, mem, Or.inr unwraps⟩
    constructor
    · intro agree
      refine ⟨fun _ => ⟨a, mem, unwraps⟩, fun _ => present, ?_⟩
      intro b same nofollow
      rw [first] at same
      rw [← Option.some.inj same, ← rel] at nofollow
      exact (strips.mp ((agree.nofollow (verdict.mpr present)).mpr nofollow)).2
    · intro settled
      refine ⟨iff_of_true (verdict.mpr present) found, iff_of_true found ?_, fun _ => ?_⟩
      · exact gate.mpr (Or.inr present)
      · rw [strips, rel]
        exact ⟨fun all => all.2 a mem (Or.inr unwraps),
          fun nofollow => ⟨present, settled.uniform a first nofollow⟩⟩
  · have absent : ¬ (∃ a ∈ anchors T text, a.effective = some canon) := by
      rintro ⟨a, mem, unwraps⟩
      exact none a mem unwraps
    constructor
    · intro agree
      have nowhere : ¬ ∃ a ∈ anchors T text, a.PointsAt canon := by
        intro present
        have seen := agree.verdict_iff.mp (verdict.mpr present)
        rw [found] at seen
        exact Bool.false_ne_true seen
      refine ⟨?_, ?_, ?_⟩
      · rintro ⟨a, mem, direct⟩
        exact absurd ⟨a, mem, Or.inl direct⟩ nowhere
      · intro verbatim
        have seen := agree.gate_iff.mpr (gate.mpr (Or.inl verbatim))
        rw [found] at seen
        exact absurd seen Bool.false_ne_true
      · intro a first
        have unwraps := List.find?_some first
        rw [decide_eq_true_eq] at unwraps
        exact absurd unwraps (none a (List.mem_of_find?_eq_some first))
    · intro settled
      have nowhere : ¬ ∃ a ∈ anchors T text, a.PointsAt canon := by
        rintro ⟨a, mem, direct | unwraps⟩
        · exact absent (settled.unwrapped ⟨a, mem, direct⟩)
        · exact absent ⟨a, mem, unwraps⟩
      have missed : ¬ (inspectTargetAnchor T text target).targetAnchorFound = true := by
        rw [found]
        exact Bool.false_ne_true
      refine ⟨iff_of_false (fun seen => nowhere (verdict.mp seen)) missed,
        iff_of_false missed fun passed => ?_, fun seen => absurd (verdict.mp seen) nowhere⟩
      exact (gate.mp passed).elim (fun verbatim => nowhere (settled.linked verbatim)) nowhere

end Readers

def homePage : List Char := "https://t.x/a/".toList

/-- A redirect to the target, nofollow like the direct link after it. -/
def shimPage : List Char :=
  "<a\thref='//l.x/?to=https%3A%2F%2Ft.x%2Fa' rel='ugc'><a rel=\"UGC\" href=https://t.x/a>".toList

theorem readers_agree_iff_shim :
    Agree asciiText shimPage homePage ↔
      Settled "https://t.x/a".toList (homePage <:+: shimPage) (anchors asciiText shimPage) :=
  readers_agree_iff (by decide +kernel)

def sharePage : List Char := "https://s.x/a/?url=https://t.x/".toList

/-- A link to a page whose own query names another page. -/
def sharingPage : List Char := "<a href=\"https://s.x/a?url=https://t.x/\">".toList

/-- The first link to the page is nofollow, the second is not. -/
def mixedPage : List Char :=
  "<a rel='nofollow' href='https://t.x/a'></a><a href='https://t.x/a'></a>".toList

/-- The inspection misses a link that both others find, and takes the `rel` of the first link for
that of all. -/
theorem readers_disagree :
    (checkable asciiText sharePage = some "https://s.x/a?url=https%3A%2F%2Ft.x%2F".toList ∧
      ¬ sharePage <:+: sharingPage ∧ ¬ Agree asciiText sharingPage sharePage) ∧
    (checkable asciiText homePage = some "https://t.x/a".toList ∧
      ¬ homePage <:+: mixedPage ∧ ¬ Agree asciiText mixedPage homePage) := by
  refine ⟨⟨by decide +kernel, by decide +kernel, fun agree => ?_⟩,
    ⟨by decide +kernel, by decide +kernel, fun agree => ?_⟩⟩
  · have missed := agree.verdict_iff.mp (by decide +kernel)
    exact absurd missed (by decide +kernel)
  · have strips := (agree.nofollow (by decide +kernel)).mpr (by decide +kernel)
    exact absurd strips (by decide +kernel)

end BacklinkPublisher.LinkReaders
