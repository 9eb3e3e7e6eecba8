import BacklinkPublisher.ConfigSections
import BacklinkPublisher.HtmlTokens
import BacklinkPublisher.PatternScans
import BacklinkPublisher.Replacements

set_option autoImplicit false

/-!
# Short articles

`validate_zh_short_payload` of `_util/markdown.py`, which reads an article by three patterns, and
the page that a browser makes of the article.
-/
namespace BacklinkPublisher.ShortArticles
open ConfigSections (isSpace)
open HtmlTokens PatternScans Replacements
open scoped Texts

abbrev Text := List Char

/-! ## Anchor texts -/

def minAnchorLen : ℕ := 2

def maxAnchorLen : ℕ := 8

def forbiddenAnchorTexts : List Text :=
  ["点击这里", "看这里", "更多", "官网", "入口", "这个网站", "相关页面", "了解更多"].map String.toList

/-- Control characters, marks of direction, and what HTML and Markdown give a meaning to. -/
def isUnsafe (c : Char) : Bool :=
  let n := c.toNat
  n ≤ 0x1f || n = 0x7f || (0x200b ≤ n && n ≤ 0x200f) || (0x202a ≤ n && n ≤ 0x202e) ||
    (0x2066 ≤ n && n ≤ 0x2069) ||
    c ∈ ['<', '>', '"', '\'', Char.ofNat 0x60, '[', ']', '(', ')', '\\']

def passesFiltersWithRule (text : Text) (ratioCheck : Option (Text → Bool)) : Bool :=
  if text.length < minAnchorLen ∨ maxAnchorLen < text.length then false
  else if text ∈ forbiddenAnchorTexts then false
  else if text.any isUnsafe then false
  else ratioCheck.all fun check => check text

/-! ## The patterns -/

/-- `<[^>]+>` -/
def tagPattern : Text → Option ℕ
  | '<' :: rest =>
    let body := rest.takeWhile (· ≠ '>')
    if body ≠ [] ∧ '>' ∈ rest then some (body.length + 2) else none
  | _ => none

/-- `</a>` at the start of the text, in either case. -/
def closesAnchor : Text → Bool
  | '<' :: '/' :: letter :: '>' :: _ => letter.toLower = 'a'
  | _ => false

/-- `<a(\s[^>]*)>([^<]*)</a>`, in either case: both groups, and the length of the match. -/
def anchorPattern : Text → Option ((Text × Text) × ℕ)
  | '<' :: letter :: blank :: rest =>
    if letter.toLower = 'a' ∧ isSpace blank ∧ '>' ∈ rest then
      let attrs := blank :: rest.takeWhile (· ≠ '>')
      let after := (rest.dropWhile (· ≠ '>')).drop 1
      let anchorText := after.takeWhile (· ≠ '<')
      if closesAnchor (after.dropWhile (· ≠ '<')) then
        some ((attrs, anchorText), 2 + attrs.length + 1 + anchorText.length + 4)
      else none
    else none
  | _ => none

/-- `.*?</a>` at the start of the text: the length of the match. -/
def closing : Text → Option ℕ
  | [] => none
  | c :: rest =>
    if closesAnchor (c :: rest) then some 4
    else if c = '\n' then none
    else (closing rest).map (· + 1)

/-- `<a\s[^>]*>.*?</a>`, in either case: the length of the match. -/
def regionPattern : Text → Option ℕ
  | '<' :: letter :: blank :: rest =>
    if letter.toLower = 'a' ∧ isSpace blank ∧ '>' ∈ rest then
      (closing ((rest.dropWhile (· ≠ '>')).drop 1)).map fun length =>
        3 + (rest.takeWhile (· ≠ '>')).length + 1 + length
    else none
  | _ => none

/-- `https?://` occurs. -/
def HasUrl (text : Text) : Prop := "http://".toList <:+: text ∨ "https://".toList <:+: text

instance (text : Text) : Decidable (HasUrl text) := inferInstanceAs (Decidable (_ ∨ _))

def stripHtml (text : Text) : Text := removeAll tagPattern text

/-! ## The validator -/

def targetMin : ℕ := 150

def targetMax : ℕ := 200

def targetBlank : Text := "target=\"_blank\"".toList

def relNoopener : Text := "rel=\"noopener noreferrer\"".toList

/-- A message and what it is about. -/
def message (key : String) (about : Text) : Text := key.toList ++ ':' :: about

def anchorMatches (html : Text) : List (Text × Text) := findAll anchorPattern html

/-- What is left without the regions of anchors. -/
def withoutRegions (html : Text) : Text := removeAll regionPattern html

def lengthErrors (html : Text) : List Text :=
  let plainLen := (stripHtml html).length
  if plainLen < targetMin then
    [message "plain_text_length_below_150" (Nat.toDigits 10 plainLen)]
  else if targetMax < plainLen then
    [message "plain_text_length_above_200" (Nat.toDigits 10 plainLen)]
  else []

def countErrors (html : Text) : List Text :=
  let anchorCount := (anchorMatches html).length
  if anchorCount < 2 ∨ 3 < anchorCount then
    [message "anchor_count_out_of_range" (Nat.toDigits 10 anchorCount)]
  else []

def anchorErrors (expectedAnchors : List Text) (found : Text × Text) : List Text :=
  (if targetBlank <:+: found.1 then [] else [message "missing_target_blank" found.2]) ++
  (if relNoopener <:+: found.1 then []
    else [message "missing_rel_noopener_noreferrer" found.2]) ++
  (if passesFiltersWithRule found.2 none then []
    else [message "anchor_failed_filters" found.2]) ++
  (if found.2 ∈ expectedAnchors then [] else [message "unexpected_anchor_text" found.2])

def urlErrors (html : Text) : List Text :=
  if HasUrl (withoutRegions html) then ["bare_url_outside_anchor".toList] else []

def validateZhShortPayload (html : Text) (expectedAnchors : List Text) : Bool × List Text :=
  let errors := lengthErrors html ++ countErrors html ++
    (anchorMatches html).flatMap (anchorErrors expectedAnchors) ++ urlErrors html
  (errors.isEmpty, errors)

/-! ## The generator's anchors -/

def safeUrl (url : Text) : Text :=
  replace ['>'] "&gt;".toList (replace ['<'] "&lt;".toList
    (replace ['"'] "&quot;".toList (replace ['&'] "&amp;".toList url)))

/-- What stands in the opening tag after its name. -/
def writtenAttrs (url : Text) : Text :=
  " href=\"".toList ++ safeUrl url ++ "\" target=\"_blank\" rel=\"noopener noreferrer\"".toList

def openingTag (url : Text) : Text := "<a".toList ++ writtenAttrs url ++ ">".toList

def formatAnchorHtml (url anchor : Text) : Text := openingTag url ++ anchor ++ "</a>".toList

/-! ## What is asked of an article -/

section Statement
variable (R : References) (expectedAnchors : List Text)

/-- Of an anchor of the page. -/
structure MeetsContract (anchor : Anchor) : Prop where
  target : anchor.value R "target".toList = some "_blank".toList
  rel : anchor.value R "rel".toList = some "noopener noreferrer".toList
  expected : anchor.text R ∈ expectedAnchors
  passes : passesFiltersWithRule (anchor.text R) none = true

/-- Of the article as a browser sees it. -/
structure Meets (html : Text) : Prop where
  count : 2 ≤ (pageOf html).anchors.length ∧ (pageOf html).anchors.length ≤ 3
  anchors : ∀ anchor ∈ (pageOf html).anchors, MeetsContract R expectedAnchors anchor
  outside : ∀ s ∈ (pageOf html).outside, ¬ HasUrl (R.text s)

/-- What is accepted meets the contract. -/
def Sound (html : Text) : Prop :=
  validateZhShortPayload html expectedAnchors = (true, []) → Meets R expectedAnchors html

/-! ## When it is so -/

/-- What the patterns see. -/
structure Checks (html : Text) : Prop where
  length : targetMin ≤ (stripHtml html).length ∧ (stripHtml html).length ≤ targetMax
  count : 2 ≤ (anchorMatches html).length ∧ (anchorMatches html).length ≤ 3
  anchors : ∀ found ∈ anchorMatches html, targetBlank <:+: found.1 ∧ relNoopener <:+: found.1 ∧
    passesFiltersWithRule found.2 none = true ∧ found.2 ∈ expectedAnchors
  outside : ¬ HasUrl (withoutRegions html)

/-- The pattern finds the anchor, which is written as the generator writes it, with a text that
holds no character reference. -/
def SeenAsWritten (html : Text) (anchor : Anchor) : Prop :=
  ∃ url text, '&' ∉ text ∧ anchor.tag = openingTag url ∧ anchor.texts = [text] ∧
    (writtenAttrs url, text) ∈ anchorMatches html

/-- The text is left without the regions of anchors, and holds no character reference. -/
def SeenOutside (html s : Text) : Prop := '&' ∉ s ∧ s <:+: withoutRegions html

/-- The page has as many anchors as it should, and what the patterns do not see as it is meets the
contract nevertheless. -/
structure Covered (html : Text) : Prop where
  count : 2 ≤ (pageOf html).anchors.length ∧ (pageOf html).anchors.length ≤ 3
  anchors : ∀ anchor ∈ (pageOf html).anchors,
    SeenAsWritten html anchor ∨ MeetsContract R expectedAnchors anchor
  outside : ∀ s ∈ (pageOf html).outside, SeenOutside html s ∨ ¬ HasUrl (R.text s)

end Statement

/-! ## The checks -/

variable {R : References} {expectedAnchors : List Text} {html : Text}

theorem lengthErrors_eq_nil :
    lengthErrors html = [] ↔
      targetMin ≤ (stripHtml html).length ∧ (stripHtml html).length ≤ targetMax := by
  unfold lengthErrors
  dsimp only
  split_ifs with short long
  · exact iff_of_false not_false fun h => absurd h.1 (not_le.2 short)
  · exact iff_of_false not_false fun h => absurd h.2 (not_le.2 long)
  · exact iff_of_true rfl ⟨not_lt.1 short, not_lt.1 long⟩

theorem countErrors_eq_nil :
    countErrors html = [] ↔ 2 ≤ (anchorMatches html).length ∧ (anchorMatches html).length ≤ 3 := by
  unfold countErrors
  dsimp only
  split_ifs with outOfRange
  · refine iff_of_false not_false ?_
    omega
  · refine iff_of_true rfl ?_
    omega

theorem anchorErrors_eq_nil {found : Text × Text} :
    anchorErrors expectedAnchors found = [] ↔ targetBlank <:+: found.1 ∧ relNoopener <:+: found.1 ∧
      passesFiltersWithRule found.2 none = true ∧ found.2 ∈ expectedAnchors := by
  have errorUnless : ∀ (check : Prop) [Decidable check] (error : Text),
      (if check then [] else [error]) = ([] : List Text) ↔ check := by
    intro check _ error
    split_ifs with h
    · exact iff_of_true rfl h
    · exact iff_of_false not_false h
  unfold anchorErrors
  rw [List.append_eq_nil_iff, List.append_eq_nil_iff, List.append_eq_nil_iff, errorUnless,
    errorUnless, errorUnless, errorUnless, and_assoc, and_assoc]

theorem urlErrors_eq_nil : urlErrors html = [] ↔ ¬ HasUrl (withoutRegions html) := by
  unfold urlErrors
  split_ifs with found
  · exact iff_of_false not_false (not_not.2 found)
  · exact iff_of_true rfl found

/-- The validator accepts what passes the checks. -/
theorem validateZhShortPayload_iff :
    validateZhShortPayload html expectedAnchors = (true, []) ↔ Checks expectedAnchors html := by
  unfold validateZhShortPayload
  dsimp only
  rw [Prod.mk.injEq, List.isEmpty_iff, and_self, List.append_eq_nil_iff, List.append_eq_nil_iff,
    List.append_eq_nil_iff, lengthErrors_eq_nil, countErrors_eq_nil, urlErrors_eq_nil,
    List.flatMap_eq_nil_iff]
  simp only [anchorErrors_eq_nil]
  constructor
  · intro ⟨⟨⟨length, count⟩, anchors⟩, outside⟩
    exact ⟨length, count, anchors, outside⟩
  · intro ⟨length, count, anchors, outside⟩
    exact ⟨⟨⟨length, count⟩, anchors⟩, outside⟩

/-! ## The anchors that the generator writes -/

theorem mem_replace {old : Char} {new s : Text} {c : Char} (put_in : new ≠ []) (other : c ∉ new)
    (member : c ∈ replace [old] new s) : c ∈ s := by
  have part : [c] <:+: replace [old] new s := (List.singleton_infix_iff _ _).2 member
  have foreign : Foreign [c] new := fun d h => List.mem_singleton.1 h ▸ other
  exact (List.singleton_infix_iff _ _).1
    (infix_of_infix_replaceFrom put_in (List.cons_ne_nil _ _) foreign part)

theorem not_mem_replace {old : Char} {new s : Text} (put_in : new ≠ []) (other : old ∉ new) :
    old ∉ replace [old] new s := by
  intro member
  have foreign : Foreign [old] new := fun d h => List.mem_singleton.1 h ▸ other
  exact not_infix_replaceFrom put_in (List.cons_ne_nil _ _) foreign 0
    ((List.singleton_infix_iff _ _).2 member)

theorem quote_not_mem_safeUrl (url : Text) : '"' ∉ safeUrl url := by
  intro member
  have first := mem_replace (by decide) (by decide) member
  have second := mem_replace (by decide) (by decide) first
  exact not_mem_replace (by decide) (by decide) second

theorem greater_not_mem_safeUrl (url : Text) : '>' ∉ safeUrl url :=
  not_mem_replace (by decide) (by decide)

/-- The tag before its last character. -/
theorem scan_openingTag (url : Text) :
    ('a' :: writtenAttrs url).foldlM Scan.step {} =
      some ⟨.beforeName, [("rel".toList, "noopener noreferrer".toList),
        ("target".toList, "_blank".toList), ("href".toList, safeUrl url)]⟩ := by
  have parts : 'a' :: writtenAttrs url = "a href=\"".toList ++ (safeUrl url ++
      "\" target=\"_blank\" rel=\"noopener noreferrer\"".toList) := by
    unfold writtenAttrs
    rw [List.append_assoc]
    rfl
  have before : "a href=\"".toList.foldlM Scan.step {} =
      some ⟨.double, [("href".toList, [])]⟩ := rfl
  rw [parts, List.foldlM_append, before, Option.bind_eq_bind, Option.bind_some, List.foldlM_append,
    foldlM_double (quote_not_mem_safeUrl url), Option.bind_eq_bind, Option.bind_some]
  rfl

theorem openingTag_eq (url : Text) :
    openingTag url = '<' :: ('a' :: writtenAttrs url ++ ['>']) := rfl

theorem attributesOf_openingTag (url : Text) :
    attributesOf (openingTag url) =
      [("href".toList, safeUrl url), ("target".toList, "_blank".toList),
        ("rel".toList, "noopener noreferrer".toList)] := by
  unfold attributesOf
  rw [openingTag_eq, List.drop_one, List.tail_cons, scanTag_append _ (scan_openingTag url)]
  rfl

theorem value_openingTag (R : References) {anchor : Anchor} {url : Text}
    (tag : anchor.tag = openingTag url) :
    anchor.value R "target".toList = some "_blank".toList ∧
      anchor.value R "rel".toList = some "noopener noreferrer".toList := by
  unfold Anchor.value valueOf
  rw [tag, attributesOf_openingTag]
  constructor
  · exact congrArg some (R.value_plain _ (by decide))
  · exact congrArg some (R.value_plain _ (by decide))

/-! ## Soundness -/

theorem meetsContract_of_seen (checks : Checks expectedAnchors html) {anchor : Anchor}
    (seen : SeenAsWritten html anchor) : MeetsContract R expectedAnchors anchor := by
  have ⟨url, text, plain, tag, texts, found⟩ := seen
  have ⟨target, rel⟩ := value_openingTag R tag
  have shown : anchor.text R = text := by
    unfold Anchor.text
    rw [texts, List.flatMap_singleton, R.text_plain text plain]
  have ⟨_, _, passes, expected⟩ := checks.anchors _ found
  refine ⟨target, rel, ?_, ?_⟩
  · rw [shown]
    exact expected
  · rw [shown]
    exact passes

theorem HasUrl.mono {s text : Text} (sub : s <:+: text) (found : HasUrl s) : HasUrl text :=
  found.imp (fun h => h.trans sub) fun h => h.trans sub

theorem not_hasUrl_of_seen (checks : Checks expectedAnchors html) {s : Text}
    (seen : SeenOutside html s) : ¬ HasUrl (R.text s) := by
  rw [R.text_plain s seen.1]
  exact fun found => checks.outside (found.mono seen.2)

theorem meets_of_covered (checks : Checks expectedAnchors html)
    (covered : Covered R expectedAnchors html) : Meets R expectedAnchors html := by
  refine ⟨covered.count, fun anchor member => ?_, fun s member => ?_⟩
  · exact (covered.anchors anchor member).elim (meetsContract_of_seen checks) id
  · exact (covered.outside s member).elim (not_hasUrl_of_seen checks) id

end BacklinkPublisher.ShortArticles
