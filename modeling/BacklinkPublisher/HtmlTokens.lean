import Mathlib.Data.List.Basic
import Mathlib.Tactic.Common

set_option autoImplicit false

/-!
# Anchors of HTML

The tokens of a text by the rules of HTML, without the escapes of script data: tags with their
attributes, texts, and what shows nothing, such as comments. An anchor begins with a start tag `a`
and ends with the next tag `a`.
-/
namespace BacklinkPublisher.HtmlTokens

/-- Tab, line feed, form feed, carriage return and space. -/
def isBlank (c : Char) : Bool := c ∈ ['\t', '\n', Char.ofNat 0x0c, '\r', ' ']

/-! ## Tags -/

inductive Mode where
  | tagName
  | beforeName
  | name
  | afterName
  | beforeValue
  | single
  | double
  | unquoted
  deriving DecidableEq

/-- Within a tag: the attributes that were read, the last one in front. -/
structure Scan where
  mode : Mode := .tagName
  attributes : List (List Char × List Char) := []

def Scan.to (scan : Scan) (mode : Mode) : Scan := { scan with mode }

/-- A new attribute, whose name begins with the character. -/
def Scan.begin (scan : Scan) (c : Char) : Scan := ⟨.name, ([c.toLower], []) :: scan.attributes⟩

def Scan.addToName (scan : Scan) (c : Char) : Scan :=
  { scan with attributes := scan.attributes.modifyHead fun a => (a.1 ++ [c.toLower], a.2) }

def Scan.addToValue (scan : Scan) (mode : Mode) (c : Char) : Scan :=
  ⟨mode, scan.attributes.modifyHead fun a => (a.1, a.2 ++ [c])⟩

/-- The next character of a tag, `none` where it ends the tag. -/
def Scan.step (scan : Scan) (c : Char) : Option Scan :=
  match scan.mode with
  | .tagName =>
    if c = '>' then none
    else if isBlank c ∨ c = '/' then some (scan.to .beforeName)
    else some scan
  | .beforeName =>
    if c = '>' then none
    else if isBlank c ∨ c = '/' then some scan
    else some (scan.begin c)
  | .name =>
    if c = '>' then none
    else if isBlank c then some (scan.to .afterName)
    else if c = '/' then some (scan.to .beforeName)
    else if c = '=' then some (scan.to .beforeValue)
    else some (scan.addToName c)
  | .afterName =>
    if c = '>' then none
    else if isBlank c then some scan
    else if c = '/' then some (scan.to .beforeName)
    else if c = '=' then some (scan.to .beforeValue)
    else some (scan.begin c)
  | .beforeValue =>
    if c = '>' then none
    else if isBlank c then some scan
    else if c = '\'' then some (scan.to .single)
    else if c = '"' then some (scan.to .double)
    else some (scan.addToValue .unquoted c)
  | .single => if c = '\'' then some (scan.to .beforeName) else some (scan.addToValue .single c)
  | .double => if c = '"' then some (scan.to .beforeName) else some (scan.addToValue .double c)
  | .unquoted =>
    if c = '>' then none
    else if isBlank c then some (scan.to .beforeName)
    else some (scan.addToValue .unquoted c)

/-- The tag up to its end, and what follows it; `none` where the text ends first. -/
def splitTag : Scan → List Char → Option (List Char × List Char)
  | _, [] => none
  | scan, c :: rest =>
    match scan.step c with
    | none => some ([c], rest)
    | some next => (splitTag next rest).map fun split => (c :: split.1, split.2)

def scanTag : Scan → List Char → Scan
  | scan, [] => scan
  | scan, c :: rest =>
    match scan.step c with
    | none => scan
    | some next => scanTag next rest

/-- The attributes of a start tag as they are written, with their names in lower case. -/
def attributesOf (tag : List Char) : List (List Char × List Char) :=
  (scanTag {} (tag.drop 1)).attributes.reverse

/-- The first attribute of a name is the one that counts. -/
def valueOf (name tag : List Char) : Option (List Char) :=
  ((attributesOf tag).find? fun a => a.1 = name).map Prod.snd

/-- The name at the start of the text. -/
def nameAt (text : List Char) : List Char :=
  (text.takeWhile fun c => !isBlank c && c ≠ '/' && c ≠ '>').map Char.toLower

/-! ## Tokens -/

inductive Token where
  | text (s : List Char)
  | startTag (tag : List Char)
  | endTag (tag : List Char)
  /-- A comment, a declaration, what is no text of the page, and a tag that does not end. -/
  | skipped

/-- What follows the next `>`. -/
def afterMark (text : List Char) : List Char := (text.dropWhile (· ≠ '>')).drop 1

def commentEnd : List Char → List Char
  | [] => []
  | c :: rest =>
    if "-->".toList <+: c :: rest then rest.drop 2
    else if "--!>".toList <+: c :: rest then rest.drop 3
    else commentEnd rest

/-- What follows a declaration or a comment whose `<!` was read. -/
def afterDeclaration (text : List Char) : List Char :=
  if "-->".toList <+: text then text.drop 3
  else if "--->".toList <+: text then text.drop 4
  else if "--".toList <+: text then commentEnd (text.drop 2)
  else afterMark text

def tagToken (token : List Char → Token) (opening text : List Char) : Token × List Char :=
  match splitTag {} text with
  | some (tag, rest) => (token (opening ++ tag), rest)
  | none => (.skipped, [])

/-- The token that a `<` opens, and what follows it. -/
def markup : List Char → Option (Token × List Char)
  | '<' :: '/' :: c :: rest =>
    if c.isAlpha then some (tagToken .endTag ['<', '/'] (c :: rest))
    else some (.skipped, afterMark (c :: rest))
  | '<' :: c :: rest =>
    if c.isAlpha then some (tagToken .startTag ['<'] (c :: rest))
    else if c = '!' then some (.skipped, afterDeclaration rest)
    else if c = '?' then some (.skipped, afterMark rest)
    else none
  | _ => none

/-- The text up to the next token of another kind. -/
def splitText : List Char → List Char × List Char
  | [] => ([], [])
  | c :: rest =>
    if (markup (c :: rest)).isSome then ([], c :: rest)
    else (c :: (splitText rest).1, (splitText rest).2)

/-- Elements that hold text only, with character references. -/
def textElements : List (List Char) := ["textarea".toList, "title".toList]

/-- Elements whose content is no text of the page. -/
def rawElements : List (List Char) :=
  ["script", "style", "xmp", "iframe", "noembed", "noframes"].map String.toList

def closes (name : List Char) : List Char → Bool
  | '<' :: '/' :: rest => nameAt rest = name ∧ (rest.drop name.length).any fun _ => true
  | _ => false

/-- The content of such an element up to its end tag. -/
def splitContent (name : List Char) : List Char → List Char × List Char
  | [] => ([], [])
  | c :: rest =>
    if closes name (c :: rest) then ([], c :: rest)
    else (c :: (splitContent name rest).1, (splitContent name rest).2)

def tokensFrom : ℕ → List Char → List Token
  | 0, _ => []
  | _ + 1, [] => []
  | n + 1, c :: rest =>
    match markup (c :: rest) with
    | none =>
      let (text, rest) := splitText (c :: rest)
      .text text :: tokensFrom n rest
    | some (.startTag tag, rest) =>
      let name := nameAt (tag.drop 1)
      if name = "plaintext".toList then [.startTag tag, .text rest]
      else if name ∈ textElements then
        let (content, rest) := splitContent name rest
        .startTag tag :: .text content :: tokensFrom n rest
      else if name ∈ rawElements then
        .startTag tag :: tokensFrom n (splitContent name rest).2
      else .startTag tag :: tokensFrom n rest
    | some (token, rest) => token :: tokensFrom n rest

/-- Every token takes a character at least. -/
def tokens (text : List Char) : List Token := tokensFrom text.length text

/-! ## Tokens of a text that is put together -/

/-- What the text is read as, with as much fuel as there are characters. -/
def Reads (text : List Char) (found : List Token) : Prop :=
  ∀ n, text.length ≤ n → tokensFrom n text = found

/-- The content of such an element is read as that of no other. -/
def Ordinary (name : List Char) : Prop :=
  name ≠ "plaintext".toList ∧ name ∉ textElements ∧ name ∉ rawElements

section Rules
variable {whole rest : List Char} {found : List Token}

theorem Reads.tokens_eq (reads : Reads whole found) : tokens whole = found :=
  reads _ (Nat.le_refl _)

theorem reads_nil : Reads [] [] := by
  intro n _
  cases n with
  | zero => rfl
  | succ n => rfl

/-- There is fuel for the next token. -/
theorem Reads.next {token : Token} (reads : Reads rest found) (shorter : rest.length < whole.length)
    (here : ∀ n, tokensFrom (n + 1) whole = token :: tokensFrom n rest) :
    Reads whole (token :: found) := by
  intro n enough
  cases n with
  | zero => omega
  | succ n => rw [here, reads n (by omega)]

theorem Reads.startTag {tag : List Char} (reads : Reads rest found)
    (here : markup whole = some (.startTag tag, rest)) (shorter : rest.length < whole.length)
    (ordinary : Ordinary (nameAt (tag.drop 1))) : Reads whole (.startTag tag :: found) := by
  refine reads.next shorter fun n => ?_
  cases whole with
  | nil => simp at shorter
  | cons c whole =>
    rw [tokensFrom, here]
    dsimp only
    rw [if_neg ordinary.1, if_neg ordinary.2.1, if_neg ordinary.2.2]

theorem Reads.endTag {tag : List Char} (reads : Reads rest found)
    (here : markup whole = some (.endTag tag, rest)) (shorter : rest.length < whole.length) :
    Reads whole (.endTag tag :: found) := by
  refine reads.next shorter fun n => ?_
  cases whole with
  | nil => simp at shorter
  | cons c whole => rw [tokensFrom, here]

theorem markup_other {c : Char} (other : c ≠ '<') : markup (c :: rest) = none := by
  unfold markup
  split
  · simp_all
  · simp_all
  · rfl

theorem splitText_plain {plain : List Char} (clean : '<' ∉ plain)
    (stops : rest = [] ∨ (markup rest).isSome) : splitText (plain ++ rest) = (plain, rest) := by
  induction plain with
  | nil =>
    cases rest with
    | nil => rfl
    | cons c rest => exact if_pos (stops.resolve_left (List.cons_ne_nil _ _))
  | cons c plain ih =>
    rw [List.mem_cons, not_or] at clean
    have here : ¬ (markup (c :: (plain ++ rest))).isSome := by
      rw [markup_other (Ne.symm clean.1)]
      exact Bool.false_ne_true
    rw [List.cons_append, splitText, if_neg here, ih clean.2]

theorem Reads.text {plain : List Char} (reads : Reads rest found) (some_ : plain ≠ [])
    (clean : '<' ∉ plain) (stops : rest = [] ∨ (markup rest).isSome) :
    Reads (plain ++ rest) (.text plain :: found) := by
  have split := splitText_plain clean stops
  cases plain with
  | nil => exact (some_ rfl).elim
  | cons c plain =>
    refine reads.next ?_ fun n => ?_
    · rw [List.length_append, List.length_cons]
      omega
    · have here : markup (c :: (plain ++ rest)) = none :=
        markup_other fun same => clean (same ▸ List.mem_cons_self)
      rw [List.cons_append, tokensFrom, here]
      rw [List.cons_append] at split
      dsimp only
      rw [split]

end Rules

/-! ## Tags that are put together -/

section Tags
variable {scan next : Scan} {more : List Char}

/-- Where the tag does not end in the characters, it goes on after them. -/
theorem scanTag_append (rest : List Char) (goes : more.foldlM Scan.step scan = some next) :
    scanTag scan (more ++ rest) = scanTag next rest := by
  induction more generalizing scan with
  | nil =>
    cases goes
    rfl
  | cons c more ih =>
    rw [List.foldlM_cons] at goes
    have ⟨after, step, goes⟩ := Option.bind_eq_some_iff.1 goes
    rw [List.cons_append, scanTag, step]
    exact ih goes

theorem splitTag_append (rest : List Char) (goes : more.foldlM Scan.step scan = some next) :
    splitTag scan (more ++ rest) =
      (splitTag next rest).map fun split => (more ++ split.1, split.2) := by
  induction more generalizing scan with
  | nil =>
    cases goes
    exact Option.map_id'.symm
  | cons c more ih =>
    rw [List.foldlM_cons] at goes
    have ⟨after, step, goes⟩ := Option.bind_eq_some_iff.1 goes
    rw [List.cons_append, splitTag, step]
    dsimp only
    rw [ih goes, Option.map_map]
    rfl

/-- A quoted value goes up to its quote. -/
theorem foldlM_double {name value : List Char} {attributes : List (List Char × List Char)}
    (clean : '"' ∉ more) :
    more.foldlM Scan.step ⟨.double, (name, value) :: attributes⟩ =
      some ⟨.double, (name, value ++ more) :: attributes⟩ := by
  induction more generalizing value with
  | nil =>
    rw [List.append_nil]
    rfl
  | cons c more ih =>
    rw [List.mem_cons, not_or] at clean
    have step : Scan.step ⟨.double, (name, value) :: attributes⟩ c =
        some ⟨.double, (name, value ++ [c]) :: attributes⟩ := by
      unfold Scan.step
      exact if_neg (Ne.symm clean.1)
    rw [List.foldlM_cons, step, Option.bind_eq_bind, Option.bind_some, ih clean.2,
      List.append_assoc]
    rfl

end Tags

/-! ## Anchors -/

structure Anchor where
  tag : List Char
  texts : List (List Char) := []
  deriving DecidableEq

structure Page where
  anchors : List Anchor := []
  outside : List (List Char) := []

def anchorName : List Char := ['a']

/-- Reads the tokens within an anchor, or outside of all. -/
def read : Option Anchor → List Token → Page
  | within, [] => { anchors := within.toList }
  | none, .text s :: rest => { read none rest with outside := s :: (read none rest).outside }
  | some anchor, .text s :: rest => read (some { anchor with texts := anchor.texts ++ [s] }) rest
  | within, .startTag tag :: rest =>
    if nameAt (tag.drop 1) = anchorName then
      let page := read (some { tag }) rest
      { page with anchors := within.toList ++ page.anchors }
    else read within rest
  | within, .endTag tag :: rest =>
    if nameAt (tag.drop 2) = anchorName then
      let page := read none rest
      { page with anchors := within.toList ++ page.anchors }
    else read within rest
  | within, .skipped :: rest => read within rest

def pageOf (text : List Char) : Page := read none (tokens text)

/-- How character references are decoded in a text and in the value of an attribute. -/
structure References where
  text : List Char → List Char
  value : List Char → List Char
  text_plain : ∀ s, '&' ∉ s → text s = s
  value_plain : ∀ s, '&' ∉ s → value s = s

def Anchor.text (R : References) (anchor : Anchor) : List Char := anchor.texts.flatMap R.text

def Anchor.value (R : References) (anchor : Anchor) (name : List Char) : Option (List Char) :=
  (valueOf name anchor.tag).map R.value

end BacklinkPublisher.HtmlTokens
