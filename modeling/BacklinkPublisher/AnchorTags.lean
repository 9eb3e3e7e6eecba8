import BacklinkPublisher.ConfigSections
import BacklinkPublisher.UrlSplit
import BacklinkPublisher.Words

set_option autoImplicit false

/-!
# Attributes of anchors

The patterns by which `link_attr_verifier.py` reads `href` and `rel` off the text of a page, against
the attributes that the start tags of HTML have.
-/
namespace BacklinkPublisher.AnchorTags
open ConfigSections (isSpace)
open FormEncoding (isAscii)
open UrlSplit Words
open scoped Texts

/-! ## The patterns -/

/-- `str.lower`, NFKC and `str.isalnum`. -/
structure TextData extends UnicodeData where
  alnum : Char → Bool
  alnum_ascii : ∀ c, isAscii c → alnum c = c.isAlphanum

def asciiText : TextData where
  toUnicodeData := asciiData
  alnum := Char.isAlphanum
  alnum_ascii _ _ := rfl

/-- The characters that `\w` matches. -/
def TextData.isWord (T : TextData) (c : Char) : Bool := T.alnum c || c = '_'

/-- `<a\s[^>]*>` at the start of the text. -/
def aTagAt : List Char → Option (List Char)
  | '<' :: letter :: blank :: rest =>
    if letter.toLower = 'a' ∧ isSpace blank ∧ '>' ∈ rest then
      some ('<' :: letter :: blank :: rest.takeWhile (· ≠ '>') ++ ['>'])
    else none
  | _ => none

/-- `findall`, where the first `skip` characters belong to the match before. -/
def aTagsFrom : ℕ → List Char → List (List Char)
  | _, [] => []
  | skip + 1, _ :: rest => aTagsFrom skip rest
  | 0, c :: rest =>
    match aTagAt (c :: rest) with
    | some tag => tag :: aTagsFrom (tag.length - 1) rest
    | none => aTagsFrom 0 rest

def aTags (text : List Char) : List (List Char) := aTagsFrom 0 text

/-- `\s*=\s*` at the start of the text; what follows it. -/
def afterEquals (text : List Char) : Option (List Char) :=
  match text.dropWhile isSpace with
  | '=' :: rest => some (rest.dropWhile isSpace)
  | _ => none

/-- `name\s*=\s*` at the start of the text, in either case; what follows it. -/
def assignment (name text : List Char) : Option (List Char) :=
  if (text.take name.length).map Char.toLower = name then afterEquals (text.drop name.length)
  else none

/-- `[^\s>]+` -/
def bareValue (text : List Char) : Option (List Char) :=
  match text.takeWhile fun c => !isSpace c && c ≠ '>' with
  | [] => none
  | c :: value => some (c :: value)

/-- `"([^"]*)"|'([^']*)'|([^\s>]+)` -/
def hrefValue : List Char → Option (List Char)
  | [] => none
  | c :: rest =>
    if (c = '"' ∨ c = '\'') ∧ c ∈ rest then some (rest.takeWhile (· ≠ c)) else bareValue (c :: rest)

def isQuote (c : Char) : Bool := c = '"' || c = '\''

/-- `["']([^"']*)["']` -/
def relValue : List Char → Option (List Char)
  | [] => none
  | c :: rest => if isQuote c ∧ rest.any isQuote then some (rest.takeWhile (! isQuote ·)) else none

/-- The first match of `\bname\s*=\s*` and a value; `inWord` tells whether the character before the
text is one of a word. -/
def search (T : TextData) (name : List Char) (value : List Char → Option (List Char)) :
    Bool → List Char → Option (List Char)
  | _, [] => none
  | true, c :: rest => search T name value (T.isWord c) rest
  | false, c :: rest =>
    ((assignment name (c :: rest)).bind value).or (search T name value (T.isWord c) rest)

def hrefName : List Char := "href".toList

def relName : List Char := "rel".toList

/-- An empty value is none. -/
def tagHref (T : TextData) (tag : List Char) : Option (List Char) :=
  (search T hrefName hrefValue false tag).filter (· ≠ [])

def tagRel (T : TextData) (tag : List Char) : Option (List Char) :=
  search T relName relValue false tag

def nofollowTokens : List (List Char) :=
  ["nofollow".toList, "ugc".toList, "sponsored".toList]

/-- `rel.lower().split()` -/
def tokens (T : TextData) (rel : List Char) : List (List Char) := words isSpace (T.lower rel)

def relIsNofollow (T : TextData) : Option (List Char) → Bool
  | none => false
  | some rel => rel ≠ [] ∧ (tokens T rel).any (· ∈ nofollowTokens)

/-- Tab, line feed, form feed, carriage return and space. -/
def blanks : List Char := ['\t', '\n', Char.ofNat 0x0c, '\r', ' ']

/-- The characters that an unquoted value may not hold besides the blanks. -/
def valueMarks : List Char := ['"', '\'', '=', '<', '>', Char.ofNat 0x60]

inductive Quoting
  | unquoted
  | single
  | double
  deriving DecidableEq

def Quoting.mark : Quoting → List Char
  | unquoted => []
  | single => ['\'']
  | double => ['"']

def Quoting.permits : Quoting → List Char → Prop
  | unquoted, text => text ≠ [] ∧ ∀ c ∈ text, c ∉ blanks ∧ c ∉ valueMarks
  | single, text => '\'' ∉ text
  | double, text => '"' ∉ text

/-- The equals sign with the blanks around it, and the value as it is written. -/
structure Value where
  before : List Char := []
  after : List Char := []
  quoting : Quoting
  text : List Char
  before_blank : ∀ c ∈ before, c ∈ blanks
  after_blank : ∀ c ∈ after, c ∈ blanks
  permitted : quoting.permits text

def Value.written (value : Value) : List Char :=
  value.before ++ '=' :: value.after ++ value.quoting.mark ++ value.text ++ value.quoting.mark

structure Attribute where
  gap : List Char
  name : List Char
  value : Option Value
  gap_ne : gap ≠ []
  gap_blank : ∀ c ∈ gap, c ∈ blanks
  name_ne : name ≠ []
  name_plain : ∀ c ∈ name, c ∉ blanks ∧ c ∉ ['"', '\'', '>', '/', '=']

def Attribute.assigned (a : Attribute) : List Char := (a.value.map Value.written).getD []

def Attribute.written (a : Attribute) : List Char := a.gap ++ a.name ++ a.assigned

def Attribute.named (name : List Char) (a : Attribute) : Bool := a.name.map Char.toLower = name

structure StartTag where
  letter : Char
  attributes : List Attribute
  trailing : List Char := []
  letter_a : letter.toLower = 'a'
  trailing_blank : ∀ c ∈ trailing, c ∈ blanks

/-- What follows some attributes up to the end of the tag. -/
def StartTag.ending (tag : StartTag) (attributes : List Attribute) : List Char :=
  attributes.flatMap Attribute.written ++ tag.trailing ++ ['>']

def StartTag.written (tag : StartTag) : List Char :=
  '<' :: tag.letter :: tag.ending tag.attributes

/-- The first attribute of a name is the one that counts. -/
def StartTag.first (tag : StartTag) (name : List Char) : Option Attribute :=
  tag.attributes.find? (Attribute.named name)

/-- How the character references of a value are decoded. -/
structure CharacterReferences where
  decode : List Char → List Char
  decode_plain : ∀ s, '&' ∉ s → decode s = s
  /-- What can be no part of a reference stays. -/
  decode_kept : ∀ s, ∀ c ∈ s, ¬ c.isAlphanum → c ∉ ['&', '#', ';'] → c ∈ decode s

def Attribute.decoded (R : CharacterReferences) (a : Attribute) : List Char :=
  (a.value.map fun value => R.decode value.text).getD []

/-- The text up to the first `>`. -/
def cut (text : List Char) : List Char := text.takeWhile (· ≠ '>') ++ ['>']

section Patterns
variable {T : TextData} {name : List Char} {value : List Char → Option (List Char)}

end Patterns

/-! ## Cut tags -/

section Places
variable {T : TextData} {tag : StartTag} {name : List Char} {a : Attribute}
  {value : List Char → Option (List Char)}

/-- What stands behind the equals sign of an attribute. -/
def Value.opened (v : Value) (rest : List Char) : List Char :=
  cut (v.quoting.mark ++ (v.text ++ (v.quoting.mark ++ rest)))

end Places

/-! ## The values -/

section Values
variable {v : Value}

variable {tag : StartTag} {post : List Attribute}

end Values

/-! ## Reading the first `href` -/

section Readings
variable {T : TextData} {R : CharacterReferences} {tag : StartTag} {a : Attribute}

end Readings

end BacklinkPublisher.AnchorTags
