import BacklinkPublisher.ConfigSections
import BacklinkPublisher.UrlSplit
import BacklinkPublisher.Words

set_option autoImplicit false

/-!
# Links of the web

The host that the URL standard has for a link, piece by piece next to what `urllib.parse` splits the
link into.
-/
namespace BacklinkPublisher.WebLinks
open ConfigSections (isSpace)
open FormEncoding (isAscii partition)
open UrlSplit hiding strip
open Words
open scoped Texts

/-! ## Character data -/

/-- Labels of at most 63 characters, none of them empty but for a last one. -/
def asciiLabels (host : List Char) : Bool :=
  let labels := host.splitOn '.'
  labels.dropLast.all (fun label => 0 < label.length ∧ label.length < 64) ∧
    (labels.getLastD []).length < 64

/-- The codec `idna`, the categories of characters, and the encoding of domains that the URL
standard has. -/
structure HostData extends UnicodeData where
  idna : List Char → Option (List Char)
  domainToAscii : List Char → Option (List Char)
  /-- A category that begins with `C`. -/
  isOther : Char → Bool
  idna_ascii : ∀ s, (∀ c ∈ s, isAscii c) → idna s = if asciiLabels s then some s else none
  isOther_ascii : ∀ c, isAscii c → isOther c = (c.toNat < 32 || c.toNat = 127)

def webSchemes : List (List Char) := ["http".toList, "https".toList]

/-- A control of C0 or a space. -/
def isEdge (c : Char) : Bool := c.toNat ≤ 32

def isSlash (c : Char) : Bool := c = '/' || c = '\\'

/-- What the standard parses. -/
def cleaned (href : List Char) : List Char := (trim isEdge href).filter (· ∉ unsafeChars)

/-- Behind the slashes, of either kind and any number, and up to the next `/`, `\`, `?` or `#`. -/
def authority (after : List Char) : List Char :=
  (after.dropWhile isSlash).takeWhile (· ∉ ['/', '\\', '?', '#'])

/-- What the code or the standard drops at the ends of a link. -/
def isBlank (c : Char) : Bool := isSpace c || isEdge c

def visible (href : List Char) : List Char := (trim isBlank href).filter (· ∉ unsafeChars)

/-! ## The ends of a link -/

end BacklinkPublisher.WebLinks
