import BacklinkPublisher.WebLinks

set_option autoImplicit false

/-!
# The main-domain gate

`_check_main_domain_in_html` of `_validate_engine/_payload.py`, which looks in a text for a link to
the main domain, against the hosts that the URL standard has for its links.
-/
namespace BacklinkPublisher.MainDomainGate
open ConfigSections (isSpace)
open FormEncoding (isAscii partition)
open UrlSplit hiding strip
open Words WebLinks
open scoped Texts

/-! ## The gate -/

abbrev StartTag := List Char × List (List Char × Option (List Char))

section Gate
variable (D : HostData)

def isAnchor (tag : StartTag) : Bool := D.lower tag.1 = "a".toList

def isHref (attr : List Char × Option (List Char)) : Bool := D.lower attr.1 = "href".toList

/-- `_HrefCollector.handle_starttag` -/
def collected (tag : StartTag) : List (List Char) :=
  if isAnchor D tag then tag.2.filterMap fun attr => if isHref D attr then attr.2 else none else []

end Gate

/-- The link that a browser has for an `a`: its first `href`. -/
def link (D : HostData) (tag : StartTag) : Option (List Char) :=
  if isAnchor D tag then (tag.2.find? (isHref D)).bind Prod.snd else none

section Reading
variable {D : HostData}

theorem hrefs_of_single {attrs : List (List Char × Option (List Char))}
    (single : (attrs.filter (isHref D)).length ≤ 1) :
    attrs.filterMap (fun attr => if isHref D attr then attr.2 else none) =
      ((attrs.find? (isHref D)).bind Prod.snd).toList := by
  induction attrs with
  | nil => rfl
  | cons attr attrs ih =>
    by_cases href : isHref D attr = true
    · rw [List.filter_cons_of_pos href, List.length_cons] at single
      have later : attrs.filter (isHref D) = [] := List.eq_nil_of_length_eq_zero (by omega)
      have none : attrs.filterMap (fun attr => if isHref D attr then attr.2 else none) = [] := by
        rw [List.filterMap_eq_nil_iff]
        intro other mem
        rw [if_neg (List.filter_eq_nil_iff.mp later other mem)]
      rw [List.find?_cons_of_pos href, List.filterMap_cons, if_pos href, none]
      change _ = attr.2.toList
      cases attr.2 with
      | none => rfl
      | some value => rfl
    · rw [List.filter_cons_of_neg href] at single
      rw [List.find?_cons_of_neg href, List.filterMap_cons, if_neg href]
      exact ih single

/-- Of at most one `href` the parser collects the link of the browser. -/
theorem collected_eq {tag : StartTag}
    (single : isAnchor D tag = true → (tag.2.filter (isHref D)).length ≤ 1) :
    collected D tag = (link D tag).toList := by
  rw [collected, link]
  by_cases anchor : isAnchor D tag = true
  · rw [if_pos anchor, if_pos anchor]
    exact hrefs_of_single (single anchor)
  · rw [if_neg anchor, if_neg anchor]
    rfl

end Reading

end BacklinkPublisher.MainDomainGate
