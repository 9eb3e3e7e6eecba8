import BacklinkPublisher.CanonicalUrl
import BacklinkPublisher.CitationEvents
import BacklinkPublisher.ConfigSections

set_option autoImplicit false

/-!
# Verdicts of a probe

`classify_verdict` of `geo/verdict.py`: which source URLs of a probe are credited, and the tier that
they earn.
-/
namespace BacklinkPublisher.VerdictClassifier
open CanonicalUrl CitationEvents FormEncoding UrlSplit
open scoped Texts

abbrev Url := List Char

/-- The tables of the character data with the normal form NFC; `lower` loses no character. -/
structure TextData extends UnicodeData where
  nfc : List Char → List Char
  lower_ne_nil : ∀ s, s ≠ [] → lower s ≠ []

/-- `asciiData`, where NFC changes nothing either. -/
def asciiTexts : TextData where
  toUnicodeData := asciiData
  nfc s := s
  lower_ne_nil _ some_ h := some_ (List.map_eq_nil_iff.1 h)

/-! ## The answer -/

/-- `PROBE_OUTCOMES`. -/
inductive Outcome where
  | ok
  | refused
  | absent
  | parseError
  deriving DecidableEq, Repr

structure ProbeResult where
  answerText : List Char
  sourceUrls : List Url
  outcome : Outcome
  deriving DecidableEq

def refusalMarkers : List (List Char) :=
  ["i can't help with that", "i cannot help with that", "i can't assist with",
    "i cannot assist with", "i'm unable to help", "i am unable to help",
    "i'm not able to provide", "i am not able to provide", "i won't be able to",
    "against my guidelines", "violates the usage policy", "i can't provide information",
    "i cannot provide information"].map String.toList

def isRefusalText (T : TextData) (answer : List Char) : Bool :=
  refusalMarkers.any fun marker => marker <:+: T.lower answer

def refused (T : TextData) (result : ProbeResult) : Bool :=
  result.outcome = .refused || (result.answerText ≠ [] && isRefusalText T result.answerText)

/-- `_TOKEN_SPLIT_RE`, one character. -/
def splitsTokens (c : Char) : Bool :=
  ConfigSections.isSpace c || c ∈ "-.,!?;:\"'()[]\x7b\x7d<>/\\|@#$%^&*+=~\x60".toList

def tokenize (T : TextData) (text : List Char) : List (List Char) :=
  ((T.lower (T.nfc text)).splitOnP splitsTokens).filter fun token => token ≠ []

/-- No list of aliases is an empty one. -/
def checkBrandMentioned (T : TextData) (answer : List Char) (aliases : List (List Char)) : Bool :=
  aliases ≠ [] && answer ≠ [] &&
    aliases.any fun name => name ≠ [] && T.lower name ∈ tokenize T answer

/-! ## The credit gate -/

section Gate
variable (U : UnicodeData)

def webSchemes : List (List Char) := ["http".toList, "https".toList]

def redirectorHosts : List (List Char) :=
  ["t.co", "bit.ly", "buff.ly", "ow.ly", "dlvr.it", "feedburner.com"].map String.toList

def redirectParams : List (List Char) :=
  ["url", "u", "to", "dest", "destination", "href", "link"].map String.toList

/-- The fields of `parse_qs` with `keep_blank_values=False`. -/
def parseQs (query : List Char) : List (List Char × List Char) :=
  (parseQsl query).filter fun field => field.2 ≠ []

def looksLikeUrl (candidate : Url) : Bool :=
  "http://".toList.isPrefixOf candidate || "https://".toList.isPrefixOf candidate

def extractRedirectDestination (rawUrl : Url) : Option Url :=
  (urlsplit U rawUrl).bind fun parts =>
    redirectParams.findSome? fun param =>
      ((parseQs parts.query).lookup param).filter looksLikeUrl

def canonicalHost (url : Url) : Option (List Char) :=
  if url = [] then none
  else
    (urlsplit U url).bind fun parts =>
      if U.lower parts.scheme ∉ webSchemes then none
      else ((hostname U parts.netloc).filter fun host => host ≠ []).map U.lower

inductive Bucket where
  | credited
  | uncredited
  | unresolved
  deriving DecidableEq, Repr

/-- The three lists. -/
abbrev Buckets := Bucket → List Url

def Buckets.empty : Buckets := fun _ => []

def Buckets.add (lists : Buckets) (entry : Bucket × Url) : Buckets := fun bucket =>
  if entry.1 = bucket then lists bucket ++ [entry.2] else lists bucket

/-- The body of `_classify_url`, with the call in it. -/
def classifyBody (targetHost : Option (List Char)) (articles : List Url)
    (nested : Url → Buckets → Option Buckets) (rawUrl : Url) (lists : Buckets) : Option Buckets :=
  if rawUrl = [] then some lists
  else
    match urlsplit U rawUrl with
    | none => some (lists.add (.uncredited, rawUrl))
    | some parts =>
      if U.lower parts.scheme ∉ webSchemes then some (lists.add (.uncredited, rawUrl))
      else
        let host := hostLower U parts.netloc
        if host = [] then some (lists.add (.uncredited, rawUrl))
        else if host ∈ redirectorHosts then
          match extractRedirectDestination U rawUrl with
          | some dest => nested dest lists
          | none => some (lists.add (.unresolved, rawUrl))
        else
          match canonicalizeUrl U rawUrl with
          | none => some (lists.add (.uncredited, rawUrl))
          | some canon =>
            match canonicalHost U canon with
            | none => some (lists.add (.uncredited, rawUrl))
            | some canonHost =>
              if targetHost = some canonHost then some (lists.add (.credited, canon))
              else if canon ∈ articles then some (lists.add (.credited, canon))
              else some (lists.add (.uncredited, canon))

/-- `_classify_url`, in which this many calls of it may still be nested; `none` stands for the
`RecursionError`. -/
def classifyUrl (targetHost : Option (List Char)) (articles : List Url) :
    ℕ → Url → Buckets → Option Buckets
  | 0 => classifyBody U targetHost articles fun _ _ => none
  | frames + 1 => classifyBody U targetHost articles (classifyUrl targetHost articles frames)

end Gate

/-- The loop over the source URLs. -/
def classifyUrls (U : UnicodeData) (targetHost : Option (List Char)) (articles : List Url)
    (frames : ℕ) (urls : List Url) : Option Buckets :=
  urls.foldlM (fun lists url => classifyUrl U targetHost articles frames url lists) Buckets.empty

structure Probe where
  result : ProbeResult
  targetUrl : Url
  publishedArticleUrls : List Url
  brandAliases : List (List Char) := []
  query : String := ""
  engine : String := ""

/-- The probe with other source URLs. -/
def Probe.withUrls (probe : Probe) (urls : List Url) : Probe :=
  { probe with result := { probe.result with sourceUrls := urls } }

def classifyVerdict (T : TextData) (frames : ℕ) (probe : Probe) : Option VerdictResult :=
  if refused T probe.result then
    some { tier := .refused, brandMentioned := false, query := probe.query, engine := probe.engine }
  else
    let targetHost := canonicalHost T.toUnicodeData probe.targetUrl
    let articles := probe.publishedArticleUrls
    (classifyUrls T.toUnicodeData targetHost articles frames probe.result.sourceUrls).map
      fun lists =>
        let siteHit := (lists .credited).any fun url =>
          canonicalHost T.toUnicodeData url = targetHost
        let articleHit := (lists .credited).any fun url =>
          (canonicalizeUrl T.toUnicodeData url).getD url ∈ articles
        { tier := if siteHit then .siteCited else if articleHit then .articleCited else .absent
          brandMentioned := checkBrandMentioned T probe.result.answerText probe.brandAliases
          creditedUrls := (lists .credited).map String.ofList
          uncreditedUrls := (lists .uncredited).map String.ofList
          possiblyCitedUnresolved := (lists .unresolved).map String.ofList
          query := probe.query
          engine := probe.engine }

/-! ## What is asked of it -/

section Spec
variable (U : UnicodeData)

/-- The URL in a redirector URL. -/
def destination (url : Url) : Option Url :=
  match canonicalHost U url with
  | none => none
  | some host => if host ∈ redirectorHosts then extractRedirectDestination U url else none

/-- `final` is what is left of the URL after `n` redirectors. -/
inductive Unwraps : ℕ → Url → Url → Prop where
  | plain {url : Url} (last : destination U url = none) : Unwraps 0 url url
  | wrapped {n : ℕ} {url dest final : Url} (next : destination U url = some dest)
      (rest : Unwraps n dest final) : Unwraps (n + 1) url final

/-- A URL that a source URL unwraps to, and that is no redirector itself. -/
def Unwrapped (urls : List Url) (final : Url) : Prop :=
  (∃ url ∈ urls, url ≠ [] ∧ ∃ n, Unwraps U n url final) ∧
    ∃ host, canonicalHost U final = some host ∧ host ∉ redirectorHosts

/-- A source URL that can be canonicalized has the host of the target. -/
def SiteHit (urls : List Url) (target : Url) : Prop :=
  ∃ final, Unwrapped U urls final ∧ (canonicalizeUrl U final).isSome ∧
    canonicalHost U final = canonicalHost U target

def ArticleHit (urls : List Url) (articles : List Url) : Prop :=
  ∃ final canon, Unwrapped U urls final ∧ canonicalizeUrl U final = some canon ∧ canon ∈ articles

end Spec

def listOf (verdict : VerdictResult) : Bucket → List String
  | .credited => verdict.creditedUrls
  | .uncredited => verdict.uncreditedUrls
  | .unresolved => verdict.possiblyCitedUnresolved

/-- Every source URL that is not empty has one entry, in one of the lists, and nothing else has. -/
def Partitions (urls : List Url) (verdict : VerdictResult) : Prop :=
  ∃ entry : Url → Bucket × Url, ∀ bucket, listOf verdict bucket =
    ((urls.filter fun url => url ≠ []).filter fun url => (entry url).1 = bucket).map fun url =>
      String.ofList (entry url).2

/-- The promises about a verdict. -/
structure ExactVerdict (T : TextData) (frames : ℕ) (probe : Probe) (verdict : VerdictResult) :
    Prop where
  site : refused T probe.result = false → (verdict.tier = .siteCited ↔
    SiteHit T.toUnicodeData probe.result.sourceUrls probe.targetUrl)
  article : refused T probe.result = false → (verdict.tier = .articleCited ↔
    ¬ SiteHit T.toUnicodeData probe.result.sourceUrls probe.targetUrl ∧
      ArticleHit T.toUnicodeData probe.result.sourceUrls probe.publishedArticleUrls)
  absent : refused T probe.result = false → (verdict.tier = .absent ↔
    ¬ SiteHit T.toUnicodeData probe.result.sourceUrls probe.targetUrl ∧
      ¬ ArticleHit T.toUnicodeData probe.result.sourceUrls probe.publishedArticleUrls)
  partitions : refused T probe.result = false → Partitions probe.result.sourceUrls verdict
  credited : ∀ text ∈ verdict.creditedUrls,
    (∃ host, canonicalHost T.toUnicodeData text.toList = some host ∧
      canonicalHost T.toUnicodeData probe.targetUrl = some host) ∨
    text.toList ∈ probe.publishedArticleUrls
  permuted : ∀ urls, urls.Perm probe.result.sourceUrls → ∃ other,
    classifyVerdict T frames (probe.withUrls urls) = some other ∧
      (∀ bucket, (listOf other bucket).Perm (listOf verdict bucket)) ∧
      other.tier = verdict.tier ∧ other.brandMentioned = verdict.brandMentioned

/-- Credit is exact, total and independent of the order. -/
def Exact (T : TextData) (frames : ℕ) (probe : Probe) : Prop :=
  ∃ verdict, classifyVerdict T frames probe = some verdict ∧ ExactVerdict T frames probe verdict

/-! ## When it is so -/

section Condition
variable (U : UnicodeData)

/-- A host in brackets, whose canonical form drops them. -/
def Misread (url : Url) : Prop :=
  ∃ host, canonicalHost U url = some host ∧ (':' ∈ host ∨ '[' ∈ host ∨ ']' ∈ host)

/-- A canonical form with a host that can be read. -/
def Creditable (urls : List Url) (canon : Url) (host : List Char) : Prop :=
  ∃ final, Unwrapped U urls final ∧ canonicalizeUrl U final = some canon ∧
    canonicalHost U canon = some host

/-- No source URL is wrapped deeper than the calls go, and hosts in brackets decide nothing: where
one is the target's, or is read as the target's, another URL has it, and where one is an article's,
another URL earns that tier. -/
structure Covered (frames : ℕ) (urls : List Url) (target : Url) (articles : List Url) : Prop where
  shallow : ∀ url ∈ urls, url ≠ [] → ∃ n final, Unwraps U n url final ∧ n ≤ frames
  unread : ∀ final, Unwrapped U urls final → Misread U final →
    (canonicalizeUrl U final).isSome → ∀ host, canonicalHost U target = some host →
      canonicalHost U final = some host → ∃ canon, Creditable U urls canon host
  misread : ∀ final, Unwrapped U urls final → Misread U final → ∀ canon host,
    canonicalizeUrl U final = some canon → canonicalHost U canon = some host →
      canonicalHost U target = some host → SiteHit U urls target
  article : ∀ final, Unwrapped U urls final → Misread U final → ∀ canon,
    canonicalizeUrl U final = some canon → canon ∈ articles → SiteHit U urls target ∨
      ∃ other host, Creditable U urls other host ∧ other ∈ articles ∧
        (canonicalizeUrl U other).getD other ∈ articles

end Condition

/-! ## One URL -/

section Urls
variable {T : TextData} {targetHost : Option (List Char)} {articles : List Url} {frames n : ℕ}
  {url final : Url} {lists : Buckets}

theorem canonicalHost_of_split {parts : SplitResult} (some_ : url ≠ [])
    (split : urlsplit T.toUnicodeData url = some parts) :
    canonicalHost T.toUnicodeData url =
      if T.lower parts.scheme ∉ webSchemes then none
      else if hostLower T.toUnicodeData parts.netloc = [] then none
      else some (hostLower T.toUnicodeData parts.netloc) := by
  unfold canonicalHost hostLower
  rw [if_neg some_, split, Option.bind_some]
  split_ifs with web empty
  · cases name : hostname T.toUnicodeData parts.netloc with
    | none => rfl
    | some host =>
      rw [name] at empty
      have none_ : host = [] := by
        by_contra h
        exact T.lower_ne_nil host h empty
      rw [none_]
      rfl
  · cases name : hostname T.toUnicodeData parts.netloc with
    | none =>
      rw [name] at empty
      exact (empty T.lower_nil).elim
    | some host =>
      have some_ : host ≠ [] := by
        intro h
        rw [name, h] at empty
        exact empty T.lower_nil
      rw [Option.filter_some_pos (by simp [some_]), Option.map_some]
      rfl
  · rfl

theorem canonicalHost_eq_some {host : List Char}
    (known : canonicalHost T.toUnicodeData url = some host) : url ≠ [] ∧ ∃ parts,
      urlsplit T.toUnicodeData url = some parts ∧ T.lower parts.scheme ∈ webSchemes ∧
        hostLower T.toUnicodeData parts.netloc = host ∧ host ≠ [] := by
  have some_ : url ≠ [] := by
    intro h
    rw [h] at known
    cases known
  cases split : urlsplit T.toUnicodeData url with
  | none =>
    unfold canonicalHost at known
    rw [if_neg some_, split] at known
    cases known
  | some parts =>
    rw [canonicalHost_of_split some_ split] at known
    split_ifs at known with web empty
    have same := Option.some.inj known
    exact ⟨some_, parts, rfl, web, same, same ▸ empty⟩

/-- Where a URL that is no wrapper goes. -/
def place (U : UnicodeData) (targetHost : Option (List Char)) (articles : List Url) (url : Url) :
    Bucket × Url :=
  match canonicalHost U url with
  | none => (.uncredited, url)
  | some host =>
    if host ∈ redirectorHosts then (.unresolved, url)
    else
      match canonicalizeUrl U url with
      | none => (.uncredited, url)
      | some canon =>
        match canonicalHost U canon with
        | none => (.uncredited, url)
        | some canonHost =>
          if targetHost = some canonHost ∨ canon ∈ articles then (.credited, canon)
          else (.uncredited, canon)

theorem classifyBody_of_plain {nested : Url → Buckets → Option Buckets} (some_ : url ≠ [])
    (last : destination T.toUnicodeData url = none) :
    classifyBody T.toUnicodeData targetHost articles nested url lists =
      some (lists.add (place T.toUnicodeData targetHost articles url)) := by
  unfold classifyBody place
  unfold destination at last
  rw [if_neg some_]
  cases split : urlsplit T.toUnicodeData url with
  | none =>
    have unread : canonicalHost T.toUnicodeData url = none := by
      unfold canonicalHost
      rw [if_neg some_, split, Option.bind_none]
    rw [unread]
  | some parts =>
    rw [canonicalHost_of_split some_ split] at last ⊢
    dsimp only
    by_cases other : T.lower parts.scheme ∉ webSchemes
    · rw [if_pos other, if_pos other]
    · rw [if_neg other] at last ⊢
      rw [if_neg other]
      by_cases empty : hostLower T.toUnicodeData parts.netloc = []
      · rw [if_pos empty, if_pos empty]
      · rw [if_neg empty] at last ⊢
        rw [if_neg empty]
        dsimp only at last ⊢
        by_cases wraps : hostLower T.toUnicodeData parts.netloc ∈ redirectorHosts
        · rw [if_pos wraps] at last ⊢
          rw [if_pos wraps, last]
        · rw [if_neg wraps, if_neg wraps]
          cases canonicalizeUrl T.toUnicodeData url with
          | none => rfl
          | some canon =>
            dsimp only
            cases canonicalHost T.toUnicodeData canon with
            | none => rfl
            | some canonHost =>
              dsimp only
              by_cases site : targetHost = some canonHost
              · rw [if_pos site, if_pos (.inl site)]
              · by_cases known : canon ∈ articles
                · rw [if_neg site, if_pos known, if_pos (.inr known)]
                · rw [if_neg site, if_neg known, if_neg (not_or.2 ⟨site, known⟩)]

theorem classifyBody_of_wrapped {nested : Url → Buckets → Option Buckets} {dest : Url}
    (next : destination T.toUnicodeData url = some dest) :
    classifyBody T.toUnicodeData targetHost articles nested url lists = nested dest lists := by
  unfold destination at next
  cases known : canonicalHost T.toUnicodeData url with
  | none =>
    rw [known] at next
    cases next
  | some host =>
    have ⟨some_, parts, split, web, same, full⟩ := canonicalHost_eq_some known
    rw [known] at next
    dsimp only at next
    split_ifs at next with wraps
    unfold classifyBody
    rw [if_neg some_, split]
    dsimp only
    rw [if_neg (not_not.2 web), same, if_neg full, if_pos wraps, next]

/-- The last URL of the chain, where the calls go that far. -/
def unwrap (U : UnicodeData) : ℕ → Url → Option Url
  | 0, url => if (destination U url).isSome then none else some url
  | frames + 1, url =>
    match destination U url with
    | none => some url
    | some dest => unwrap U frames dest

theorem unwrap_eq_some {U : UnicodeData} :
    unwrap U frames url = some final ↔ ∃ n ≤ frames, Unwraps U n url final := by
  induction frames generalizing url with
  | zero =>
    unfold unwrap
    cases next : destination U url with
    | none =>
      constructor
      · intro same
        rw [← Option.some.inj same]
        exact ⟨0, le_refl 0, .plain next⟩
      · intro ⟨n, _, chain⟩
        cases chain with
        | plain _ => rfl
        | wrapped next' _ =>
          rw [next] at next'
          cases next'
    | some dest =>
      constructor
      · intro h
        cases h
      · intro ⟨n, small, chain⟩
        cases chain with
        | plain last =>
          rw [next] at last
          cases last
        | wrapped _ _ => omega
  | succ frames ih =>
    unfold unwrap
    cases next : destination U url with
    | none =>
      constructor
      · intro same
        rw [← Option.some.inj same]
        exact ⟨0, by omega, .plain next⟩
      · intro ⟨n, _, chain⟩
        cases chain with
        | plain _ => rfl
        | wrapped next' _ =>
          rw [next] at next'
          cases next'
    | some dest =>
      dsimp only
      rw [ih]
      constructor
      · intro ⟨n, small, chain⟩
        exact ⟨n + 1, by omega, .wrapped next chain⟩
      · intro ⟨n, small, chain⟩
        cases chain with
        | plain last =>
          rw [next] at last
          cases last
        | wrapped next' rest =>
          rw [next] at next'
          rw [Option.some.inj next']
          exact ⟨_, by omega, rest⟩

theorem destination_ne_nil {U : UnicodeData} {dest : Url} (next : destination U url = some dest) :
    dest ≠ [] := by
  intro empty
  rw [empty] at next
  unfold destination at next
  cases known : canonicalHost U url with
  | none =>
    rw [known] at next
    cases next
  | some host =>
    rw [known] at next
    dsimp only at next
    split_ifs at next
    unfold extractRedirectDestination at next
    have ⟨parts, _, found⟩ := Option.bind_eq_some_iff.1 next
    have ⟨_, _, kept⟩ := List.exists_of_findSome?_eq_some found
    exact absurd (Option.filter_eq_some_iff.1 kept).2 (by decide)

theorem classifyUrl_eq (some_ : url ≠ []) :
    classifyUrl T.toUnicodeData targetHost articles frames url lists =
      (unwrap T.toUnicodeData frames url).map fun final =>
        lists.add (place T.toUnicodeData targetHost articles final) := by
  induction frames generalizing url with
  | zero =>
    unfold classifyUrl unwrap
    cases next : destination T.toUnicodeData url with
    | none => exact classifyBody_of_plain some_ next
    | some dest => exact classifyBody_of_wrapped next
  | succ frames ih =>
    unfold classifyUrl unwrap
    cases next : destination T.toUnicodeData url with
    | none => exact classifyBody_of_plain some_ next
    | some dest =>
      rw [classifyBody_of_wrapped next]
      exact ih (destination_ne_nil next)

theorem classifyUrl_nil :
    classifyUrl T.toUnicodeData targetHost articles frames [] lists = some lists := by
  cases frames with
  | zero => rfl
  | succ frames => rfl

/-! ## All URLs -/

/-- The entry of a URL whose chain the calls reach the end of. -/
def entryOf (U : UnicodeData) (targetHost : Option (List Char)) (articles : List Url)
    (frames : ℕ) (url : Url) : Bucket × Url :=
  place U targetHost articles ((unwrap U frames url).getD url)

def entriesIn (U : UnicodeData) (targetHost : Option (List Char)) (articles : List Url)
    (frames : ℕ) (urls : List Url) (bucket : Bucket) : List Url :=
  ((urls.filter fun url => url ≠ []).filter fun url =>
    (entryOf U targetHost articles frames url).1 = bucket).map fun url =>
      (entryOf U targetHost articles frames url).2

variable {urls : List Url}

theorem foldlM_classifyUrl (lists : Buckets)
    (shallow : ∀ url ∈ urls, url ≠ [] → (unwrap T.toUnicodeData frames url).isSome) :
    urls.foldlM (fun lists url =>
        classifyUrl T.toUnicodeData targetHost articles frames url lists) lists =
      some fun bucket =>
        lists bucket ++ entriesIn T.toUnicodeData targetHost articles frames urls bucket := by
  induction urls generalizing lists with
  | nil =>
    change some lists = _
    congr 1
    funext bucket
    exact (List.append_nil _).symm
  | cons url urls ih =>
    have rest := fun lists => ih lists fun other member =>
      shallow other (List.mem_cons_of_mem _ member)
    rw [List.foldlM_cons]
    by_cases empty : url = []
    · rw [empty, classifyUrl_nil]
      exact rest lists
    · have ⟨final, ends⟩ := Option.isSome_iff_exists.1 (shallow url List.mem_cons_self empty)
      rw [classifyUrl_eq empty, ends]
      change List.foldlM _ _ urls = _
      rw [rest]
      congr 1
      funext bucket
      unfold entriesIn Buckets.add
      dsimp only
      have entry : entryOf T.toUnicodeData targetHost articles frames url =
          place T.toUnicodeData targetHost articles final := by
        unfold entryOf
        rw [ends]
        rfl
      rw [List.filter_cons_of_pos (by simp [empty])]
      by_cases here : (place T.toUnicodeData targetHost articles final).1 = bucket
      · rw [if_pos here, List.filter_cons_of_pos (by simp [entry, here]), List.map_cons, entry,
          List.append_assoc]
        rfl
      · rw [if_neg here, List.filter_cons_of_neg (by simp [entry, here])]

theorem isSome_of_foldlM
    (returns : (urls.foldlM (fun lists url =>
      classifyUrl T.toUnicodeData targetHost articles frames url lists) lists).isSome) :
    ∀ url ∈ urls, url ≠ [] → (unwrap T.toUnicodeData frames url).isSome := by
  induction urls generalizing lists with
  | nil => exact fun _ member => (by cases member)
  | cons url urls ih =>
    rw [List.foldlM_cons] at returns
    intro other member some_
    cases first : classifyUrl T.toUnicodeData targetHost articles frames url lists with
    | none =>
      rw [first] at returns
      cases returns
    | some lists' =>
      rw [first] at returns
      rcases List.mem_cons.1 member with same | later
      · rw [same] at some_ ⊢
        rw [classifyUrl_eq some_] at first
        have ⟨final, ends, _⟩ := Option.map_eq_some_iff.1 first
        rw [ends]
        rfl
      · exact ih returns other later some_

/-! ## Hosts -/

theorem lookup_of_web {scheme : List Char} (web : scheme ∈ webSchemes) :
    ∃ standard, defaultPorts.lookup scheme = some standard := by
  have both : ∀ scheme ∈ webSchemes, (defaultPorts.lookup scheme).isSome := by decide
  exact Option.isSome_iff_exists.1 (both scheme web)

/-- A host without brackets and colons is read again from the network location made of it. -/
theorem hostLower_canonicalNetloc {U : UnicodeData} {netloc : List Char} {standard : ℕ}
    {number : Option ℕ} (opening : '[' ∉ hostLower U netloc) (colon : ':' ∉ hostLower U netloc) :
    hostLower U (canonicalNetloc standard (hostLower U netloc) number) = hostLower U netloc := by
  have info := hostinfo_canonicalNetloc standard number opening
  have front : (partition ':' (canonicalNetloc standard (hostLower U netloc) number)).1 =
      hostLower U netloc := by
    cases number with
    | none =>
      change (partition ':' (hostLower U netloc)).1 = _
      rw [partition_of_not_mem colon]
    | some p =>
      unfold canonicalNetloc
      dsimp only
      split_ifs
      · rw [partition_of_not_mem colon]
      · rw [partition_append colon]
  rw [front] at info
  rw [hostLower_of_lowered (by rw [info]; exact fun c member => member), info]

/-- The canonical form of a URL whose host is no address in brackets has that host, and is its own
canonical form. -/
theorem canonical_of_plain {host canon : List Char}
    (known : canonicalHost T.toUnicodeData url = some host) (plain : ¬ Misread T.toUnicodeData url)
    (made : canonicalizeUrl T.toUnicodeData url = some canon) :
    canonicalHost T.toUnicodeData canon = some host ∧
      canonicalizeUrl T.toUnicodeData canon = some canon := by
  have marks : ':' ∉ host ∧ '[' ∉ host ∧ ']' ∉ host := by
    refine ⟨fun h => ?_, fun h => ?_, fun h => ?_⟩
    · exact plain ⟨host, known, .inl h⟩
    · exact plain ⟨host, known, .inr (.inl h)⟩
    · exact plain ⟨host, known, .inr (.inr h)⟩
  obtain ⟨some_, parts, split, web, same, full⟩ := canonicalHost_eq_some known
  obtain ⟨standard, lookup⟩ := lookup_of_web web
  rw [← same] at marks
  have spec := urlsplit_spec split
  have written := made
  rw [canonicalizeUrl, if_neg some_, split, Option.bind_some] at written
  dsimp only at written
  rw [lookup] at written
  dsimp only at written
  obtain ⟨number, read, composed⟩ := Option.map_eq_some_iff.1 written
  constructor
  · have uses := uses_of_lookup lookup
    have clean := canonical_clean T.toUnicodeData spec.1 (T.lower parts.scheme) standard number
    have slash : '/' ∉ canonicalNetloc standard (hostLower T.toUnicodeData parts.netloc) number :=
      fun member => (clean.netloc '/' member).1 (by decide)
    have first : '/' ∉ parts.netloc := fun member => (spec.1.netloc '/' member).1 (by decide)
    have again := urlsplit_urlunsplit T.toUnicodeData uses clean
    rw [if_pos ⟨(checkBrackets_iff standard number).2 ⟨marks.2.1, marks.2.2⟩,
      checkNetloc_canonicalNetloc first spec.2.2 slash⟩, composed] at again
    have some' : canon ≠ [] := by
      rw [← composed, urlunsplit_eq _ uses]
      exact List.append_ne_nil_of_right_ne_nil _ (List.cons_ne_nil _ _)
    rw [canonicalHost_of_split some' again]
    dsimp only
    rw [T.toUnicodeData.lower_uses uses, if_neg (not_not.2 web),
      hostLower_canonicalNetloc marks.2.1 marks.1, same, if_neg full]
  · rw [canonicalizeUrl_stable_iff T.toUnicodeData url canon made,
      hostReadsBack_iff split lookup read]
    exact ⟨marks.2.1, marks.2.2, .inl marks.1⟩

/-! ## The credited URLs -/

theorem place_credited {U : UnicodeData} {canon : Url} :
    place U targetHost articles final = (.credited, canon) ↔
      (∃ host, canonicalHost U final = some host ∧ host ∉ redirectorHosts) ∧
        canonicalizeUrl U final = some canon ∧
          ∃ host, canonicalHost U canon = some host ∧
            (targetHost = some host ∨ canon ∈ articles) := by
  unfold place
  cases known : canonicalHost U final with
  | none => exact ⟨fun h => (by cases h), fun ⟨⟨_, h, _⟩, _⟩ => (by cases h)⟩
  | some host =>
    dsimp only
    split_ifs with wraps
    · constructor
      · intro h
        cases h
      · intro ⟨⟨other, same, clean⟩, _⟩
        cases same
        exact (clean wraps).elim
    · cases made : canonicalizeUrl U final with
      | none => exact ⟨fun h => (by cases h), fun ⟨_, h, _⟩ => (by cases h)⟩
      | some other =>
        dsimp only
        cases read : canonicalHost U other with
        | none =>
          constructor
          · intro h
            cases h
          · intro ⟨_, same, host', read', _⟩
            cases same
            rw [read] at read'
            cases read'
        | some otherHost =>
          dsimp only
          split_ifs with earns
          · constructor
            · intro same
              cases same
              exact ⟨⟨host, rfl, wraps⟩, rfl, otherHost, read, earns⟩
            · intro ⟨_, same, _⟩
              cases same
              rfl
          · constructor
            · intro h
              cases h
            · intro ⟨_, same, host', read', earns'⟩
              cases same
              rw [read] at read'
              cases read'
              exact (earns earns').elim

theorem Unwraps.final_eq {U : UnicodeData} {m : ℕ} {other : Url}
    (chain : Unwraps U n url final) (chain' : Unwraps U m url other) : final = other := by
  induction chain generalizing m with
  | plain last =>
    cases chain' with
    | plain _ => rfl
    | wrapped next _ =>
      rw [last] at next
      cases next
  | wrapped next _ ih =>
    cases chain' with
    | plain last =>
      rw [last] at next
      cases next
    | wrapped next' rest =>
      rw [next] at next'
      cases next'
      exact ih rest

/-- What is credited: the canonical form of an unwrapped source URL that has the host or is an
article. -/
theorem mem_credited {U : UnicodeData} {canon : Url}
    (shallow : ∀ url ∈ urls, url ≠ [] → (unwrap U frames url).isSome) :
    canon ∈ entriesIn U targetHost articles frames urls .credited ↔
      ∃ host, Creditable U urls canon host ∧ (targetHost = some host ∨ canon ∈ articles) := by
  unfold entriesIn Creditable Unwrapped
  rw [List.mem_map]
  constructor
  · intro ⟨url, member, second⟩
    have ⟨kept, first⟩ := List.mem_filter.1 member
    have ⟨among, some_⟩ := List.mem_filter.1 kept
    have some_ := of_decide_eq_true some_
    have ⟨final, ends⟩ := Option.isSome_iff_exists.1 (shallow url among some_)
    have ⟨n, _, chain⟩ := unwrap_eq_some.1 ends
    have entry : place U targetHost articles final = (.credited, canon) := by
      unfold entryOf at first second
      rw [ends] at first second
      exact Prod.ext (of_decide_eq_true first) second
    have ⟨web, made, host, read, earns⟩ := place_credited.1 entry
    exact ⟨host, ⟨final, ⟨⟨url, among, some_, n, chain⟩, web⟩, made, read⟩, earns⟩
  · intro ⟨host, ⟨final, ⟨⟨url, among, some_, n, chain⟩, web⟩, made, read⟩, earns⟩
    have entry := place_credited.2 ⟨web, made, host, read, earns⟩
    have ⟨other, ends⟩ := Option.isSome_iff_exists.1 (shallow url among some_)
    have ⟨m, _, chain'⟩ := unwrap_eq_some.1 ends
    have same : other = final := chain'.final_eq chain
    have whole : entryOf U targetHost articles frames url = (.credited, canon) := by
      unfold entryOf
      rw [ends, same]
      exact entry
    refine ⟨url, List.mem_filter.2 ⟨List.mem_filter.2 ⟨among, decide_eq_true some_⟩, ?_⟩, ?_⟩
    · rw [whole]
      rfl
    · rw [whole]

theorem entriesIn_perm {U : UnicodeData} {others : List Url} (perm : others.Perm urls)
    (bucket : Bucket) : (entriesIn U targetHost articles frames others bucket).Perm
      (entriesIn U targetHost articles frames urls bucket) :=
  ((perm.filter _).filter _).map _

theorem classifyUrls_eq
    (shallow : ∀ url ∈ urls, url ≠ [] → (unwrap T.toUnicodeData frames url).isSome) :
    classifyUrls T.toUnicodeData targetHost articles frames urls =
      some (entriesIn T.toUnicodeData targetHost articles frames urls) := by
  unfold classifyUrls
  rw [foldlM_classifyUrl _ shallow]
  rfl

end Urls

/-! ## The verdict -/

section Verdict
variable {T : TextData} {frames : ℕ} {probe : Probe}

/-- The verdict on the lists. -/
def verdictFrom (T : TextData) (probe : Probe) (lists : Buckets) : VerdictResult where
  tier :=
    if (lists .credited).any fun url =>
        canonicalHost T.toUnicodeData url = canonicalHost T.toUnicodeData probe.targetUrl then
      .siteCited
    else if (lists .credited).any fun url =>
        (canonicalizeUrl T.toUnicodeData url).getD url ∈ probe.publishedArticleUrls then
      .articleCited
    else .absent
  brandMentioned := checkBrandMentioned T probe.result.answerText probe.brandAliases
  creditedUrls := (lists .credited).map String.ofList
  uncreditedUrls := (lists .uncredited).map String.ofList
  possiblyCitedUnresolved := (lists .unresolved).map String.ofList
  query := probe.query
  engine := probe.engine

theorem classifyVerdict_eq (answers : refused T probe.result = false) :
    classifyVerdict T frames probe =
      (classifyUrls T.toUnicodeData (canonicalHost T.toUnicodeData probe.targetUrl)
        probe.publishedArticleUrls frames probe.result.sourceUrls).map (verdictFrom T probe) := by
  unfold classifyVerdict
  rw [if_neg (by rw [answers]; exact Bool.false_ne_true)]
  rfl

theorem listOf_verdictFrom (lists : Buckets) (bucket : Bucket) :
    listOf (verdictFrom T probe lists) bucket = (lists bucket).map String.ofList := by
  cases bucket with
  | credited => rfl
  | uncredited => rfl
  | unresolved => rfl

/-- The tier is decided by which of two kinds of URL is among the credited ones. -/
theorem tier_verdictFrom (lists : Buckets) {site article : Prop}
    (hsite : (∃ url ∈ lists .credited, canonicalHost T.toUnicodeData url =
      canonicalHost T.toUnicodeData probe.targetUrl) ↔ site)
    (harticle : (∃ url ∈ lists .credited,
      (canonicalizeUrl T.toUnicodeData url).getD url ∈ probe.publishedArticleUrls) ↔ article) :
    ((verdictFrom T probe lists).tier = .siteCited ↔ site) ∧
      ((verdictFrom T probe lists).tier = .articleCited ↔ ¬ site ∧ article) ∧
      ((verdictFrom T probe lists).tier = .absent ↔ ¬ site ∧ ¬ article) := by
  have first : ((lists .credited).any fun url => canonicalHost T.toUnicodeData url =
      canonicalHost T.toUnicodeData probe.targetUrl) = true ↔ site := by
    rw [← hsite, List.any_eq_true]
    simp only [decide_eq_true_eq]
  have second : ((lists .credited).any fun url =>
      (canonicalizeUrl T.toUnicodeData url).getD url ∈ probe.publishedArticleUrls) = true ↔
        article := by
    rw [← harticle, List.any_eq_true]
    simp only [decide_eq_true_eq]
  unfold verdictFrom
  dsimp only
  by_cases hit : site
  · rw [if_pos (first.2 hit)]
    simp [hit]
  · rw [if_neg fun h => hit (first.1 h)]
    by_cases known : article
    · rw [if_pos (second.2 known)]
      simp [hit, known]
    · rw [if_neg fun h => known (second.1 h)]
      simp [hit, known]

theorem verdictFrom_congr {lists others : Buckets}
    (perm : ∀ bucket, (others bucket).Perm (lists bucket)) :
    (verdictFrom T probe others).tier = (verdictFrom T probe lists).tier := by
  unfold verdictFrom
  dsimp only
  rw [(perm .credited).any_eq, (perm .credited).any_eq]

theorem shallow_iff {U : UnicodeData} {urls : List Url} :
    (∀ url ∈ urls, url ≠ [] → (unwrap U frames url).isSome) ↔
      ∀ url ∈ urls, url ≠ [] → ∃ n final, Unwraps U n url final ∧ n ≤ frames := by
  apply forall₃_congr
  intro url _ _
  rw [Option.isSome_iff_exists]
  constructor
  · intro ⟨final, ends⟩
    have ⟨n, small, chain⟩ := unwrap_eq_some.1 ends
    exact ⟨n, final, chain, small⟩
  · intro ⟨n, final, chain, small⟩
    exact ⟨final, unwrap_eq_some.2 ⟨n, small, chain⟩⟩

/-! ## Hits as the code reads them -/

/-- A credited URL has the host of the target. -/
def ReadsSite (U : UnicodeData) (urls : List Url) (target : Url) : Prop :=
  ∃ canon host, Creditable U urls canon host ∧ canonicalHost U target = some host

def ReadsArticle (U : UnicodeData) (urls articles : List Url) : Prop :=
  ∃ canon host, Creditable U urls canon host ∧ canon ∈ articles ∧
    (canonicalizeUrl U canon).getD canon ∈ articles

variable {urls articles : List Url} {target : Url}

theorem credited_site {U : UnicodeData}
    (shallow : ∀ url ∈ urls, url ≠ [] → (unwrap U frames url).isSome) :
    (∃ url ∈ entriesIn U (canonicalHost U target) articles frames urls .credited,
      canonicalHost U url = canonicalHost U target) ↔ ReadsSite U urls target := by
  constructor
  · intro ⟨canon, member, same⟩
    have ⟨host, creditable, _⟩ := (mem_credited shallow).1 member
    have ⟨_, _, _, read⟩ := creditable
    exact ⟨canon, host, creditable, same.symm.trans read⟩
  · intro ⟨canon, host, creditable, known⟩
    have ⟨_, _, _, read⟩ := creditable
    exact ⟨canon, (mem_credited shallow).2 ⟨host, creditable, .inl known⟩, read.trans known.symm⟩

theorem credited_article {U : UnicodeData}
    (shallow : ∀ url ∈ urls, url ≠ [] → (unwrap U frames url).isSome)
    (other : ¬ ReadsSite U urls target) :
    (∃ url ∈ entriesIn U (canonicalHost U target) articles frames urls .credited,
      (canonicalizeUrl U url).getD url ∈ articles) ↔ ReadsArticle U urls articles := by
  constructor
  · intro ⟨canon, member, again⟩
    have ⟨host, creditable, earns⟩ := (mem_credited shallow).1 member
    rcases earns with site | known
    · exact (other ⟨canon, host, creditable, site⟩).elim
    · exact ⟨canon, host, creditable, known, again⟩
  · intro ⟨canon, host, creditable, known, again⟩
    exact ⟨canon, (mem_credited shallow).2 ⟨host, creditable, .inr known⟩, again⟩

/-- Both hits agree where the hosts in brackets decide nothing. -/
theorem readsSite_iff : (ReadsSite T.toUnicodeData urls target ↔
      SiteHit T.toUnicodeData urls target) ↔
    (∀ final, Unwrapped T.toUnicodeData urls final → Misread T.toUnicodeData final →
      (canonicalizeUrl T.toUnicodeData final).isSome → ∀ host,
        canonicalHost T.toUnicodeData target = some host →
          canonicalHost T.toUnicodeData final = some host →
            ∃ canon, Creditable T.toUnicodeData urls canon host) ∧
    ∀ final, Unwrapped T.toUnicodeData urls final → Misread T.toUnicodeData final →
      ∀ canon host, canonicalizeUrl T.toUnicodeData final = some canon →
        canonicalHost T.toUnicodeData canon = some host →
          canonicalHost T.toUnicodeData target = some host →
            SiteHit T.toUnicodeData urls target := by
  constructor
  · intro agree
    constructor
    · intro final unwrapped _ valid host known same
      have ⟨canon, other, creditable, known'⟩ :=
        agree.2 ⟨final, unwrapped, valid, same.trans known.symm⟩
      rw [known] at known'
      cases known'
      exact ⟨canon, creditable⟩
    · intro final unwrapped _ canon host made read known
      exact agree.1 ⟨canon, host, ⟨final, unwrapped, made, read⟩, known⟩
  · intro ⟨unread, misread⟩
    constructor
    · intro ⟨canon, host, ⟨final, unwrapped, made, read⟩, known⟩
      by_cases bracketed : Misread T.toUnicodeData final
      · exact misread final unwrapped bracketed canon host made read known
      · have ⟨own, has, _⟩ := unwrapped.2
        have ⟨read', _⟩ := canonical_of_plain has bracketed made
        rw [read] at read'
        refine ⟨final, unwrapped, by rw [made]; rfl, ?_⟩
        rw [has, known, read']
    · intro ⟨final, unwrapped, valid, same⟩
      have ⟨host, has, _⟩ := unwrapped.2
      have known := same.symm.trans has
      by_cases bracketed : Misread T.toUnicodeData final
      · have ⟨canon, creditable⟩ := unread final unwrapped bracketed valid host known has
        exact ⟨canon, host, creditable, known⟩
      · have ⟨canon, made⟩ := Option.isSome_iff_exists.1 valid
        have ⟨read, _⟩ := canonical_of_plain has bracketed made
        exact ⟨canon, host, ⟨final, unwrapped, made, read⟩, known⟩

theorem readsArticle_iff : (ReadsArticle T.toUnicodeData urls articles ↔
      ArticleHit T.toUnicodeData urls articles) ↔
    ∀ final, Unwrapped T.toUnicodeData urls final → Misread T.toUnicodeData final →
      ∀ canon, canonicalizeUrl T.toUnicodeData final = some canon → canon ∈ articles →
        ReadsArticle T.toUnicodeData urls articles := by
  constructor
  · intro agree final unwrapped _ canon made known
    exact agree.2 ⟨final, canon, unwrapped, made, known⟩
  · intro covered
    constructor
    · intro ⟨canon, host, ⟨final, unwrapped, made, _⟩, known, _⟩
      exact ⟨final, canon, unwrapped, made, known⟩
    · intro ⟨final, canon, unwrapped, made, known⟩
      by_cases bracketed : Misread T.toUnicodeData final
      · exact covered final unwrapped bracketed canon made known
      · have ⟨host, has, _⟩ := unwrapped.2
        have ⟨read, stable⟩ := canonical_of_plain has bracketed made
        refine ⟨canon, host, ⟨final, unwrapped, made, read⟩, known, ?_⟩
        rw [stable]
        exact known

/-! ## Exact verdicts -/

theorem classifyVerdict_returns (answers : refused T probe.result = false) :
    (∃ verdict, classifyVerdict T frames probe = some verdict) ↔
      ∀ url ∈ probe.result.sourceUrls, url ≠ [] →
        (unwrap T.toUnicodeData frames url).isSome := by
  rw [classifyVerdict_eq answers]
  constructor
  · intro ⟨verdict, returned⟩
    have ⟨lists, listed, _⟩ := Option.map_eq_some_iff.1 returned
    exact isSome_of_foldlM (Option.isSome_iff_exists.2 ⟨lists, listed⟩)
  · intro shallow
    rw [classifyUrls_eq shallow]
    exact ⟨_, rfl⟩

/-- The three lists of the probe. -/
def listsOf (T : TextData) (frames : ℕ) (probe : Probe) : Buckets :=
  entriesIn T.toUnicodeData (canonicalHost T.toUnicodeData probe.targetUrl)
    probe.publishedArticleUrls frames probe.result.sourceUrls

/-- Where the calls go deep enough only the tier is left to ask for. -/
theorem exactVerdict_iff (answers : refused T probe.result = false)
    (shallow : ∀ url ∈ probe.result.sourceUrls, url ≠ [] →
      (unwrap T.toUnicodeData frames url).isSome) :
    Exact T frames probe ↔
      (ReadsSite T.toUnicodeData probe.result.sourceUrls probe.targetUrl ↔
        SiteHit T.toUnicodeData probe.result.sourceUrls probe.targetUrl) ∧
      (¬ SiteHit T.toUnicodeData probe.result.sourceUrls probe.targetUrl →
        (ReadsArticle T.toUnicodeData probe.result.sourceUrls probe.publishedArticleUrls ↔
          ArticleHit T.toUnicodeData probe.result.sourceUrls probe.publishedArticleUrls)) := by
  have returned : classifyVerdict T frames probe =
      some (verdictFrom T probe (listsOf T frames probe)) := by
    rw [classifyVerdict_eq answers, classifyUrls_eq shallow]
    rfl
  have tier := tier_verdictFrom (listsOf T frames probe) (credited_site shallow) Iff.rfl
  constructor
  · intro ⟨verdict, returned', exact⟩
    rw [returned] at returned'
    rw [← Option.some.inj returned'] at exact
    have agree := tier.1.symm.trans (exact.site answers)
    refine ⟨agree, fun other => ?_⟩
    have other' : ¬ ReadsSite T.toUnicodeData probe.result.sourceUrls probe.targetUrl :=
      fun h => other (agree.1 h)
    rw [← credited_article shallow other']
    change (∃ url ∈ listsOf T frames probe .credited, _) ↔ _
    have same := tier.2.1.symm.trans (exact.article answers)
    exact ⟨fun h => (same.1 ⟨other', h⟩).2, fun h => (same.2 ⟨other, h⟩).2⟩
  · intro ⟨agree, articles⟩
    refine ⟨_, returned, ?_⟩
    constructor
    · intro _
      rw [tier.1, agree]
    · intro _
      rw [tier.2.1, agree]
      apply and_congr_right
      intro other
      change (∃ url ∈ entriesIn _ _ _ _ _ _, _) ↔ _
      rw [credited_article shallow fun h => other (agree.1 h), articles other]
    · intro _
      rw [tier.2.2, agree]
      apply and_congr_right
      intro other
      change (¬ ∃ url ∈ entriesIn _ _ _ _ _ _, _) ↔ _
      rw [credited_article shallow fun h => other (agree.1 h), articles other]
    · intro _
      refine ⟨entryOf T.toUnicodeData (canonicalHost T.toUnicodeData probe.targetUrl)
        probe.publishedArticleUrls frames, fun bucket => ?_⟩
      rw [listOf_verdictFrom]
      unfold listsOf entriesIn
      rw [List.map_map]
      rfl
    · intro text member
      have ⟨canon, among, same⟩ := List.mem_map.1 member
      have ⟨host, ⟨_, _, _, read⟩, earns⟩ := (mem_credited shallow).1 among
      rw [← same, String.toList_ofList]
      rcases earns with site | known
      · exact .inl ⟨host, read, site⟩
      · exact .inr known
    · intro others perm
      have shallow' : ∀ url ∈ others, url ≠ [] → (unwrap T.toUnicodeData frames url).isSome :=
        fun url member => shallow url (perm.mem_iff.1 member)
      have answers' : refused T (probe.withUrls others).result = false := answers
      refine ⟨verdictFrom T probe (listsOf T frames (probe.withUrls others)), ?_,
        fun bucket => ?_, verdictFrom_congr (entriesIn_perm perm), rfl⟩
      · rw [classifyVerdict_eq answers']
        change (classifyUrls _ _ _ _ others).map _ = _
        rw [classifyUrls_eq shallow']
        rfl
      · rw [listOf_verdictFrom, listOf_verdictFrom]
        exact (entriesIn_perm perm bucket).map _

/-- **Credit is exact** where the probe is refused, or where no source URL is wrapped deeper than
the calls go and the hosts in brackets decide nothing. -/
theorem exact_iff (T : TextData) (frames : ℕ) (probe : Probe) :
    Exact T frames probe ↔ (refused T probe.result = false →
      Covered T.toUnicodeData frames probe.result.sourceUrls probe.targetUrl
        probe.publishedArticleUrls) := by
  cases answers : refused T probe.result with
  | true =>
    have never : refused T probe.result ≠ false := by
      rw [answers]
      exact nofun
    refine iff_of_true ⟨_, if_pos answers, ?_⟩ fun h => (by cases h)
    constructor
    · exact fun h => absurd h never
    · exact fun h => absurd h never
    · exact fun h => absurd h never
    · exact fun h => absurd h never
    · exact fun _ member => (by cases member)
    · intro others _
      have answers' : refused T (probe.withUrls others).result = true := answers
      exact ⟨_, if_pos answers', fun _ => .refl _, rfl, rfl⟩
  | false =>
    constructor
    · intro exact _
      have ⟨verdict, returned, _⟩ := exact
      have shallow := (classifyVerdict_returns answers).1 ⟨verdict, returned⟩
      have ⟨agree, articles⟩ := (exactVerdict_iff answers shallow).1 exact
      have ⟨unread, misread⟩ := readsSite_iff.1 agree
      refine ⟨shallow_iff.1 shallow, unread, misread, ?_⟩
      intro final unwrapped bracketed canon made known
      by_cases site : SiteHit T.toUnicodeData probe.result.sourceUrls probe.targetUrl
      · exact .inl site
      · exact .inr (readsArticle_iff.1 (articles site) final unwrapped bracketed canon made known)
    · intro covered
      have holds := covered rfl
      have shallow := shallow_iff.2 holds.shallow
      rw [exactVerdict_iff answers shallow]
      refine ⟨readsSite_iff.2 ⟨holds.unread, holds.misread⟩, fun other => ?_⟩
      rw [readsArticle_iff]
      intro final unwrapped bracketed canon made known
      exact (holds.article final unwrapped bracketed canon made known).resolve_left other

end Verdict

/-! ## Wrapped and bracketed URLs -/

/-- What nothing in the reading of a query changes. -/
def Verbatim (text : List Char) : Prop :=
  ∀ c ∈ text, c ∉ ['#', '&', '%', '+', '\t', '\r', '\n']

/-- A redirector URL around another URL. -/
def wrap (url : Url) : Url := "https://t.co/?url=".toList ++ url

def wrapParts (url : Url) : SplitResult where
  scheme := "https".toList
  netloc := "t.co".toList
  path := "/".toList
  query := "url=".toList ++ url

variable {url : Url}

theorem wrapParts_clean (verbatim : Verbatim url) : (wrapParts url).Clean where
  netloc := by
    change ∀ c ∈ "t.co".toList, _
    rw [← List.forall_iff_forall_mem]
    decide
  path := by
    change ∀ c ∈ "/".toList, _
    rw [← List.forall_iff_forall_mem]
    decide
  query c member := by
    have plain : ∀ c ∈ "url=".toList, c ≠ '#' ∧ c ∉ unsafeChars := by
      rw [← List.forall_iff_forall_mem]
      decide
    rcases List.mem_append.1 member with name | value
    · exact plain c name
    · have clean := verbatim c value
      simp only [List.mem_cons, not_or] at clean
      simp [unsafeChars, clean]
  fragment c member := by cases member

theorem urlsplit_wrap (verbatim : Verbatim url) :
    urlsplit asciiData (wrap url) = some (wrapParts url) := by
  have composed : urlunsplit (wrapParts url) = wrap url := rfl
  have uses : (wrapParts url).scheme ∈ usesNetloc := (by decide : "https".toList ∈ usesNetloc)
  have brackets : checkBrackets (wrapParts url).netloc :=
    (by decide : checkBrackets "t.co".toList)
  have netloc : checkNetloc asciiData (wrapParts url).netloc :=
    (by decide : checkNetloc asciiData "t.co".toList)
  rw [← composed, urlsplit_urlunsplit asciiData uses (wrapParts_clean verbatim)]
  exact if_pos ⟨brackets, netloc⟩

theorem parseQs_wrap (verbatim : Verbatim url) (some_ : url ≠ []) :
    parseQs (wrapParts url).query = [("url".toList, url)] := by
  have whole : '&' ∉ "url=".toList ++ url := by
    intro member
    rcases List.mem_append.1 member with name | value
    · exact absurd name (by decide)
    · exact verbatim _ value (by decide)
  have pieces := List.splitOn_intercalate '&'
    (fun text member => List.mem_singleton.1 member ▸ whole) (List.cons_ne_nil _ [])
  rw [List.intercalate_singleton] at pieces
  have kept : replace '+' ' ' url = url := by
    unfold replace
    rw [List.map_congr_left (g := id), List.map_id]
    intro c member
    exact if_neg fun plus => verbatim c member (by rw [plus]; decide)
  have raw : unquote url = url := if_neg fun member => verbatim _ member (by decide)
  have name : unquote (replace '+' ' ' "url".toList) = "url".toList := by decide
  have fields : partition '=' ("url=".toList ++ url) = ("url".toList, ['='], url) := by
    change partition '=' ("url".toList ++ '=' :: url) = _
    exact partition_append (by decide) url
  have parsed : parseQsl ("url=".toList ++ url) = [("url".toList, url)] := by
    unfold parseQsl
    rw [pieces, List.filter_cons_of_pos (by rfl), List.filter_nil, List.map_cons, fields]
    dsimp only
    rw [name, kept, raw]
    rfl
  change (parseQsl ("url=".toList ++ url)).filter _ = _
  rw [parsed, List.filter_cons_of_pos (by simp [some_]), List.filter_nil]

theorem destination_wrap (verbatim : Verbatim url) (web : looksLikeUrl url = true) :
    destination asciiData (wrap url) = some url := by
  have some_ : url ≠ [] := by
    intro empty
    rw [empty] at web
    exact absurd web (by decide)
  have split := urlsplit_wrap verbatim
  have full : wrap url ≠ [] := List.append_ne_nil_of_left_ne_nil (by decide) _
  have host : canonicalHost asciiTexts.toUnicodeData (wrap url) = some "t.co".toList := by
    have own : urlsplit asciiTexts.toUnicodeData (wrap url) = some (wrapParts url) := split
    rw [canonicalHost_of_split full own]
    exact (by decide : (if asciiData.lower "https".toList ∉ webSchemes then none
      else if hostLower asciiData "t.co".toList = [] then none
      else some (hostLower asciiData "t.co".toList)) = some "t.co".toList)
  have first : ([("url".toList, url)].lookup "url".toList).filter looksLikeUrl = some url := by
    rw [List.lookup_cons_self, Option.filter_some_pos web]
  unfold destination
  rw [show canonicalHost asciiData (wrap url) = some "t.co".toList from host]
  dsimp only
  rw [if_pos (by decide)]
  unfold extractRedirectDestination
  rw [split, Option.bind_some, parseQs_wrap verbatim some_]
  unfold redirectParams
  rw [List.map_cons, List.findSome?_cons, first]

/-- A URL in this many wrappers. -/
def wrapped : ℕ → Url
  | 0 => "https://a.com/".toList
  | n + 1 => wrap (wrapped n)

theorem wrapped_verbatim (n : ℕ) : Verbatim (wrapped n) := by
  induction n with
  | zero =>
    change ∀ c ∈ "https://a.com/".toList, _
    rw [← List.forall_iff_forall_mem]
    decide
  | succ n ih =>
    have front : Verbatim "https://t.co/?url=".toList := by
      change ∀ c ∈ "https://t.co/?url=".toList, _
      rw [← List.forall_iff_forall_mem]
      decide
    intro c member
    exact (List.mem_append.1 member).elim (front c) (ih c)

theorem wrapped_looksLikeUrl (n : ℕ) : looksLikeUrl (wrapped n) = true := by
  cases n with
  | zero => decide
  | succ n =>
    unfold looksLikeUrl
    rw [Bool.or_eq_true, List.isPrefixOf_iff_prefix, List.isPrefixOf_iff_prefix]
    have front : "https://".toList <+: "https://t.co/?url=".toList := by decide
    exact .inr (front.trans (List.prefix_append _ _))

theorem destination_wrapped (n : ℕ) : destination asciiData (wrapped (n + 1)) = some (wrapped n) :=
  destination_wrap (wrapped_verbatim n) (wrapped_looksLikeUrl n)

/-- One wrapper more than the calls go deep is not unwrapped. -/
theorem unwrap_wrapped (frames : ℕ) : unwrap asciiData frames (wrapped (frames + 1)) = none := by
  induction frames with
  | zero =>
    unfold unwrap
    rw [destination_wrapped]
    exact if_pos rfl
  | succ frames ih =>
    unfold unwrap
    rw [destination_wrapped]
    exact ih

def probeOf (urls : List Url) (target : Url) : Probe where
  result := { answerText := "see a.com".toList, sourceUrls := urls, outcome := .ok }
  targetUrl := target
  publishedArticleUrls := []

def addressUrl : Url := "https://[2001:db8::1]/p".toList

/-- A URL in 1001 wrappers raises where 1000 calls fit; a citation of an IPv6 host is not credited
to it but to the host `2001`. -/
theorem wrapped_url_raises :
    classifyVerdict asciiTexts 1000 (probeOf [wrapped 1001] "https://a.com/".toList) = none ∧
    ¬ Exact asciiTexts 1000 (probeOf [wrapped 1001] "https://a.com/".toList) ∧
    (classifyVerdict asciiTexts 1000 (probeOf [addressUrl] addressUrl)).map VerdictResult.tier =
      some .absent ∧
    (classifyVerdict asciiTexts 1000 (probeOf [addressUrl] "https://2001/".toList)).map
      VerdictResult.tier = some .siteCited := by
  have raises : classifyVerdict asciiTexts 1000 (probeOf [wrapped 1001] "https://a.com/".toList) =
      none := by
    rw [← Option.not_isSome_iff_eq_none, Option.isSome_iff_exists,
      classifyVerdict_returns (by decide +kernel)]
    intro shallow
    have ends := shallow (wrapped 1001) List.mem_cons_self
      (List.append_ne_nil_of_left_ne_nil (by decide) _)
    rw [show unwrap asciiTexts.toUnicodeData 1000 (wrapped 1001) = none from
      unwrap_wrapped 1000] at ends
    cases ends
  refine ⟨raises, ?_, by decide +kernel, by decide +kernel⟩
  intro ⟨verdict, returned, _⟩
  rw [raises] at returned
  cases returned

end BacklinkPublisher.VerdictClassifier
