import Mathlib.Data.List.Basic
import Mathlib.Tactic.Common

set_option autoImplicit false

/-!
# The error hierarchy of the publish path

`_util/errors.py` and `classify_exception` of `publishing/adapters/retry.py`. An
exception is what the `except` arms can ask of it: which of the classes it is an
instance of, and its text.
-/
namespace BacklinkPublisher.PublishErrors

inductive ErrorType where
  | pipelineError
  | usageError
  | inputValidationError
  | dependencyError
  | externalServiceError
  | antiBotChallengeError
  | registryError
  | authExpiredError
  | bannerUploadError
  | contentRejectedError
  | internalError
  deriving DecidableEq, Repr

def ErrorType.base : ErrorType → Option ErrorType
  | .pipelineError => none
  | .usageError | .inputValidationError | .dependencyError | .externalServiceError
  | .registryError | .internalError => some .pipelineError
  | .antiBotChallengeError => some .externalServiceError
  | .authExpiredError | .bannerUploadError | .contentRejectedError => some .dependencyError

def ErrorType.className : ErrorType → String
  | .pipelineError => "PipelineError"
  | .usageError => "UsageError"
  | .inputValidationError => "InputValidationError"
  | .dependencyError => "DependencyError"
  | .externalServiceError => "ExternalServiceError"
  | .antiBotChallengeError => "AntiBotChallengeError"
  | .registryError => "RegistryError"
  | .authExpiredError => "AuthExpiredError"
  | .bannerUploadError => "BannerUploadError"
  | .contentRejectedError => "ContentRejectedError"
  | .internalError => "InternalError"

/-- A raised exception of any class, those of the adapters included. -/
structure Raised where
  isInstance : ErrorType → Bool
  inherits : ∀ type base, type.base = some base → isInstance type = true → isInstance base = true
  className : String
  message : String

/-- The types an instance of `type` itself is an instance of. -/
def ErrorType.ancestors (type : ErrorType) : ErrorType → Bool := fun other =>
  other = type || type.base = some other || (type.base.bind ErrorType.base) = some other

theorem ErrorType.ancestors_inherits (type : ErrorType) :
    ∀ other base, other.base = some base → type.ancestors other = true →
      type.ancestors base = true := by
  intro other base hbase hother
  cases type <;> cases other <;> simp_all [ErrorType.ancestors, ErrorType.base]

/-- An instance of `type` and of nothing below it. -/
def Raised.of (type : ErrorType) (message : String) : Raised :=
  ⟨type.ancestors, type.ancestors_inherits, type.className, message⟩

inductive ErrorClass where
  | transient
  | authExpired
  | http5xx
  | ssrfBlocked
  | contentRejected
  | unexpected
  deriving DecidableEq, Repr

def ErrorClass.value : ErrorClass → String
  | .transient => "transient"
  | .authExpired => "auth_expired"
  | .http5xx => "http_5xx"
  | .ssrfBlocked => "ssrf_blocked"
  | .contentRejected => "content_rejected"
  | .unexpected => "unexpected"

def occursIn (pattern text : String) : Bool :=
  text.toList.tails.any pattern.toList.isPrefixOf

/-- `str.lower` as far as a search for ASCII words can see: apart from the ASCII
letters, only the Kelvin sign becomes an ASCII letter of its own. -/
def lowered (text : String) : String :=
  text.map fun c => if c = '\u212a' then 'k' else c.toLower

/-- `_HTTP_5XX_RE.search`: a word that is `5` and two ASCII digits. `isWord` is
the `\w` of `re`. -/
def searchHttp5xx (isWord : Char → Bool) (before : Option Char) : List Char → Bool
  | [] => false
  | c :: rest =>
    (!before.any isWord &&
      match c, rest with
      | '5', a :: b :: after => a.isDigit && b.isDigit && !after.head?.any isWord
      | _, _ => false) || searchHttp5xx isWord (some c) rest

def classifyException (isWord : Char → Bool) (exc : Raised) : ErrorClass :=
  if exc.isInstance .authExpiredError then .authExpired
  else if exc.isInstance .contentRejectedError then .contentRejected
  else if occursIn "ssrf_blocked" exc.message || occursIn "ssrf_redirect" exc.message ||
      occursIn "ssrf_https_downgrade" exc.message then .ssrfBlocked
  else if occursIn "contentisblocked" (lowered exc.message) ||
      occursIn "content is blocked" (lowered exc.message) ||
      occursIn "content blocked" (lowered exc.message) then .contentRejected
  else if searchHttp5xx isWord none exc.message.toList then .http5xx
  else if exc.isInstance .externalServiceError then .transient
  else .unexpected

end BacklinkPublisher.PublishErrors
