import Mathlib.Data.Finset.Basic
import Authentik.Python.Urllib.Parse
import Authentik.Django.Http

namespace authentik.providers.oauth2

/-- Modelled from the spec: `ResponseTypes.CODE` (§4.1.1); `models.py` is not in src. -/
@[simp] def ResponseTypes.CODE : String := "code"

/-- Modelled from the spec: `ResponseTypes.ID_TOKEN` (§4.1.1). -/
@[simp] def ResponseTypes.ID_TOKEN : String := "id_token"

/-- Modelled from the spec: `ResponseTypes.ID_TOKEN_TOKEN` (§4.1.1). -/
@[simp] def ResponseTypes.ID_TOKEN_TOKEN : String := "id_token token"

/-- Modelled from the spec: `ResponseTypes.CODE_TOKEN` (§4.1.1). -/
@[simp] def ResponseTypes.CODE_TOKEN : String := "code token"

/-- Modelled from the spec: `ResponseTypes.CODE_ID_TOKEN` (§4.1.1). -/
@[simp] def ResponseTypes.CODE_ID_TOKEN : String := "code id_token"

/-- Modelled from the spec: `ResponseTypes.CODE_ID_TOKEN_TOKEN` (§4.1.1). -/
@[simp] def ResponseTypes.CODE_ID_TOKEN_TOKEN : String := "code id_token token"

/-- Modelled from the spec: `GrantTypes.AUTHORIZATION_CODE` (§3.1). -/
@[simp] def GrantTypes.AUTHORIZATION_CODE : String := "authorization_code"

/-- Modelled from the spec: `GrantTypes.IMPLICIT` (§3.1). -/
@[simp] def GrantTypes.IMPLICIT : String := "implicit"

/-- Modelled from the spec: `GrantTypes.HYBRID` (§3.1). -/
@[simp] def GrantTypes.HYBRID : String := "hybrid"

/-- Modelled from the spec: `ResponseMode.QUERY` (§3.1). -/
@[simp] def ResponseMode.QUERY : String := "query"

/-- Modelled from the spec: `ResponseMode.FRAGMENT` (§3.1). -/
@[simp] def ResponseMode.FRAGMENT : String := "fragment"

/-- Modelled from the spec: `ResponseMode.FORM_POST` (§3.1). -/
@[simp] def ResponseMode.FORM_POST : String := "form_post"

/-- Modelled from the spec: `ResponseMode.values`, the three modes of §3.1. -/
@[simp] def ResponseMode.values : List String :=
  [ResponseMode.QUERY, ResponseMode.FRAGMENT, ResponseMode.FORM_POST]

/-- Modelled from the spec: `PROMPT_NONE` (§6.1). -/
@[simp] def PROMPT_NONE : String := "none"

/-- Modelled from the spec: `PROMPT_CONSENT` (§6.1). -/
@[simp] def PROMPT_CONSENT : String := "consent"

/-- Modelled from the spec: `PROMPT_LOGIN` (§6.1). -/
@[simp] def PROMPT_LOGIN : String := "login"

/-- Modelled from the spec: `SCOPE_OPENID` (§4.1.3). -/
@[simp] def SCOPE_OPENID : String := "openid"

/-- Modelled from the spec: `SCOPE_OFFLINE_ACCESS` (§4.1.3). -/
@[simp] def SCOPE_OFFLINE_ACCESS : String := "offline_access"

/-- Modelled from the spec: `PKCE_METHOD_PLAIN` (§6.1). -/
@[simp] def PKCE_METHOD_PLAIN : String := "plain"

/-- Modelled from the spec: `PKCE_METHOD_S256` (§6.1). -/
@[simp] def PKCE_METHOD_S256 : String := "S256"

/-- Modelled from the spec: `RedirectURIMatchingMode` (§3.1, strict or regex). -/
inductive RedirectURIMatchingMode where
  | STRICT
  | REGEX
  deriving DecidableEq, Repr

/-- Modelled from the spec: an allow-list entry `RedirectURI(matching_mode, url)`. -/
structure RedirectURI where
  matching_mode : RedirectURIMatchingMode
  url : String
  deriving DecidableEq, Repr

/-- Modelled from the spec: the fields of an `OAuth2Provider` record the views read or
    write. `scope_names` are the `scope_name`s of its `ScopeMapping`s; the validities are
    the durations `timedelta_from_string` reads from the stored strings, in seconds. -/
structure OAuth2Provider where
  pk : Nat
  client_id : String
  redirect_uris : List RedirectURI
  scope_names : List String
  authorization_flow : Nat
  access_code_validity : Nat
  access_token_validity : Nat
  deriving DecidableEq, Repr

/-- `OAuth2Provider()`, the unsaved instance a params object starts with. -/
def OAuth2Provider.new : OAuth2Provider := ⟨0, "", [], [], 0, 0, 0⟩

/-- Modelled from the spec: an `Application` and the provider it is bound to. -/
structure Application where
  pk : Nat
  name : String
  provider_id : Option Nat
  deriving DecidableEq, Repr

/-- The fields `create_code` sets on an `AuthorizationCode`; times are microseconds. -/
structure AuthorizationCode where
  code : String
  provider : Nat
  auth_time : Int
  expires : Int
  scope : Finset String
  nonce : Option String
  code_challenge : Option String
  code_challenge_method : Option String
  deriving DecidableEq

/-- An `IDToken`: the claims `IDToken.new` fills, and the three the view sets. -/
structure IDToken where
  claims : List (String × String)
  nonce : Option String
  c_hash : Option String
  at_hash : Option String
  deriving DecidableEq, Repr

/-- The fields `create_implicit_response` sets on an `AccessToken`; `id_token` is the
    claim set stored with it (`_id_token`, kept as JSON). -/
structure AccessToken where
  token : String
  provider : Nat
  auth_time : Int
  expires : Int
  scope : Finset String
  id_token : Option IDToken
  deriving DecidableEq

/-- The records the endpoint reads and writes. -/
structure Database where
  providers : List OAuth2Provider
  applications : List Application
  codes : List AuthorizationCode
  tokens : List AccessToken
  deriving DecidableEq

/-- `provider.save()`: the whole record is written back over the row with its pk. -/
def Database.save_provider (db : Database) (p : OAuth2Provider) : Database :=
  { db with providers := db.providers.map fun q => if q.pk = p.pk then p else q }

/-- Modelled from the spec: an `AuthorizeError` (§7), the error the RP is told of at its
    redirect_uri. `description` is the one passed explicitly, `cause` the one of
    `with_cause`. -/
structure AuthorizeError where
  redirect_uri : String
  error : String
  grant_type : String
  state : Option String
  description : Option String
  cause : Option String
  deriving DecidableEq, Repr

/-- Modelled from the spec: the `OAuth2Error` family of
    `authentik.providers.oauth2.errors` (§7). -/
inductive OAuth2Error where
  | ClientIdError (client_id : String)
  | RedirectUriError (redirect_uri : String) (expected : List RedirectURI) (cause : String)
  | AuthorizeError (e : AuthorizeError)
  /-- `OAuth2Error()` itself -/
  | base
  deriving DecidableEq, Repr

/-- Modelled from the spec: `ConsentMode`. -/
inductive ConsentMode where
  | ALWAYS_REQUIRE
  | PERMANENT
  | EXPIRING
  deriving DecidableEq, Repr

/-- The stages of a flow plan the view looks at or appends. -/
inductive Stage where
  | ConsentStage (mode : ConsentMode)
  | OAuthFulfillmentStage
  | other (pk : Nat)
  deriving DecidableEq, Repr

/-- The responses the views return. -/
inductive HttpResponse where
  /-- `Http404`, as the spec has the view answer it. -/
  | NotFound
  /-- `HttpResponseBadRequest()` -/
  | BadRequest
  /-- `bad_request_message(request, error.description, title=error.error)` -/
  | BadRequestMessage (error : OAuth2Error)
  /-- Modelled from the spec: `AuthorizeError.get_response`, a redirect to the error's
      redirect_uri with its code, description and state (§6.3). -/
  | AuthorizeErrorResponse (error : AuthorizeError)
  /-- `handle_no_permission()`: the redirect to authenticate. -/
  | NoPermission
  /-- `handle_no_permission_authenticated()` -/
  | NoPermissionAuthenticated
  /-- `plan.to_redirect(request, flow, allowed_silent_types)` -/
  | FlowExecutor (flow : Nat) (allowed_silent_types : List Stage)
  /-- `HttpResponseRedirectScheme(uri, allowed_schemes)` -/
  | RedirectScheme (uri : String) (allowed_schemes : List String)
  /-- `HttpChallengeResponse(AutosubmitChallenge(...))`: a page posting `attrs` to `url`. -/
  | Autosubmit (title : String) (url : String) (attrs : List (String × String))
  /-- `View.options()`: an empty 200 response whose `Allow` header lists `allow`. -/
  | Options (allow : List String)
  /-- `http_method_not_allowed()`: `HttpResponseNotAllowed(self._allowed_methods())`, a 405. -/
  | MethodNotAllowed (permitted_methods : List String)
  deriving DecidableEq, Repr

/-- The exceptions the modelled code raises: the `OAuth2Error` family, the view's
    `RequestValidationError` with its response, and what Django and Python raise. -/
inductive Raised where
  | oauth2 (e : OAuth2Error)
  | RequestValidationError (response : HttpResponse)
  | Http404
  | DoesNotExist
  | MultipleObjectsReturned
  | ValueError
  | AttributeError
  | KeyError
  deriving DecidableEq, Repr

/-- Equality of `Except` values is decidable, so that runs of the views on fixed inputs can be
    checked by `decide`. -/
instance decidableEqExcept {ε α : Type} [DecidableEq ε] [DecidableEq α] :
    DecidableEq (Except ε α)
  | .error a, .error b => decidable_of_iff (a = b) (by simp)
  | .ok a, .ok b => decidable_of_iff (a = b) (by simp)
  | .error _, .ok _ => isFalse (by simp)
  | .ok _, .error _ => isFalse (by simp)

theorem except_bind_eq_ok {ε α β : Type} {x : Except ε α} {f : α → Except ε β} {b : β} :
    x >>= f = .ok b ↔ ∃ a, x = .ok a ∧ f a = .ok b := by
  cases x <;> simp [bind, Except.bind]

theorem except_toOption_eq_some {ε α : Type} {x : Except ε α} {a : α} :
    x.toOption = some a ↔ x = .ok a := by
  cases x <;> simp [Except.toOption]

theorem except_map_eq_ok {ε α β : Type} {f : α → β} {x : Except ε α} {b : β} :
    x.map f = .ok b ↔ ∃ a, x = .ok a ∧ f a = b := by
  cases x <;> simp [Except.map]

theorem except_bind_eq_error {ε α β : Type} {x : Except ε α} {f : α → Except ε β} {e : ε} :
    x >>= f = .error e ↔ x = .error e ∨ ∃ a, x = .ok a ∧ f a = .error e := by
  cases x <;> simp [bind, Except.bind]

/-- `get_object_or_404(Model, <lookup>)`: the one matching row, `Http404` for none and
    `MultipleObjectsReturned` for more. -/
def get_object_or_404 {α : Type} (rows : List α) (p : α → Bool) : Except Raised α :=
  match rows.filter p with
  | [x] => .ok x
  | [] => .error .Http404
  | _ => .error .MultipleObjectsReturned

theorem get_object_or_404_ok {α : Type} {rows : List α} {p : α → Bool} {x : α}
    (h : get_object_or_404 rows p = .ok x) : x ∈ rows ∧ p x = true := by
  unfold get_object_or_404 at h
  split at h
  · rename_i hfilter
    cases h
    exact List.mem_filter.1 (hfilter ▸ List.mem_singleton_self x)
  · cases h
  · cases h

/-- `provider.application`: the application bound to the provider. -/
def OAuth2Provider.application (db : Database) (provider : OAuth2Provider) :
    Except Raised Application :=
  match db.applications.filter (·.provider_id = some provider.pk) with
  | [application] => .ok application
  | [] => .error .DoesNotExist
  | _ => .error .MultipleObjectsReturned

/-- What the views call that is not in this repository: the regular expression engine,
    the netloc checks of `urlsplit`, the GitHub-compatible scopes and token type of
    `constants.py`, `IDToken.new`, the provider's signing (`provider.encode`) and the
    left-half hashes of `c_hash` and `at_hash`. -/
structure Externals where
  /-- `re.compile(pattern)` succeeds -/
  regex_compiles : String → Bool
  /-- `re.fullmatch(pattern, string)` for a pattern that compiles -/
  regex_fullmatch : String → String → Bool
  netloc : python.urllib.parse.NetlocChecks
  SCOPE_GITHUB : Finset String
  TOKEN_TYPE : String
  IDToken_new : OAuth2Provider → AccessToken → IDToken
  encode : OAuth2Provider → IDToken → String
  hash_claim : String → String

end authentik.providers.oauth2
