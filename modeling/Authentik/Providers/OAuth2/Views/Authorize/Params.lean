import Mathlib.Data.Finset.Card
import Authentik.Providers.OAuth2.Models

namespace authentik.providers.oauth2.views.authorize

open python python.urllib.parse django.http authentik.providers.oauth2

/-- `ALLOWED_PROMPT_PARAMS` -/
def ALLOWED_PROMPT_PARAMS : Finset String := {PROMPT_NONE, PROMPT_CONSENT, PROMPT_LOGIN}

/-- `FORBIDDEN_URI_SCHEMES` -/
def FORBIDDEN_URI_SCHEMES : Finset String := {"javascript", "data", "vbscript"}

/-- `OAuthAuthorizationParams`, the parameters of one authorization request.
    `grant_type` is empty until `check_grant` sets it; `response_mode` is `none` for the
    `False` that `from_request` passes when the request names no mode. -/
structure OAuthAuthorizationParams where
  client_id : String
  redirect_uri : String
  response_type : String
  response_mode : Option String
  scope : Finset String
  state : Option String
  nonce : Option String
  prompt : Finset String
  grant_type : String
  provider : OAuth2Provider
  request : Option String
  max_age : Option Int
  code_challenge : Option String
  code_challenge_method : String
  deriving DecidableEq

namespace OAuthAuthorizationParams

/-- The `AuthorizeError` a check of these params raises: it carries their redirect_uri,
    grant_type and state. -/
def authorize_error (self : OAuthAuthorizationParams) (error : String)
    (description cause : Option String) : Raised :=
  .oauth2 (.AuthorizeError ⟨self.redirect_uri, error, self.grant_type, self.state, description, cause⟩)

/-- `check_grant`: the grant the `response_type` string names and, when the request named
    none of the three response modes, the default mode of that grant. -/
def check_grant (self : OAuthAuthorizationParams) : Except Raised OAuthAuthorizationParams :=
  let grant_type :=
    if self.response_type ∈ [ResponseTypes.CODE] then GrantTypes.AUTHORIZATION_CODE
    else if self.response_type ∈ [ResponseTypes.ID_TOKEN, ResponseTypes.ID_TOKEN_TOKEN] then
      GrantTypes.IMPLICIT
    else if self.response_type ∈ [ResponseTypes.CODE_TOKEN, ResponseTypes.CODE_ID_TOKEN,
        ResponseTypes.CODE_ID_TOKEN_TOKEN] then GrantTypes.HYBRID
    else self.grant_type
  if grant_type = "" then
    .error (.oauth2 (.AuthorizeError
      ⟨self.redirect_uri, "unsupported_response_type", "", self.state, none, none⟩))
  else
    .ok { self with
      grant_type
      response_mode :=
        if self.response_mode ∈ ResponseMode.values.map some then self.response_mode
        else some (if grant_type ∈ [GrantTypes.IMPLICIT, GrantTypes.HYBRID] then
          ResponseMode.FRAGMENT else ResponseMode.QUERY) }

/-- The loop of `check_redirect_uri` over the allow-list: the first entry that matches
    ends it, and a pattern that does not compile is logged and skipped. -/
def match_found (ext : Externals) (redirect_uri : String) : List RedirectURI → Bool
  | [] => false
  | allowed :: rest =>
    if allowed.matching_mode = .STRICT ∧ redirect_uri = allowed.url then true
    else if allowed.matching_mode = .REGEX ∧ ext.regex_compiles allowed.url ∧
        ext.regex_fullmatch allowed.url redirect_uri then true
    else match_found ext redirect_uri rest

/-- The first step of `check_redirect_uri`: an empty allow-list is set to the
    redirect_uri and the provider saved. -/
def provision_redirect_uri (db : Database) (self : OAuthAuthorizationParams) :
    OAuthAuthorizationParams × Database :=
  if self.provider.redirect_uris.length < 1 then
    let provider := { self.provider with redirect_uris := [⟨.STRICT, self.redirect_uri⟩] }
    ({ self with provider }, db.save_provider provider)
  else (self, db)

/-- The rest of `check_redirect_uri`: an entry of the allow-list must match the
    redirect_uri, whose scheme must not be forbidden. -/
def match_redirect_uri (ext : Externals) (self : OAuthAuthorizationParams) :
    Except Raised OAuthAuthorizationParams :=
  let allowed_redirect_urls := self.provider.redirect_uris
  if !match_found ext self.redirect_uri allowed_redirect_urls then
    .error (.oauth2 (.RedirectUriError self.redirect_uri allowed_redirect_urls
      "redirect_uri_no_match"))
  else match urlsplit ext.netloc self.redirect_uri with
    | none => .error .ValueError
    | some parts =>
      if parts.scheme ∈ FORBIDDEN_URI_SCHEMES then
        .error (.oauth2 (.RedirectUriError self.redirect_uri allowed_redirect_urls
          "redirect_uri_forbidden_scheme"))
      else .ok self

/-- `check_redirect_uri`. The save of an auto-provisioned allow-list stays when a later
    check raises. -/
def check_redirect_uri (ext : Externals) (db : Database) (self : OAuthAuthorizationParams) :
    Except Raised OAuthAuthorizationParams × Database :=
  if self.redirect_uri = "" then
    (.error (.oauth2 (.RedirectUriError "" self.provider.redirect_uris "redirect_uri_missing")), db)
  else
    let provisioned := provision_redirect_uri db self
    (match_redirect_uri ext provisioned.1, provisioned.2)

/-- The scope `check_scope` settles on before its `openid` check: no scope means every
    configured one, and scopes not configured are dropped (the GitHub-compatible ones do
    not count in the subset test). -/
def resolved_scope (ext : Externals) (self : OAuthAuthorizationParams) (github_compat : Bool) :
    Finset String :=
  let default_scope_names := self.provider.scope_names.toFinset
  let scope := if self.scope.card = 0 then default_scope_names else self.scope
  let scopes_to_check := if github_compat then scope \ ext.SCOPE_GITHUB else scope
  if ¬ scopes_to_check ⊆ default_scope_names then scope ∩ default_scope_names else scope

/-- `check_scope`: `openid` is required by the hybrid grant and by an id_token;
    `offline_access` is dropped unless the response type gives a code. -/
def check_scope (ext : Externals) (self : OAuthAuthorizationParams) (github_compat : Bool) :
    Except Raised OAuthAuthorizationParams :=
  let scope := self.resolved_scope ext github_compat
  if SCOPE_OPENID ∉ scope ∧ (self.grant_type = GrantTypes.HYBRID ∨
      self.response_type ∈ [ResponseTypes.ID_TOKEN, ResponseTypes.ID_TOKEN_TOKEN]) then
    .error ({ self with scope }.authorize_error "invalid_scope" none (some "scope_openid_missing"))
  else if SCOPE_OFFLINE_ACCESS ∈ scope ∧ self.response_type ∉ [ResponseTypes.CODE,
      ResponseTypes.CODE_TOKEN, ResponseTypes.CODE_ID_TOKEN, ResponseTypes.CODE_ID_TOKEN_TOKEN] then
    .ok { self with scope := scope.erase SCOPE_OFFLINE_ACCESS }
  else .ok { self with scope }

/-- `check_nonce`: a nonce is required when the response type gives an id_token and
    `openid` was granted. -/
def check_nonce (self : OAuthAuthorizationParams) : Except Raised Unit :=
  if self.response_type ∉ [ResponseTypes.ID_TOKEN, ResponseTypes.ID_TOKEN_TOKEN,
      ResponseTypes.CODE_ID_TOKEN, ResponseTypes.CODE_ID_TOKEN_TOKEN] then .ok ()
  else if SCOPE_OPENID ∉ self.scope then .ok ()
  else if !truthy self.nonce then
    .error (self.authorize_error "invalid_request" none (some "nonce_missing"))
  else .ok ()

/-- `check_code_challenge`: a PKCE challenge needs a known transformation method. -/
def check_code_challenge (self : OAuthAuthorizationParams) : Except Raised Unit :=
  if truthy self.code_challenge ∧
      self.code_challenge_method ∉ [PKCE_METHOD_PLAIN, PKCE_METHOD_S256] then
    .error (self.authorize_error "invalid_request"
      (some ("Unsupported challenge method " ++ self.code_challenge_method)) none)
  else .ok ()

/-- The checks of `__post_init__` after `check_redirect_uri`, in their order. -/
def check_rest (ext : Externals) (self : OAuthAuthorizationParams) (github_compat : Bool) :
    Except Raised OAuthAuthorizationParams := do
  let self ← self.check_grant
  let self ← self.check_scope ext github_compat
  if truthy self.request then
    throw (self.authorize_error "request_not_supported" none none)
  self.check_nonce
  self.check_code_challenge
  pure self

/-- `__post_init__`: the provider of the client_id (the first match of the query), then
    the checks. The database comes back with what `check_redirect_uri` saved, also when
    a check raises. -/
def __post_init__ (ext : Externals) (db : Database) (self : OAuthAuthorizationParams)
    (github_compat : Bool) : Except Raised OAuthAuthorizationParams × Database :=
  match db.providers.find? (·.client_id = self.client_id) with
  | none => (.error (.oauth2 (.ClientIdError self.client_id)), db)
  | some provider =>
    let checked := check_redirect_uri ext db { self with provider }
    (checked.1 >>= fun self => check_rest ext self github_compat, checked.2)

/-- The `query_dict` of `from_request`: the body of a POST, the query string otherwise. -/
def request_query_dict (request : HttpRequest) : QueryDict :=
  if request.method = "POST" then request.POST else request.GET

/-- `int(max_age) if max_age else None`, whose `ValueError` `from_request` lets through. -/
def parse_max_age (max_age : Option String) : Except Raised (Option Int) :=
  if truthy max_age then
    match int (max_age.getD "") with
    | some n => .ok (some n)
    | none => .error .ValueError
  else .ok none

example : parse_max_age (some "\x1c5") = .error .ValueError ∧
    parse_max_age (some "\u0663") = .ok (some 3) := by decide

/-- The params `from_request` passes to the constructor. -/
def of_query_dict (query_dict : QueryDict) (max_age : Option Int) : OAuthAuthorizationParams :=
  { client_id := (query_dict.get "client_id").getD ""
    redirect_uri := (query_dict.get "redirect_uri").getD ""
    response_type := (query_dict.get "response_type").getD ""
    response_mode := query_dict.get "response_mode"
    grant_type := ""
    scope := (str.split ((query_dict.get "scope").getD "")).toFinset
    state := query_dict.get "state"
    nonce := query_dict.get "nonce"
    prompt := ALLOWED_PROMPT_PARAMS ∩ (str.split ((query_dict.get "prompt").getD "")).toFinset
    provider := OAuth2Provider.new
    request := query_dict.get "request"
    max_age
    code_challenge := query_dict.get "code_challenge"
    code_challenge_method := (query_dict.get "code_challenge_method").getD PKCE_METHOD_PLAIN }

/-- `from_request`: the parameters are read from the body of a POST and from the query
    string otherwise; a `max_age` that is not an integer raises `ValueError` before any
    check runs. -/
def from_request (ext : Externals) (db : Database) (request : HttpRequest)
    (github_compat : Bool) : Except Raised OAuthAuthorizationParams × Database :=
  let query_dict := request_query_dict request
  match parse_max_age (query_dict.get "max_age") with
  | .error e => (.error e, db)
  | .ok max_age => __post_init__ ext db (of_query_dict query_dict max_age) github_compat

end OAuthAuthorizationParams

end authentik.providers.oauth2.views.authorize
