import Authentik.Providers.OAuth2.Views.Authorize.InitView

namespace authentik.providers.oauth2.views.authorize

open python python.urllib.parse django.http authentik.providers.oauth2

/-- What one request to the fulfillment stage draws from its environment: the time, the
    session's login event, `uuid4().hex` for a new code and the generated value of a new
    access token. -/
structure Fresh where
  now : Int
  auth_event : Option LoginEvent
  code : String
  token : String

/-- `create_code`: a code for the params' provider, carrying their scope, nonce and PKCE
    challenge. -/
def OAuthAuthorizationParams.create_code (self : OAuthAuthorizationParams) (fresh : Fresh) :
    AuthorizationCode :=
  let code : AuthorizationCode :=
    { code := fresh.code
      provider := self.provider.pk
      auth_time := (fresh.auth_event.map (·.created)).getD fresh.now
      expires := fresh.now + self.provider.access_code_validity * 1000000
      scope := self.scope
      nonce := self.nonce
      code_challenge := none
      code_challenge_method := none }
  if truthy self.code_challenge && self.code_challenge_method != "" then
    { code with code_challenge := self.code_challenge,
                code_challenge_method := some self.code_challenge_method }
  else code

/-- The fulfillment stage once it has restored its params and application and loaded the
    application's provider. -/
structure OAuthFulfillmentStage where
  params : OAuthAuthorizationParams
  provider : OAuth2Provider
  application : Application

namespace OAuthFulfillmentStage

/-- `code.code` on the code `create_response_uri` made, `AttributeError` on `None`. -/
def code_value : Option AuthorizationCode → Except Raised String
  | some code => .ok code.code
  | none => .error .AttributeError

/-- The state the RP gets back: `str(state) if state else ""`. -/
def state_value (self : OAuthFulfillmentStage) : String :=
  if truthy self.params.state then self.params.state.getD "" else ""

/-- The id_token of `create_implicit_response` as it is when stored on the access token:
    `IDToken.new` with the params' nonce and, for the two response types with both a code
    and an id_token, the `c_hash` of the code. -/
def implicit_id_token (ext : Externals) (self : OAuthFulfillmentStage)
    (code : Option AuthorizationCode) (token : AccessToken) : Except Raised IDToken := do
  let id_token := { ext.IDToken_new self.provider token with nonce := self.params.nonce }
  if self.params.response_type ∈ [ResponseTypes.CODE_ID_TOKEN,
      ResponseTypes.CODE_ID_TOKEN_TOKEN] then do
    let code ← code_value code
    pure { id_token with c_hash := some (ext.hash_claim code) }
  else pure id_token

/-- `create_implicit_response`: the fragment dict of the implicit and hybrid grants, in
    its insertion order, and the access token it saves. -/
def create_implicit_response (ext : Externals) (self : OAuthFulfillmentStage)
    (code : Option AuthorizationCode) (fresh : Fresh) (db : Database) :
    Except Raised (List (String × QueryValue)) × Database :=
  let token : AccessToken :=
    { token := fresh.token
      provider := self.provider.pk
      auth_time := (fresh.auth_event.map (·.created)).getD fresh.now
      expires := fresh.now + self.provider.access_token_validity * 1000000
      scope := self.params.scope
      id_token := none }
  match implicit_id_token ext self code token with
  | .error e => (.error e, db)
  | .ok id_token =>
    let token := { token with id_token := some id_token }
    let (query_fragment, id_token) :=
      if self.params.response_type ∈ [ResponseTypes.ID_TOKEN_TOKEN,
          ResponseTypes.CODE_ID_TOKEN_TOKEN, ResponseTypes.CODE_TOKEN] then
        (dict.setitem [] "access_token" (.str token.token),
          { id_token with at_hash := some (ext.hash_claim token.token) })
      else ([], id_token)
    let (query_fragment, token) :=
      if self.params.response_type ∈ [ResponseTypes.ID_TOKEN, ResponseTypes.ID_TOKEN_TOKEN,
          ResponseTypes.CODE_ID_TOKEN, ResponseTypes.CODE_ID_TOKEN_TOKEN] then
        (dict.setitem query_fragment "id_token" (.str (ext.encode self.provider id_token)),
          { token with id_token := some id_token })
      else (query_fragment, token)
    let db := { db with tokens := db.tokens ++ [token] }
    let query_fragment :=
      if self.params.grant_type = GrantTypes.HYBRID then
        (code_value code).map fun c => dict.setitem query_fragment "code" (.str c)
      else .ok query_fragment
    (query_fragment.map fun query_fragment =>
      let query_fragment := dict.setitem query_fragment "token_type" (.str ext.TOKEN_TYPE)
      let query_fragment := dict.setitem query_fragment "expires_in"
        (.int self.provider.access_token_validity)
      dict.setitem query_fragment "state" (.str self.state_value), db)

/-- The code grant's response parameters: the code and the state. -/
def code_response (self : OAuthFulfillmentStage) (code : Option AuthorizationCode) :
    Except Raised (List (String × QueryValue)) :=
  (code_value code).map fun c => [("code", .str c), ("state", .list [self.state_value])]

/-- The body of `create_response_uri` inside its `try`, for the redirect_uri split into
    `uri` and the code it made (`None` for the implicit grant). -/
def response_uri_body (ext : Externals) (self : OAuthFulfillmentStage) (uri : SplitResult)
    (code : Option AuthorizationCode) (fresh : Fresh) (db : Database) :
    Except Raised String × Database :=
  let response_params (db : Database) :=
    if self.params.grant_type ∈ [GrantTypes.AUTHORIZATION_CODE] then (self.code_response code, db)
    else self.create_implicit_response ext code fresh db
  if self.params.response_mode = some ResponseMode.QUERY then
    let query_params := ((parse_qs uri.query).map fun kv => (kv.1, QueryValue.list kv.2))
    ((code_value code).map fun c =>
      let query_params := dict.setitem query_params "code" (.str c)
      let query_params := dict.setitem query_params "state" (.list [self.state_value])
      urlunsplit { uri with query := urlencode query_params }, db)
  else if self.params.response_mode = some ResponseMode.FRAGMENT then
    let (query_fragment, db) := response_params db
    (query_fragment.map fun query_fragment =>
      urlunsplit { uri with fragment := uri.fragment ++ urlencode query_fragment }, db)
  else if self.params.response_mode = some ResponseMode.FORM_POST then
    let (post_params, db) := response_params db
    (post_params.map fun post_params => urlunsplit { uri with query := urlencode post_params }, db)
  else (.error (.oauth2 .base), db)

/-- `create_response_uri`: the redirect_uri is split, a code made and saved for the code
    and hybrid grants, and the response parameters placed by the response mode. An
    `OAuth2Error` inside becomes a `server_error`; other exceptions pass. -/
def create_response_uri (ext : Externals) (self : OAuthFulfillmentStage) (fresh : Fresh)
    (db : Database) : Except Raised String × Database :=
  match urlsplit ext.netloc self.params.redirect_uri with
  | none => (.error .ValueError, db)
  | some uri =>
    let (code, db) :=
      if self.params.grant_type ∈ [GrantTypes.AUTHORIZATION_CODE, GrantTypes.HYBRID] then
        let code := self.params.create_code fresh
        (some code, { db with codes := db.codes ++ [code] })
      else (none, db)
    match response_uri_body ext self uri code fresh db with
    | (.error (.oauth2 _), db) =>
      (.error (self.params.authorize_error "server_error" none none), db)
    | result => result

/-- `redirect`: for form_post, a page posting the first value of each query parameter of
    `uri` to the redirect_uri; otherwise a redirect to `uri`. -/
def redirect (ext : Externals) (self : OAuthFulfillmentStage) (title : Option String)
    (uri : String) : Except Raised HttpResponse :=
  match urlsplit ext.netloc uri with
  | none => .error .ValueError
  | some parsed =>
    if self.params.response_mode = some ResponseMode.FORM_POST then
      let query_params := (parse_qs parsed.query).map fun kv => (kv.1, kv.2.headD "")
      .ok (.Autosubmit (title.getD ("Redirecting to " ++ self.application.name ++ "..."))
        self.params.redirect_uri query_params)
    else .ok (.RedirectScheme uri [parsed.scheme])

/-- The `try` of `get` once the stage is loaded: `consent_required` for `prompt` holding
    both `none` and `consent`, otherwise the response of `create_response_uri`. -/
def fulfill (ext : Externals) (self : OAuthFulfillmentStage) (title : Option String)
    (fresh : Fresh) (db : Database) : Except Raised HttpResponse × Database :=
  if {PROMPT_NONE, PROMPT_CONSENT} ⊆ self.params.prompt then
    (.error (self.params.authorize_error "consent_required" none none), db)
  else
    let (uri, db) := self.create_response_uri ext fresh db
    (uri >>= self.redirect ext title, db)

/-- `get`: the stage restores params and application from the plan's context and loads
    the application's provider; `ClientIdError` and `RedirectUriError` become a
    bad-request page and an `AuthorizeError` its error response. -/
def get (ext : Externals) (context : PlanContext) (fresh : Fresh) (db : Database) :
    Except Raised HttpResponse × Database :=
  match context.params with
  | none => (.ok .BadRequest, db)
  | some params =>
    match context.application with
    | none => (.error .KeyError, db)
    | some application =>
      match get_object_or_404 db.providers (some ·.pk == application.provider_id) with
      | .error e => (.error e, db)
      | .ok provider =>
        match fulfill ext ⟨params, provider, application⟩ context.title fresh db with
        | (.error (.oauth2 (.AuthorizeError error)), db) => (.ok (.AuthorizeErrorResponse error), db)
        | (.error (.oauth2 error@(.ClientIdError _)), db) => (.ok (.BadRequestMessage error), db)
        | (.error (.oauth2 error@(.RedirectUriError _ _ _)), db) =>
          (.ok (.BadRequestMessage error), db)
        | result => result

end OAuthFulfillmentStage

end authentik.providers.oauth2.views.authorize
