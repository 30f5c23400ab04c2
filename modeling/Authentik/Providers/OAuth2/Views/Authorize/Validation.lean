import Authentik.Providers.OAuth2.Views.Authorize.Params

namespace authentik.providers.oauth2.views.authorize

open python python.urllib.parse django.http authentik.providers.oauth2

/-- The grant the table of §4.1.1 gives each of the six response types; any other string
    has none. -/
def response_type_grant (response_type : String) : Option String :=
  if response_type = ResponseTypes.CODE then some GrantTypes.AUTHORIZATION_CODE
  else if response_type ∈ [ResponseTypes.ID_TOKEN, ResponseTypes.ID_TOKEN_TOKEN] then
    some GrantTypes.IMPLICIT
  else if response_type ∈ [ResponseTypes.CODE_TOKEN, ResponseTypes.CODE_ID_TOKEN,
      ResponseTypes.CODE_ID_TOKEN_TOKEN] then some GrantTypes.HYBRID
  else none

/-- The table of §4.1.1 case by case: the six response types and their grants. -/
theorem response_type_grant_cases {response_type grant_type : String}
    (h : response_type_grant response_type = some grant_type) :
    response_type = ResponseTypes.CODE ∧ grant_type = GrantTypes.AUTHORIZATION_CODE ∨
    response_type = ResponseTypes.ID_TOKEN ∧ grant_type = GrantTypes.IMPLICIT ∨
    response_type = ResponseTypes.ID_TOKEN_TOKEN ∧ grant_type = GrantTypes.IMPLICIT ∨
    response_type = ResponseTypes.CODE_TOKEN ∧ grant_type = GrantTypes.HYBRID ∨
    response_type = ResponseTypes.CODE_ID_TOKEN ∧ grant_type = GrantTypes.HYBRID ∨
    response_type = ResponseTypes.CODE_ID_TOKEN_TOKEN ∧ grant_type = GrantTypes.HYBRID := by
  unfold response_type_grant at h
  split_ifs at h with hcode himplicit hhybrid <;> cases h
  · exact .inl ⟨hcode, rfl⟩
  · simp only [List.mem_cons, List.mem_singleton, List.not_mem_nil, or_false] at himplicit
    rcases himplicit with h | h <;> simp [h]
  · simp only [List.mem_cons, List.mem_singleton, List.not_mem_nil, or_false] at hhybrid
    rcases hhybrid with h | h | h <;> simp [h]

/-- Which of the six response types hold the words `code`, `id_token` and `token`. -/
theorem response_type_tokens {response_type grant_type : String}
    (h : response_type_grant response_type = some grant_type) :
    ("code" ∈ str.split response_type ↔ response_type ∈ [ResponseTypes.CODE,
      ResponseTypes.CODE_TOKEN, ResponseTypes.CODE_ID_TOKEN, ResponseTypes.CODE_ID_TOKEN_TOKEN]) ∧
    ("id_token" ∈ str.split response_type ↔ response_type ∈ [ResponseTypes.ID_TOKEN,
      ResponseTypes.ID_TOKEN_TOKEN, ResponseTypes.CODE_ID_TOKEN, ResponseTypes.CODE_ID_TOKEN_TOKEN]) ∧
    ("token" ∈ str.split response_type ↔ response_type ∈ [ResponseTypes.ID_TOKEN_TOKEN,
      ResponseTypes.CODE_TOKEN, ResponseTypes.CODE_ID_TOKEN_TOKEN]) := by
  rcases response_type_grant_cases h with ⟨rfl, -⟩ | ⟨rfl, -⟩ | ⟨rfl, -⟩ | ⟨rfl, -⟩ | ⟨rfl, -⟩ |
    ⟨rfl, -⟩ <;> decide

/-- The response mode §3.2 gives a grant when the request names none of the three. -/
def default_response_mode (grant_type : String) : String :=
  if grant_type = GrantTypes.AUTHORIZATION_CODE then ResponseMode.QUERY else ResponseMode.FRAGMENT

/-- The allow-list `check_redirect_uri` matches against: an empty one is replaced by the
    redirect_uri itself. -/
def provisioned (allowed : List RedirectURI) (redirect_uri : String) : List RedirectURI :=
  if allowed.length < 1 then [⟨.STRICT, redirect_uri⟩] else allowed

/-- `check_redirect_uri` lets `redirect_uri` through for a provider with the allow-list
    `allowed`: it is not empty, an entry of the provisioned list matches it, and it splits
    with a scheme that is not forbidden. -/
def redirect_uri_allowed (ext : Externals) (allowed : List RedirectURI) (redirect_uri : String) :
    Bool :=
  redirect_uri != "" && OAuthAuthorizationParams.match_found ext redirect_uri
    (provisioned allowed redirect_uri) &&
  match urlsplit ext.netloc redirect_uri with
  | some parts => parts.scheme ∉ FORBIDDEN_URI_SCHEMES
  | none => false

/-- What validation guarantees of the params it returns (§3.2, §4.1): the grant of the
    table, a known response mode, `openid` where the grant or an id_token needs it, a
    nonce for an id_token under `openid`, `offline_access` only with a code, a known PKCE
    method, no `request` object, and a redirect_uri `check_redirect_uri` accepted against
    the provider record the params hold. -/
structure OAuthAuthorizationParams.Valid (ext : Externals) (p : OAuthAuthorizationParams) :
    Prop where
  grant_type : response_type_grant p.response_type = some p.grant_type
  response_mode : p.response_mode ∈ ResponseMode.values.map some
  openid : p.grant_type = GrantTypes.HYBRID ∨
    p.response_type ∈ [ResponseTypes.ID_TOKEN, ResponseTypes.ID_TOKEN_TOKEN] →
      SCOPE_OPENID ∈ p.scope
  nonce : p.response_type ∈ [ResponseTypes.ID_TOKEN, ResponseTypes.ID_TOKEN_TOKEN,
    ResponseTypes.CODE_ID_TOKEN, ResponseTypes.CODE_ID_TOKEN_TOKEN] →
      SCOPE_OPENID ∈ p.scope → truthy p.nonce = true
  offline_access : SCOPE_OFFLINE_ACCESS ∈ p.scope → p.response_type ∈ [ResponseTypes.CODE,
    ResponseTypes.CODE_TOKEN, ResponseTypes.CODE_ID_TOKEN, ResponseTypes.CODE_ID_TOKEN_TOKEN]
  code_challenge : truthy p.code_challenge = true →
    p.code_challenge_method ∈ [PKCE_METHOD_PLAIN, PKCE_METHOD_S256]
  request : truthy p.request = false
  redirect_uri : redirect_uri_allowed ext p.provider.redirect_uris p.redirect_uri = true

namespace OAuthAuthorizationParams

/-- `check_grant` on params without a grant yet, for every response_type string: the
    six of the table get their grant and keep a known mode or get the grant's default;
    any other string is `unsupported_response_type`. -/
theorem check_grant_eq (self : OAuthAuthorizationParams) (hempty : self.grant_type = "") :
    self.check_grant =
      match response_type_grant self.response_type with
      | some grant_type => .ok { self with
          grant_type
          response_mode :=
            if self.response_mode ∈ ResponseMode.values.map some then self.response_mode
            else some (default_response_mode grant_type) }
      | none => .error (.oauth2 (.AuthorizeError
          ⟨self.redirect_uri, "unsupported_response_type", "", self.state, none, none⟩)) := by
  unfold check_grant response_type_grant
  by_cases hcode : self.response_type = ResponseTypes.CODE
  · simp [hcode, default_response_mode]
  by_cases himplicit : self.response_type ∈ [ResponseTypes.ID_TOKEN, ResponseTypes.ID_TOKEN_TOKEN]
  · simp only [List.mem_cons, List.mem_singleton, List.not_mem_nil, or_false] at himplicit
    rcases himplicit with h | h <;> simp [h, default_response_mode]
  by_cases hhybrid : self.response_type ∈ [ResponseTypes.CODE_TOKEN, ResponseTypes.CODE_ID_TOKEN,
      ResponseTypes.CODE_ID_TOKEN_TOKEN]
  · simp only [List.mem_cons, List.mem_singleton, List.not_mem_nil, or_false] at hhybrid
    rcases hhybrid with h | h | h <;> simp [h, default_response_mode]
  · simp at hcode himplicit hhybrid
    simp [hcode, himplicit, hhybrid, hempty]

/-- A successful `check_scope` changes only the scope; `openid` is in it when the grant or
    the response type needs it, and `offline_access` only with a code. -/
theorem check_scope_ok {ext : Externals} {self p : OAuthAuthorizationParams} {github_compat : Bool}
    (h : self.check_scope ext github_compat = .ok p) :
    p = { self with scope := p.scope } ∧
    (self.grant_type = GrantTypes.HYBRID ∨
      self.response_type ∈ [ResponseTypes.ID_TOKEN, ResponseTypes.ID_TOKEN_TOKEN] →
        SCOPE_OPENID ∈ p.scope) ∧
    (SCOPE_OFFLINE_ACCESS ∈ p.scope → self.response_type ∈ [ResponseTypes.CODE,
      ResponseTypes.CODE_TOKEN, ResponseTypes.CODE_ID_TOKEN, ResponseTypes.CODE_ID_TOKEN_TOKEN]) := by
  simp only [check_scope] at h
  split_ifs at h with hopenid hoffline <;> cases h
  · exact ⟨rfl, fun hreq => Finset.mem_erase.2 ⟨by simp, not_not.1 fun hn => hopenid ⟨hn, hreq⟩⟩,
      fun hmem => by simp at hmem⟩
  · exact ⟨rfl, fun hreq => not_not.1 fun hn => hopenid ⟨hn, hreq⟩,
      fun hmem => not_not.1 fun hn => hoffline ⟨hmem, hn⟩⟩

theorem check_nonce_ok {self : OAuthAuthorizationParams} (h : self.check_nonce = .ok ())
    (hrt : self.response_type ∈ [ResponseTypes.ID_TOKEN, ResponseTypes.ID_TOKEN_TOKEN,
      ResponseTypes.CODE_ID_TOKEN, ResponseTypes.CODE_ID_TOKEN_TOKEN])
    (hopenid : SCOPE_OPENID ∈ self.scope) : truthy self.nonce = true := by
  simp only [check_nonce, hrt, hopenid, not_true, if_false] at h
  split_ifs at h with hnonce
  simpa using hnonce

theorem check_code_challenge_ok {self : OAuthAuthorizationParams}
    (h : self.check_code_challenge = .ok ()) (hchallenge : truthy self.code_challenge = true) :
    self.code_challenge_method ∈ [PKCE_METHOD_PLAIN, PKCE_METHOD_S256] := by
  simp only [check_code_challenge, hchallenge, true_and] at h
  split_ifs at h with hmethod
  simpa using hmethod

theorem provision_redirect_uri_fst (db : Database) (self : OAuthAuthorizationParams) :
    (provision_redirect_uri db self).1 = { self with provider := { self.provider with
      redirect_uris := provisioned self.provider.redirect_uris self.redirect_uri } } := by
  unfold provision_redirect_uri provisioned
  split_ifs <;> rfl

theorem match_redirect_uri_ok {ext : Externals} {self p : OAuthAuthorizationParams}
    (h : match_redirect_uri ext self = .ok p) :
    p = self ∧ match_found ext self.redirect_uri self.provider.redirect_uris = true ∧
      ∃ parts, urlsplit ext.netloc self.redirect_uri = some parts ∧
        parts.scheme ∉ FORBIDDEN_URI_SCHEMES := by
  simp only [match_redirect_uri] at h
  split_ifs at h with hmatch
  split at h
  · cases h
  · split_ifs at h with hscheme
    cases h
    exact ⟨rfl, by simpa using hmatch, _, ‹_›, hscheme⟩

/-- A redirect_uri `check_redirect_uri` lets through is allowed by the provider's
    allow-list, and the params come back holding the provisioned list. -/
theorem check_redirect_uri_ok {ext : Externals} {db db' : Database}
    {self p : OAuthAuthorizationParams} (h : check_redirect_uri ext db self = (.ok p, db')) :
    p = { self with provider := { self.provider with
      redirect_uris := provisioned self.provider.redirect_uris self.redirect_uri } } ∧
    redirect_uri_allowed ext self.provider.redirect_uris self.redirect_uri = true := by
  unfold check_redirect_uri at h
  split_ifs at h with hempty
  · simp at h
  obtain ⟨rfl, hmatch, parts, hsplit, hscheme⟩ := match_redirect_uri_ok (Prod.mk.inj h).1
  rw [provision_redirect_uri_fst] at hmatch hsplit ⊢
  simp [redirect_uri_allowed, hempty, hmatch, hsplit, hscheme]

theorem check_rest_ok {ext : Externals} {self p : OAuthAuthorizationParams} {github_compat : Bool}
    (h : check_rest ext self github_compat = .ok p) :
    ∃ granted, self.check_grant = .ok granted ∧ granted.check_scope ext github_compat = .ok p ∧
      truthy p.request = false ∧ p.check_nonce = .ok () ∧ p.check_code_challenge = .ok () := by
  simp only [check_rest, except_bind_eq_ok] at h
  obtain ⟨granted, hgrant, checked, hscope, h⟩ := h
  split_ifs at h with hreq
  · cases h
  · simp only [pure_bind, except_bind_eq_ok] at h
    obtain ⟨⟨⟩, hnonce, ⟨⟩, hpkce, hp⟩ := h
    cases hp
    exact ⟨granted, hgrant, hscope, by simpa using hreq, hnonce, hpkce⟩

theorem post_init_ok {ext : Externals} {db db' : Database} {self p : OAuthAuthorizationParams}
    {github_compat : Bool} (h : __post_init__ ext db self github_compat = (.ok p, db')) :
    ∃ provider checked, db.providers.find? (·.client_id = self.client_id) = some provider ∧
      (check_redirect_uri ext db { self with provider }).1 = .ok checked ∧
      check_rest ext checked github_compat = .ok p := by
  unfold __post_init__ at h
  split at h
  · simp at h
  · rename_i provider hfind
    obtain ⟨checked, hcheck, hrest⟩ := except_bind_eq_ok.1 (Prod.mk.inj h).1
    exact ⟨provider, checked, hfind, hcheck, hrest⟩

theorem from_request_ok {ext : Externals} {db db' : Database} {request : HttpRequest}
    {github_compat : Bool} {p : OAuthAuthorizationParams}
    (h : from_request ext db request github_compat = (.ok p, db')) :
    ∃ max_age, parse_max_age ((request_query_dict request).get "max_age") = .ok max_age ∧
      __post_init__ ext db (of_query_dict (request_query_dict request) max_age) github_compat =
        (.ok p, db') := by
  simp only [from_request] at h
  split at h
  · simp at h
  · exact ⟨_, ‹_›, h⟩

theorem provisioned_provisioned (allowed : List RedirectURI) (redirect_uri : String) :
    provisioned (provisioned allowed redirect_uri) redirect_uri = provisioned allowed redirect_uri := by
  unfold provisioned
  split_ifs <;> simp_all

theorem redirect_uri_allowed_provisioned (ext : Externals) (allowed : List RedirectURI)
    (redirect_uri : String) :
    redirect_uri_allowed ext (provisioned allowed redirect_uri) redirect_uri =
      redirect_uri_allowed ext allowed redirect_uri := by
  simp only [redirect_uri_allowed, provisioned_provisioned]

/-- The spec of `__post_init__` on params without a grant yet: what it returns satisfies
    `Valid`, holds the provider of the client_id with its provisioned allow-list, the grant
    of the table, the supplied response mode if it is one of the three and the grant's
    default otherwise, and every other field as passed except the scope. -/
theorem post_init_spec {ext : Externals} {db db' : Database} {self p : OAuthAuthorizationParams}
    {github_compat : Bool} (hempty : self.grant_type = "")
    (h : __post_init__ ext db self github_compat = (.ok p, db')) :
    p.Valid ext ∧ ∃ provider, db.providers.find? (·.client_id = self.client_id) = some provider ∧
      p = { self with
        provider := { provider with
          redirect_uris := provisioned provider.redirect_uris self.redirect_uri }
        grant_type := p.grant_type
        response_mode :=
          if self.response_mode ∈ ResponseMode.values.map some then self.response_mode
          else some (default_response_mode p.grant_type)
        scope := p.scope } := by
  obtain ⟨provider, checked, hfind, hcheck, hrest⟩ := post_init_ok h
  obtain ⟨hchecked, hallowed⟩ := check_redirect_uri_ok (Prod.ext_iff.2 ⟨hcheck, rfl⟩ :
    check_redirect_uri ext db { self with provider } = (.ok checked, _))
  obtain ⟨granted, hgrant, hscope, hreq, hnonce, hpkce⟩ := check_rest_ok hrest
  rw [check_grant_eq _ (by rw [hchecked]; exact hempty)] at hgrant
  split at hgrant
  · rename_i grant_type hrt
    cases hgrant
    obtain ⟨hp, hopenid, hoffline⟩ := check_scope_ok hscope
    subst hchecked
    rw [hp] at hreq hnonce hpkce ⊢
    refine ⟨⟨hrt, ?_, hopenid, fun hid hmem => check_nonce_ok hnonce hid hmem, hoffline,
      check_code_challenge_ok hpkce, hreq, (redirect_uri_allowed_provisioned ..).trans hallowed⟩,
      provider, hfind, rfl⟩
    split_ifs with hmode
    · exact hmode
    · simp only [default_response_mode]; split_ifs <;> simp
  · cases hgrant

/-- The spec of `from_request`: the params it returns are those of the query dict it read,
    completed and checked by `__post_init__` as `post_init_spec` says. -/
theorem from_request_spec {ext : Externals} {db db' : Database} {request : HttpRequest}
    {github_compat : Bool} {p : OAuthAuthorizationParams}
    (h : from_request ext db request github_compat = (.ok p, db')) :
    ∃ max_age, parse_max_age ((request_query_dict request).get "max_age") = .ok max_age ∧
      p.Valid ext ∧ ∃ provider, db.providers.find? (·.client_id =
        ((request_query_dict request).get "client_id").getD "") = some provider ∧
      p = { of_query_dict (request_query_dict request) max_age with
        provider := { provider with
          redirect_uris := provisioned provider.redirect_uris
            (((request_query_dict request).get "redirect_uri").getD "") }
        grant_type := p.grant_type
        response_mode :=
          if (request_query_dict request).get "response_mode" ∈ ResponseMode.values.map some then
            (request_query_dict request).get "response_mode"
          else some (default_response_mode p.grant_type)
        scope := p.scope } := by
  obtain ⟨max_age, hmax_age, hpost⟩ := from_request_ok h
  exact ⟨max_age, hmax_age, post_init_spec rfl hpost⟩

/-- The params `from_request` returns: the grant of the table, the named response mode when
    it is known and the grant's default otherwise, `openid` and a nonce where needed,
    `offline_access` only with a code, a known PKCE method and no request object. -/
theorem from_request_params_checked {ext : Externals} {db db' : Database}
    {request : HttpRequest} {github_compat : Bool} {p : OAuthAuthorizationParams}
    (h : from_request ext db request github_compat = (.ok p, db')) :
    response_type_grant p.response_type = some p.grant_type ∧
    p.response_mode ∈ ResponseMode.values.map some ∧
    p.response_mode =
      (if (request_query_dict request).get "response_mode" ∈ ResponseMode.values.map some then
        (request_query_dict request).get "response_mode"
      else some (default_response_mode p.grant_type)) ∧
    (p.grant_type = GrantTypes.HYBRID ∨
      p.response_type ∈ [ResponseTypes.ID_TOKEN, ResponseTypes.ID_TOKEN_TOKEN] →
        SCOPE_OPENID ∈ p.scope) ∧
    ("id_token" ∈ str.split p.response_type → SCOPE_OPENID ∈ p.scope → truthy p.nonce = true) ∧
    (SCOPE_OFFLINE_ACCESS ∈ p.scope → "code" ∈ str.split p.response_type) ∧
    (truthy p.code_challenge = true →
      p.code_challenge_method ∈ [PKCE_METHOD_PLAIN, PKCE_METHOD_S256]) ∧
    truthy p.request = false := by
  obtain ⟨max_age, -, hvalid, provider, -, hp⟩ := from_request_spec h
  have htokens := response_type_tokens hvalid.grant_type
  exact ⟨hvalid.grant_type, hvalid.response_mode, congrArg (·.response_mode) hp, hvalid.openid,
    fun hid => hvalid.nonce (htokens.2.1.1 hid), fun hmem => htokens.1.2 (hvalid.offline_access hmem),
    hvalid.code_challenge, hvalid.request⟩

end OAuthAuthorizationParams

/-- The externals of the runs on fixed inputs: a pattern compiles and matches only
    itself, no netloc is refused, and the token's claims are empty. -/
def sample_ext : Externals :=
  ⟨fun _ => true, fun pattern s => pattern == s, ⟨fun _ => false, fun _ => false⟩, ∅, "Bearer",
    fun _ _ => ⟨[], none, none, none⟩, fun _ _ => "jws", id⟩

/-- A provider with one strict redirect_uri and the scopes `openid` and `profile`. -/
def sample_provider : OAuth2Provider :=
  ⟨1, "client", [⟨.STRICT, "https://rp.example/cb"⟩], ["openid", "profile"], 7, 60, 3600⟩

/-- The application of the sample provider. -/
def sample_application : Application := ⟨3, "app", some 1⟩

/-- The sample provider and its application. -/
def sample_db : Database := ⟨[sample_provider], [sample_application], [], []⟩

/-- The sample provider with an empty allow-list, so that any redirect_uri is provisioned. -/
def sample_open_db : Database :=
  ⟨[{ sample_provider with redirect_uris := [] }], [sample_application], [], []⟩

/-- A GET request of a signed-in user with the given query. -/
def sample_request (query : List (String × String)) : HttpRequest :=
  ⟨"GET", ⟨query⟩, ⟨[]⟩, true⟩

/-- The code request of the samples: no response mode, the scope `openid` and a state. -/
def sample_code_query : List (String × String) :=
  [("client_id", "client"), ("redirect_uri", "https://rp.example/cb"), ("response_type", "code"),
    ("scope", "openid"), ("state", "xyz")]

/-- The params the sample code request validates to. -/
def sample_code_params : OAuthAuthorizationParams :=
  { OAuthAuthorizationParams.of_query_dict ⟨sample_code_query⟩ none with
    provider := sample_provider, grant_type := GrantTypes.AUTHORIZATION_CODE,
    response_mode := some ResponseMode.QUERY }

open OAuthAuthorizationParams in
theorem from_request_sample_code_default_mode :
    ∃ p, from_request sample_ext sample_db (sample_request sample_code_query) false =
      (.ok p, sample_db) ∧ p.response_mode = some (default_response_mode p.grant_type) :=
  have h : from_request sample_ext sample_db (sample_request sample_code_query) false =
      (.ok { of_query_dict ⟨sample_code_query⟩ none with
        provider := sample_provider, grant_type := GrantTypes.AUTHORIZATION_CODE,
        response_mode := some ResponseMode.QUERY }, sample_db) := by decide
  ⟨_, h, (from_request_params_checked h).2.2.1⟩

end authentik.providers.oauth2.views.authorize
