import Authentik.Providers.OAuth2.Views.Authorize.Redirects
import Authentik.Providers.OAuth2.Views.Authorize.Validation

namespace authentik.providers.oauth2.views.authorize

open python python.urllib.parse django.http authentik.providers.oauth2

/-- Every exception `x` can raise is an `AuthorizeError` to `redirect_uri`: what the checks
    after `check_redirect_uri` promise of the errors the RP is sent to. -/
def RaisesAuthorizeErrorTo {α : Type} (redirect_uri : String) (x : Except Raised α) : Prop :=
  ∀ e, x = .error e → ∃ error, e = .oauth2 (.AuthorizeError error) ∧ error.redirect_uri = redirect_uri

namespace RaisesAuthorizeErrorTo

theorem ok {α : Type} {redirect_uri : String} (a : α) :
    RaisesAuthorizeErrorTo redirect_uri (.ok a : Except Raised α) := by
  rintro e ⟨⟩

theorem bind {α β : Type} {redirect_uri : String} {x : Except Raised α} {f : α → Except Raised β}
    (hx : RaisesAuthorizeErrorTo redirect_uri x)
    (hf : ∀ a, x = .ok a → RaisesAuthorizeErrorTo redirect_uri (f a)) :
    RaisesAuthorizeErrorTo redirect_uri (x >>= f) := by
  intro e h
  rcases except_bind_eq_error.1 h with hx' | ⟨a, ha, hfa⟩
  · exact hx e hx'
  · exact hf a ha e hfa

end RaisesAuthorizeErrorTo

namespace OAuthAuthorizationParams

private theorem authorize_error_raises {α : Type} (self : OAuthAuthorizationParams) (error : String)
    (description cause : Option String) :
    RaisesAuthorizeErrorTo self.redirect_uri
      (.error (self.authorize_error error description cause) : Except Raised α) := by
  rintro e ⟨⟩
  exact ⟨_, rfl, rfl⟩

private theorem check_grant_raises (self : OAuthAuthorizationParams) :
    RaisesAuthorizeErrorTo self.redirect_uri self.check_grant := by
  intro e h
  rcases ite_eq_iff.1 h with ⟨-, h⟩ | ⟨-, h⟩ <;> cases h
  exact ⟨_, rfl, rfl⟩

theorem check_grant_redirect_uri {self p : OAuthAuthorizationParams} (h : self.check_grant = .ok p) :
    p.redirect_uri = self.redirect_uri := by
  rcases ite_eq_iff.1 h with ⟨-, h⟩ | ⟨-, h⟩ <;> cases h
  rfl

private theorem check_scope_raises (ext : Externals) (self : OAuthAuthorizationParams) (github_compat : Bool) :
    RaisesAuthorizeErrorTo self.redirect_uri (self.check_scope ext github_compat) := by
  intro e h
  simp only [check_scope] at h
  split_ifs at h
  cases h
  exact ⟨_, rfl, rfl⟩

private theorem check_nonce_raises (self : OAuthAuthorizationParams) :
    RaisesAuthorizeErrorTo self.redirect_uri self.check_nonce := by
  intro e h
  unfold check_nonce at h
  split_ifs at h
  cases h
  exact ⟨_, rfl, rfl⟩

private theorem check_code_challenge_raises (self : OAuthAuthorizationParams) :
    RaisesAuthorizeErrorTo self.redirect_uri self.check_code_challenge := by
  intro e h
  unfold check_code_challenge at h
  split_ifs at h
  cases h
  exact ⟨_, rfl, rfl⟩

theorem check_rest_raises (ext : Externals) (self : OAuthAuthorizationParams) (github_compat : Bool) :
    RaisesAuthorizeErrorTo self.redirect_uri (check_rest ext self github_compat) := by
  unfold check_rest
  refine (check_grant_raises self).bind fun granted hgrant => ?_
  rw [← check_grant_redirect_uri hgrant]
  refine (check_scope_raises ext granted github_compat).bind fun narrowed hscope => ?_
  rw [← (congrArg (·.redirect_uri) (check_scope_ok hscope).1 :)]
  have hrest : RaisesAuthorizeErrorTo narrowed.redirect_uri
      (do narrowed.check_nonce; narrowed.check_code_challenge; pure narrowed) :=
    (check_nonce_raises narrowed).bind fun _ _ =>
      (check_code_challenge_raises narrowed).bind fun _ _ => .ok narrowed
  split
  · exact RaisesAuthorizeErrorTo.bind (authorize_error_raises _ _ _ _) fun _ _ => hrest
  · exact (RaisesAuthorizeErrorTo.ok ()).bind fun _ _ => hrest


theorem match_redirect_uri_error {ext : Externals} {self : OAuthAuthorizationParams} {e : Raised}
    (h : match_redirect_uri ext self = .error e) :
    e = .ValueError ∨ ∃ expected cause, e = .oauth2 (.RedirectUriError self.redirect_uri expected cause) := by
  simp only [match_redirect_uri] at h
  split_ifs at h
  · cases h; exact .inr ⟨_, _, rfl⟩
  split at h
  · cases h; exact .inl rfl
  · split_ifs at h
    cases h; exact .inr ⟨_, _, rfl⟩

/-- `check_redirect_uri` raises only `RedirectUriError` for the params' redirect_uri, or the
    `ValueError` of a redirect_uri that matches but does not split. -/
theorem check_redirect_uri_error {ext : Externals} {db : Database} {self : OAuthAuthorizationParams}
    {e : Raised} (h : (check_redirect_uri ext db self).1 = .error e) :
    e = .ValueError ∨ ∃ expected cause, e = .oauth2 (.RedirectUriError self.redirect_uri expected cause) := by
  simp only [check_redirect_uri] at h
  split_ifs at h with hempty
  · cases h; exact .inr ⟨_, _, by rw [hempty]⟩
  · have hmatch : match_redirect_uri ext (provision_redirect_uri db self).1 = .error e := h
    rw [provision_redirect_uri_fst] at hmatch
    have hraised := match_redirect_uri_error hmatch
    exact hraised

/-- The errors of `__post_init__`: `ClientIdError` for an unknown client_id, the errors of
    `check_redirect_uri`, and `AuthorizeError`s to a redirect_uri the provider's allow-list
    accepts. -/
theorem post_init_error {ext : Externals} {db : Database} {self : OAuthAuthorizationParams}
    {github_compat : Bool} {e : Raised} (h : (__post_init__ ext db self github_compat).1 = .error e) :
    e = .ValueError ∨ e = .oauth2 (.ClientIdError self.client_id) ∨
    (∃ expected cause, e = .oauth2 (.RedirectUriError self.redirect_uri expected cause)) ∨
    ∃ error provider, e = .oauth2 (.AuthorizeError error) ∧ error.redirect_uri = self.redirect_uri ∧
      db.providers.find? (·.client_id = self.client_id) = some provider ∧
      redirect_uri_allowed ext provider.redirect_uris self.redirect_uri = true := by
  unfold __post_init__ at h
  split at h
  · cases h; exact .inr (.inl rfl)
  · rename_i provider hfind
    rcases except_bind_eq_error.1 h with hcheck | ⟨checked, hcheck, hrest⟩
    · rcases check_redirect_uri_error hcheck with rfl | hredirect
      · exact .inl rfl
      · exact .inr (.inr (.inl hredirect))
    · obtain ⟨rfl, hallowed⟩ := check_redirect_uri_ok (Prod.ext_iff.2 ⟨hcheck, rfl⟩ :
        check_redirect_uri ext db { self with provider } = (.ok checked, _))
      obtain ⟨error, rfl, hredirect⟩ := check_rest_raises ext _ github_compat e hrest
      exact .inr (.inr (.inr ⟨error, provider, rfl, hredirect, hfind, hallowed⟩))

theorem parse_max_age_error {max_age : Option String} {e : Raised}
    (h : parse_max_age max_age = .error e) : e = .ValueError := by
  unfold parse_max_age at h
  split_ifs at h
  split at h <;> cases h
  rfl

/-- The errors of `from_request`, as `post_init_error` has them for the query dict's
    client_id and redirect_uri, and the `ValueError` of a `max_age` that is not an integer. -/
theorem from_request_error {ext : Externals} {db : Database} {request : HttpRequest}
    {github_compat : Bool} {e : Raised}
    (h : (from_request ext db request github_compat).1 = .error e) :
    e = .ValueError ∨
    e = .oauth2 (.ClientIdError (((request_query_dict request).get "client_id").getD "")) ∨
    (∃ expected cause, e = .oauth2 (.RedirectUriError
      (((request_query_dict request).get "redirect_uri").getD "") expected cause)) ∨
    ∃ error provider, e = .oauth2 (.AuthorizeError error) ∧
      db.providers.find? (·.client_id = ((request_query_dict request).get "client_id").getD "") =
        some provider ∧
      redirect_uri_allowed ext provider.redirect_uris error.redirect_uri = true := by
  simp only [from_request] at h
  split at h
  · cases h; exact .inl (parse_max_age_error ‹_›)
  · rcases post_init_error h with h | h | h | ⟨error, provider, rfl, hredirect, hfind, hallowed⟩
    · exact .inl h
    · exact .inr (.inl h)
    · exact .inr (.inr (.inl h))
    · exact .inr (.inr (.inr ⟨error, provider, rfl, hfind, hredirect ▸ hallowed⟩))

/-- The redirect_uri of params `from_request` returns is accepted by the allow-list of the
    provider of the client_id. -/
theorem from_request_redirect_uri_allowed {ext : Externals} {db db' : Database}
    {request : HttpRequest} {github_compat : Bool} {p : OAuthAuthorizationParams}
    (h : from_request ext db request github_compat = (.ok p, db')) :
    ∃ provider, db.providers.find? (·.client_id =
        ((request_query_dict request).get "client_id").getD "") = some provider ∧
      redirect_uri_allowed ext provider.redirect_uris p.redirect_uri = true := by
  obtain ⟨max_age, -, hvalid, provider, hfind, hp⟩ := from_request_spec h
  refine ⟨provider, hfind, ?_⟩
  have hallowed := hvalid.redirect_uri
  rw [hp] at hallowed ⊢
  exact (redirect_uri_allowed_provisioned ..).symm.trans hallowed

end OAuthAuthorizationParams

namespace AuthorizationFlowInitView

open OAuthAuthorizationParams

theorem resolve_provider_application_error {db : Database} {request : HttpRequest} {e : Raised}
    (h : resolve_provider_application db request = .error e) :
    e = .Http404 ∨ e = .MultipleObjectsReturned ∨ e = .DoesNotExist := by
  unfold resolve_provider_application at h
  rcases except_bind_eq_error.1 h with h | ⟨provider, -, h⟩
  · unfold get_object_or_404 at h
    split at h <;> cases h <;> simp
  · rcases except_bind_eq_error.1 h with h | ⟨application, -, h⟩
    · unfold OAuth2Provider.application at h
      split at h <;> cases h <;> simp
    · cases h

end AuthorizationFlowInitView

open OAuthAuthorizationParams AuthorizationFlowInitView

/-- Every response of the fulfillment stage that sends the user agent back to the client
    goes to the validated request's redirect_uri (`returns_to`), which the allow-list of the
    client_id's provider accepted. -/
theorem responses_return_to_checked_redirect_uri (ext : Externals) (db : Database)
    (request : HttpRequest) (github_compat : Bool) (params : OAuthAuthorizationParams)
    (db' : Database) (context : PlanContext) (fresh : Fresh) (db'' : Database)
    (response : HttpResponse) (hfrom : from_request ext db request github_compat = (.ok params, db'))
    (hparams : context.params = some params)
    (h : (OAuthFulfillmentStage.get ext context fresh db'').1 = .ok response) :
    response.returns_to ext params.redirect_uri ∧
    ∃ provider, db.providers.find? (·.client_id =
        ((request_query_dict request).get "client_id").getD "") = some provider ∧
      redirect_uri_allowed ext provider.redirect_uris params.redirect_uri = true :=
  ⟨OAuthFulfillmentStage.get_returns_to hparams h, from_request_redirect_uri_allowed hfrom⟩

theorem sample_code_response_returns_to :
    (HttpResponse.RedirectScheme "https://rp.example/cb?code=c0de&state=xyz" ["https"]).returns_to
      sample_ext sample_code_params.redirect_uri ∧
    ∃ provider, sample_db.providers.find? (·.client_id = ((request_query_dict
        (sample_request sample_code_query)).get "client_id").getD "") = some provider ∧
      redirect_uri_allowed sample_ext provider.redirect_uris sample_code_params.redirect_uri = true :=
  responses_return_to_checked_redirect_uri sample_ext sample_db (sample_request sample_code_query)
    false sample_code_params sample_db ⟨some sample_code_params, some sample_application, true, "",
      none⟩ ⟨100, none, "c0de", "t0k"⟩ sample_db _ rfl rfl rfl

/-- A redirect of the fulfillment stage for a redirect_uri with a scheme and a netloc keeps
    that scheme, netloc and path: `urlsplit` reads the URI it sends back to the redirect_uri's
    parts with only the query and the fragment replaced, and the one scheme the redirect
    allows is the redirect_uri's. -/
theorem redirect_keeps_scheme_netloc_path (ext : Externals) (context : PlanContext)
    (fresh : Fresh) (db : Database) (params : OAuthAuthorizationParams) (parts : SplitResult)
    (uri : String) (schemes : List String) (hparams : context.params = some params)
    (hsplit : urlsplit ext.netloc params.redirect_uri = some parts) (hscheme : parts.scheme ≠ "")
    (hnetloc : parts.netloc ≠ "")
    (h : (OAuthFulfillmentStage.get ext context fresh db).1 = .ok (.RedirectScheme uri schemes)) :
    ∃ query fragment,
      urlsplit ext.netloc uri = some { parts with query := query, fragment := fragment } ∧
        schemes = [parts.scheme] := by
  obtain ⟨provider, application, hcreate, parsed, hparsed, rfl⟩ :=
    OAuthFulfillmentStage.get_redirect_scheme hparams h
  obtain ⟨parts', query, fragment, hsplit', rfl, hquery, hfragment⟩ :=
    OAuthFulfillmentStage.create_response_uri_ok hcreate
  obtain rfl : parts' = parts := Option.some.inj (hsplit'.symm.trans hsplit)
  have habsolute := urlsplit_absolute hsplit hscheme hnetloc
  have hround := urlsplit_urlunsplit
    (@SplitResult.Absolute.with_query_fragment _ _ habsolute query fragment ?_ ?_)
  · obtain rfl := Option.some.inj (hparsed.symm.trans hround)
    exact ⟨query, fragment, hround, rfl⟩
  · rcases hquery with rfl | ⟨_, rfl⟩
    exacts [habsolute.query, urlencode_chars _]
  · rcases hfragment with rfl | ⟨_, rfl⟩
    · exact habsolute.fragment
    · intro c hc
      rcases List.mem_append.1 hc with hc | hc
      exacts [habsolute.fragment c hc, (urlencode_chars _ c hc).2]

/-- The split redirect_uri of the sample code request. -/
def sample_redirect_parts : SplitResult := ⟨"https", "rp.example", "/cb", "", ""⟩

theorem sample_code_redirect_keeps_origin :
    ∃ query fragment, urlsplit sample_ext.netloc "https://rp.example/cb?code=c0de&state=xyz" =
        some { sample_redirect_parts with query := query, fragment := fragment } ∧
      ["https"] = [sample_redirect_parts.scheme] :=
  redirect_keeps_scheme_netloc_path sample_ext
    ⟨some sample_code_params, some sample_application, true, "", none⟩ ⟨100, none, "c0de", "t0k"⟩
    sample_db sample_code_params sample_redirect_parts _ _ rfl (by decide) (by decide) (by decide)
    rfl

theorem AuthorizationFlowInitView.resolve_provider_application_ok {db : Database}
    {request : HttpRequest} {provider : OAuth2Provider} {application : Application}
    (h : resolve_provider_application db request = .ok (provider, application)) :
    some provider.client_id = request.GET.get "client_id" := by
  unfold resolve_provider_application at h
  obtain ⟨found, hfound, h⟩ := except_bind_eq_ok.1 h
  obtain ⟨_, -, h⟩ := except_bind_eq_ok.1 h
  cases h
  simpa using (get_object_or_404_ok hfound).2

theorem AuthorizationFlowInitView.pre_permission_check_ok {ext : Externals} {db db' : Database}
    {request : HttpRequest} {github_compat : Bool} {params : OAuthAuthorizationParams}
    (h : pre_permission_check ext db request github_compat = (.ok params, db')) :
    from_request ext db request github_compat = (.ok params, db') := by
  unfold pre_permission_check at h
  split_ifs at h
  · simp at h
  rcases hfrom : from_request ext db request github_compat with ⟨_ | params', db''⟩ <;>
    simp only [hfrom] at h
  · split at h <;> simp_all
  · split_ifs at h
    · simp at h
    · exact h

/-- The params of a request hold the provider of the client_id of the query dict they were
    read from. -/
theorem from_request_provider_client_id {ext : Externals} {db db' : Database}
    {request : HttpRequest} {github_compat : Bool} {params : OAuthAuthorizationParams}
    (h : from_request ext db request github_compat = (.ok params, db')) :
    params.provider.client_id = ((request_query_dict request).get "client_id").getD "" := by
  obtain ⟨max_age, -, -, provider, hfind, hp⟩ := from_request_spec h
  rw [hp]
  simpa using List.find?_some hfind

/-- On a POST the view validates the params against the provider of the body's client_id,
    and resolves the provider of the query string's client_id, whose application the access
    policies are checked for and whose flow is planned: the two are one provider only when
    the two client_ids agree. -/
theorem post_request_providers (ext : Externals) (db db' : Database) (request : HttpRequest)
    (github_compat : Bool) (params : OAuthAuthorizationParams) (provider : OAuth2Provider)
    (application : Application) (hpost : request.method = "POST")
    (hpre : pre_permission_check ext db request github_compat = (.ok params, db'))
    (hresolve : resolve_provider_application db' request = .ok (provider, application)) :
    params.provider.client_id = (request.POST.get "client_id").getD "" ∧
    some provider.client_id = request.GET.get "client_id" := by
  have hparams := from_request_provider_client_id (pre_permission_check_ok hpre)
  simp only [request_query_dict, hpost, if_true] at hparams
  exact ⟨hparams, resolve_provider_application_ok hresolve⟩

/-- A second provider and its application next to the sample ones. -/
def sample_two_providers_db : Database :=
  ⟨[sample_provider, { sample_provider with pk := 2, client_id := "other" }],
    [sample_application, ⟨4, "other app", some 2⟩], [], []⟩

/-- A POST whose query string names the sample client and whose body names the other. -/
def sample_mixed_post : HttpRequest :=
  ⟨"POST", ⟨[("client_id", "client")]⟩,
    ⟨[("client_id", "other"), ("redirect_uri", "https://rp.example/cb"), ("response_type", "code")]⟩,
    true⟩

theorem mixed_post_resolves_two_providers :
    ∃ params db' provider application,
      pre_permission_check sample_ext sample_two_providers_db sample_mixed_post false =
        (.ok params, db') ∧
      resolve_provider_application db' sample_mixed_post = .ok (provider, application) ∧
      params.provider.client_id ≠ provider.client_id :=
  have hpre : pre_permission_check sample_ext sample_two_providers_db sample_mixed_post false =
      (.ok { of_query_dict sample_mixed_post.POST none with
        provider := { sample_provider with pk := 2, client_id := "other" },
        grant_type := GrantTypes.AUTHORIZATION_CODE, response_mode := some ResponseMode.QUERY,
        scope := {"openid", "profile"} }, sample_two_providers_db) := by decide
  have hresolve : resolve_provider_application sample_two_providers_db sample_mixed_post =
      .ok (sample_provider, sample_application) := by decide
  have hproviders := post_request_providers _ _ _ _ _ _ _ _ rfl hpre hresolve
  ⟨_, _, _, _, hpre, hresolve, by rw [hproviders.1]; decide⟩

end authentik.providers.oauth2.views.authorize
