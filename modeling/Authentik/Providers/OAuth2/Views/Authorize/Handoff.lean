import Authentik.Providers.OAuth2.Views.Authorize.Session
import Authentik.Providers.OAuth2.Views.Authorize.Checks
import Authentik.Providers.OAuth2.Views.Authorize.Writes

namespace authentik.providers.oauth2.views.authorize

open python django.http authentik.providers.oauth2
open OAuthAuthorizationParams

namespace AuthorizationFlowInitView

theorem caught_ok {e : Raised} {response : HttpResponse} (h : caught e = .ok response) :
    e = .RequestValidationError response ∨ response = .NotFound := by
  unfold caught at h
  split at h <;> cases h
  exacts [.inl rfl, .inr rfl, .inr rfl]

/-- The responses `pre_permission_check` raises for the view to give: an OAuth error's
    redirect or a bad-request page. -/
theorem pre_permission_check_response {ext : Externals} {db : Database} {request : HttpRequest}
    {github_compat : Bool} {response : HttpResponse}
    (h : (pre_permission_check ext db request github_compat).1 =
      .error (.RequestValidationError response)) :
    (∃ error, response = .AuthorizeErrorResponse error) ∨
      ∃ error, response = .BadRequestMessage error := by
  unfold pre_permission_check at h
  split_ifs at h
  · cases h
  rcases hfrom : from_request ext db request github_compat with
    ⟨_ | params, db'⟩ <;> simp only [hfrom] at h
  · rcases from_request_error (congrArg Prod.fst hfrom) with
      rfl | rfl | ⟨_, _, rfl⟩ | ⟨_, _, rfl, -⟩ <;> cases h
    exacts [.inr ⟨_, rfl⟩, .inr ⟨_, rfl⟩, .inl ⟨_, rfl⟩]
  · split_ifs at h
    cases h
    exact .inl ⟨_, rfl⟩

/-- `get` hands a plan to the flow executor only past both re-authentication tests and with
    a plan from the planner: the provider's flow, the planner's stages, a consent stage when
    `prompt=consent` asks for one the planner did not bind, and the fulfillment stage last,
    with the params and application in its context. -/
theorem get_with_login_flow_executor {params : OAuthAuthorizationParams}
    {provider : OAuth2Provider} {application : Application} {session session' : Session}
    {login_event : LoginEvent} {now : Int} {planned : Option (List Stage)} {flow : Nat}
    {silent : List Stage}
    (h : get_with_login params provider application session login_event now planned =
      (.FlowExecutor flow silent, session')) :
    max_age_exceeded params.max_age login_event.created now = false ∧
    ¬(PROMPT_LOGIN ∈ params.prompt ∧ login_pending session login_event.pk = true) ∧
    flow = provider.authorization_flow ∧
    silent = (if params.response_mode ∈ [some ResponseMode.QUERY, some ResponseMode.FRAGMENT] then
      [.OAuthFulfillmentStage] else []) ∧
    ∃ bindings plan, planned = some bindings ∧ session' = { session with plan := some plan } ∧
      plan.flow_pk = provider.authorization_flow ∧
      plan.context = ⟨some params, some application, true,
        "You\x27re about to sign into " ++ application.name ++ ".", none⟩ ∧
      ∃ added, plan.bindings = bindings ++ added ++ [.OAuthFulfillmentStage] ∧
        (added = [] ∨ PROMPT_CONSENT ∈ params.prompt ∧ added = [.ConsentStage .ALWAYS_REQUIRE]) ∧
        (PROMPT_CONSENT ∈ params.prompt → ∃ mode, .ConsentStage mode ∈ plan.bindings) := by
  unfold get_with_login at h
  by_cases hmax_age : max_age_exceeded params.max_age login_event.created now = true
  · rw [if_pos hmax_age] at h
    cases h
  rw [if_neg hmax_age] at h
  by_cases hlogin : PROMPT_LOGIN ∈ params.prompt ∧ login_pending session login_event.pk = true
  · rw [if_pos hlogin] at h
    cases h
  rw [if_neg hlogin] at h
  cases planned with
  | none => cases h
  | some bindings =>
    simp only [Prod.mk.injEq, HttpResponse.FlowExecutor.injEq] at h
    obtain ⟨⟨rfl, rfl⟩, rfl⟩ := h
    refine ⟨by simpa using hmax_age, hlogin, rfl, rfl, bindings, _, rfl, rfl, ?_, ?_, ?_⟩
    · split_ifs <;> rfl
    · split_ifs <;> rfl
    · split_ifs with hconsent
      · exact ⟨[.ConsentStage .ALWAYS_REQUIRE], rfl, .inr ⟨hconsent.1, rfl⟩,
          fun _ => ⟨.ALWAYS_REQUIRE, by simp [FlowPlan.append_stage]⟩⟩
      · refine ⟨[], by rw [List.append_nil]; rfl, .inl rfl, fun hprompt => ?_⟩
        obtain ⟨stage, hmem, hstage⟩ :=
          List.any_eq_true.1 (not_not.1 fun hn => hconsent ⟨hprompt, hn⟩)
        cases stage with
        | ConsentStage mode => exact ⟨mode, by simp [FlowPlan.append_stage, hmem]⟩
        | _ => cases hstage

/-- The view answers with the flow executor only from `get`: for params `pre_permission_check`
    let through, the provider and application it resolved, a signed-in user who passes the
    access policies, a method handled by `get`, and the session's login event. -/
theorem dispatch_flow_executor {ext : Externals} {db db' : Database} {session session' : Session}
    {request : HttpRequest} {github_compat user_has_access : Bool} {now : Int}
    {planned : Option (List Stage)} {flow : Nat} {silent : List Stage}
    (h : dispatch ext db session request github_compat user_has_access now planned =
      (.ok (.FlowExecutor flow silent), session', db')) :
    ∃ params provider application login_event,
      pre_permission_check ext db request github_compat = (.ok params, db') ∧
      resolve_provider_application db' request = .ok (provider, application) ∧
      request.user_is_authenticated = true ∧ user_has_access = true ∧
      handler request.method = .get ∧ session.login_event = some login_event ∧
      get_with_login params provider application session login_event now planned =
        (.FlowExecutor flow silent, session') := by
  unfold dispatch at h
  rcases hpre : pre_permission_check ext db request github_compat with ⟨_ | params, db₁⟩ <;>
    simp only [hpre] at h
  · rcases caught_ok (Prod.mk.inj h).1 with rfl | hresponse
    · rcases pre_permission_check_response (congrArg Prod.fst hpre) with ⟨_, h⟩ | ⟨_, h⟩ <;>
        cases h
    · cases hresponse
  rcases hresolve : resolve_provider_application db₁ request with e | ⟨provider, application⟩ <;>
    simp only [hresolve] at h
  · rcases caught_ok (Prod.mk.inj h).1 with hcaught | hresponse
    · rcases resolve_provider_application_error hresolve with rfl | rfl | rfl <;> cases hcaught
    · cases hresponse
  cases hauthenticated : request.user_is_authenticated <;>
    cases haccess : user_has_access <;> simp only [hauthenticated, haccess] at h
  · cases h
  · cases h
  · cases h
  cases hhandler : handler request.method <;> simp only [hhandler] at h
  case options | http_method_not_allowed => cases h
  rcases hget : get params provider application session now planned with ⟨response, session₁⟩
  simp only [hget, Prod.mk.injEq, Except.ok.injEq] at h
  obtain ⟨rfl, rfl, rfl⟩ := h
  unfold get at hget
  cases hevent : session.login_event with
  | none => simp only [hevent, Prod.mk.injEq] at hget; cases hget.1
  | some login_event =>
    simp only [hevent] at hget
    exact ⟨params, provider, application, login_event, rfl, hresolve, rfl, rfl, rfl, rfl, hget⟩

end AuthorizationFlowInitView

open AuthorizationFlowInitView

/-- The plan the view hands to the flow executor, and when: the validated params and the
    resolved application in its context, the planner's stages, a consent stage for
    `prompt=consent`, and the fulfillment stage last; it is the session's only change. -/
theorem dispatch_hands_off_plan (ext : Externals) (db db' : Database) (session session' : Session)
    (request : HttpRequest) (github_compat user_has_access : Bool) (now : Int)
    (planned : Option (List Stage)) (flow : Nat) (silent : List Stage)
    (h : dispatch ext db session request github_compat user_has_access now planned =
      (.ok (.FlowExecutor flow silent), session', db')) :
    request.user_is_authenticated = true ∧ user_has_access = true ∧
    handler request.method = .get ∧
    ∃ params provider application login_event bindings plan,
      from_request ext db request github_compat = (.ok params, db') ∧
      resolve_provider_application db' request = .ok (provider, application) ∧
      session.login_event = some login_event ∧
      max_age_exceeded params.max_age login_event.created now = false ∧
      ¬(PROMPT_LOGIN ∈ params.prompt ∧ login_pending session login_event.pk = true) ∧
      planned = some bindings ∧ session' = { session with plan := some plan } ∧
      flow = provider.authorization_flow ∧ plan.flow_pk = flow ∧
      plan.context.params = some params ∧ plan.context.application = some application ∧
      (∃ added, plan.bindings = bindings ++ added ++ [.OAuthFulfillmentStage] ∧
        (added = [] ∨ PROMPT_CONSENT ∈ params.prompt ∧ added = [.ConsentStage .ALWAYS_REQUIRE])) ∧
      (PROMPT_CONSENT ∈ params.prompt → ∃ mode, .ConsentStage mode ∈ plan.bindings) ∧
      silent = if params.response_mode ∈ [some ResponseMode.QUERY, some ResponseMode.FRAGMENT] then
        [.OAuthFulfillmentStage] else [] := by
  obtain ⟨params, provider, application, login_event, hpre, hresolve, hauthenticated, haccess,
    hhandler, hevent, hget⟩ := dispatch_flow_executor h
  obtain ⟨hmax_age, hlogin, rfl, hsilent, bindings, plan, rfl, rfl, hflow, hcontext, added,
    hbindings, hadded, hconsent⟩ := get_with_login_flow_executor hget
  exact ⟨hauthenticated, haccess, hhandler, params, provider, application, login_event, bindings, plan,
    pre_permission_check_ok hpre, hresolve, hevent, hmax_age, hlogin, rfl, rfl, rfl, hflow,
    by rw [hcontext], by rw [hcontext], ⟨added, hbindings, hadded⟩, hconsent, hsilent⟩

/-- A signed-in session of the samples. -/
def sample_signed_in : Session := ⟨some ⟨"1", 0⟩, none, none⟩

/-- The view on the sample code request of a signed-in user who passes the policies, with a
    planner that binds no stage. -/
def sample_code_dispatch : Except Raised HttpResponse × Session × Database :=
  dispatch sample_ext sample_db sample_signed_in (sample_request sample_code_query) false true 1
    (some [])

example : ∃ params plan, sample_code_dispatch.2.1.plan = some plan ∧
    plan.context.params = some params ∧
    from_request sample_ext sample_db (sample_request sample_code_query) false =
      (.ok params, sample_code_dispatch.2.2) :=
  have hrun : sample_code_dispatch = (.ok (.FlowExecutor sample_provider.authorization_flow
      [.OAuthFulfillmentStage]), sample_code_dispatch.2.1, sample_code_dispatch.2.2) := rfl
  let ⟨_, _, _, params, _, _, _, _, plan, hfrom, _, _, _, _, _, hsession, _, _, hparams, _⟩ :=
    dispatch_hands_off_plan _ _ _ _ _ _ _ _ _ _ _ _ hrun
  ⟨params, plan, by rw [hsession], hparams, hfrom⟩

/-- The scopes a request may be granted: of those it asks for (every configured one when it
    asks for none), the ones the provider's scope mappings name and, under `github_compat`,
    the ones GitHub's API handles. -/
def grantable_scopes (ext : Externals) (provider : OAuth2Provider) (github_compat : Bool)
    (requested : Finset String) : Finset String :=
  (if requested = ∅ then provider.scope_names.toFinset else requested) ∩
    (provider.scope_names.toFinset ∪ if github_compat then ext.SCOPE_GITHUB else ∅)

/-- An authorization code within what the request asked for and was granted: for the
    provider of its client, with grantable scopes and the request's nonce, and bound to the
    request's PKCE challenge whenever it sent one, with one of the two known methods. -/
structure GrantedCode (ext : Externals) (provider : OAuth2Provider)
    (github_compat : Bool) (requested : OAuthAuthorizationParams) (code : AuthorizationCode) :
    Prop where
  provider_pk : code.provider = provider.pk
  scope : code.scope ⊆ grantable_scopes ext provider github_compat requested.scope
  nonce : code.nonce = requested.nonce
  code_challenge : code.code_challenge =
    if truthy requested.code_challenge then requested.code_challenge else none
  code_challenge_method : code.code_challenge_method =
    if truthy requested.code_challenge then some requested.code_challenge_method else none
  known_method : ∀ method, code.code_challenge_method = some method →
    method ∈ [PKCE_METHOD_PLAIN, PKCE_METHOD_S256]

/-- An access token within what the request asked for and was granted: grantable scopes, and
    `offline_access` only for a response type that also gives a code. -/
structure GrantedToken (ext : Externals) (provider : OAuth2Provider)
    (github_compat : Bool) (requested : OAuthAuthorizationParams) (token : AccessToken) :
    Prop where
  scope : token.scope ⊆ grantable_scopes ext provider github_compat requested.scope
  offline_access : SCOPE_OFFLINE_ACCESS ∈ token.scope → requested.response_type ∈
    [ResponseTypes.CODE_TOKEN, ResponseTypes.CODE_ID_TOKEN, ResponseTypes.CODE_ID_TOKEN_TOKEN]

/-- `db'` is `db` with at most one authorization code and at most one access token appended,
    each within the grant of the request. -/
def IssuesGranted (ext : Externals) (provider : OAuth2Provider) (github_compat : Bool)
    (requested : OAuthAuthorizationParams) (db db' : Database) : Prop :=
  ∃ code token, db' = { db with
      codes := db.codes ++ Option.toList code, tokens := db.tokens ++ Option.toList token } ∧
    (∀ c ∈ code, GrantedCode ext provider github_compat requested c) ∧
    ∀ t ∈ token, GrantedToken ext provider github_compat requested t

namespace OAuthAuthorizationParams

theorem resolved_scope_granted (ext : Externals) (self : OAuthAuthorizationParams)
    (github_compat : Bool) :
    self.resolved_scope ext github_compat ⊆
      grantable_scopes ext self.provider github_compat self.scope := by
  rw [resolved_scope_eq]
  unfold grantable_scopes
  refine Finset.union_subset (Finset.inter_subset_inter_left Finset.subset_union_left) ?_
  split_ifs
  all_goals first
    | exact Finset.empty_subset _
    | exact Finset.inter_subset_inter_left Finset.subset_union_right
    | exact absurd ‹github_compat = true ∧ _›.1 ‹¬github_compat = true›

theorem check_scope_granted {ext : Externals} {self p : OAuthAuthorizationParams}
    {github_compat : Bool} (h : self.check_scope ext github_compat = .ok p) :
    p.scope ⊆ grantable_scopes ext self.provider github_compat self.scope := by
  rw [check_scope_ok_scope h]
  split_ifs
  · exact resolved_scope_granted ext self github_compat
  · exact (Finset.erase_subset _ _).trans (resolved_scope_granted ext self github_compat)

/-- The scope `__post_init__` settles on is grantable for the provider of the client_id. -/
theorem post_init_granted {ext : Externals} {db db' : Database} {self p : OAuthAuthorizationParams}
    {github_compat : Bool} (hempty : self.grant_type = "")
    (h : __post_init__ ext db self github_compat = (.ok p, db')) :
    ∃ provider, db.providers.find? (·.client_id = self.client_id) = some provider ∧
      p.scope ⊆ grantable_scopes ext provider github_compat self.scope := by
  obtain ⟨provider, checked, hfind, hcheck, hrest⟩ := post_init_ok h
  obtain ⟨hchecked, -⟩ := check_redirect_uri_ok (Prod.ext_iff.2 ⟨hcheck, rfl⟩ :
    check_redirect_uri ext db { self with provider } = (.ok checked, _))
  obtain ⟨granted, hgrant, hscope, -⟩ := check_rest_ok hrest
  rw [check_grant_eq _ (by rw [hchecked]; exact hempty)] at hgrant
  split at hgrant
  · cases hgrant
    have hsub := check_scope_granted hscope
    rw [hchecked] at hsub
    exact ⟨provider, hfind, hsub⟩
  · cases hgrant

/-- The code `create_code` makes: for the params' provider, with their scope and nonce, and,
    with a known method for its challenge, bound to the challenge exactly when one was sent. -/
theorem create_code_spec (self : OAuthAuthorizationParams) (fresh : Fresh)
    (hknown : truthy self.code_challenge = true →
      self.code_challenge_method ∈ [PKCE_METHOD_PLAIN, PKCE_METHOD_S256]) :
    (self.create_code fresh).provider = self.provider.pk ∧
    (self.create_code fresh).scope = self.scope ∧ (self.create_code fresh).nonce = self.nonce ∧
    (self.create_code fresh).code_challenge =
      (if truthy self.code_challenge then self.code_challenge else none) ∧
    (self.create_code fresh).code_challenge_method =
      (if truthy self.code_challenge then some self.code_challenge_method else none) := by
  unfold create_code
  by_cases htruthy : truthy self.code_challenge = true
  · have hmethod : self.code_challenge_method ≠ "" := fun hempty => by
      simpa [hempty] using hknown htruthy
    simp [htruthy, hmethod]
  · simp [htruthy]

/-- A token is issued only for a response type without a code or for the hybrid grant, so
    with `offline_access` only for the hybrid one. -/
theorem offline_access_hybrid {ext : Externals} {p : OAuthAuthorizationParams}
    (hvalid : p.Valid ext) (hgrant : p.grant_type ∉ [GrantTypes.AUTHORIZATION_CODE])
    (hoffline : SCOPE_OFFLINE_ACCESS ∈ p.scope) : p.response_type ∈
      [ResponseTypes.CODE_TOKEN, ResponseTypes.CODE_ID_TOKEN, ResponseTypes.CODE_ID_TOKEN_TOKEN] := by
  have hcode := hvalid.offline_access hoffline
  rcases response_type_grant_cases hvalid.grant_type with
    ⟨hrt, hg⟩ | ⟨hrt, -⟩ | ⟨hrt, -⟩ | ⟨hrt, -⟩ | ⟨hrt, -⟩ | ⟨hrt, -⟩ <;> rw [hrt] at hcode ⊢
  · exact absurd (List.mem_singleton.2 hg) hgrant
  all_goals first | decide | exact absurd hcode (by decide)

section Granted

variable {ext : Externals} {provider : OAuth2Provider} {github_compat : Bool}
  {p requested : OAuthAuthorizationParams} {redirect_uris : List RedirectURI}
  {grant_type : String} {response_mode : Option String}

/-- The code `create_code` makes on checked params is within the grant of the request they
    were read from. -/
theorem create_code_granted (hvalid : p.Valid ext)
    (hp : p = { requested with
      provider := { provider with redirect_uris := redirect_uris }
      grant_type := grant_type
      response_mode := response_mode
      scope := p.scope })
    (hscope : p.scope ⊆ grantable_scopes ext provider github_compat requested.scope)
    (fresh : Fresh) : GrantedCode ext provider github_compat requested (p.create_code fresh) := by
  obtain ⟨hpk, hnonce, hchallenge, hmethod⟩ : p.provider.pk = provider.pk ∧
      p.nonce = requested.nonce ∧ p.code_challenge = requested.code_challenge ∧
      p.code_challenge_method = requested.code_challenge_method := by
    rw [hp]
    exact ⟨rfl, rfl, rfl, rfl⟩
  obtain ⟨hcode_pk, hcode_scope, hcode_nonce, hcode_challenge, hcode_method⟩ :=
    create_code_spec p fresh hvalid.code_challenge
  have hknown := hvalid.code_challenge
  rw [hchallenge] at hcode_challenge hcode_method hknown
  rw [hmethod] at hcode_method hknown
  refine ⟨hcode_pk.trans hpk, by rw [hcode_scope]; exact hscope, hcode_nonce.trans hnonce,
    hcode_challenge, hcode_method, fun method hsome => ?_⟩
  rw [hcode_method] at hsome
  split_ifs at hsome with htruthy
  cases hsome
  exact hknown htruthy

/-- A token the fulfillment stage issues on checked params, which holds their scope, is
    within the grant of the request they were read from. -/
theorem token_granted (hvalid : p.Valid ext)
    (hp : p = { requested with
      provider := { provider with redirect_uris := redirect_uris }
      grant_type := grant_type
      response_mode := response_mode
      scope := p.scope })
    (hscope : p.scope ⊆ grantable_scopes ext provider github_compat requested.scope)
    {token : AccessToken} (hgrant : p.grant_type ∉ [GrantTypes.AUTHORIZATION_CODE])
    (htoken : token.scope = p.scope) : GrantedToken ext provider github_compat requested token := by
  have hresponse_type : p.response_type = requested.response_type := by rw [hp]
  refine ⟨htoken ▸ hscope, fun hoffline => ?_⟩
  rw [← hresponse_type]
  exact offline_access_hybrid hvalid hgrant (htoken ▸ hoffline)

end Granted

/-- What the fulfillment stage issues on the params `from_request` returns is within the
    grant of the request it read, for the provider of its client_id. -/
theorem from_request_issues_granted {ext : Externals} {db db' : Database} {request : HttpRequest}
    {github_compat : Bool} {p : OAuthAuthorizationParams}
    (h : from_request ext db request github_compat = (.ok p, db')) :
    ∃ max_age provider,
      parse_max_age ((request_query_dict request).get "max_age") = .ok max_age ∧
      db.providers.find? (·.client_id =
        ((request_query_dict request).get "client_id").getD "") = some provider ∧
      ∀ fresh db₁ db₂, Issues p fresh db₁ db₂ → IssuesGranted ext provider github_compat
        (of_query_dict (request_query_dict request) max_age) db₁ db₂ := by
  obtain ⟨max_age, hmax_age, hpost⟩ := from_request_ok h
  obtain ⟨provider, hfind, hscope⟩ := post_init_granted rfl hpost
  obtain ⟨hvalid, provider', hfind', hp⟩ := post_init_spec rfl hpost
  obtain rfl : provider = provider' := Option.some.inj (hfind.symm.trans hfind')
  refine ⟨max_age, provider, hmax_age, hfind, fun fresh db₁ db₂ ⟨code, token, hdb, hcode, htoken⟩ =>
    ⟨code, token, hdb, fun c hc => ?_, fun t ht => ?_⟩⟩
  · obtain ⟨rfl, -⟩ := hcode c hc
    exact create_code_granted hvalid hp hscope fresh
  · obtain ⟨hgrant, -, -, htscope⟩ := htoken t ht
    exact token_granted hvalid hp hscope hgrant htscope

end OAuthAuthorizationParams

/-- What the fulfillment stage issues on the plan the view handed to the flow executor, on
    any later database and fresh values: at most one code and one token, each within the
    grant of the request (`IssuesGranted`) for the provider of its client_id. -/
theorem planned_credentials_granted (ext : Externals) (db db' : Database)
    (session session' : Session) (request : HttpRequest) (github_compat user_has_access : Bool)
    (now : Int) (planned : Option (List Stage)) (flow : Nat) (silent : List Stage)
    (h : dispatch ext db session request github_compat user_has_access now planned =
      (.ok (.FlowExecutor flow silent), session', db'))
    (fresh : Fresh) (db'' : Database) :
    ∃ max_age provider plan,
      parse_max_age ((request_query_dict request).get "max_age") = .ok max_age ∧
      db.providers.find? (·.client_id =
        ((request_query_dict request).get "client_id").getD "") = some provider ∧
      session'.plan = some plan ∧
      IssuesGranted ext provider github_compat (of_query_dict (request_query_dict request) max_age)
        db'' (OAuthFulfillmentStage.get ext plan.context fresh db'').2 := by
  obtain ⟨params, provider, application, login_event, hpre, -, -, -, -, -, hget⟩ :=
    dispatch_flow_executor h
  obtain ⟨-, -, -, -, bindings, plan, -, rfl, -, hcontext, -⟩ := get_with_login_flow_executor hget
  obtain ⟨max_age, provider', hmax_age, hfind, hgranted⟩ :=
    from_request_issues_granted (pre_permission_check_ok hpre)
  refine ⟨max_age, provider', plan, hmax_age, hfind, rfl, ?_⟩
  rcases OAuthFulfillmentStage.get_db ext fresh plan.context db'' with
    hdb | ⟨params', stage_provider, stage_application, hparams', hdb⟩
  · exact ⟨none, none, by simp [hdb], by simp, by simp⟩
  · obtain rfl : params' = params := by
      rw [hcontext] at hparams'
      exact (Option.some.inj hparams').symm
    rw [hdb]
    exact hgranted fresh db'' _ (OAuthFulfillmentStage.fulfill_issues ext
      ⟨params', stage_provider, stage_application⟩ fresh plan.context.title db'')

theorem sample_code_dispatch_granted :
    sample_code_dispatch = (.ok (.FlowExecutor sample_provider.authorization_flow
      [.OAuthFulfillmentStage]), sample_code_dispatch.2.1, sample_code_dispatch.2.2) ∧
    ∃ max_age provider plan, max_age = none ∧ provider = sample_provider ∧
      sample_code_dispatch.2.1.plan = some plan ∧
      IssuesGranted sample_ext provider false (of_query_dict ⟨sample_code_query⟩ max_age) sample_db
        (OAuthFulfillmentStage.get sample_ext plan.context ⟨100, none, "c0de", "t0k"⟩ sample_db).2 :=
  have hrun : sample_code_dispatch = (.ok (.FlowExecutor sample_provider.authorization_flow
      [.OAuthFulfillmentStage]), sample_code_dispatch.2.1, sample_code_dispatch.2.2) := rfl
  let ⟨max_age, provider, plan, hmax_age, hfind, hplan, hgranted⟩ :=
    planned_credentials_granted _ _ _ _ _ _ _ _ _ _ _ _ hrun ⟨100, none, "c0de", "t0k"⟩ sample_db
  ⟨hrun, max_age, provider, plan, (Except.ok.inj hmax_age).symm,
    (Option.some.inj hfind).symm, hplan, hgranted⟩

end authentik.providers.oauth2.views.authorize
