import Authentik.Providers.OAuth2.Views.Authorize.Params

namespace authentik.providers.oauth2.views.authorize

open python django.http authentik.providers.oauth2

/-- The login event `get_login_event` finds on the session; `created` in microseconds. -/
structure LoginEvent where
  pk : String
  created : Int
  deriving DecidableEq, Repr

/-- The context the view gives the flow plan, under `PLAN_CONTEXT_PARAMS`,
    `PLAN_CONTEXT_APPLICATION`, `PLAN_CONTEXT_SSO` and `PLAN_CONTEXT_CONSENT_HEADER`. -/
structure PlanContext where
  params : Option OAuthAuthorizationParams
  application : Option Application
  sso : Bool
  consent_header : String
  title : Option String
  deriving DecidableEq

/-- A flow plan: its flow, the stages bound to it and its context. -/
structure FlowPlan where
  flow_pk : Nat
  bindings : List Stage
  context : PlanContext
  deriving DecidableEq

/-- `plan.append_stage(stage)` -/
def FlowPlan.append_stage (plan : FlowPlan) (stage : Stage) : FlowPlan :=
  { plan with bindings := plan.bindings ++ [stage] }

/-- The session keys the views read and write: the login event, the key
    `SESSION_KEY_LAST_LOGIN_UID`, and the plan `to_redirect` stores for the executor. -/
structure Session where
  login_event : Option LoginEvent
  last_login_uid : Option String
  plan : Option FlowPlan
  deriving DecidableEq

namespace AuthorizationFlowInitView

/-- `pre_permission_check`: the params of the request; their errors as the response the
    view is to return (a redirect for an `AuthorizeError`, a bad-request page for the
    other OAuth2 errors), and `login_required` for `prompt=none` without a user. -/
def pre_permission_check (ext : Externals) (db : Database) (request : HttpRequest)
    (github_compat : Bool) : Except Raised OAuthAuthorizationParams × Database :=
  if request.GET.len < 1 then (.error .Http404, db)
  else
    match OAuthAuthorizationParams.from_request ext db request github_compat with
    | (.error (.oauth2 (.AuthorizeError error)), db) =>
      (.error (.RequestValidationError (.AuthorizeErrorResponse error)), db)
    | (.error (.oauth2 error), db) =>
      (.error (.RequestValidationError (.BadRequestMessage error)), db)
    | (.error .DoesNotExist, db) => (.error .Http404, db)
    | (.error e, db) => (.error e, db)
    | (.ok params, db) =>
      if PROMPT_NONE ∈ params.prompt ∧ !request.user_is_authenticated then
        (.error (.RequestValidationError (.AuthorizeErrorResponse
          ⟨params.redirect_uri, "login_required", params.grant_type, params.state, none, none⟩)), db)
      else (.ok params, db)

/-- `resolve_provider_application`: the provider of the client_id of the query string,
    and its application. -/
def resolve_provider_application (db : Database) (request : HttpRequest) :
    Except Raised (OAuth2Provider × Application) := do
  let client_id := request.GET.get "client_id"
  let provider ← get_object_or_404 db.providers (some ·.client_id == client_id)
  let application ← provider.application db
  pure (provider, application)

/-- The `max_age` test of `get`: a `max_age` that is set and not zero, and a login event
    older than that many seconds. -/
def max_age_exceeded (max_age : Option Int) (login_time now : Int) : Bool :=
  match max_age with
  | some m => m != 0 && now - login_time > m * 1000000
  | none => false

/-- The `prompt=login` test of `get`: no login uid saved yet, or the saved one is the
    current login's, so no re-authentication happened since. -/
def login_pending (session : Session) (login_uid : String) : Bool :=
  session.last_login_uid.isNone || session.last_login_uid == some login_uid

/-- `get` once the login event is known: the `max_age` and `prompt=login` checks, each of
    which saves the login uid and asks to authenticate again, then the flow plan.
    `planned` is what the planner returns for the provider's flow, `none` for
    `FlowNonApplicableException`. -/
def get_with_login (params : OAuthAuthorizationParams) (provider : OAuth2Provider)
    (application : Application) (session : Session) (login_event : LoginEvent) (now : Int)
    (planned : Option (List Stage)) : HttpResponse × Session :=
  let login_uid := login_event.pk
  if max_age_exceeded params.max_age login_event.created now then
    (.NoPermission, { session with last_login_uid := some login_uid })
  else if PROMPT_LOGIN ∈ params.prompt ∧ login_pending session login_uid then
    (.NoPermission, { session with last_login_uid := some login_uid })
  else
    match planned with
    | none => (.NoPermissionAuthenticated, session)
    | some bindings =>
      let plan : FlowPlan := ⟨provider.authorization_flow, bindings,
        ⟨some params, some application, true,
          "You\x27re about to sign into " ++ application.name ++ ".", none⟩⟩
      let plan :=
        if PROMPT_CONSENT ∈ params.prompt ∧
            ¬ bindings.any (fun | .ConsentStage _ => true | _ => false) then
          plan.append_stage (.ConsentStage .ALWAYS_REQUIRE)
        else plan
      let plan := plan.append_stage .OAuthFulfillmentStage
      (.FlowExecutor provider.authorization_flow
        (if params.response_mode ∈ [some ResponseMode.QUERY, some ResponseMode.FRAGMENT] then
          [.OAuthFulfillmentStage] else []),
        { session with plan := some plan })

/-- `get`: without a login event on the session the user is sent to authenticate. -/
def get (params : OAuthAuthorizationParams) (provider : OAuth2Provider)
    (application : Application) (session : Session) (now : Int)
    (planned : Option (List Stage)) : HttpResponse × Session :=
  match session.login_event with
  | none => (.NoPermission, session)
  | some login_event => get_with_login params provider application session login_event now planned

/-- The handlers `View.dispatch` picks from on this view: it defines `get`, `View.setup` sets
    `head` to `get`, `View` defines `options`, and a method with no handler is answered by
    `http_method_not_allowed`. -/
inductive Handler where
  | get
  | options
  | http_method_not_allowed
  deriving DecidableEq, Repr

/-- `getattr(self, name, self.http_method_not_allowed)` on this view. -/
def handler_named (name : String) : Handler :=
  if name = "get" ∨ name = "head" then .get
  else if name = "options" then .options
  else .http_method_not_allowed

/-- The handler `View.dispatch` picks for `request.method`. -/
def handler (method : String) : Handler :=
  if str.lower method ∈ django.views.http_method_names then handler_named (str.lower method)
  else .http_method_not_allowed

/-- `_allowed_methods()`: the upper-cased methods this view has a handler for. -/
def allowed_methods : List String :=
  (django.views.http_method_names.filter (handler_named · ≠ .http_method_not_allowed)).map
    str.upper

example : handler "GET" = .get ∧ handler "HEAD" = .get ∧
    handler "POST" = .http_method_not_allowed ∧ allowed_methods = ["GET", "HEAD", "OPTIONS"] := by
  decide

/-- Modelled from the spec: the exceptions `PolicyAccessView.dispatch` answers itself (§4.4
    steps 1-2), a `RequestValidationError` by its response and `Http404` by a 404 page. -/
def caught : Raised → Except Raised HttpResponse
  | .RequestValidationError response => .ok response
  | .Http404 | .DoesNotExist => .ok .NotFound
  | e => .error e

/-- Modelled from the spec: `PolicyAccessView.dispatch`, which is not in src (§4.4 steps
    1-5): `pre_permission_check` and `resolve_provider_application`, whose exceptions are
    `caught`; then the user must be authenticated and pass the access policies
    (`user_has_access`) before Django's `View.dispatch` hands the request to the `handler` of
    its method. An exception it does not catch is the `error` of the result. -/
def dispatch (ext : Externals) (db : Database) (session : Session) (request : HttpRequest)
    (github_compat user_has_access : Bool) (now : Int) (planned : Option (List Stage)) :
    Except Raised HttpResponse × Session × Database :=
  match pre_permission_check ext db request github_compat with
  | (.error e, db) => (caught e, session, db)
  | (.ok params, db) =>
    match resolve_provider_application db request with
    | .error e => (caught e, session, db)
    | .ok (provider, application) =>
      if !request.user_is_authenticated then (.ok .NoPermission, session, db)
      else if !user_has_access then (.ok .NoPermissionAuthenticated, session, db)
      else
        match handler request.method with
        | .get =>
          let (response, session) := get params provider application session now planned
          (.ok response, session, db)
        | .options => (.ok (.Options allowed_methods), session, db)
        | .http_method_not_allowed => (.ok (.MethodNotAllowed allowed_methods), session, db)

end AuthorizationFlowInitView

end authentik.providers.oauth2.views.authorize
