import Authentik.Providers.OAuth2.Views.Authorize.Dispatch

namespace authentik.providers.oauth2.views.authorize

open python django.http authentik.providers.oauth2
open OAuthAuthorizationParams AuthorizationFlowInitView

/-- One step of a browser session as the init view sees it: a fresh login, whose event
    becomes the session's login event, or an invocation of `get` for an authorization request
    at a time, with what the planner returns for it. -/
inductive SessionStep where
  | login (event : LoginEvent)
  | invoke (params : OAuthAuthorizationParams) (now : Int) (planned : Option (List Stage))

/-- The session after the steps, with the view's answer to each invocation in order. The
    key `SESSION_KEY_LAST_LOGIN_UID` is the session's `last_login_uid`, which only `get`
    writes. -/
def SessionStep.run (provider : OAuth2Provider) (application : Application) :
    Session → List SessionStep → Session × List HttpResponse
  | session, [] => (session, [])
  | session, .login event :: steps =>
    run provider application { session with login_event := some event } steps
  | session, .invoke params now planned :: steps =>
    let answered := get params provider application session now planned
    let rest := run provider application answered.2 steps
    (rest.1, answered.1 :: rest.2)

namespace AuthorizationFlowInitView

variable (params : OAuthAuthorizationParams) (provider : OAuth2Provider)
  (application : Application) (session : Session) (event : LoginEvent) (now : Int)

theorem max_age_exceeded_iff (max_age : Option Int) (login_time : Int) :
    max_age_exceeded max_age login_time now = true ↔
      ∃ m, max_age = some m ∧ m ≠ 0 ∧ m * 1000000 < now - login_time := by
  cases max_age <;> simp [max_age_exceeded]

/-- Either re-authentication test of `get` saves the login's uid and asks to log in. -/
theorem get_with_login_reauthenticates (planned : Option (List Stage))
    (h : max_age_exceeded params.max_age event.created now = true ∨
      PROMPT_LOGIN ∈ params.prompt ∧ login_pending session event.pk = true) :
    get_with_login params provider application session event now planned =
      (.NoPermission, { session with last_login_uid := some event.pk }) := by
  unfold get_with_login
  by_cases hmax_age : max_age_exceeded params.max_age event.created now = true
  · rw [if_pos hmax_age]
  · rw [if_neg hmax_age, if_pos (h.resolve_left hmax_age)]

/-- Past both tests, `get` hands a plan to the flow executor and stores it on the session,
    which it leaves otherwise as it was. -/
theorem get_with_login_plans (bindings : List Stage)
    (hmax_age : max_age_exceeded params.max_age event.created now = false)
    (hlogin : ¬(PROMPT_LOGIN ∈ params.prompt ∧ login_pending session event.pk = true)) :
    ∃ silent plan, get_with_login params provider application session event now
      (some bindings) = (.FlowExecutor provider.authorization_flow silent,
        { session with plan := some plan }) := by
  unfold get_with_login
  rw [if_neg (by simp [hmax_age]), if_neg hlogin]
  exact ⟨_, _, rfl⟩

end AuthorizationFlowInitView

/-- After a prompt=login request has made the user log in again, the saved uid is the old
    login's and is never cleared: the first invocation of any later request passes the
    prompt=login test with no new login since it arrived. -/
theorem prompt_login_not_repeated (provider : OAuth2Provider) (application : Application)
    (session : Session) (first second : LoginEvent) (r₁ r₂ : OAuthAuthorizationParams)
    (t₁ t₂ t₃ : Int) (b₁ b₂ : List Stage) (hunsaved : session.last_login_uid = none)
    (hnew : first.pk ≠ second.pk) (hlogin : PROMPT_LOGIN ∈ r₁.prompt)
    (hage₁ : r₁.max_age = none) (hage₂ : r₂.max_age = none) :
    ∃ silent₁ silent₂, (SessionStep.run provider application session
      [.login first, .invoke r₁ t₁ (some b₁), .login second, .invoke r₁ t₂ (some b₁),
        .invoke r₂ t₃ (some b₂)]).2 =
      [.NoPermission, .FlowExecutor provider.authorization_flow silent₁,
        .FlowExecutor provider.authorization_flow silent₂] := by
  have hpending : login_pending { session with login_event := some first } first.pk = true := by
    simp [login_pending, hunsaved]
  simp only [SessionStep.run, AuthorizationFlowInitView.get, get_with_login_reauthenticates _ _ _ _ _ _ _
    (.inr ⟨hlogin, hpending⟩)]
  obtain ⟨silent₁, plan₁, hplan₁⟩ := get_with_login_plans r₁ provider application
    { session with login_event := some second, last_login_uid := some first.pk } second t₂ b₁
    (by simp [max_age_exceeded, hage₁]) (by simp [login_pending, hnew])
  obtain ⟨silent₂, plan₂, hplan₂⟩ := get_with_login_plans r₂ provider application
    { session with
      login_event := some second, last_login_uid := some first.pk, plan := some plan₁ }
    second t₃ b₂ (by simp [max_age_exceeded, hage₂])
    (by simp [login_pending, hnew])
  simp only [hplan₁, hplan₂]
  exact ⟨silent₁, silent₂, rfl⟩

/-- The params of a prompt=login request with the given state. -/
def sample_login_params (state : String) : OAuthAuthorizationParams :=
  of_query_dict ⟨[("prompt", "login"), ("state", state)]⟩ none

theorem second_login_request_not_reauthenticated :
    ∃ silent₁ silent₂, (SessionStep.run sample_provider sample_application ⟨none, none, none⟩
      [.login ⟨"1", 0⟩, .invoke (sample_login_params "a") 1 (some []), .login ⟨"2", 2⟩,
        .invoke (sample_login_params "a") 3 (some []), .invoke (sample_login_params "b") 4 (some [])]).2 =
      [.NoPermission, .FlowExecutor sample_provider.authorization_flow silent₁,
        .FlowExecutor sample_provider.authorization_flow silent₂] :=
  prompt_login_not_repeated _ _ _ _ _ _ _ _ _ _ _ _ rfl (by decide) (by decide) rfl rfl

/-- A `max_age` of 0, which `from_request` reads from `max_age=0`, is skipped by the
    truthiness test of `get`: however old the login, the view plans without asking to log in
    again and without saving the login's uid. -/
theorem max_age_zero_not_enforced (params : OAuthAuthorizationParams) (provider : OAuth2Provider)
    (application : Application) (session : Session) (event : LoginEvent) (now : Int)
    (bindings : List Stage) (hzero : params.max_age = some 0) (hlogin : PROMPT_LOGIN ∉ params.prompt) :
    ∃ silent plan, get_with_login params provider application session event now (some bindings) =
      (.FlowExecutor provider.authorization_flow silent, { session with plan := some plan }) :=
  get_with_login_plans params provider application session event now bindings
    (by simp [max_age_exceeded, hzero]) (fun h => hlogin h.1)

theorem max_age_zero_thousand_seconds_old :
    ∃ p, from_request sample_ext sample_db
        (sample_request (sample_code_query ++ [("max_age", "0")])) false = (.ok p, sample_db) ∧
      ∃ silent plan, get_with_login p sample_provider sample_application ⟨none, none, none⟩
        ⟨"1", 0⟩ 1000000000 (some []) =
        (.FlowExecutor sample_provider.authorization_flow silent, ⟨none, none, some plan⟩) :=
  have h : from_request sample_ext sample_db
      (sample_request (sample_code_query ++ [("max_age", "0")])) false =
      (.ok { of_query_dict ⟨sample_code_query ++ [("max_age", "0")]⟩ (some 0) with
        provider := sample_provider, grant_type := GrantTypes.AUTHORIZATION_CODE,
        response_mode := some ResponseMode.QUERY }, sample_db) := by decide
  ⟨_, h, max_age_zero_not_enforced _ _ _ _ _ _ _ rfl (by decide)⟩

/-- For every validated GET or HEAD request of a signed-in user who passes the access
    policies, whatever its prompt (`none` included), a session with no login event, an
    exceeded `max_age` or a pending prompt=login makes the view answer with the interactive
    authentication redirect, not with a `login_required` error. -/
theorem dispatch_asks_to_log_in_again (ext : Externals) (db db' : Database) (session : Session)
    (request : HttpRequest) (github_compat : Bool) (now : Int) (planned : Option (List Stage))
    (params : OAuthAuthorizationParams) (provider : OAuth2Provider) (application : Application)
    (hpre : pre_permission_check ext db request github_compat = (.ok params, db'))
    (hresolve : resolve_provider_application db' request = .ok (provider, application))
    (hauthenticated : request.user_is_authenticated = true)
    (hget : handler request.method = .get)
    (hreauth : session.login_event = none ∨ ∃ event, session.login_event = some event ∧
      (max_age_exceeded params.max_age event.created now = true ∨
        PROMPT_LOGIN ∈ params.prompt ∧ login_pending session event.pk = true)) :
    (dispatch ext db session request github_compat true now planned).1 = .ok .NoPermission := by
  simp only [dispatch, hpre, hresolve, hauthenticated, hget, AuthorizationFlowInitView.get]
  rcases hreauth with hnone | ⟨event, hevent, hreauth⟩
  · simp [hnone]
  · simp [hevent, get_with_login_reauthenticates _ _ _ _ _ _ _ hreauth]

/-- A code request with `prompt=none login`. -/
def sample_prompt_none_login : List (String × String) :=
  sample_code_query ++ [("prompt", "none login")]

theorem prompt_none_login_asks_to_log_in :
    (dispatch sample_ext sample_db ⟨some ⟨"1", 0⟩, none, none⟩
      (sample_request sample_prompt_none_login) false true 1 (some [])).1 = .ok .NoPermission :=
  have hpre : pre_permission_check sample_ext sample_db (sample_request sample_prompt_none_login)
      false = (.ok { of_query_dict ⟨sample_prompt_none_login⟩ none with
        provider := sample_provider, grant_type := GrantTypes.AUTHORIZATION_CODE,
        response_mode := some ResponseMode.QUERY }, sample_db) := by decide
  dispatch_asks_to_log_in_again _ _ _ _ _ _ _ _ _ sample_provider sample_application hpre
    (by decide) rfl (by decide) (.inr ⟨_, rfl, .inr ⟨by decide, by decide⟩⟩)

namespace AuthorizationFlowInitView

variable (params : OAuthAuthorizationParams) (provider : OAuth2Provider)
  (application : Application) (session : Session) (now : Int) (planned : Option (List Stage))

/-- `get` keeps the session's login event, and changes the saved login uid only when it asks
    the user to log in again, saving the current login's uid. -/
theorem get_session :
    (get params provider application session now planned).2.login_event = session.login_event ∧
    ((get params provider application session now planned).2.last_login_uid =
        session.last_login_uid ∨
      ∃ event, session.login_event = some event ∧ get params provider application session now
        planned = (.NoPermission, { session with last_login_uid := some event.pk })) := by
  unfold get
  split
  · exact ⟨rfl, .inl rfl⟩
  rename_i event hevent
  by_cases hre : max_age_exceeded params.max_age event.created now = true ∨
      PROMPT_LOGIN ∈ params.prompt ∧ login_pending session event.pk = true
  · rw [get_with_login_reauthenticates params provider application session event now planned hre]
    exact ⟨rfl, .inr ⟨event, hevent, rfl⟩⟩
  obtain ⟨hmax_age, hlogin⟩ := not_or.1 hre
  cases planned with
  | none =>
    unfold get_with_login
    rw [if_neg hmax_age, if_neg hlogin]
    exact ⟨rfl, .inl rfl⟩
  | some bindings =>
    obtain ⟨silent, plan, hplan⟩ := get_with_login_plans params provider application session
      event now bindings (by simpa using hmax_age) hlogin
    rw [hplan]
    exact ⟨rfl, .inl rfl⟩

/-- A prompt=login request reaches the flow executor only on a session that saved a login
    uid other than the current login's. -/
theorem get_prompt_login_flow_executor {flow : Nat} {silent : List Stage}
    (hprompt : PROMPT_LOGIN ∈ params.prompt)
    (h : (get params provider application session now planned).1 = .FlowExecutor flow silent) :
    ∃ event uid, session.login_event = some event ∧ session.last_login_uid = some uid ∧
      uid ≠ event.pk := by
  unfold get at h
  split at h
  · cases h
  rename_i event hevent
  by_cases hpending : login_pending session event.pk = true
  · rw [get_with_login_reauthenticates params provider application session event now planned
      (.inr ⟨hprompt, hpending⟩)] at h
    cases h
  cases hsaved : session.last_login_uid with
  | none => simp [login_pending, hsaved] at hpending
  | some uid =>
    exact ⟨event, uid, hevent, rfl, fun heq => hpending (by simp [login_pending, hsaved, heq])⟩

end AuthorizationFlowInitView

namespace SessionStep

variable (provider : OAuth2Provider) (application : Application)

theorem run_append_fst (session : Session) (pre post : List SessionStep) :
    (run provider application session (pre ++ post)).1 =
      (run provider application (run provider application session pre).1 post).1 := by
  induction pre generalizing session with
  | nil => rfl
  | cons step pre ih => cases step <;> exact ih _

@[simp] theorem run_login_fst (session : Session) (steps : List SessionStep) (event : LoginEvent) :
    (run provider application session (steps ++ [.login event])).1 =
      { (run provider application session steps).1 with login_event := some event } := by
  rw [run_append_fst]
  rfl

@[simp] theorem run_invoke_fst (session : Session) (steps : List SessionStep)
    (params : OAuthAuthorizationParams) (now : Int) (planned : Option (List Stage)) :
    (run provider application session (steps ++ [.invoke params now planned])).1 =
      (get params provider application (run provider application session steps).1 now planned).2 := by
  rw [run_append_fst]
  rfl

/-- Where a saved login uid comes from: in a run from a session with none saved, the saved
    uid is that of the login at the last invocation that asked the user to log in again, and
    the session's login since is that one or one of a later login step. -/
theorem run_saved_uid (session : Session) (hfresh : session.last_login_uid = none)
    (steps : List SessionStep) (uid : String)
    (hsaved : (run provider application session steps).1.last_login_uid = some uid) :
    ∃ pre params now planned mid event, steps = pre ++ .invoke params now planned :: mid ∧
      (run provider application session pre).1.login_event = some event ∧ event.pk = uid ∧
      get params provider application (run provider application session pre).1 now planned =
        (.NoPermission, { (run provider application session pre).1 with last_login_uid := some uid }) ∧
      ∀ event', (run provider application session steps).1.login_event = some event' →
        event' = event ∨ .login event' ∈ mid := by
  induction steps using List.reverseRecOn with
  | nil => simp [run, hfresh] at hsaved
  | append_singleton steps step ih =>
    cases step with
    | login event =>
      rw [run_login_fst] at hsaved ⊢
      obtain ⟨pre, params, now, planned, mid, event₀, rfl, hevent, hpk, hget, -⟩ := ih hsaved
      refine ⟨pre, params, now, planned, mid ++ [.login event], event₀, by simp, hevent, hpk,
        hget, fun event' h => .inr ?_⟩
      cases h
      simp
    | invoke params now planned =>
      rw [run_invoke_fst] at hsaved ⊢
      obtain ⟨hlogin, hunchanged | ⟨event, hevent, hget⟩⟩ :=
        get_session params provider application (run provider application session steps).1 now
          planned
      · obtain ⟨pre, params', now', planned', mid, event₀, rfl, hevent, hpk, hget, hsince⟩ :=
          ih (hunchanged ▸ hsaved)
        refine ⟨pre, params', now', planned', mid ++ [.invoke params now planned], event₀,
          by simp, hevent, hpk, hget, fun event' h => ?_⟩
        rcases hsince event' (hlogin ▸ h) with h | h
        · exact .inl h
        · exact .inr (List.mem_append_left _ h)
      · rw [hget] at hsaved
        obtain rfl := Option.some.inj hsaved
        refine ⟨steps, params, now, planned, [], event, rfl, hevent, rfl, hget, fun event' h => ?_⟩
        rw [hlogin, hevent] at h
        exact .inl (Option.some.inj h).symm

end SessionStep

/-- In every run of a session from one with no saved login uid, a prompt=login request
    reaches the flow executor only after an invocation that asked the user to log in again,
    and on a login of a later login step, with another uid than the login at that
    invocation. -/
theorem prompt_login_follows_new_login (provider : OAuth2Provider) (application : Application)
    (session : Session) (steps : List SessionStep) (params : OAuthAuthorizationParams)
    (now : Int) (planned : Option (List Stage)) (flow : Nat) (silent : List Stage)
    (hfresh : session.last_login_uid = none) (hprompt : PROMPT_LOGIN ∈ params.prompt)
    (h : (get params provider application (SessionStep.run provider application session steps).1
      now planned).1 = .FlowExecutor flow silent) :
    ∃ pre params' now' planned' mid event event', steps = pre ++ .invoke params' now' planned' :: mid ∧
      (SessionStep.run provider application session pre).1.login_event = some event ∧
      (get params' provider application (SessionStep.run provider application session pre).1 now'
        planned').1 = .NoPermission ∧
      (SessionStep.run provider application session steps).1.login_event = some event' ∧
      .login event' ∈ mid ∧ event'.pk ≠ event.pk := by
  obtain ⟨event', uid, hevent', hsaved, hne⟩ :=
    get_prompt_login_flow_executor params provider application _ now planned hprompt h
  obtain ⟨pre, params', now', planned', mid, event, rfl, hevent, rfl, hget, hsince⟩ :=
    SessionStep.run_saved_uid provider application session hfresh steps uid hsaved
  refine ⟨pre, params', now', planned', mid, event, event', rfl, hevent, by rw [hget],
    hevent', ?_, fun h => hne h.symm⟩
  rcases hsince event' hevent' with rfl | h
  · exact absurd rfl hne
  · exact h

/-- A login, a prompt=login request that asks to log in again, and a new login. -/
def sample_relogin_steps : List SessionStep :=
  [.login ⟨"1", 0⟩, .invoke (sample_login_params "a") 1 (some []), .login ⟨"2", 2⟩]

theorem sample_other_prompt_login_after_relogin :
    (get (sample_login_params "b") sample_provider sample_application
      (SessionStep.run sample_provider sample_application ⟨none, none, none⟩
        sample_relogin_steps).1 3 (some [])).1 = .FlowExecutor sample_provider.authorization_flow [] ∧
    ∃ pre params' now' planned' mid event event',
      sample_relogin_steps = pre ++ .invoke params' now' planned' :: mid ∧
      (SessionStep.run sample_provider sample_application ⟨none, none, none⟩ pre).1.login_event =
        some event ∧
      (get params' sample_provider sample_application (SessionStep.run sample_provider
        sample_application ⟨none, none, none⟩ pre).1 now' planned').1 = .NoPermission ∧
      (SessionStep.run sample_provider sample_application ⟨none, none, none⟩
        sample_relogin_steps).1.login_event = some event' ∧
      .login event' ∈ mid ∧ event'.pk ≠ event.pk :=
  have h : (get (sample_login_params "b") sample_provider sample_application
      (SessionStep.run sample_provider sample_application ⟨none, none, none⟩
        sample_relogin_steps).1 3 (some [])).1 = .FlowExecutor sample_provider.authorization_flow [] := by
    decide
  ⟨h, prompt_login_follows_new_login sample_provider sample_application ⟨none, none, none⟩
    sample_relogin_steps (sample_login_params "b") 3 (some []) _ _ rfl (by decide) h⟩

end authentik.providers.oauth2.views.authorize
