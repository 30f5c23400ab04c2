import Authentik.Providers.OAuth2.Views.Authorize.Fulfillment
import Authentik.Providers.OAuth2.Views.Authorize.Provisioning

namespace authentik.providers.oauth2

/-- `db'` is `db` with authorization codes and access tokens appended, and nothing else
    changed. -/
def Database.AppendOnly (db db' : Database) : Prop :=
  ∃ codes tokens, db' = { db with codes := db.codes ++ codes, tokens := db.tokens ++ tokens }

theorem Database.AppendOnly.refl (db : Database) : db.AppendOnly db := ⟨[], [], by simp⟩

end authentik.providers.oauth2

namespace authentik.providers.oauth2.views.authorize

open python python.urllib.parse django.http authentik.providers.oauth2
open OAuthAuthorizationParams

/-- What the authorization view may write before the flow runs, for the query dict it read:
    nothing, or the provider of the client_id saved with the redirect_uri as its one strict
    entry in place of its empty allow-list. -/
def ProvisioningWrite (db : Database) (query_dict : QueryDict) (db' : Database) : Prop :=
  db' = db ∨ ∃ provider,
    db.providers.find? (·.client_id = (query_dict.get "client_id").getD "") = some provider ∧
      provider.redirect_uris = [] ∧ db' = db.save_provider
        { provider with redirect_uris := [⟨.STRICT, (query_dict.get "redirect_uri").getD ""⟩] }

theorem from_request_writes (ext : Externals) (db : Database) (request : HttpRequest)
    (github_compat : Bool) :
    ProvisioningWrite db (request_query_dict request)
      (from_request ext db request github_compat).2 :=
  (from_request_db_cases ext db request github_compat).imp_right
    fun ⟨provider, hfind, hempty, _, hsave⟩ => ⟨provider, hfind, hempty, hsave⟩

theorem pre_permission_check_db (ext : Externals) (db : Database) (request : HttpRequest)
    (github_compat : Bool) :
    (AuthorizationFlowInitView.pre_permission_check ext db request github_compat).2 =
      if request.GET.len < 1 then db else (from_request ext db request github_compat).2 := by
  simp only [AuthorizationFlowInitView.pre_permission_check]
  split_ifs
  · rfl
  · split <;> rename_i hfrom <;> simp only [hfrom]
    split_ifs <;> rfl

theorem dispatch_db (ext : Externals) (db : Database) (session : Session)
    (request : HttpRequest) (github_compat user_has_access : Bool) (now : Int)
    (planned : Option (List Stage)) :
    (AuthorizationFlowInitView.dispatch ext db session request github_compat user_has_access now
      planned).2.2 =
      (AuthorizationFlowInitView.pre_permission_check ext db request github_compat).2 := by
  simp only [AuthorizationFlowInitView.dispatch]
  split <;> rename_i hpre <;> simp only [hpre]
  split
  · rfl
  · split_ifs
    · rfl
    · rfl
    · split <;> rfl

/-- The authorization view writes nothing to the database but the auto-provisioning of the
    client's empty allow-list with the request's redirect_uri: whatever the request, the
    session, the policies and the planner, also when it answers with an error. -/
theorem dispatch_writes_only_provisioning (ext : Externals) (db : Database) (session : Session)
    (request : HttpRequest) (github_compat user_has_access : Bool) (now : Int)
    (planned : Option (List Stage)) :
    ProvisioningWrite db (request_query_dict request)
      (AuthorizationFlowInitView.dispatch ext db session request github_compat user_has_access now
        planned).2.2 := by
  rw [dispatch_db, pre_permission_check_db]
  split_ifs
  · exact .inl rfl
  · exact from_request_writes ext db request github_compat

/-- What the fulfillment stage adds to `db` when it runs on `params`: at most one
    authorization code, the `create_code` of the params, for the code and hybrid grants only;
    and at most one access token, with the fresh token value and the params' scope, for the
    implicit and hybrid grants answered in fragment or form_post mode only. -/
def Issues (params : OAuthAuthorizationParams) (fresh : Fresh) (db db' : Database) : Prop :=
  ∃ code token, db' = { db with
      codes := db.codes ++ Option.toList code, tokens := db.tokens ++ Option.toList token } ∧
    (∀ c ∈ code, c = params.create_code fresh ∧
      params.grant_type ∈ [GrantTypes.AUTHORIZATION_CODE, GrantTypes.HYBRID]) ∧
    ∀ t ∈ token, params.grant_type ∉ [GrantTypes.AUTHORIZATION_CODE] ∧
      params.response_mode ∈ [some ResponseMode.FRAGMENT, some ResponseMode.FORM_POST] ∧
      t.token = fresh.token ∧ t.scope = params.scope

theorem Issues.refl (params : OAuthAuthorizationParams) (fresh : Fresh) (db : Database) :
    Issues params fresh db db := ⟨none, none, by simp, by simp, by simp⟩

theorem Issues.append_only {params : OAuthAuthorizationParams} {fresh : Fresh}
    {db db' : Database} (h : Issues params fresh db db') : db.AppendOnly db' :=
  let ⟨_, _, hdb, _⟩ := h
  ⟨_, _, hdb⟩

namespace OAuthFulfillmentStage

variable (ext : Externals) (self : OAuthFulfillmentStage) (fresh : Fresh)

theorem create_implicit_response_tokens (code : Option AuthorizationCode) (db : Database) :
    ∃ token : Option AccessToken, (self.create_implicit_response ext code fresh db).2 =
      { db with tokens := db.tokens ++ Option.toList token } ∧
      ∀ t ∈ token, t.token = fresh.token ∧ t.scope = self.params.scope := by
  simp only [create_implicit_response]
  split
  · exact ⟨none, by simp, by simp⟩
  · split <;> split <;> exact ⟨some _, rfl, by simp⟩

/-- Only the implicit and hybrid grants in fragment or form_post mode issue a token. -/
theorem response_uri_body_tokens (uri : SplitResult) (code : Option AuthorizationCode)
    (db : Database) :
    ∃ token : Option AccessToken, (self.response_uri_body ext uri code fresh db).2 =
      { db with tokens := db.tokens ++ Option.toList token } ∧
      ∀ t ∈ token, self.params.grant_type ∉ [GrantTypes.AUTHORIZATION_CODE] ∧
        self.params.response_mode ∈ [some ResponseMode.FRAGMENT, some ResponseMode.FORM_POST] ∧
        t.token = fresh.token ∧ t.scope = self.params.scope := by
  obtain ⟨token, htoken, hprops⟩ := create_implicit_response_tokens ext self fresh code db
  unfold response_uri_body
  dsimp only
  split_ifs with hmode hfragment hgrant hgrant hform_post
  all_goals first
    | exact ⟨token, htoken, fun t ht => ⟨‹_›, by simp [*], hprops t ht⟩⟩
    | exact ⟨none, by simp, by simp⟩

/-- `create_response_uri` issues what `Issues` allows: the code it makes for the code and
    hybrid grants, and the token of the implicit response. -/
theorem create_response_uri_issues (db : Database) :
    Issues self.params fresh db (self.create_response_uri ext fresh db).2 := by
  unfold create_response_uri
  split
  · exact .refl _ _ db
  · rename_i uri _
    split
    rename_i code db1 hpair
    have hcode : db1 = { db with codes := db.codes ++ Option.toList code } ∧
        ∀ c ∈ code, c = self.params.create_code fresh ∧
          self.params.grant_type ∈ [GrantTypes.AUTHORIZATION_CODE, GrantTypes.HYBRID] := by
      split_ifs at hpair with hgrant <;> cases hpair
      exacts [⟨rfl, by simpa using hgrant⟩, ⟨by simp, by simp⟩]
    obtain ⟨token, htoken, hprops⟩ := response_uri_body_tokens ext self fresh uri code db1
    have hissues : Issues self.params fresh db (self.response_uri_body ext uri code fresh db1).2 :=
      ⟨code, token, by rw [htoken, hcode.1], hcode.2, hprops⟩
    split
    · rename_i heq
      rw [heq] at hissues
      exact hissues
    · exact hissues

theorem fulfill_issues (title : Option String) (db : Database) :
    Issues self.params fresh db (self.fulfill ext title fresh db).2 := by
  unfold fulfill
  split_ifs
  · exact .refl _ _ db
  · split
    rename_i uri db1 hpair
    have h := create_response_uri_issues ext self fresh db
    rwa [hpair] at h

/-- The database after `get` is the one the fulfillment of the restored params leaves, or
    the one it was given. -/
theorem get_db (context : PlanContext) (db : Database) :
    (get ext context fresh db).2 = db ∨ ∃ params provider application,
      context.params = some params ∧ (get ext context fresh db).2 =
        (fulfill ext ⟨params, provider, application⟩ context.title fresh db).2 := by
  unfold get
  split
  · exact .inl rfl
  · split
    · exact .inl rfl
    · split
      · exact .inl rfl
      · rename_i params _ _ application _ _ provider _
        refine .inr ⟨params, provider, application, ‹_›, ?_⟩
        split
        all_goals first | rfl | (rename_i heq; rw [heq])

/-- The fulfillment stage changes no provider, application, code or token: it only appends
    the authorization code and the access token it issues, whatever the plan context and
    also when it answers with an error. -/
theorem get_appends_only (ext : Externals) (context : PlanContext) (fresh : Fresh)
    (db : Database) : db.AppendOnly (get ext context fresh db).2 := by
  rcases get_db ext fresh context db with h | ⟨params, provider, application, -, h⟩
  · rw [h]
    exact .refl db
  · rw [h]
    exact (fulfill_issues ext ⟨params, provider, application⟩ fresh context.title db).append_only

/-- One run of the fulfillment stage on the params of the plan issues at most one
    authorization code and at most one access token: the code only for the code and hybrid
    grants, and the token never for the code grant and never in query mode. -/
theorem get_issues_at_most_one_each (ext : Externals) (context : PlanContext) (fresh : Fresh)
    (db : Database) (params : OAuthAuthorizationParams) (hparams : context.params = some params) :
    Issues params fresh db (get ext context fresh db).2 := by
  rcases get_db ext fresh context db with h | ⟨params', provider, application, hparams', h⟩
  · rw [h]
    exact .refl params fresh db
  · obtain rfl : params' = params := Option.some.inj (hparams'.symm.trans hparams)
    rw [h]
    exact fulfill_issues ext ⟨params', provider, application⟩ fresh context.title db

example : Issues sample_code_params ⟨100, none, "c0de", "t0k"⟩ sample_db
    (get sample_ext ⟨some sample_code_params, some sample_application, true, "", none⟩
      ⟨100, none, "c0de", "t0k"⟩ sample_db).2 :=
  get_issues_at_most_one_each sample_ext _ _ sample_db sample_code_params rfl

end OAuthFulfillmentStage

end authentik.providers.oauth2.views.authorize
