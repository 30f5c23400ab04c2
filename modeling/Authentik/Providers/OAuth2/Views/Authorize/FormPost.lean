import Authentik.Providers.OAuth2.Views.Authorize.Redirects
import Authentik.Providers.OAuth2.Views.Authorize.Responses

namespace authentik.providers.oauth2.views.authorize

open python python.urllib.parse authentik.providers.oauth2

/-- What the form_post page posts for response parameters: each name with its first
    non-blank value, in order, the names whose values are all blank left out. -/
def autosubmit_attrs (params : List (String × QueryValue)) : List (String × String) :=
  params.filterMap fun kv => (kv.2.elements.filter (· ≠ "")).head?.map (kv.1, ·)

/-- `parse_qs` of the urlencoded parameters, with the first value of each name, is what the
    form_post page posts. -/
theorem parse_qs_urlencode_first {params : List (String × QueryValue)}
    (hnodup : (params.map (·.1)).Nodup) :
    (parse_qs (urlencode params)).map (fun kv => (kv.1, kv.2.headD "")) =
      autosubmit_attrs params := by
  rw [parse_qs_urlencode hnodup, autosubmit_attrs]
  clear hnodup
  induction params with
  | nil => rfl
  | cons kv params ih =>
    rw [List.map_cons, List.filter_cons, List.filterMap_cons]
    cases (kv.2.elements.filter (· ≠ "")) with
    | nil => simpa using ih
    | cons v vs => simpa using ih

namespace OAuthFulfillmentStage

/-- In the form_post mode, `redirect` of the split redirect_uri with the urlencoded response
    parameters as its query answers with the page posting those parameters to the
    redirect_uri. -/
theorem redirect_form_post {ext : Externals} {self : OAuthFulfillmentStage}
    {title : Option String} {parts : SplitResult} {params : List (String × QueryValue)}
    (hmode : self.params.response_mode = some ResponseMode.FORM_POST)
    (hparts : parts.Absolute ext.netloc) (hnodup : (params.map (·.1)).Nodup) :
    self.redirect ext title (urlunsplit { parts with query := urlencode params }) =
      .ok (.Autosubmit (title.getD ("Redirecting to " ++ self.application.name ++ "..."))
        self.params.redirect_uri (autosubmit_attrs params)) := by
  have hquery := hparts.with_query_fragment (urlencode_chars params) hparts.fragment
  rw [redirect, urlsplit_urlunsplit hquery]
  simp only [if_pos hmode, parse_qs_urlencode_first hnodup]

/-- The implicit response dict has distinct names: every entry is set by `setitem`. -/
theorem create_implicit_response_nodup {ext : Externals} {self : OAuthFulfillmentStage}
    {code : Option AuthorizationCode} {fresh : Fresh} {db : Database}
    {params : List (String × QueryValue)}
    (h : (self.create_implicit_response ext code fresh db).1 = .ok params) :
    (params.map (·.1)).Nodup := by
  unfold create_implicit_response at h
  dsimp only at h
  split at h
  · cases h
  obtain ⟨params, hparams, rfl⟩ := except_map_eq_ok.1 h
  refine dict.nodup_keys_setitem (dict.nodup_keys_setitem (dict.nodup_keys_setitem ?_ _ _) _ _) _ _
  split_ifs at hparams <;>
    first
    | obtain ⟨c, -, rfl⟩ := except_map_eq_ok.1 hparams
    | cases hparams
  all_goals
    try dsimp only
    repeat (first | exact List.nodup_nil | apply dict.nodup_keys_setitem)

/-- `create_implicit_response`'s dict does not read the database. -/
theorem create_implicit_response_params_db (ext : Externals) (self : OAuthFulfillmentStage)
    (code : Option AuthorizationCode) (fresh : Fresh) (db db' : Database) :
    (self.create_implicit_response ext code fresh db).1 =
      (self.create_implicit_response ext code fresh db').1 := by
  simp only [create_implicit_response]
  split <;> rfl

/-- The form_post mode puts the urlencoded response parameters in the query of the split
    redirect_uri: the code and the state for the code grant, the implicit response dict
    otherwise. -/
theorem response_uri_body_form_post {ext : Externals} {self : OAuthFulfillmentStage}
    {uri : SplitResult} {code : Option AuthorizationCode} {fresh : Fresh} {db : Database}
    {s : String} (hmode : self.params.response_mode = some ResponseMode.FORM_POST)
    (h : (self.response_uri_body ext uri code fresh db).1 = .ok s) :
    ∃ post_params, s = urlunsplit { uri with query := urlencode post_params } ∧
      if self.params.grant_type ∈ [GrantTypes.AUTHORIZATION_CODE] then
        self.code_response code = .ok post_params
      else (self.create_implicit_response ext code fresh db).1 = .ok post_params := by
  unfold response_uri_body at h
  rw [if_neg (by rw [hmode]; decide), if_neg (by rw [hmode]; decide), if_pos hmode] at h
  dsimp only at h
  split_ifs at h ⊢ <;>
    obtain ⟨post_params, hparams, rfl⟩ := except_map_eq_ok.1 h <;>
    exact ⟨post_params, rfl, hparams⟩

theorem create_response_uri_form_post {ext : Externals} {self : OAuthFulfillmentStage}
    {fresh : Fresh} {db : Database} {s : String}
    (hmode : self.params.response_mode = some ResponseMode.FORM_POST)
    (h : (self.create_response_uri ext fresh db).1 = .ok s) :
    ∃ parts post_params, urlsplit ext.netloc self.params.redirect_uri = some parts ∧
      s = urlunsplit { parts with query := urlencode post_params } ∧
      (post_params.map (·.1)).Nodup ∧
      if self.params.grant_type ∈ [GrantTypes.AUTHORIZATION_CODE] then
        post_params = [("code", .str fresh.code), ("state", .list [self.state_value])]
      else (self.create_implicit_response ext
        (if self.params.grant_type ∈ [GrantTypes.AUTHORIZATION_CODE, GrantTypes.HYBRID] then
          some (self.params.create_code fresh) else none) fresh db).1 = .ok post_params := by
  unfold create_response_uri at h
  split at h
  · cases h
  rename_i parts hparts
  split at h
  rename_i code db₁ hcode
  split at h
  · cases h
  obtain ⟨post_params, rfl, hparams⟩ := response_uri_body_form_post hmode h
  refine ⟨parts, post_params, hparts, rfl, ?_⟩
  by_cases hac : self.params.grant_type ∈ [GrantTypes.AUTHORIZATION_CODE]
  · rw [if_pos hac] at hparams ⊢
    rw [if_pos (List.mem_singleton.1 hac ▸ List.mem_cons_self _ _)] at hcode
    obtain ⟨rfl, -⟩ := Prod.mk.inj hcode
    obtain rfl := (Except.ok.inj hparams).symm
    simp [create_code_code]
  · rw [if_neg hac] at hparams ⊢
    have hcode' : code = if self.params.grant_type ∈ [GrantTypes.AUTHORIZATION_CODE,
        GrantTypes.HYBRID] then some (self.params.create_code fresh) else none := by
      split_ifs at hcode ⊢ <;> cases hcode <;> rfl
    rw [← hcode', create_implicit_response_params_db ext self code fresh db db₁]
    exact ⟨create_implicit_response_nodup hparams, hparams⟩

end OAuthFulfillmentStage

open OAuthFulfillmentStage

/-- In the form_post mode the fulfillment stage posts to the redirect_uri exactly the
    response parameters it built, each name with its first non-blank value, and none of the
    redirect_uri's own query parameters. -/
theorem form_post_posts_response_params (ext : Externals) (self : OAuthFulfillmentStage)
    (title : Option String) (fresh : Fresh) (db : Database) {parts : SplitResult}
    {response : HttpResponse} (hmode : self.params.response_mode = some ResponseMode.FORM_POST)
    (hsplit : urlsplit ext.netloc self.params.redirect_uri = some parts)
    (hscheme : parts.scheme ≠ "") (hnetloc : parts.netloc ≠ "")
    (h : (self.fulfill ext title fresh db).1 = .ok response) :
    ∃ post_params, response = .Autosubmit
        (title.getD ("Redirecting to " ++ self.application.name ++ "..."))
        self.params.redirect_uri (autosubmit_attrs post_params) ∧
      if self.params.grant_type ∈ [GrantTypes.AUTHORIZATION_CODE] then
        post_params = [("code", .str fresh.code), ("state", .list [self.state_value])]
      else (self.create_implicit_response ext
        (if self.params.grant_type ∈ [GrantTypes.AUTHORIZATION_CODE, GrantTypes.HYBRID] then
          some (self.params.create_code fresh) else none) fresh db).1 = .ok post_params := by
  unfold fulfill at h
  split_ifs at h
  rcases hcreate : self.create_response_uri ext fresh db with ⟨uri, db'⟩
  simp only [hcreate] at h
  obtain ⟨s, hs, h⟩ := except_bind_eq_ok.1 h
  obtain ⟨parts', post_params, hsplit', rfl, hnodup, hparams⟩ :=
    create_response_uri_form_post hmode (by rw [hcreate]; exact hs)
  obtain rfl : parts' = parts := Option.some.inj (hsplit'.symm.trans hsplit)
  rw [redirect_form_post hmode (urlsplit_absolute hsplit hscheme hnetloc) hnodup] at h
  exact ⟨post_params, (Except.ok.inj h).symm, hparams⟩

/-- The sample code params answered in the form_post mode. -/
def sample_form_post_params : OAuthAuthorizationParams :=
  { sample_code_params with response_mode := some ResponseMode.FORM_POST }

theorem sample_form_post_posts_code_state :
    ((sample_stage sample_form_post_params).fulfill sample_ext none sample_fresh sample_db).1 =
      .ok (.Autosubmit "Redirecting to app..." "https://rp.example/cb"
        [("code", "c0de"), ("state", "xyz")]) ∧
    ∃ post_params, HttpResponse.Autosubmit "Redirecting to app..." "https://rp.example/cb"
        [("code", "c0de"), ("state", "xyz")] =
      .Autosubmit "Redirecting to app..." "https://rp.example/cb" (autosubmit_attrs post_params) ∧
      post_params = [("code", .str "c0de"), ("state", .list ["xyz"])] :=
  have h : ((sample_stage sample_form_post_params).fulfill sample_ext none sample_fresh
      sample_db).1 = .ok (.Autosubmit "Redirecting to app..." "https://rp.example/cb"
        [("code", "c0de"), ("state", "xyz")]) := by
    decide
  ⟨h, form_post_posts_response_params sample_ext (sample_stage sample_form_post_params) none
    sample_fresh sample_db rfl
    (by decide : urlsplit sample_ext.netloc "https://rp.example/cb" =
      some ⟨"https", "rp.example", "/cb", "", ""⟩) (by decide) (by decide) h⟩

end authentik.providers.oauth2.views.authorize
