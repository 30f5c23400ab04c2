import Authentik.Providers.OAuth2.Views.Authorize.Fulfillment
import Authentik.Python.Urllib.Roundtrip

namespace authentik.providers.oauth2

open python.urllib.parse

/-- Where `response` sends the user agent back to the client whose redirect_uri is
    `redirect_uri`: a redirect goes to `redirect_uri` with only its query and fragment
    replaced, the form_post page posts to `redirect_uri`, and an OAuth error redirect carries
    `redirect_uri`. The other responses are authentik's own pages and send nothing to the
    client. -/
def HttpResponse.returns_to (ext : Externals) (redirect_uri : String) : HttpResponse → Prop
  | .RedirectScheme uri _ => ∃ parts query fragment, urlsplit ext.netloc redirect_uri = some parts ∧
      uri = urlunsplit { parts with query := query, fragment := fragment }
  | .Autosubmit _ url _ => url = redirect_uri
  | .AuthorizeErrorResponse error => error.redirect_uri = redirect_uri
  | _ => True

end authentik.providers.oauth2

namespace authentik.providers.oauth2.views.authorize

open python python.urllib.parse django.http authentik.providers.oauth2

namespace OAuthFulfillmentStage

/-- Every response mode places the response parameters in the query or the fragment of the
    split redirect_uri and keeps its other parts: the query is the redirect_uri's own or an
    `urlencode` output, and the fragment is its own, or its own followed by one. -/
theorem response_uri_body_ok {ext : Externals} {self : OAuthFulfillmentStage} {uri : SplitResult}
    {code : Option AuthorizationCode} {fresh : Fresh} {db : Database} {s : String}
    (h : (self.response_uri_body ext uri code fresh db).1 = .ok s) :
    ∃ query fragment, s = urlunsplit { uri with query := query, fragment := fragment } ∧
      (query = uri.query ∨ ∃ params, query = urlencode params) ∧
      (fragment = uri.fragment ∨ ∃ params, fragment = uri.fragment ++ urlencode params) := by
  unfold response_uri_body at h
  dsimp only at h
  split_ifs at h
  all_goals first
    | cases h
    | obtain ⟨_, -, rfl⟩ := except_map_eq_ok.1 h; exact ⟨_, _, rfl, .inr ⟨_, rfl⟩, .inl rfl⟩
    | obtain ⟨_, -, rfl⟩ := except_map_eq_ok.1 h; exact ⟨_, _, rfl, .inl rfl, .inr ⟨_, rfl⟩⟩

/-- `create_response_uri` returns the params' redirect_uri with only its query or fragment
    replaced, as `response_uri_body` replaces them. -/
theorem create_response_uri_ok {ext : Externals} {self : OAuthFulfillmentStage} {fresh : Fresh}
    {db : Database} {s : String} (h : (self.create_response_uri ext fresh db).1 = .ok s) :
    ∃ parts query fragment, urlsplit ext.netloc self.params.redirect_uri = some parts ∧
      s = urlunsplit { parts with query := query, fragment := fragment } ∧
      (query = parts.query ∨ ∃ params, query = urlencode params) ∧
      (fragment = parts.fragment ∨ ∃ params, fragment = parts.fragment ++ urlencode params) := by
  unfold create_response_uri at h
  split at h
  · cases h
  · rename_i uri huri
    split at h
    split at h
    · cases h
    · obtain ⟨query, fragment, rfl, hquery, hfragment⟩ := response_uri_body_ok h
      exact ⟨uri, query, fragment, huri, rfl, hquery, hfragment⟩

theorem redirect_error {ext : Externals} {self : OAuthFulfillmentStage} {title : Option String}
    {uri : String} {e : Raised} (h : self.redirect ext title uri = .error e) : e = .ValueError := by
  unfold redirect at h
  split at h
  · cases h; rfl
  · split_ifs at h

/-- `redirect` sends the user agent to `uri`, or posts to the params' redirect_uri. -/
theorem redirect_returns_to {ext : Externals} {self : OAuthFulfillmentStage}
    {title : Option String} {uri : String} {response : HttpResponse}
    (h : self.redirect ext title uri = .ok response)
    (huri : ∃ parts query fragment, urlsplit ext.netloc self.params.redirect_uri = some parts ∧
      uri = urlunsplit { parts with query := query, fragment := fragment }) :
    response.returns_to ext self.params.redirect_uri := by
  unfold redirect at h
  split at h
  · cases h
  · split_ifs at h <;> cases h
    · rfl
    · exact huri

/-- An `OAuth2Error` inside `create_response_uri` leaves it as its `server_error`, sent to
    the params' redirect_uri. -/
theorem create_response_uri_oauth2_error {ext : Externals} {self : OAuthFulfillmentStage}
    {fresh : Fresh} {db : Database} {error : OAuth2Error}
    (h : (self.create_response_uri ext fresh db).1 = .error (.oauth2 error)) :
    error = .AuthorizeError ⟨self.params.redirect_uri, "server_error", self.params.grant_type,
      self.params.state, none, none⟩ := by
  unfold create_response_uri at h
  split at h
  · cases h
  · split at h
    split at h
    · cases h; rfl
    · rename_i hnot
      exact (hnot error _ (Prod.ext h rfl)).elim

theorem fulfill_oauth2_error {ext : Externals} {self : OAuthFulfillmentStage} {title : Option String}
    {fresh : Fresh} {db : Database} {error : OAuth2Error}
    (h : (self.fulfill ext title fresh db).1 = .error (.oauth2 error)) :
    ∃ e, error = .AuthorizeError e ∧ e.redirect_uri = self.params.redirect_uri := by
  unfold fulfill at h
  split_ifs at h
  · cases h; exact ⟨_, rfl, rfl⟩
  rcases hcreate : self.create_response_uri ext fresh db with ⟨uri, db'⟩
  simp only [hcreate] at h
  rcases except_bind_eq_error.1 h with h | ⟨uri, -, h⟩
  · exact ⟨_, create_response_uri_oauth2_error (by rw [hcreate]; exact h), rfl⟩
  · cases redirect_error h

theorem fulfill_returns_to {ext : Externals} {self : OAuthFulfillmentStage}
    {title : Option String} {fresh : Fresh} {db : Database} {response : HttpResponse}
    (h : (self.fulfill ext title fresh db).1 = .ok response) :
    response.returns_to ext self.params.redirect_uri := by
  unfold fulfill at h
  split_ifs at h
  rcases hcreate : self.create_response_uri ext fresh db with ⟨uri, db'⟩
  simp only [hcreate] at h
  obtain ⟨uri, huri, h⟩ := except_bind_eq_ok.1 h
  obtain ⟨parts, query, fragment, hsplit, rfl, -⟩ :=
    create_response_uri_ok (by rw [hcreate]; exact huri)
  exact redirect_returns_to h ⟨parts, query, fragment, hsplit, rfl⟩

/-- Every response of the fulfillment stage that sends the user agent back to the client
    sends it to the redirect_uri of the params it restored: its redirects change only the
    query or the fragment, the form_post page posts to it, and its OAuth errors carry it. -/
theorem get_returns_to {ext : Externals} {context : PlanContext} {fresh : Fresh}
    {db : Database} {params : OAuthAuthorizationParams} {response : HttpResponse}
    (hparams : context.params = some params) (h : (get ext context fresh db).1 = .ok response) :
    response.returns_to ext params.redirect_uri := by
  unfold get at h
  simp only [hparams] at h
  split at h
  · cases h
  split at h
  · cases h
  split at h
  · rename_i hfulfill
    cases h
    obtain ⟨e, he, hredirect⟩ := fulfill_oauth2_error (congrArg Prod.fst hfulfill)
    cases he
    exact hredirect
  · cases h; trivial
  · cases h; trivial
  · have hreturns := fulfill_returns_to h
    exact hreturns

/-- `redirect` answers with a scheme redirect only to `uri` itself, allowing the scheme
    `urlsplit` reads in it. -/
theorem redirect_scheme {ext : Externals} {self : OAuthFulfillmentStage} {title : Option String}
    {uri uri' : String} {schemes : List String}
    (h : self.redirect ext title uri = .ok (.RedirectScheme uri' schemes)) :
    uri' = uri ∧ ∃ parsed, urlsplit ext.netloc uri = some parsed ∧ schemes = [parsed.scheme] := by
  unfold redirect at h
  split at h
  · cases h
  · rename_i parsed hparsed
    split_ifs at h <;> cases h
    exact ⟨rfl, parsed, hparsed, rfl⟩

theorem fulfill_redirect_scheme {ext : Externals} {self : OAuthFulfillmentStage}
    {title : Option String} {fresh : Fresh} {db : Database} {uri : String}
    {schemes : List String}
    (h : (self.fulfill ext title fresh db).1 = .ok (.RedirectScheme uri schemes)) :
    (self.create_response_uri ext fresh db).1 = .ok uri ∧
      ∃ parsed, urlsplit ext.netloc uri = some parsed ∧ schemes = [parsed.scheme] := by
  unfold fulfill at h
  split_ifs at h
  rcases hcreate : self.create_response_uri ext fresh db with ⟨created, db'⟩
  simp only [hcreate] at h
  obtain ⟨created, hcreated, hredirect⟩ := except_bind_eq_ok.1 h
  obtain ⟨rfl, hparsed⟩ := redirect_scheme hredirect
  exact ⟨hcreated, hparsed⟩

/-- A scheme redirect of the fulfillment stage is to the URI `create_response_uri` made for
    the restored params, allowing the scheme `urlsplit` reads in it. -/
theorem get_redirect_scheme {ext : Externals} {context : PlanContext} {fresh : Fresh}
    {db : Database} {params : OAuthAuthorizationParams} {uri : String} {schemes : List String}
    (hparams : context.params = some params)
    (h : (get ext context fresh db).1 = .ok (.RedirectScheme uri schemes)) :
    ∃ provider application,
      ((⟨params, provider, application⟩ : OAuthFulfillmentStage).create_response_uri ext fresh
        db).1 = .ok uri ∧
      ∃ parsed, urlsplit ext.netloc uri = some parsed ∧ schemes = [parsed.scheme] := by
  unfold get at h
  simp only [hparams] at h
  split at h
  · cases h
  split at h
  · cases h
  rename_i application _ _ provider _
  split at h
  · cases h
  · cases h
  · cases h
  · have hredirect := fulfill_redirect_scheme h
    exact ⟨provider, application, hredirect⟩

end OAuthFulfillmentStage

end authentik.providers.oauth2.views.authorize
