import Authentik.Providers.OAuth2.Views.Authorize.Fulfillment
import Authentik.Providers.OAuth2.Views.Authorize.Validation
import Authentik.Python.Urllib.Roundtrip

namespace authentik.providers.oauth2.views.authorize

open python python.urllib.parse django.http authentik.providers.oauth2
open OAuthAuthorizationParams OAuthFulfillmentStage

/-- What the runs on fixed inputs draw: a time, no login event, a code and a token. -/
def sample_fresh : Fresh := ⟨100, none, "c0de", "t0k"⟩

/-- The fulfillment stage for params validated against the sample provider. -/
def sample_stage (params : OAuthAuthorizationParams) : OAuthFulfillmentStage :=
  ⟨params, sample_provider, sample_application⟩

/-- Params of the implicit grant with the query mode, which validation accepts when the
    request names that mode: `create_response_uri` reads the code it did not make and raises
    `AttributeError`, for every redirect_uri that splits. -/
theorem create_response_uri_implicit_query_raises (ext : Externals) (self : OAuthFulfillmentStage)
    (fresh : Fresh) (db : Database) (hgrant : self.params.grant_type = GrantTypes.IMPLICIT)
    (hmode : self.params.response_mode = some ResponseMode.QUERY)
    (hsplit : (urlsplit ext.netloc self.params.redirect_uri).isSome) :
    (self.create_response_uri ext fresh db).1 = .error .AttributeError := by
  obtain ⟨uri, huri⟩ := Option.isSome_iff_exists.1 hsplit
  simp [create_response_uri, response_uri_body, huri, hgrant, hmode, code_value, Except.map]

/-- An implicit request naming the query mode. -/
def sample_implicit_query : List (String × String) :=
  [("client_id", "client"), ("redirect_uri", "https://rp.example/cb"),
    ("response_type", "id_token token"), ("response_mode", "query"), ("scope", "openid"),
    ("nonce", "n"), ("state", "xyz")]

theorem implicit_query_request_raises :
    ∃ p, from_request sample_ext sample_db (sample_request sample_implicit_query) false =
      (.ok p, sample_db) ∧
      ((sample_stage p).create_response_uri sample_ext sample_fresh sample_db).1 =
        .error .AttributeError :=
  have h : from_request sample_ext sample_db (sample_request sample_implicit_query) false =
      (.ok { of_query_dict ⟨sample_implicit_query⟩ none with
        provider := sample_provider, grant_type := GrantTypes.IMPLICIT }, sample_db) := by decide
  ⟨_, h, create_response_uri_implicit_query_raises _ _ _ _ rfl rfl (by decide)⟩

/-- A code request with the form_post mode and an empty state. -/
def sample_form_post_empty_state : List (String × String) :=
  [("client_id", "client"), ("redirect_uri", "https://rp.example/cb"), ("response_type", "code"),
    ("response_mode", "form_post"), ("state", "")]

/-- A code request with the fragment mode and a redirect_uri that has a fragment. -/
def sample_fragment_in_redirect_uri : List (String × String) :=
  [("client_id", "client"), ("redirect_uri", "https://rp.example/cb#x"), ("response_type", "code"),
    ("response_mode", "fragment"), ("state", "xyz")]

/-- Two runs where the RP does not get its state and credentials back: form_post with an
    empty state posts no `state` field (the blank value is dropped by `parse_qs` in
    `redirect`), and the fragment mode appends the parameters to the redirect_uri's own
    fragment with no separator, so the code arrives under the key `xcode`. -/
theorem response_loses_state_and_code :
    (∃ p db', from_request sample_ext sample_db (sample_request sample_form_post_empty_state)
        false = (.ok p, db') ∧
      ((sample_stage p).fulfill sample_ext none sample_fresh db').1 =
        .ok (.Autosubmit "Redirecting to app..." "https://rp.example/cb" [("code", "c0de")])) ∧
    (∃ p db', from_request sample_ext sample_open_db
        (sample_request sample_fragment_in_redirect_uri) false = (.ok p, db') ∧
      ((sample_stage p).create_response_uri sample_ext sample_fresh db').1 =
        .ok "https://rp.example/cb#xcode=c0de&state=xyz" ∧
      parse_qsl "xcode=c0de&state=xyz" true = [("xcode", "c0de"), ("state", "xyz")]) :=
  ⟨⟨_, _, (by decide : from_request sample_ext sample_db
      (sample_request sample_form_post_empty_state) false =
      (.ok { of_query_dict ⟨sample_form_post_empty_state⟩ none with
        provider := sample_provider, grant_type := GrantTypes.AUTHORIZATION_CODE,
        scope := {"openid", "profile"} }, sample_db)), by decide⟩,
   ⟨_, _, (by decide : from_request sample_ext sample_open_db
      (sample_request sample_fragment_in_redirect_uri) false =
      (.ok { of_query_dict ⟨sample_fragment_in_redirect_uri⟩ none with
        provider := { sample_provider with
          redirect_uris := [⟨.STRICT, "https://rp.example/cb#x"⟩] },
        grant_type := GrantTypes.AUTHORIZATION_CODE, scope := {"openid", "profile"} },
        sample_open_db.save_provider { sample_provider with
          redirect_uris := [⟨.STRICT, "https://rp.example/cb#x"⟩] })), by decide, by decide⟩⟩

theorem hybrid_id_token_iff {response_type grant_type : String}
    (hvalid : response_type_grant response_type = some grant_type) :
    grant_type = GrantTypes.HYBRID ∧ response_type ∈ [ResponseTypes.ID_TOKEN,
      ResponseTypes.ID_TOKEN_TOKEN, ResponseTypes.CODE_ID_TOKEN, ResponseTypes.CODE_ID_TOKEN_TOKEN] ↔
    response_type ∈ [ResponseTypes.CODE_ID_TOKEN, ResponseTypes.CODE_ID_TOKEN_TOKEN] := by
  rcases response_type_grant_cases hvalid with ⟨rfl, rfl⟩ | ⟨rfl, rfl⟩ | ⟨rfl, rfl⟩ | ⟨rfl, rfl⟩ |
    ⟨rfl, rfl⟩ | ⟨rfl, rfl⟩ <;> decide

namespace OAuthFulfillmentStage

theorem implicit_id_token_ok {ext : Externals} {self : OAuthFulfillmentStage}
    {code : Option AuthorizationCode} {token : AccessToken} {id_token : IDToken}
    (h : self.implicit_id_token ext code token = .ok id_token) :
    id_token.nonce = self.params.nonce ∧
    id_token.at_hash = (ext.IDToken_new self.provider token).at_hash ∧
    (self.params.response_type ∈ [ResponseTypes.CODE_ID_TOKEN, ResponseTypes.CODE_ID_TOKEN_TOKEN] →
      ∃ c, code_value code = .ok c ∧ id_token.c_hash = some (ext.hash_claim c)) ∧
    (self.params.response_type ∉ [ResponseTypes.CODE_ID_TOKEN, ResponseTypes.CODE_ID_TOKEN_TOKEN] →
      id_token.c_hash = (ext.IDToken_new self.provider token).c_hash) := by
  unfold implicit_id_token at h
  split_ifs at h with hcode
  · obtain ⟨c, hc, h⟩ := except_bind_eq_ok.1 h
    cases h
    exact ⟨rfl, rfl, fun _ => ⟨c, hc, rfl⟩, fun hn => absurd hcode hn⟩
  · cases h
    exact ⟨rfl, rfl, fun h => absurd h hcode, fun _ => rfl⟩


theorem create_implicit_response_ok {ext : Externals} {self : OAuthFulfillmentStage}
    {code : Option AuthorizationCode} {fresh : Fresh} {db : Database}
    {response : List (String × QueryValue)}
    (h : (self.create_implicit_response ext code fresh db).1 = .ok response) :
    ∃ token id_token, self.implicit_id_token ext code token = .ok id_token ∧
      (∀ v, ("id_token", .str v) ∈ response ↔ self.params.response_type ∈ [ResponseTypes.ID_TOKEN,
          ResponseTypes.ID_TOKEN_TOKEN, ResponseTypes.CODE_ID_TOKEN, ResponseTypes.CODE_ID_TOKEN_TOKEN] ∧
        v = ext.encode self.provider (if self.params.response_type ∈ [ResponseTypes.ID_TOKEN_TOKEN,
          ResponseTypes.CODE_ID_TOKEN_TOKEN, ResponseTypes.CODE_TOKEN] then
            { id_token with at_hash := some (ext.hash_claim fresh.token) } else id_token)) ∧
      (∀ c, ("code", .str c) ∈ response ↔
        self.params.grant_type = GrantTypes.HYBRID ∧ code_value code = .ok c) ∧
      (∀ a, ("access_token", .str a) ∈ response ↔ self.params.response_type ∈
        [ResponseTypes.ID_TOKEN_TOKEN, ResponseTypes.CODE_ID_TOKEN_TOKEN, ResponseTypes.CODE_TOKEN] ∧
        a = fresh.token) := by
  unfold create_implicit_response at h
  dsimp only at h
  split at h
  · cases h
  rename_i id_token hid
  refine ⟨_, id_token, hid, ?_⟩
  obtain ⟨response, hresponse, rfl⟩ := except_map_eq_ok.1 h
  simp (disch := decide) only [dict.mem_setitem_of_ne]
  by_cases hat : self.params.response_type ∈ [ResponseTypes.ID_TOKEN_TOKEN,
      ResponseTypes.CODE_ID_TOKEN_TOKEN, ResponseTypes.CODE_TOKEN] <;>
    by_cases hit : self.params.response_type ∈ [ResponseTypes.ID_TOKEN, ResponseTypes.ID_TOKEN_TOKEN,
      ResponseTypes.CODE_ID_TOKEN, ResponseTypes.CODE_ID_TOKEN_TOKEN] <;>
    by_cases hhybrid : self.params.grant_type = GrantTypes.HYBRID <;>
    simp only [hat, hit, hhybrid, if_true, if_false] at hresponse ⊢ <;>
    first
    | (obtain ⟨c, hc, rfl⟩ := except_map_eq_ok.1 hresponse
       simp only [hc, Except.ok.injEq])
    | cases hresponse
  all_goals
    simp (disch := decide) only [dict.mem_setitem_of_ne, dict.mem_setitem_self, List.not_mem_nil,
      QueryValue.str.injEq, true_and, false_and, iff_false, not_false_eq_true, implies_true,
      and_true, true_iff, and_self]
  all_goals exact fun _ => eq_comm

/-- `create_implicit_response` answers for every validated response type when it is given a
    code for the hybrid grant, as `create_response_uri` does. -/
theorem create_implicit_response_succeeds {ext : Externals} {self : OAuthFulfillmentStage}
    {code : Option AuthorizationCode} (fresh : Fresh) (db : Database)
    (hvalid : response_type_grant self.params.response_type = some self.params.grant_type)
    (hcode : self.params.grant_type = GrantTypes.HYBRID → code.isSome) :
    ∃ response, (self.create_implicit_response ext code fresh db).1 = .ok response := by
  have hvalue : self.params.grant_type = GrantTypes.HYBRID → ∃ c, code_value code = .ok c :=
    fun h => by
      obtain ⟨c, rfl⟩ := Option.isSome_iff_exists.1 (hcode h)
      exact ⟨c.code, rfl⟩
  have hid : ∀ token, ∃ id_token, self.implicit_id_token ext code token = .ok id_token := by
    intro token
    unfold implicit_id_token
    split_ifs with hcode_id_token
    · obtain ⟨c, hc⟩ := hvalue ((hybrid_id_token_iff hvalid).2 hcode_id_token).1
      exact ⟨_, by rw [hc]; rfl⟩
    · exact ⟨_, rfl⟩
  unfold create_implicit_response
  dsimp only
  split
  · rename_i e he
    obtain ⟨_, hok⟩ := hid _
    rw [hok] at he
    cases he
  by_cases hhybrid : self.params.grant_type = GrantTypes.HYBRID
  · obtain ⟨c, hc⟩ := hvalue hhybrid
    simp only [hhybrid, hc, if_true]
    exact ⟨_, rfl⟩
  · simp only [hhybrid, if_false]
    exact ⟨_, rfl⟩

/-- What `create_implicit_response` signs into an id_token it delivers: the params' nonce,
    the `c_hash` of the delivered code exactly when a code is delivered, and the `at_hash` of
    the delivered access token exactly when one is delivered. -/
theorem delivered_id_token_hashed (ext : Externals)
    (hnew : ∀ provider token, (ext.IDToken_new provider token).c_hash = none ∧
      (ext.IDToken_new provider token).at_hash = none)
    (self : OAuthFulfillmentStage)
    (hvalid : response_type_grant self.params.response_type = some self.params.grant_type)
    {code : Option AuthorizationCode} {fresh : Fresh} {db : Database}
    {response : List (String × QueryValue)}
    (h : (self.create_implicit_response ext code fresh db).1 = .ok response) :
    ∀ v, ("id_token", .str v) ∈ response → ∃ id_token : IDToken,
      v = ext.encode self.provider id_token ∧ id_token.nonce = self.params.nonce ∧
      (∀ c_hash, id_token.c_hash = some c_hash ↔
        ∃ c, ("code", .str c) ∈ response ∧ c_hash = ext.hash_claim c) ∧
      (∀ at_hash, id_token.at_hash = some at_hash ↔
        ∃ a, ("access_token", .str a) ∈ response ∧ at_hash = ext.hash_claim a) := by
  intro v hv
  obtain ⟨token, id_token, hid, hid_token, hcode, haccess⟩ := create_implicit_response_ok h
  obtain ⟨hit, rfl⟩ := (hid_token v).1 hv
  obtain ⟨hnonce, hat_hash, hc_hash, hno_c_hash⟩ := implicit_id_token_ok hid
  simp only [hcode, haccess]
  refine ⟨_, rfl, by split_ifs <;> exact hnonce, fun c_hash => ?_, fun at_hash => ?_⟩
  · have hsigned : (if self.params.response_type ∈ [ResponseTypes.ID_TOKEN_TOKEN,
        ResponseTypes.CODE_ID_TOKEN_TOKEN, ResponseTypes.CODE_TOKEN] then
          { id_token with at_hash := some (ext.hash_claim fresh.token) } else id_token).c_hash =
        id_token.c_hash := by
      split_ifs <;> rfl
    rw [hsigned]
    by_cases hcode_id_token : self.params.response_type ∈ [ResponseTypes.CODE_ID_TOKEN,
        ResponseTypes.CODE_ID_TOKEN_TOKEN]
    · obtain ⟨c, hc, hc_eq⟩ := hc_hash hcode_id_token
      have hhybrid := ((hybrid_id_token_iff hvalid).2 hcode_id_token).1
      rw [hc_eq]
      constructor
      · rintro ⟨⟩
        exact ⟨c, ⟨hhybrid, hc⟩, rfl⟩
      · rintro ⟨c', ⟨-, hc'⟩, rfl⟩
        rw [hc] at hc'
        cases hc'
        rfl
    · rw [hno_c_hash hcode_id_token, (hnew self.provider token).1]
      exact iff_of_false (fun h => by cases h) fun ⟨_, ⟨hhybrid, _⟩, _⟩ =>
        hcode_id_token ((hybrid_id_token_iff hvalid).1 ⟨hhybrid, hit⟩)
  · split_ifs with haccess_token
    · exact ⟨fun h => ⟨fresh.token, ⟨haccess_token, rfl⟩, (Option.some.inj h).symm⟩,
        fun ⟨_, ⟨_, ha⟩, h⟩ => by rw [h, ha]⟩
    · rw [hat_hash, (hnew self.provider token).2]
      exact iff_of_false (fun h => by cases h) fun ⟨_, ⟨h, _⟩, _⟩ => haccess_token h

/-- `create_implicit_response` answers, with an id_token exactly for the response types that
    name one, signed with the nonce, and with the hashes of the delivered code and access
    token exactly when these are delivered (`IDToken.new` is taken to set neither hash). -/
theorem implicit_id_token_hashes (ext : Externals)
    (hnew : ∀ provider token, (ext.IDToken_new provider token).c_hash = none ∧
      (ext.IDToken_new provider token).at_hash = none)
    (self : OAuthFulfillmentStage)
    (hvalid : response_type_grant self.params.response_type = some self.params.grant_type)
    (code : Option AuthorizationCode)
    (hcode : self.params.grant_type = GrantTypes.HYBRID → code.isSome) (fresh : Fresh) (db : Database) :
    ∃ response, (self.create_implicit_response ext code fresh db).1 = .ok response ∧
      (self.params.response_type ∈ [ResponseTypes.ID_TOKEN, ResponseTypes.ID_TOKEN_TOKEN,
          ResponseTypes.CODE_ID_TOKEN, ResponseTypes.CODE_ID_TOKEN_TOKEN] ↔
        ∃ v, ("id_token", .str v) ∈ response) ∧
      ∀ v, ("id_token", .str v) ∈ response → ∃ id_token : IDToken,
        v = ext.encode self.provider id_token ∧ id_token.nonce = self.params.nonce ∧
        (∀ c_hash, id_token.c_hash = some c_hash ↔
          ∃ c, ("code", .str c) ∈ response ∧ c_hash = ext.hash_claim c) ∧
        (∀ at_hash, id_token.at_hash = some at_hash ↔
          ∃ a, ("access_token", .str a) ∈ response ∧ at_hash = ext.hash_claim a) := by
  obtain ⟨response, h⟩ := create_implicit_response_succeeds fresh db hvalid hcode
  obtain ⟨_, _, -, hid_token, -⟩ := create_implicit_response_ok h
  refine ⟨response, h, ⟨fun hit => ⟨_, (hid_token _).2 ⟨hit, rfl⟩⟩, fun ⟨v, hv⟩ => ?_⟩,
    delivered_id_token_hashed ext hnew self hvalid h⟩
  exact ((hid_token v).1 hv).1

end OAuthFulfillmentStage

/-- Hybrid params whose response type delivers a code, an id_token and an access token. -/
def sample_hybrid_params : OAuthAuthorizationParams :=
  { sample_code_params with
    response_type := ResponseTypes.CODE_ID_TOKEN_TOKEN, grant_type := GrantTypes.HYBRID,
    nonce := some "n" }

/-- The sample externals with a signature that spells out the nonce and the two hashes. -/
def sample_signing_ext : Externals :=
  { sample_ext with encode := fun _ id_token => id_token.nonce.getD "" ++ "." ++
      id_token.c_hash.getD "" ++ "." ++ id_token.at_hash.getD "" }

theorem sample_hybrid_id_token_hashed :
    ∃ response id_token, ((sample_stage sample_hybrid_params).create_implicit_response
        sample_signing_ext (some (sample_hybrid_params.create_code sample_fresh)) sample_fresh
        sample_db).1 = .ok response ∧
      ("id_token", .str (sample_signing_ext.encode sample_provider id_token)) ∈ response ∧
      id_token.nonce = some "n" ∧ id_token.c_hash = some "c0de" ∧
      id_token.at_hash = some "t0k" :=
  have hcomputed : ((sample_stage sample_hybrid_params).create_implicit_response
      sample_signing_ext (some (sample_hybrid_params.create_code sample_fresh)) sample_fresh
      sample_db).1 = .ok [("access_token", .str "t0k"), ("id_token", .str "n.c0de.t0k"),
        ("code", .str "c0de"), ("token_type", .str "Bearer"), ("expires_in", .int 3600),
        ("state", .str "xyz")] := by decide
  have ⟨response, h, hdelivers, hhashes⟩ := implicit_id_token_hashes sample_signing_ext
    (fun _ _ => ⟨rfl, rfl⟩) (sample_stage sample_hybrid_params) (by decide)
    (some (sample_hybrid_params.create_code sample_fresh)) (fun _ => rfl) sample_fresh sample_db
  have hresponse := Except.ok.inj (h.symm.trans hcomputed)
  have ⟨v, hv⟩ := hdelivers.1 (by decide)
  have ⟨id_token, hv_eq, hnonce, hc_hash, hat_hash⟩ := hhashes v hv
  ⟨response, id_token, h, hv_eq ▸ hv, hnonce,
    (hc_hash "c0de").2 ⟨"c0de", by rw [hresponse]; decide, rfl⟩,
    (hat_hash "t0k").2 ⟨"t0k", by rw [hresponse]; decide, rfl⟩⟩

theorem create_code_code (self : OAuthAuthorizationParams) (fresh : Fresh) :
    (self.create_code fresh).code = fresh.code := by
  unfold create_code
  split_ifs <;> rfl

namespace OAuthFulfillmentStage

/-- The query the query mode builds: the redirect_uri's own parameters as `parse_qs` reads
    them, with `code` and `state` set. -/
theorem response_uri_body_query {ext : Externals} {self : OAuthFulfillmentStage}
    {uri : SplitResult} {code : Option AuthorizationCode} {fresh : Fresh} {db : Database}
    {s : String} (hmode : self.params.response_mode = some ResponseMode.QUERY)
    (h : (self.response_uri_body ext uri code fresh db).1 = .ok s) :
    ∃ c, code_value code = .ok c ∧
      let query_params := dict.setitem (dict.setitem ((parse_qs uri.query).map fun kv =>
        (kv.1, QueryValue.list kv.2)) "code" (.str c)) "state" (.list [self.state_value])
      s = urlunsplit { uri with query := urlencode query_params } := by
  unfold response_uri_body at h
  rw [if_pos hmode] at h
  obtain ⟨c, hc, rfl⟩ := except_map_eq_ok.1 h
  exact ⟨c, hc, rfl⟩

theorem create_response_uri_query {ext : Externals} {self : OAuthFulfillmentStage} {fresh : Fresh}
    {db : Database} {s : String} (hmode : self.params.response_mode = some ResponseMode.QUERY)
    (h : (self.create_response_uri ext fresh db).1 = .ok s) :
    ∃ uri, urlsplit ext.netloc self.params.redirect_uri = some uri ∧
      let query_params := dict.setitem (dict.setitem ((parse_qs uri.query).map fun kv =>
        (kv.1, QueryValue.list kv.2)) "code" (.str fresh.code)) "state" (.list [self.state_value])
      s = urlunsplit { uri with query := urlencode query_params } := by
  unfold create_response_uri at h
  split at h
  · cases h
  rename_i uri huri
  split at h
  rename_i code db1 hpair
  split at h
  · cases h
  obtain ⟨c, hc, rfl⟩ := response_uri_body_query hmode h
  refine ⟨uri, huri, ?_⟩
  split_ifs at hpair <;> cases hpair
  · cases hc
    rw [create_code_code]
  · cases hc

/-- In the query mode, for every redirect_uri and every code and state: the query of the URI
    `create_response_uri` returns decodes, keeping blank values, to the redirect_uri's own
    parameters as `parse_qs` reads them, which leaves out every blank and valueless one,
    with `code` and `state` set (an existing key keeps its place and takes the new value). -/
theorem query_response_decodes (ext : Externals) (self : OAuthFulfillmentStage) (fresh : Fresh)
    (db : Database) {s : String} (hmode : self.params.response_mode = some ResponseMode.QUERY)
    (h : (self.create_response_uri ext fresh db).1 = .ok s) :
    ∃ uri query, urlsplit ext.netloc self.params.redirect_uri = some uri ∧
      s = urlunsplit { uri with query } ∧
      let query_params := dict.setitem (dict.setitem ((parse_qs uri.query).map fun kv =>
        (kv.1, QueryValue.list kv.2)) "code" (.str fresh.code)) "state" (.list [self.state_value])
      parse_qsl query true = query_params.flatMap fun kv => kv.2.elements.map fun v => (kv.1, v) := by
  obtain ⟨uri, huri, hs⟩ := create_response_uri_query hmode h
  refine ⟨uri, _, huri, hs, ?_⟩
  intro query_params
  rw [parse_qsl, toList_urlencode]
  refine (parse_qsl_encoded_fields _ true).trans ?_
  simp only [Bool.or_true, List.filter_true]

end OAuthFulfillmentStage

/-- Code params whose redirect_uri has a query with a blank parameter. -/
def sample_blank_parameter_params : OAuthAuthorizationParams :=
  { sample_code_params with redirect_uri := "https://rp.example/cb?keep=&a=1" }

theorem blank_redirect_parameter_dropped :
    ∃ uri query, urlsplit sample_ext.netloc "https://rp.example/cb?keep=&a=1" = some uri ∧
      parse_qsl uri.query true = [("keep", ""), ("a", "1")] ∧
      "https://rp.example/cb?a=1&code=c0de&state=xyz" = urlunsplit { uri with query } ∧
      parse_qsl query true = [("a", "1"), ("code", "c0de"), ("state", "xyz")] :=
  have h : ((sample_stage sample_blank_parameter_params).create_response_uri sample_ext
      sample_fresh sample_db).1 = .ok "https://rp.example/cb?a=1&code=c0de&state=xyz" := by
    decide
  have ⟨uri, query, huri, hs, hquery⟩ := query_response_decodes sample_ext
    (sample_stage sample_blank_parameter_params) sample_fresh sample_db rfl h
  have hparts : uri = ⟨"https", "rp.example", "/cb", "keep=&a=1", ""⟩ :=
    Option.some.inj (huri.symm.trans (by decide))
  ⟨uri, query, huri, by rw [hparts]; decide, hs, hquery.trans (by rw [hparts]; decide)⟩

end authentik.providers.oauth2.views.authorize
