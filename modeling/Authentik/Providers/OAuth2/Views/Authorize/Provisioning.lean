import Authentik.Providers.OAuth2.Views.Authorize.Validation

namespace authentik.providers.oauth2.views.authorize

open python python.urllib.parse django.http authentik.providers.oauth2
open OAuthAuthorizationParams

/-- The steps of concurrent authorization requests on the providers and of other writers:
    request `i` reads the provider of its client_id (`__post_init__`), runs
    `check_redirect_uri` on its copy (which saves a provisioned allow-list), and answers at
    its redirect_uri once the check has passed; another writer saves a provider record. -/
inductive RaceStep where
  | read (i : Nat)
  | check (i : Nat)
  | deliver (i : Nat)
  | write (provider : OAuth2Provider)
  deriving DecidableEq

/-- The shared database, each request's copy of its params after its read and after a
    passed check, and the redirect_uris answered at so far. -/
structure Race where
  db : Database
  held : Nat → Option OAuthAuthorizationParams
  passed : Nat → Option OAuthAuthorizationParams
  delivered : List String

namespace Race

/-- No request has started. -/
def init (db : Database) : Race := ⟨db, fun _ => none, fun _ => none, []⟩

/-- One step, for the requests' params `requests`. -/
def step (ext : Externals) (requests : Nat → OAuthAuthorizationParams) (s : Race) :
    RaceStep → Race
  | .read i =>
    match s.db.providers.find? (·.client_id = (requests i).client_id) with
    | some provider => { s with held := Function.update s.held i (some { requests i with provider }) }
    | none => s
  | .check i =>
    match s.held i with
    | some self =>
      let checked := check_redirect_uri ext s.db self
      { s with db := checked.2, passed := Function.update s.passed i checked.1.toOption }
    | none => s
  | .deliver i =>
    match s.passed i with
    | some self => { s with delivered := s.delivered ++ [self.redirect_uri] }
    | none => s
  | .write provider => { s with db := s.db.save_provider provider }

/-- The state after the steps of a schedule, in order. -/
def run (ext : Externals) (requests : Nat → OAuthAuthorizationParams) (s : Race)
    (schedule : List RaceStep) : Race :=
  schedule.foldl (step ext requests) s

end Race

/-- What `check_redirect_uri` leaves in the database: a provider with an empty allow-list is
    saved with the redirect_uri as its one strict entry, whatever the checks after it say. -/
theorem check_redirect_uri_db (ext : Externals) (db : Database) (self : OAuthAuthorizationParams) :
    (check_redirect_uri ext db self).2 =
      if self.redirect_uri ≠ "" ∧ self.provider.redirect_uris = [] then
        db.save_provider { self.provider with redirect_uris := [⟨.STRICT, self.redirect_uri⟩] }
      else db := by
  unfold check_redirect_uri provision_redirect_uri
  by_cases hempty : self.redirect_uri = ""
  · simp [hempty]
  · by_cases hlist : self.provider.redirect_uris = [] <;> simp [hempty, hlist]

/-- The database `from_request` leaves, whether its params are built or a check raises: the
    one it was given, or the client_id's provider saved with the redirect_uri as its one
    strict entry in place of its empty allow-list. -/
theorem from_request_db_cases (ext : Externals) (db : Database) (request : HttpRequest)
    (github_compat : Bool) :
    (from_request ext db request github_compat).2 = db ∨
      ∃ provider, db.providers.find? (·.client_id =
          ((request_query_dict request).get "client_id").getD "") = some provider ∧
        provider.redirect_uris = [] ∧ ((request_query_dict request).get "redirect_uri").getD "" ≠ "" ∧
        (from_request ext db request github_compat).2 = db.save_provider { provider with
          redirect_uris := [⟨.STRICT, ((request_query_dict request).get "redirect_uri").getD ""⟩] } := by
  simp only [from_request]
  split
  · exact .inl rfl
  · unfold __post_init__
    split
    · exact .inl rfl
    · rename_i provider hfind
      rw [check_redirect_uri_db]
      split_ifs with hprovisioned
      · exact .inr ⟨provider, hfind, hprovisioned.2, hprovisioned.1, rfl⟩
      · exact .inl rfl

/-- What a request leaves in the database, whether its params are built or a check fails:
    the database as it was, but when `max_age` parses, the client_id's provider has an empty
    allow-list and the redirect_uri is not empty, that provider saved with the redirect_uri
    as its one strict entry. The save stays when a check after it raises. -/
theorem from_request_stored_redirect_uris (ext : Externals) (db : Database) (request : HttpRequest)
    (github_compat : Bool) :
    ((from_request ext db request github_compat).2 = db ∨
      ∃ provider, db.providers.find? (·.client_id =
          ((request_query_dict request).get "client_id").getD "") = some provider ∧
        provider.redirect_uris = [] ∧ ((request_query_dict request).get "redirect_uri").getD "" ≠ "" ∧
        (from_request ext db request github_compat).2 = db.save_provider { provider with
          redirect_uris := [⟨.STRICT, ((request_query_dict request).get "redirect_uri").getD ""⟩] }) ∧
    ∀ max_age provider, parse_max_age ((request_query_dict request).get "max_age") = .ok max_age →
      db.providers.find? (·.client_id =
          ((request_query_dict request).get "client_id").getD "") = some provider →
      provider.redirect_uris = [] → ((request_query_dict request).get "redirect_uri").getD "" ≠ "" →
      (from_request ext db request github_compat).2 = db.save_provider { provider with
        redirect_uris := [⟨.STRICT, ((request_query_dict request).get "redirect_uri").getD ""⟩] } := by
  refine ⟨from_request_db_cases ext db request github_compat,
    fun max_age provider hmax_age hfind hempty hne => ?_⟩
  simp only [from_request, hmax_age, __post_init__, of_query_dict, hfind]
  rw [check_redirect_uri_db, if_pos ⟨hne, hempty⟩]

/-- A code request to the sample provider with an empty allow-list, whose redirect_uri has the
    forbidden scheme `javascript`. -/
def sample_javascript_request : HttpRequest :=
  sample_request [("client_id", "client"), ("redirect_uri", "javascript:alert(1)"),
    ("response_type", "code")]

theorem javascript_request_saved :
    (from_request sample_ext sample_open_db sample_javascript_request false).2 =
      sample_open_db.save_provider { sample_provider with
        redirect_uris := [⟨.STRICT, "javascript:alert(1)"⟩] } :=
  (from_request_stored_redirect_uris sample_ext sample_open_db sample_javascript_request false).2
    none { sample_provider with redirect_uris := [] } rfl rfl rfl (by decide)

theorem forbidden_scheme_request_provisions :
    (from_request sample_ext sample_open_db sample_javascript_request false).1 =
      .error (.oauth2 (.RedirectUriError "javascript:alert(1)"
        [⟨.STRICT, "javascript:alert(1)"⟩] "redirect_uri_forbidden_scheme")) ∧
    (from_request sample_ext sample_open_db sample_javascript_request false).2.providers =
      [{ sample_provider with redirect_uris := [⟨.STRICT, "javascript:alert(1)"⟩] }] := by
  decide

theorem Database.save_provider_single {db : Database} {p q : OAuth2Provider}
    (hdb : db.providers = [p]) (hpk : q.pk = p.pk) : (db.save_provider q).providers = [q] := by
  simp [Database.save_provider, hdb, hpk]

namespace Race

section SameUri

variable (ext : Externals) (requests : Nat → OAuthAuthorizationParams) (base : OAuth2Provider)
  (u : String)

/-- What a race keeps when every request carries the redirect_uri `u` and no other writer
    saves: the one provider is `base` with an empty allow-list or `[strict u]`, and keeps
    the latter once it has it; a request's copy is one of the two, with the latter only once
    the database has it; a passed check and every answer are at `u`, after the database has
    `[strict u]`. -/
structure SameUri (s : Race) : Prop where
  stored : s.db.providers = [{ base with redirect_uris := [] }] ∨
    s.db.providers = [{ base with redirect_uris := [⟨.STRICT, u⟩] }]
  held : ∀ i self, s.held i = some self → self.redirect_uri = u ∧
    (self.provider = { base with redirect_uris := [] } ∨
      self.provider = { base with redirect_uris := [⟨.STRICT, u⟩] } ∧
        s.db.providers = [{ base with redirect_uris := [⟨.STRICT, u⟩] }])
  passed : ∀ i self, s.passed i = some self → self.redirect_uri = u ∧
    s.db.providers = [{ base with redirect_uris := [⟨.STRICT, u⟩] }]
  delivered : ∀ d ∈ s.delivered, d = u ∧
    s.db.providers = [{ base with redirect_uris := [⟨.STRICT, u⟩] }]

variable {ext requests base u}

theorem SameUri.read (huri : ∀ i, (requests i).redirect_uri = u) {s : Race}
    (hs : SameUri base u s) (i : Nat) : SameUri base u (step ext requests s (.read i)) := by
  simp only [step]
  split
  · rename_i provider hfind
    have hstored : provider = { base with redirect_uris := [] } ∨
        provider = { base with redirect_uris := [⟨.STRICT, u⟩] } ∧
          s.db.providers = [{ base with redirect_uris := [⟨.STRICT, u⟩] }] := by
      have hmem := List.mem_of_find?_eq_some hfind
      rcases hs.stored with h | h <;> rw [h] at hmem <;> simp_all
    refine ⟨hs.stored, fun j self hj => ?_, hs.passed, hs.delivered⟩
    by_cases hji : j = i
    · subst hji
      simp only [Function.update_same, Option.some.injEq] at hj
      subst hj
      exact ⟨huri j, hstored⟩
    · simp only [Function.update_noteq hji] at hj
      exact hs.held j self hj
  · exact hs

/-- A check by a request of a `SameUri` race leaves the provider as it was or gives it
    `[strict u]`, and passes only at `u` with the provider holding `[strict u]`. -/
theorem SameUri.check_db {s : Race} (hs : SameUri base u s) {i : Nat}
    {self : OAuthAuthorizationParams} (hheld : s.held i = some self) :
    ((check_redirect_uri ext s.db self).2.providers = s.db.providers ∨
      (check_redirect_uri ext s.db self).2.providers =
        [{ base with redirect_uris := [⟨.STRICT, u⟩] }]) ∧
    ∀ p, (check_redirect_uri ext s.db self).1 = .ok p → p.redirect_uri = u ∧
      (check_redirect_uri ext s.db self).2.providers =
        [{ base with redirect_uris := [⟨.STRICT, u⟩] }] := by
  obtain ⟨hself_uri, hself_provider⟩ := hs.held i self hheld
  have hpassed : ∀ p, (check_redirect_uri ext s.db self).1 = .ok p → p.redirect_uri = u := by
    intro p hp
    rw [(check_redirect_uri_ok (Prod.ext_iff.2 ⟨hp, rfl⟩ :
      check_redirect_uri ext s.db self = (.ok p, _))).1]
    exact hself_uri
  rw [check_redirect_uri_db]
  split_ifs with hsave
  · have hprovider : self.provider = { base with redirect_uris := [] } := by
      rcases hself_provider with h | ⟨h, -⟩
      · exact h
      · rw [h] at hsave; simp at hsave
    have hnew : (s.db.save_provider { self.provider with
        redirect_uris := [⟨.STRICT, self.redirect_uri⟩] }).providers =
        [{ base with redirect_uris := [⟨.STRICT, u⟩] }] := by
      rcases hs.stored with h | h <;> rw [Database.save_provider_single h] <;>
        simp [hprovider, hself_uri]
    exact ⟨.inr hnew, fun p hp => ⟨hpassed p hp, hnew⟩⟩
  · refine ⟨.inl rfl, fun p hp => ⟨hpassed p hp, ?_⟩⟩
    rcases hself_provider with h | ⟨-, h⟩
    · have hok := (check_redirect_uri_ok (Prod.ext_iff.2 ⟨hp, rfl⟩ :
        check_redirect_uri ext s.db self = (.ok p, _))).2
      simp [redirect_uri_allowed, h] at hok hsave
      exact absurd hsave hok.1.1
    · exact h

theorem SameUri.check {s : Race} (hs : SameUri base u s) (i : Nat) :
    SameUri base u (step ext requests s (.check i)) := by
  simp only [step]
  split
  · rename_i self hheld
    obtain ⟨hdb, hpassed⟩ := hs.check_db hheld
    have hkeep : s.db.providers = [{ base with redirect_uris := [⟨.STRICT, u⟩] }] →
        (check_redirect_uri ext s.db self).2.providers =
          [{ base with redirect_uris := [⟨.STRICT, u⟩] }] := fun h => hdb.elim (· ▸ h) id
    refine ⟨hdb.elim (· ▸ hs.stored) .inr, fun j held hj => ?_, fun j p hj => ?_,
      fun d hd => ?_⟩
    · obtain ⟨huri, hprovider⟩ := hs.held j held hj
      exact ⟨huri, hprovider.imp_right fun h => ⟨h.1, hkeep h.2⟩⟩
    · by_cases hji : j = i
      · subst hji
        simp only [Function.update_same] at hj
        exact hpassed p (except_toOption_eq_some.1 hj)
      · simp only [Function.update_noteq hji] at hj
        obtain ⟨huri, hstored⟩ := hs.passed j p hj
        exact ⟨huri, hkeep hstored⟩
    · obtain ⟨huri, hstored⟩ := hs.delivered d hd
      exact ⟨huri, hkeep hstored⟩
  · exact hs

theorem SameUri.deliver {s : Race} (hs : SameUri base u s) (i : Nat) :
    SameUri base u (step ext requests s (.deliver i)) := by
  simp only [step]
  split
  · rename_i self hpassed
    refine ⟨hs.stored, hs.held, hs.passed, fun d hd => ?_⟩
    rcases List.mem_append.1 hd with hd | hd
    · exact hs.delivered d hd
    · rw [List.mem_singleton.1 hd]
      exact hs.passed i self hpassed
  · exact hs

/-- Every step of a request keeps `SameUri`. -/
theorem SameUri.step (huri : ∀ i, (requests i).redirect_uri = u) {s : Race}
    (hs : SameUri base u s) {a : RaceStep} (ha : ∀ provider, a ≠ .write provider) :
    SameUri base u (Race.step ext requests s a) := by
  cases a with
  | read i => exact hs.read huri i
  | check i => exact hs.check i
  | deliver i => exact hs.deliver i
  | write provider => exact absurd rfl (ha provider)

/-- A schedule of request steps keeps `SameUri`. -/
theorem SameUri.run (huri : ∀ i, (requests i).redirect_uri = u) (schedule : List RaceStep)
    (hschedule : ∀ provider, .write provider ∉ schedule) {s : Race} (hs : SameUri base u s) :
    SameUri base u (Race.run ext requests s schedule) := by
  induction schedule generalizing s with
  | nil => exact hs
  | cons a schedule ih =>
    simp only [List.mem_cons, not_or] at hschedule
    exact ih (fun p => (hschedule p).2)
      (hs.step huri fun p h => (hschedule p).1 h.symm)

end SameUri

/-- A check of a request whose copy of the provider is the stored one, `base` with the
    allow-list `allowed`: the provider stays `base` with an allow-list that is still `allowed`
    if that was not empty, and a passed check is at a redirect_uri that list matches. -/
theorem check_redirect_uri_stored (ext : Externals) {db : Database}
    {self : OAuthAuthorizationParams} {base : OAuth2Provider} {allowed : List RedirectURI}
    (hdb : db.providers = [{ base with redirect_uris := allowed }])
    (hprovider : self.provider = { base with redirect_uris := allowed }) :
    ∃ allowed', (check_redirect_uri ext db self).2.providers =
        [{ base with redirect_uris := allowed' }] ∧ (allowed ≠ [] → allowed' = allowed) ∧
      ∀ p, (check_redirect_uri ext db self).1 = .ok p →
        match_found ext p.redirect_uri allowed' = true := by
  have hok : ∀ p, (check_redirect_uri ext db self).1 = .ok p →
      p.redirect_uri = self.redirect_uri ∧ self.redirect_uri ≠ "" ∧
        match_found ext self.redirect_uri (provisioned allowed self.redirect_uri) = true := by
    intro p hp
    obtain ⟨rfl, hallowed⟩ := check_redirect_uri_ok (Prod.ext_iff.2 ⟨hp, rfl⟩ :
      check_redirect_uri ext db self = (.ok p, _))
    simp only [redirect_uri_allowed, hprovider, Bool.and_eq_true, bne_iff_ne] at hallowed
    exact ⟨rfl, hallowed.1.1, hallowed.1.2⟩
  rw [check_redirect_uri_db]
  split_ifs with hsave
  · refine ⟨[⟨.STRICT, self.redirect_uri⟩], ?_, fun h => absurd (by simpa [hprovider] using hsave.2) h,
      fun p hp => ?_⟩
    · rw [Database.save_provider_single hdb (by rw [hprovider]), hprovider]
    · simp [(hok p hp).1, match_found]
  · refine ⟨allowed, hdb, fun _ => rfl, fun p hp => ?_⟩
    obtain ⟨huri, hne, hmatch⟩ := hok p hp
    have hallowed : allowed ≠ [] := fun h => hsave ⟨hne, by rw [hprovider, h]⟩
    rwa [provisioned, if_neg (by simpa [List.length_pos] using hallowed), ← huri] at hmatch

section Serial

variable (ext : Externals) (base : OAuth2Provider)

/-- What a race keeps while its requests run one after another and no other writer saves:
    the one provider is `base` with some allow-list, and that list matches every redirect_uri
    answered at. -/
def Serial (s : Race) : Prop :=
  ∃ allowed, s.db.providers = [{ base with redirect_uris := allowed }] ∧
    ∀ d ∈ s.delivered, match_found ext d allowed = true

variable {ext base} {requests : Nat → OAuthAuthorizationParams}

theorem run_append (s : Race) (schedule schedule' : List RaceStep) :
    run ext requests s (schedule ++ schedule') =
      run ext requests (run ext requests s schedule) schedule' :=
  List.foldl_append _ _ _ _

/-- A request's read, check and answer, with no step of another request between them,
    keep `Serial`. -/
theorem Serial.block {s : Race} (hs : Serial ext base s) {i : Nat}
    (hclient : (requests i).client_id = base.client_id) :
    Serial ext base (run ext requests s [.read i, .check i, .deliver i]) := by
  obtain ⟨allowed, hdb, hdelivered⟩ := hs
  have hfind : s.db.providers.find? (·.client_id = (requests i).client_id) =
      some { base with redirect_uris := allowed } := by simp [hdb, hclient]
  obtain ⟨allowed', hdb', hkeep, hok⟩ :=
    @check_redirect_uri_stored ext s.db { requests i with
      provider := { base with redirect_uris := allowed } } base allowed hdb rfl
  have hkept : ∀ d ∈ s.delivered, match_found ext d allowed' = true := fun d hd => by
    have hmatch := hdelivered d hd
    rwa [hkeep (by rintro rfl; simp [match_found] at hmatch)]
  simp only [run, List.foldl, step, hfind, Function.update_same]
  split
  · rename_i p hp
    refine ⟨allowed', hdb', fun d hd => ?_⟩
    rcases List.mem_append.1 hd with hd | hd
    · exact hkept d hd
    · rw [List.mem_singleton.1 hd]
      exact hok p (except_toOption_eq_some.1 hp)
  · exact ⟨allowed', hdb', hkept⟩

/-- Requests run one after another, in any order and with repeats, keep `Serial`. -/
theorem Serial.run_blocks (hclient : ∀ i, (requests i).client_id = base.client_id)
    (order : List Nat) {s : Race} (hs : Serial ext base s) :
    Serial ext base (run ext requests s (order.flatMap fun i => [.read i, .check i, .deliver i])) := by
  induction order generalizing s with
  | nil => exact hs
  | cons i order ih =>
    rw [List.flatMap_cons, run_append]
    exact ih (hs.block (hclient i))

end Serial

section Configured

variable (ext : Externals) (db : Database) (base : OAuth2Provider)

/-- What a race keeps on a database whose one provider `base` has a non-empty allow-list,
    with no other writer: the database is unchanged, each request's copy of the provider is
    `base`, and the allow-list matches each passed check and each answer. -/
structure Configured (s : Race) : Prop where
  db : s.db = db
  held : ∀ i self, s.held i = some self → self.provider = base
  passed : ∀ i p, s.passed i = some p → match_found ext p.redirect_uri base.redirect_uris = true
  delivered : ∀ d ∈ s.delivered, match_found ext d base.redirect_uris = true

variable {ext db base} {requests : Nat → OAuthAuthorizationParams}

/-- Every step of a request keeps `Configured`. -/
theorem Configured.step (hdb : db.providers = [base]) (hconfigured : base.redirect_uris ≠ [])
    {s : Race} (hs : Configured ext db base s) {a : RaceStep}
    (ha : ∀ provider, a ≠ .write provider) : Configured ext db base (Race.step ext requests s a) := by
  cases a with
  | read i =>
    simp only [Race.step]
    split
    · rename_i provider hfind
      have hprovider : provider = base := by
        have hmem := List.mem_of_find?_eq_some hfind
        rwa [hs.db, hdb, List.mem_singleton] at hmem
      refine ⟨hs.db, fun j self hj => ?_, hs.passed, hs.delivered⟩
      by_cases hji : j = i
      · subst hji
        simp only [Function.update_same, Option.some.injEq] at hj
        rw [← hj, hprovider]
      · simp only [Function.update_noteq hji] at hj
        exact hs.held j self hj
    · exact hs
  | check i =>
    simp only [Race.step]
    split
    · rename_i self hheld
      have hprovider := hs.held i self hheld
      obtain ⟨allowed', -, hkeep, hok⟩ := @check_redirect_uri_stored ext s.db self base
        base.redirect_uris (by rw [hs.db, hdb]) (by rw [hprovider])
      obtain rfl := hkeep hconfigured
      have hsame : (check_redirect_uri ext s.db self).2 = s.db := by
        rw [check_redirect_uri_db, if_neg fun h => hconfigured (hprovider ▸ h.2)]
      refine ⟨hsame.trans hs.db, hs.held, fun j p hj => ?_, hs.delivered⟩
      by_cases hji : j = i
      · subst hji
        simp only [Function.update_same] at hj
        exact hok p (except_toOption_eq_some.1 hj)
      · simp only [Function.update_noteq hji] at hj
        exact hs.passed j p hj
    · exact hs
  | deliver i =>
    simp only [Race.step]
    split
    · rename_i p hpassed
      refine ⟨hs.db, hs.held, hs.passed, fun d hd => ?_⟩
      rcases List.mem_append.1 hd with hd | hd
      · exact hs.delivered d hd
      · rw [List.mem_singleton.1 hd]
        exact hs.passed i p hpassed
    · exact hs
  | write provider => exact absurd rfl (ha provider)

/-- A schedule of request steps keeps `Configured`. -/
theorem Configured.run (hdb : db.providers = [base]) (hconfigured : base.redirect_uris ≠ [])
    (schedule : List RaceStep) (hschedule : ∀ provider, .write provider ∉ schedule) {s : Race}
    (hs : Configured ext db base s) : Configured ext db base (Race.run ext requests s schedule) := by
  induction schedule generalizing s with
  | nil => exact hs
  | cons a schedule ih =>
    simp only [List.mem_cons, not_or] at hschedule
    exact ih (fun p => (hschedule p).2)
      (hs.step hdb hconfigured fun p h => (hschedule p).1 h.symm)

end Configured

/-- A one-entry strict allow-list matches exactly its own redirect_uri. -/
theorem match_found_strict_single (ext : Externals) (d u : String) :
    match_found ext d [⟨.STRICT, u⟩] = true ↔ d = u := by
  by_cases h : d = u <;> simp [match_found, h]

/-- A passed `check_redirect_uri` is at the request's own non-empty redirect_uri, which the
    provisioned allow-list of the request's copy of the provider matches. -/
theorem check_redirect_uri_passed {ext : Externals} {db : Database}
    {self p : OAuthAuthorizationParams} (h : (check_redirect_uri ext db self).1 = .ok p) :
    p.redirect_uri = self.redirect_uri ∧ self.redirect_uri ≠ "" ∧
      match_found ext self.redirect_uri
        (provisioned self.provider.redirect_uris self.redirect_uri) = true := by
  obtain ⟨rfl, hallowed⟩ := check_redirect_uri_ok (Prod.ext_iff.2 ⟨h, rfl⟩ :
    check_redirect_uri ext db self = (.ok p, _))
  simp only [redirect_uri_allowed, Bool.and_eq_true, bne_iff_ne] at hallowed
  exact ⟨rfl, hallowed.1.1, hallowed.1.2⟩

section Registered

variable (ext : Externals) (requests : Nat → OAuthAuthorizationParams) (db : Database)
  (base : OAuth2Provider)

/-- After some prefix of `schedule`, the stored provider is `base` with `u` as the one strict
    entry of its allow-list. -/
def Registered (schedule : List RaceStep) (u : String) : Prop :=
  ∃ pre post, schedule = pre ++ post ∧
    (run ext requests (init db) pre).db.providers = [{ base with redirect_uris := [⟨.STRICT, u⟩] }]

/-- What a race on a provider `base` with an empty allow-list keeps, with no other writer:
    the stored provider is `base` with an empty list or one strict entry; a request's copy is
    `base` with an empty list or with one strict entry that was stored; every passed check
    and every answer is at a redirect_uri that was stored as the one entry. -/
structure RegisteredRun (schedule : List RaceStep) (s : Race) : Prop where
  stored : s.db.providers = [{ base with redirect_uris := [] }] ∨
    ∃ u, s.db.providers = [{ base with redirect_uris := [⟨.STRICT, u⟩] }]
  held : ∀ i self, s.held i = some self → self.provider = { base with redirect_uris := [] } ∨
    ∃ u, self.provider = { base with redirect_uris := [⟨.STRICT, u⟩] } ∧
      Registered ext requests db base schedule u
  passed : ∀ i p, s.passed i = some p → Registered ext requests db base schedule p.redirect_uri
  delivered : ∀ d ∈ s.delivered, Registered ext requests db base schedule d

variable {ext requests db base}

theorem Registered.append {schedule : List RaceStep} {u : String}
    (h : Registered ext requests db base schedule u) (a : RaceStep) :
    Registered ext requests db base (schedule ++ [a]) u := by
  obtain ⟨pre, post, rfl, hstored⟩ := h
  exact ⟨pre, post ++ [a], List.append_assoc _ _ _, hstored⟩

theorem Registered.now {schedule : List RaceStep} {u : String}
    (h : (run ext requests (init db) schedule).db.providers =
      [{ base with redirect_uris := [⟨.STRICT, u⟩] }]) :
    Registered ext requests db base schedule u :=
  ⟨schedule, [], (List.append_nil _).symm, h⟩

theorem RegisteredRun.append {schedule : List RaceStep} {s : Race}
    (hs : RegisteredRun ext requests db base schedule s) (a : RaceStep) :
    RegisteredRun ext requests db base (schedule ++ [a]) s :=
  ⟨hs.stored, fun i self h => (hs.held i self h).imp_right fun ⟨u, hu, hr⟩ => ⟨u, hu, hr.append a⟩,
    fun i p h => (hs.passed i p h).append a, fun d hd => (hs.delivered d hd).append a⟩

/-- Every request step keeps `RegisteredRun`, the schedule growing by that step. -/
theorem RegisteredRun.step {schedule : List RaceStep}
    (hs : RegisteredRun ext requests db base schedule (run ext requests (init db) schedule))
    {a : RaceStep} (ha : ∀ provider, a ≠ .write provider) :
    RegisteredRun ext requests db base (schedule ++ [a])
      (run ext requests (init db) (schedule ++ [a])) := by
  have hrun : run ext requests (init db) (schedule ++ [a]) =
      Race.step ext requests (run ext requests (init db) schedule) a := by
    rw [run_append]
    rfl
  have hnow : ∀ u, (Race.step ext requests (run ext requests (init db) schedule) a).db.providers =
      [{ base with redirect_uris := [⟨.STRICT, u⟩] }] →
      Registered ext requests db base (schedule ++ [a]) u := fun u h => Registered.now (hrun ▸ h)
  have hcur : ∀ u, (run ext requests (init db) schedule).db.providers =
      [{ base with redirect_uris := [⟨.STRICT, u⟩] }] →
      Registered ext requests db base (schedule ++ [a]) u := fun u h => (Registered.now h).append a
  have hlift := hs.append a
  rw [hrun]
  generalize run ext requests (init db) schedule = s at hs hlift hnow hcur
  cases a with
  | read i =>
    simp only [Race.step] at hnow ⊢
    split
    · rename_i provider hfind
      have hprovider : provider = { base with redirect_uris := [] } ∨
          ∃ u, provider = { base with redirect_uris := [⟨.STRICT, u⟩] } ∧
            Registered ext requests db base (schedule ++ [.read i]) u := by
        have hmem := List.mem_of_find?_eq_some hfind
        rcases hs.stored with h | ⟨u, h⟩ <;> rw [h, List.mem_singleton] at hmem
        · exact .inl hmem
        · exact .inr ⟨u, hmem, hcur u h⟩
      refine ⟨hlift.stored, fun j self hj => ?_, hlift.passed, hlift.delivered⟩
      by_cases hji : j = i
      · subst hji
        simp only [Function.update_same, Option.some.injEq] at hj
        rw [← hj]
        exact hprovider
      · simp only [Function.update_noteq hji] at hj
        exact hlift.held j self hj
    · exact hlift
  | check i =>
    simp only [Race.step] at hnow ⊢
    split
    · rename_i self hheld
      have hnew : ∀ u, (check_redirect_uri ext s.db self).2.providers =
          [{ base with redirect_uris := [⟨.STRICT, u⟩] }] →
          Registered ext requests db base (schedule ++ [.check i]) u :=
        fun u h => hnow u (by rw [hheld]; exact h)
      obtain ⟨allowed, hallowed⟩ : ∃ allowed, s.db.providers =
          [{ base with redirect_uris := allowed }] :=
        hs.stored.elim (⟨_, ·⟩) fun ⟨_, h⟩ => ⟨_, h⟩
      have hprovider := hs.held i self hheld
      have hpass : ∀ p, (check_redirect_uri ext s.db self).1 = .ok p →
          Registered ext requests db base (schedule ++ [.check i]) p.redirect_uri := by
        intro p hp
        obtain ⟨hp_uri, hne, hmatch⟩ := check_redirect_uri_passed hp
        rw [hp_uri]
        rcases hprovider with hempty | ⟨u, hu, hreg⟩
        · apply hnew
          rw [check_redirect_uri_db, if_pos ⟨hne, by rw [hempty]⟩,
            Database.save_provider_single hallowed (by rw [hempty]), hempty]
        · rw [hu, provisioned, if_neg (by simp)] at hmatch
          rw [(match_found_strict_single ext _ _).1 hmatch]
          exact hreg.append _
      have hdb : (check_redirect_uri ext s.db self).2.providers = s.db.providers ∨
          ∃ u, (check_redirect_uri ext s.db self).2.providers =
            [{ base with redirect_uris := [⟨.STRICT, u⟩] }] := by
        rw [check_redirect_uri_db]
        split_ifs with hsave
        · rcases hprovider with hempty | ⟨u, hu, -⟩
          · exact .inr ⟨self.redirect_uri,
              by rw [Database.save_provider_single hallowed (by rw [hempty]), hempty]⟩
          · rw [hu] at hsave
            exact absurd hsave.2 (List.cons_ne_nil _ _)
        · exact .inl rfl
      refine ⟨hdb.elim (· ▸ hlift.stored) .inr, hlift.held, fun j p hj => ?_, hlift.delivered⟩
      by_cases hji : j = i
      · subst hji
        simp only [Function.update_same] at hj
        exact hpass p (except_toOption_eq_some.1 hj)
      · simp only [Function.update_noteq hji] at hj
        exact hlift.passed j p hj
    · exact hlift
  | deliver i =>
    simp only [Race.step]
    split
    · rename_i p hpassed
      refine ⟨hlift.stored, hlift.held, hlift.passed, fun d hd => ?_⟩
      rcases List.mem_append.1 hd with hd | hd
      · exact hlift.delivered d hd
      · rw [List.mem_singleton.1 hd]
        exact hlift.passed i p hpassed
    · exact hlift
  | write provider => exact absurd rfl (ha provider)

/-- Every schedule of request steps keeps `RegisteredRun`. -/
theorem RegisteredRun.run (hdb : db.providers = [base]) (hempty : base.redirect_uris = [])
    (schedule : List RaceStep) (hschedule : ∀ provider, .write provider ∉ schedule) :
    RegisteredRun ext requests db base schedule (run ext requests (init db) schedule) := by
  induction schedule using List.reverseRecOn with
  | nil =>
    exact ⟨.inl (show db.providers = _ by rw [hdb, ← hempty]), fun _ _ h => (nomatch h),
      fun _ _ h => (nomatch h), fun _ h => (nomatch h)⟩
  | append_singleton schedule a ih =>
    exact (ih fun p h => hschedule p (List.mem_append_left _ h)).step
      fun p h => hschedule p (h ▸ List.mem_append_right _ (List.mem_singleton_self _))

end Registered

end Race

/-- Requests that all carry one redirect_uri `u`, racing on a provider whose allow-list is
    empty, with no other writer: after every schedule of their reads, checks and answers,
    each redirect_uri answered at is accepted by the provider's stored allow-list, and the
    stored record differs from the initial one at most in that list. -/
theorem same_uri_provisioning_kept (ext : Externals) (requests : Nat → OAuthAuthorizationParams)
    (base : OAuth2Provider) (u : String) (db : Database) (schedule : List RaceStep)
    (hdb : db.providers = [base]) (hempty : base.redirect_uris = [])
    (huri : ∀ i, (requests i).redirect_uri = u)
    (hschedule : ∀ provider, .write provider ∉ schedule) :
    (∀ d ∈ (Race.run ext requests (Race.init db) schedule).delivered, ∃ stored,
      (Race.run ext requests (Race.init db) schedule).db.providers = [stored] ∧
        match_found ext d stored.redirect_uris = true) ∧
    ∃ allowed, (Race.run ext requests (Race.init db) schedule).db.providers =
      [{ base with redirect_uris := allowed }] := by
  have hinit : Race.SameUri base u (Race.init db) :=
    ⟨.inl (show db.providers = _ by rw [hdb, ← hempty]), fun _ _ h => (nomatch h),
      fun _ _ h => (nomatch h), fun _ h => (nomatch h)⟩
  have hs : Race.SameUri base u (Race.run ext requests (Race.init db) schedule) :=
    Race.SameUri.run huri schedule hschedule hinit
  refine ⟨fun d hd => ?_, hs.stored.elim (⟨_, ·⟩) (⟨_, ·⟩)⟩
  obtain ⟨rfl, hstored⟩ := hs.delivered d hd
  exact ⟨_, hstored, by simp [match_found]⟩

/-- Two sample requests with different redirect_uris. -/
def sample_racer (i : Nat) : OAuthAuthorizationParams :=
  of_query_dict ⟨[("client_id", "client"),
    ("redirect_uri", if i = 0 then "https://a.example/cb" else "https://b.example/cb")]⟩ none

theorem same_uri_racers_accepted :
    let s := Race.run sample_ext (fun _ => sample_racer 0) (Race.init sample_open_db)
      [.read 0, .read 1, .check 0, .check 1, .deliver 0, .deliver 1]
    (∀ d ∈ s.delivered, ∃ stored, s.db.providers = [stored] ∧
      match_found sample_ext d stored.redirect_uris = true) ∧
    ∃ allowed, s.db.providers = [{ sample_provider with redirect_uris := allowed }] :=
  same_uri_provisioning_kept sample_ext (fun _ => sample_racer 0)
    { sample_provider with redirect_uris := [] } "https://a.example/cb" sample_open_db _ rfl rfl
    (fun _ => rfl) (by simp)

theorem two_requests_one_provisioned_provider :
    let requests := Race.run sample_ext sample_racer (Race.init sample_open_db)
      [.read 0, .read 1, .check 0, .check 1, .deliver 0, .deliver 1]
    requests.delivered = ["https://a.example/cb", "https://b.example/cb"] ∧
    requests.db.providers.map (·.redirect_uris) = [[⟨.STRICT, "https://b.example/cb"⟩]] ∧
    match_found sample_ext "https://a.example/cb" [⟨.STRICT, "https://b.example/cb"⟩] = false ∧
    (Race.run sample_ext sample_racer (Race.init sample_open_db)
      [.read 0, .write { sample_provider with redirect_uris := [], access_token_validity := 60 },
        .check 0]).db.providers.map (·.access_token_validity) = [3600] := by
  decide

/-- Requests for the one client of the database, run one after another in any order with no
    other writer, whatever their redirect_uris and the provider's initial allow-list: the
    stored record differs from the initial one at most in that list, and the list matches
    every redirect_uri answered at. -/
theorem serial_requests_accepted (ext : Externals) (requests : Nat → OAuthAuthorizationParams)
    (base : OAuth2Provider) (db : Database) (order : List Nat) (hdb : db.providers = [base])
    (hclient : ∀ i, (requests i).client_id = base.client_id) :
    ∃ allowed, (Race.run ext requests (Race.init db)
        (order.flatMap fun i => [.read i, .check i, .deliver i])).db.providers =
          [{ base with redirect_uris := allowed }] ∧
      ∀ d ∈ (Race.run ext requests (Race.init db)
        (order.flatMap fun i => [.read i, .check i, .deliver i])).delivered,
          match_found ext d allowed = true :=
  Race.Serial.run_blocks hclient order ⟨base.redirect_uris, hdb, fun _ h => nomatch h⟩

theorem serial_racers_accepted :
    ∃ allowed, (Race.run sample_ext sample_racer (Race.init sample_open_db)
        ([0, 1].flatMap fun i => [.read i, .check i, .deliver i])).db.providers =
          [{ sample_provider with redirect_uris := allowed }] ∧
      ∀ d ∈ (Race.run sample_ext sample_racer (Race.init sample_open_db)
        ([0, 1].flatMap fun i => [.read i, .check i, .deliver i])).delivered,
          match_found sample_ext d allowed = true :=
  serial_requests_accepted sample_ext sample_racer { sample_provider with redirect_uris := [] }
    sample_open_db [0, 1] rfl fun _ => rfl

/-- Requests of any clients and with any redirect_uris, racing on a database whose one
    provider has a non-empty allow-list, with no other writer: after every schedule of their
    reads, checks and answers, the database is unchanged and every redirect_uri answered at is
    accepted by that allow-list. -/
theorem configured_allow_list_enforced (ext : Externals) (requests : Nat → OAuthAuthorizationParams)
    (base : OAuth2Provider) (db : Database) (schedule : List RaceStep)
    (hdb : db.providers = [base]) (hconfigured : base.redirect_uris ≠ [])
    (hschedule : ∀ provider, .write provider ∉ schedule) :
    (Race.run ext requests (Race.init db) schedule).db = db ∧
      ∀ d ∈ (Race.run ext requests (Race.init db) schedule).delivered,
        match_found ext d base.redirect_uris = true :=
  have hs := Race.Configured.run hdb hconfigured schedule hschedule
    (⟨rfl, fun _ _ h => (nomatch h), fun _ _ h => (nomatch h), fun _ h => (nomatch h)⟩ :
      Race.Configured ext db base (Race.init db))
  ⟨hs.db, hs.delivered⟩

/-- The sample request at the sample provider's redirect_uri, racing with one at another. -/
def sample_configured_racer (i : Nat) : OAuthAuthorizationParams :=
  of_query_dict ⟨[("client_id", "client"),
    ("redirect_uri", if i = 0 then "https://rp.example/cb" else "https://b.example/cb")]⟩ none

theorem configured_racers_checked :
    let s := Race.run sample_ext sample_configured_racer (Race.init sample_db)
      [.read 0, .read 1, .check 1, .check 0, .deliver 1, .deliver 0]
    s.delivered = ["https://rp.example/cb"] ∧ s.db = sample_db ∧
      ∀ d ∈ s.delivered, match_found sample_ext d sample_provider.redirect_uris = true :=
  have h := configured_allow_list_enforced sample_ext sample_configured_racer sample_provider
    sample_db [.read 0, .read 1, .check 1, .check 0, .deliver 1, .deliver 0] rfl (by decide)
    (by simp)
  ⟨by decide, h⟩

/-- Requests with any redirect_uris, racing on a provider whose allow-list is empty, with no
    other writer: after every schedule of their reads, checks and answers, every redirect_uri a
    request was answered at was, after some prefix of the schedule, the one strict entry of the
    stored allow-list. A later provisioning may have replaced it. -/
theorem answered_redirect_uris_registered (ext : Externals)
    (requests : Nat → OAuthAuthorizationParams) (base : OAuth2Provider) (db : Database)
    (schedule : List RaceStep) (hdb : db.providers = [base]) (hempty : base.redirect_uris = [])
    (hschedule : ∀ provider, .write provider ∉ schedule) :
    ∀ d ∈ (Race.run ext requests (Race.init db) schedule).delivered, ∃ pre post,
      schedule = pre ++ post ∧ (Race.run ext requests (Race.init db) pre).db.providers =
        [{ base with redirect_uris := [⟨.STRICT, d⟩] }] :=
  (Race.RegisteredRun.run hdb hempty schedule hschedule).delivered

theorem sample_racers_registered :
    let s := Race.run sample_ext sample_racer (Race.init sample_open_db)
      [.read 0, .read 1, .check 0, .check 1, .deliver 0, .deliver 1]
    s.delivered = ["https://a.example/cb", "https://b.example/cb"] ∧
      ∀ d ∈ s.delivered, ∃ pre post,
        [.read 0, .read 1, .check 0, .check 1, .deliver 0, .deliver 1] = pre ++ post ∧
        (Race.run sample_ext sample_racer (Race.init sample_open_db) pre).db.providers =
          [{ sample_provider with redirect_uris := [⟨.STRICT, d⟩] }] :=
  ⟨by decide, answered_redirect_uris_registered sample_ext sample_racer
    { sample_provider with redirect_uris := [] } sample_open_db _ rfl rfl (by simp)⟩

end authentik.providers.oauth2.views.authorize
