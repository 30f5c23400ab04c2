import Authentik.Providers.OAuth2.Views.Authorize.Validation

namespace authentik.providers.oauth2

end authentik.providers.oauth2

namespace authentik.providers.oauth2.views.authorize

open python python.urllib.parse django.http authentik.providers.oauth2

namespace OAuthAuthorizationParams

theorem resolved_scope_eq (ext : Externals) (self : OAuthAuthorizationParams) (github_compat : Bool) :
    let default_scope_names := self.provider.scope_names.toFinset
    let scope := if self.scope = ∅ then default_scope_names else self.scope
    self.resolved_scope ext github_compat = scope ∩ default_scope_names ∪
      if github_compat ∧ scope \ ext.SCOPE_GITHUB ⊆ default_scope_names then
        scope ∩ ext.SCOPE_GITHUB else ∅ := by
  intro default_scope_names scope
  have hscope : (if self.scope.card = 0 then default_scope_names else self.scope) = scope := by
    simp only [scope, Finset.card_eq_zero]
  simp only [resolved_scope, hscope]
  by_cases hcompat : github_compat
  · by_cases hsub : scope \ ext.SCOPE_GITHUB ⊆ default_scope_names
    · simp only [hcompat, if_true, hsub, not_true, if_false, true_and]
      rw [← Finset.inter_union_distrib_left, eq_comm, Finset.inter_eq_left]
      intro x hx
      by_cases hgithub : x ∈ ext.SCOPE_GITHUB
      · exact Finset.mem_union_right _ hgithub
      · exact Finset.mem_union_left _ (hsub (Finset.mem_sdiff.2 ⟨hx, hgithub⟩))
    · simp [hcompat, hsub]
  · by_cases hsub : scope ⊆ default_scope_names
    · simp [hcompat, hsub, Finset.inter_eq_left.2 hsub]
    · simp [hcompat, hsub]

theorem check_scope_ok_scope {ext : Externals} {self p : OAuthAuthorizationParams}
    {github_compat : Bool} (h : self.check_scope ext github_compat = .ok p) :
    p.scope = if self.response_type ∈ [ResponseTypes.CODE, ResponseTypes.CODE_TOKEN,
        ResponseTypes.CODE_ID_TOKEN, ResponseTypes.CODE_ID_TOKEN_TOKEN] then
      self.resolved_scope ext github_compat
    else (self.resolved_scope ext github_compat).erase SCOPE_OFFLINE_ACCESS := by
  simp only [check_scope] at h
  split_ifs at h with hopenid hoffline <;> cases h
  · exact (if_neg hoffline.2).symm
  · split_ifs with hcode
    · rfl
    · exact (Finset.erase_eq_of_not_mem fun hmem => hoffline ⟨hmem, hcode⟩).symm

theorem resolved_scope_insert (ext : Externals) (self : OAuthAuthorizationParams)
    (github_compat : Bool) {s : String} (hconfigured : s ∉ self.provider.scope_names.toFinset)
    (hgithub : s ∉ ext.SCOPE_GITHUB) (hrequested : self.scope ≠ ∅) :
    { self with scope := insert s self.scope }.resolved_scope ext github_compat =
      self.resolved_scope ext github_compat ∩ self.provider.scope_names.toFinset := by
  have hunchecked : ¬ insert s self.scope \ ext.SCOPE_GITHUB ⊆ self.provider.scope_names.toFinset :=
    fun hsub => hconfigured (hsub (Finset.mem_sdiff.2 ⟨Finset.mem_insert_self s _, hgithub⟩))
  rw [resolved_scope_eq, resolved_scope_eq]
  simp only [Finset.insert_ne_empty, if_false, hrequested, hunchecked, and_false,
    Finset.union_empty]
  rw [Finset.insert_inter_of_not_mem hconfigured, Finset.union_inter_distrib_right,
    Finset.inter_assoc, Finset.inter_self, eq_comm, Finset.union_eq_left]
  refine Finset.inter_subset_inter_right ?_
  split_ifs
  · exact Finset.inter_subset_left
  · exact Finset.empty_subset _

/-- The scope a successful `check_scope` leaves: the configured requested scopes, with the
    GitHub-compatible ones under `github_compat` only when every other one is configured,
    less `offline_access` without a code. -/
theorem check_scope_resolves_scope (ext : Externals) (self : OAuthAuthorizationParams)
    (github_compat : Bool) {p : OAuthAuthorizationParams}
    (h : self.check_scope ext github_compat = .ok p) :
    let default_scope_names := self.provider.scope_names.toFinset
    let scope := if self.scope = ∅ then default_scope_names else self.scope
    let kept := scope ∩ default_scope_names ∪
      if github_compat ∧ scope \ ext.SCOPE_GITHUB ⊆ default_scope_names then
        scope ∩ ext.SCOPE_GITHUB else ∅
    p.scope = (if self.response_type ∈ [ResponseTypes.CODE, ResponseTypes.CODE_TOKEN,
        ResponseTypes.CODE_ID_TOKEN, ResponseTypes.CODE_ID_TOKEN_TOKEN] then kept
      else kept.erase SCOPE_OFFLINE_ACCESS) ∧
    ∀ s q, s ∉ default_scope_names → s ∉ ext.SCOPE_GITHUB → self.scope ≠ ∅ →
      { self with scope := insert s self.scope }.check_scope ext github_compat = .ok q →
      q.scope = p.scope ∩ default_scope_names := by
  intro default_scope_names scope kept
  refine ⟨(check_scope_ok_scope h).trans (by rw [resolved_scope_eq]),
    fun s q hconfigured hgithub hrequested hq => ?_⟩
  rw [check_scope_ok_scope hq, check_scope_ok_scope h,
    resolved_scope_insert ext self github_compat hconfigured hgithub hrequested]
  split_ifs
  · rfl
  · exact (Finset.erase_inter ..).symm

theorem sample_code_scope_resolved :
    ∃ p, sample_code_params.check_scope sample_ext false = .ok p ∧ p.scope = {"openid"} :=
  have h : sample_code_params.check_scope sample_ext false =
      .ok { sample_code_params with scope := {"openid"} } := by decide
  ⟨_, h, (check_scope_resolves_scope sample_ext sample_code_params false h).1.trans (by decide)⟩

theorem unconfigured_scope_drops_github_scope :
    ({ sample_code_params with scope := {"user"} }.check_scope
      { sample_ext with SCOPE_GITHUB := {"user"} } true).map OAuthAuthorizationParams.scope = .ok {"user"} ∧
    ({ sample_code_params with scope := {"user", "bogus"} }.check_scope
      { sample_ext with SCOPE_GITHUB := {"user"} } true).map OAuthAuthorizationParams.scope = .ok ∅ := by
  decide

end OAuthAuthorizationParams

end authentik.providers.oauth2.views.authorize
