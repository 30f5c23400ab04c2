import Authentik.Events.Sanitize
import Authentik.Events.Cleanse

namespace authentik.events.utils

mutual

/-- A value `sanitize_item` gives back as it is: `None`, a bool, an int, a float or a str; a
    list of true such values; or a dict of such values. -/
def PyValue.is_sanitized : PyValue → Bool
  | .none | .bool _ | .int _ | .float _ | .str _ => true
  | .list items => all_sanitized items
  | .dict fields => all_sanitized_fields fields
  | _ => false

def all_sanitized : List PyValue → Bool
  | [] => true
  | item :: items => truthy item && item.is_sanitized && all_sanitized items

def all_sanitized_fields : List (PyKey × PyValue) → Bool
  | [] => true
  | (_, value) :: fields => value.is_sanitized && all_sanitized_fields fields

end

/-- The values `sanitize_item` returns, but the value of an enum member: `None`, a bool, an
    int, a float, a str, `...`, a list or a dict. -/
def PyValue.is_plain : PyValue → Bool
  | .none | .bool _ | .int _ | .float _ | .str _ | .ellipsis | .list _ | .dict _ => true
  | _ => false

section Helpers

variable {items : List PyValue} {fields : List (PyKey × PyValue)}

@[simp]
theorem all_sanitized_iff :
    all_sanitized items = true ↔ ∀ item ∈ items, truthy item = true ∧ item.is_sanitized = true := by
  induction items <;> simp [all_sanitized, and_assoc, *]

@[simp]
theorem all_sanitized_fields_iff :
    all_sanitized_fields fields = true ↔ ∀ field ∈ fields, field.2.is_sanitized = true := by
  induction fields with
  | nil => simp [all_sanitized_fields]
  | cons field fields ih =>
    obtain ⟨key, value⟩ := field
    simp only [all_sanitized_fields, Bool.and_eq_true, ih, List.forall_mem_cons]

theorem except_map_ok_iff {α β : Type} {f : α → β} {x : Except Raised α} {b : β} :
    f <$> x = .ok b ↔ ∃ a, x = .ok a ∧ f a = b := by
  cases x <;> simp [Functor.map, Except.map]

private theorem PyValue.ne_enum_self (value : PyValue) : value ≠ .enum value := fun h => by
  have hsize := congrArg sizeOf h
  simp only [PyValue.enum.sizeOf_spec] at hsize
  omega

theorem is_ellipsis_of_is_sanitized {value : PyValue} (h : value.is_sanitized = true) :
    value.is_ellipsis = false := by
  cases value <;> first | rfl | cases h

end Helpers

section Loops

variable (item : PyValue → Except Raised PyValue)

theorem sanitize_items_length :
    ∀ {values new_values : List PyValue}, sanitize_items item values = .ok new_values →
      new_values.length ≤ values.length
  | [], _, h => by cases h; rfl
  | value :: values, new_values, h => by
    rcases hitem : item value with e | new_value
    · simp only [sanitize_items, hitem] at h
      cases h
    rcases hrest : sanitize_items item values with e | rest
    · simp only [sanitize_items, hitem, hrest] at h
      cases h
    simp only [sanitize_items, hitem, hrest] at h
    have hlength := sanitize_items_length hrest
    cases h
    split_ifs <;> simp only [List.length_cons] <;> omega

theorem sanitize_fields_length :
    ∀ {source final_dict : List (PyKey × PyValue)}, sanitize_fields item source = .ok final_dict →
      final_dict.length ≤ source.length
  | [], _, h => by cases h; rfl
  | (key, value) :: source, final_dict, h => by
    rcases hitem : item value with e | new_value
    · simp only [sanitize_fields, hitem] at h
      cases h
    rcases hrest : sanitize_fields item source with e | rest
    · simp only [sanitize_fields, hitem, hrest] at h
      cases h
    simp only [sanitize_fields, hitem, hrest] at h
    have hlength := sanitize_fields_length hrest
    cases h
    split_ifs <;> simp only [List.length_cons] <;> omega

/-- The list loop gives its items back exactly when each item sanitizes to itself and is
    true: a false one would be dropped, and the list would come back shorter. -/
theorem sanitize_items_fixed :
    ∀ values : List PyValue, sanitize_items item values = .ok values ↔
      ∀ value ∈ values, item value = .ok value ∧ truthy value = true
  | [] => by simp [sanitize_items]
  | value :: values => by
    rw [List.forall_mem_cons, ← sanitize_items_fixed values]
    constructor
    · intro h
      rcases hitem : item value with e | new_value
      · rw [sanitize_items, hitem] at h
        cases h
      rcases hrest : sanitize_items item values with e | rest
      · rw [sanitize_items, hitem, hrest] at h
        cases h
      rw [sanitize_items, hitem, hrest] at h
      have hkept : (if truthy new_value then new_value :: rest else rest) = value :: values :=
        Except.ok.inj h
      split_ifs at hkept with htruthy
      · obtain ⟨rfl, rfl⟩ := List.cons.inj hkept
        exact ⟨⟨rfl, htruthy⟩, rfl⟩
      · have hlength := sanitize_items_length item hrest
        rw [hkept, List.length_cons] at hlength
        omega
    · rintro ⟨⟨hitem, htruthy⟩, hrest⟩
      rw [sanitize_items, hitem, hrest]
      exact congrArg Except.ok (if_pos htruthy)

/-- The dict loop gives its dict back exactly when each value sanitizes to itself and is
    not `...`, which would be left out. -/
theorem sanitize_fields_fixed :
    ∀ source : List (PyKey × PyValue), sanitize_fields item source = .ok source ↔
      ∀ field ∈ source, item field.2 = .ok field.2 ∧ field.2.is_ellipsis = false
  | [] => by simp [sanitize_fields]
  | (key, value) :: source => by
    rw [List.forall_mem_cons, ← sanitize_fields_fixed source]
    constructor
    · intro h
      rcases hitem : item value with e | new_value
      · rw [sanitize_fields, hitem] at h
        cases h
      rcases hrest : sanitize_fields item source with e | rest
      · rw [sanitize_fields, hitem, hrest] at h
        cases h
      rw [sanitize_fields, hitem, hrest] at h
      have hkept : (if new_value.is_ellipsis then rest else (key, new_value) :: rest) =
          (key, value) :: source := Except.ok.inj h
      split_ifs at hkept with hellipsis
      · have hlength := sanitize_fields_length item hrest
        rw [hkept, List.length_cons] at hlength
        omega
      · obtain ⟨hfield, rfl⟩ := List.cons.inj hkept
        obtain rfl := (Prod.mk.inj hfield).2
        exact ⟨⟨rfl, Bool.eq_false_iff.2 hellipsis⟩, rfl⟩
    · rintro ⟨⟨hitem, hellipsis⟩, hrest⟩
      rw [sanitize_fields, hitem, hrest]
      exact congrArg Except.ok (if_neg (ne_true_of_eq_false hellipsis))

end Loops

/-- What `sanitize_item` returns is a plain value, but for an enum member, whose value it
    returns. -/
theorem sanitize_item_plain (env : Env) :
    ∀ {fuel : Nat} {value result : PyValue}, sanitize_item env fuel value = .ok result →
      result.is_plain = true ∨ value = .enum result
  | 0, _, _, h => by cases h
  | fuel + 1, value, result, h => by
    cases value with
    | dataclass policy_request fields =>
      have h' : (asdict_fields (if policy_request then without_http_request fields else fields) >>=
          fun fields => PyValue.dict <$> sanitize_fields (sanitize_item env fuel) fields) =
          .ok result := h
      rcases hasdict : asdict_fields (if policy_request then without_http_request fields else fields)
        with e | fields
      · rw [hasdict] at h'
        cases h'
      · rw [hasdict] at h'
        obtain ⟨_, -, rfl⟩ := except_map_ok_iff.1 h'
        exact .inl rfl
    | dict _ | user _ _ _ | anonymous_user | model _ _ _ _ _ | list _ | tuple _ | set _ =>
      obtain ⟨_, -, rfl⟩ := except_map_ok_iff.1 h
      exact .inl rfl
    | generator items =>
      exact .inl ((@sanitize_item_plain env fuel (.list items) result h).resolve_right nofun)
    | enum value =>
      cases h
      exact .inr rfl
    | time _ aware =>
      cases aware <;> cases h
      exact .inl rfl
    | callable name _ =>
      cases name <;> cases h
      exact .inl rfl
    | type _ _ dataclass =>
      cases dataclass <;> cases h
      exact .inl rfl
    | _ =>
      cases h
      exact .inl rfl

/-- `sanitize_item` gives back exactly the sanitized values nested less deep than its fuel. -/
theorem sanitize_item_fixed (env : Env) (fuel : Nat) (value : PyValue)
    (hdepth : value.depth < fuel) :
    sanitize_item env fuel value = .ok value ↔ value.is_sanitized = true := by
  induction fuel generalizing value with
  | zero => exact absurd hdepth (Nat.not_lt_zero _)
  | succ fuel ih =>
    cases value with
    | none | bool _ | int _ | float _ | str _ => exact iff_of_true rfl rfl
    | list items =>
      have hitems : ∀ item ∈ items, item.depth < fuel := fun item hitem =>
        Nat.lt_of_le_of_lt (depth_list_le_iff.1 le_rfl item hitem) (Nat.lt_of_succ_lt_succ hdepth)
      show PyValue.list <$> sanitize_items (sanitize_item env fuel) items = .ok (.list items) ↔
        all_sanitized items = true
      rw [except_map_ok_iff, all_sanitized_iff]
      constructor
      · rintro ⟨new_values, hnew, hlist⟩
        rw [PyValue.list.inj hlist] at hnew
        exact fun item hitem => ((sanitize_items_fixed _ items).1 hnew item hitem).symm.imp
          id ((ih item (hitems item hitem)).1)
      · intro h
        exact ⟨items, (sanitize_items_fixed _ items).2 fun item hitem =>
          ⟨(ih item (hitems item hitem)).2 (h item hitem).2, (h item hitem).1⟩, rfl⟩
    | dict source =>
      have hsource : ∀ field ∈ source, field.2.depth < fuel := fun field hfield =>
        Nat.lt_of_le_of_lt (depth_fields_le_iff.1 le_rfl field hfield)
          (Nat.lt_of_succ_lt_succ hdepth)
      show PyValue.dict <$> sanitize_fields (sanitize_item env fuel) source = .ok (.dict source) ↔
        all_sanitized_fields source = true
      rw [except_map_ok_iff, all_sanitized_fields_iff]
      constructor
      · rintro ⟨final_dict, hfinal, hdict⟩
        rw [PyValue.dict.inj hdict] at hfinal
        exact fun field hfield =>
          (ih field.2 (hsource field hfield)).1 ((sanitize_fields_fixed _ source).1 hfinal field hfield).1
      · intro h
        exact ⟨source, (sanitize_fields_fixed _ source).2 fun field hfield =>
          ⟨(ih field.2 (hsource field hfield)).2 (h field hfield),
            is_ellipsis_of_is_sanitized (h field hfield)⟩, rfl⟩
    | ellipsis => exact iff_of_false (fun h => by cases h) nofun
    | enum value => exact iff_of_false (fun h => value.ne_enum_self (Except.ok.inj h)) nofun
    | _ =>
      exact iff_of_false (fun h => by rcases sanitize_item_plain env h with h | h <;> cases h) nofun

/-- The values and dicts `sanitize_item` and `sanitize_dict` give back as they are, with
    enough stack (fuel): exactly the `is_sanitized` ones, so sanitizing a result again
    changes it exactly when it holds a value of another kind. -/
theorem sanitize_fixed_points (env : Env) (fuel : Nat) :
    (∀ value : PyValue, value.depth < fuel →
      (sanitize_item env fuel value = .ok value ↔ value.is_sanitized = true)) ∧
    (∀ source, depth_fields source < fuel →
      (sanitize_dict env fuel source = .ok source ↔ all_sanitized_fields source = true)) := by
  refine ⟨sanitize_item_fixed env fuel, fun source hdepth => ?_⟩
  have hsource : ∀ field ∈ source, field.2.depth < fuel := fun field hfield =>
    Nat.lt_of_le_of_lt (depth_fields_le_iff.1 le_rfl field hfield) hdepth
  rw [sanitize_dict, sanitize_fields_fixed, all_sanitized_fields_iff]
  refine forall₂_congr fun field hfield => ?_
  rw [sanitize_item_fixed env fuel field.2 (hsource field hfield)]
  exact and_iff_left_of_imp is_ellipsis_of_is_sanitized

/-- A dict with a list of strs and a false int comes back as it is; a list with a false item
    does not. -/
theorem sample_sanitized_fixed :
    (PyValue.dict [("scope", .list [.str "openid"]), ("n", .int 0)]).depth < 3 ∧
    sanitize_item sample_env 3 (.dict [("scope", .list [.str "openid"]), ("n", .int 0)]) =
      .ok (.dict [("scope", .list [.str "openid"]), ("n", .int 0)]) ∧
    (PyValue.list [.int 0]).depth < 3 ∧
    sanitize_item sample_env 3 (.list [.int 0]) ≠ .ok (.list [.int 0]) :=
  ⟨by decide, ((sanitize_fixed_points sample_env 3).1 _ (by decide)).2 rfl, by decide,
    fun h => absurd (((sanitize_fixed_points sample_env 3).1 _ (by decide)).1 h) nofun⟩

section Leaf

variable {filter : ReporterFilter} {key : PyKey} {value : PyValue}
  (hleaf : value.cleansed filter key = cleanse_leaf filter key value)
include hleaf

private theorem cleansed_cleansed_of_leaf :
    (value.cleansed filter key).cleansed filter key = value.cleansed filter key := by
  rw [hleaf, cleanse_leaf_eq]
  split_ifs with hhides
  · show cleanse_leaf filter key _ = _
    rw [cleanse_leaf_eq, if_pos hhides]
  · rw [hleaf, cleanse_leaf_eq, if_neg hhides]

private theorem mutated_cleansed_of_leaf (hmutated : value.mutated filter key = value) :
    (value.cleansed filter key).mutated filter key = value.cleansed filter key := by
  rw [hleaf, cleanse_leaf_eq]
  split_ifs
  exacts [rfl, hmutated]

private theorem cleanse_depth_cleansed_of_leaf :
    (value.cleansed filter key).cleanse_depth ≤ value.cleanse_depth := by
  rw [hleaf, cleanse_leaf_eq]
  split_ifs
  exacts [Nat.zero_le _, le_rfl]

private theorem holds_unassignable_cleansed_of_leaf (hshape : value.holds_unassignable = false) :
    (value.cleansed filter key).holds_unassignable = false := by
  rw [hleaf, cleanse_leaf_eq]
  split_ifs
  exacts [rfl, hshape]

end Leaf

mutual

/-- Cleansing a cleansed value changes nothing. -/
theorem PyValue.cleansed_cleansed (filter : ReporterFilter) (key : PyKey) (value : PyValue) :
    (value.cleansed filter key).cleansed filter key = value.cleansed filter key := by
  cases value with
  | dict fields => exact congrArg PyValue.dict (cleansed_fields_cleansed_fields filter fields)
  | list items => exact congrArg PyValue.list (cleansed_list_cleansed_list filter key items)
  | tuple _ | set _ => rfl
  | _ => exact cleansed_cleansed_of_leaf rfl

theorem cleansed_list_cleansed_list (filter : ReporterFilter) (key : PyKey)
    (items : List PyValue) :
    cleansed_list filter key (cleansed_list filter key items) = cleansed_list filter key items := by
  cases items with
  | nil => rfl
  | cons item items =>
    exact congrArg₂ List.cons (PyValue.cleansed_cleansed filter key item)
      (cleansed_list_cleansed_list filter key items)

theorem cleansed_fields_cleansed_fields (filter : ReporterFilter)
    (fields : List (PyKey × PyValue)) :
    cleansed_fields filter (cleansed_fields filter fields) = cleansed_fields filter fields := by
  cases fields with
  | nil => rfl
  | cons field fields =>
    obtain ⟨key, value⟩ := field
    by_cases hellipsis : (value.cleansed filter key).is_ellipsis = true
    · rw [cleansed_fields, if_pos hellipsis]
      exact cleansed_fields_cleansed_fields filter fields
    · rw [cleansed_fields, if_neg hellipsis, cleansed_fields, PyValue.cleansed_cleansed filter key value,
        if_neg hellipsis, cleansed_fields_cleansed_fields filter fields]

end

mutual

/-- A cleansed value is left as it is by cleansing it again. -/
theorem PyValue.mutated_cleansed (filter : ReporterFilter) (key : PyKey) (value : PyValue) :
    (value.cleansed filter key).mutated filter key = value.cleansed filter key := by
  cases value with
  | dict fields => exact congrArg PyValue.dict (mutated_fields_cleansed_fields filter fields)
  | list items => exact congrArg PyValue.list (cleansed_list_cleansed_list filter key items)
  | tuple _ | set _ => rfl
  | _ => exact mutated_cleansed_of_leaf rfl rfl

theorem mutated_fields_cleansed_fields (filter : ReporterFilter)
    (fields : List (PyKey × PyValue)) :
    mutated_fields filter (cleansed_fields filter fields) = cleansed_fields filter fields := by
  cases fields with
  | nil => rfl
  | cons field fields =>
    obtain ⟨key, value⟩ := field
    by_cases hellipsis : (value.cleansed filter key).is_ellipsis = true
    · rw [cleansed_fields, if_pos hellipsis]
      exact mutated_fields_cleansed_fields filter fields
    · rw [cleansed_fields, if_neg hellipsis, mutated_fields, PyValue.mutated_cleansed filter key value,
        mutated_fields_cleansed_fields filter fields]

end

mutual

theorem PyValue.cleanse_depth_cleansed (filter : ReporterFilter) (key : PyKey)
    (value : PyValue) : (value.cleansed filter key).cleanse_depth ≤ value.cleanse_depth := by
  cases value with
  | dict fields => exact Nat.succ_le_succ (cleanse_depth_cleansed_fields filter fields)
  | list items => exact Nat.succ_le_succ (cleanse_depth_cleansed_list filter key items)
  | tuple _ | set _ => exact le_rfl
  | _ => exact cleanse_depth_cleansed_of_leaf rfl

theorem cleanse_depth_cleansed_list (filter : ReporterFilter) (key : PyKey)
    (items : List PyValue) :
    cleanse_depth_list (cleansed_list filter key items) ≤ cleanse_depth_list items := by
  cases items with
  | nil => exact le_rfl
  | cons item items =>
    exact Nat.max_le.2
      ⟨(PyValue.cleanse_depth_cleansed filter key item).trans (Nat.le_max_left _ _),
        (cleanse_depth_cleansed_list filter key items).trans (Nat.le_max_right _ _)⟩

theorem cleanse_depth_cleansed_fields (filter : ReporterFilter)
    (fields : List (PyKey × PyValue)) :
    cleanse_depth_fields (cleansed_fields filter fields) ≤ cleanse_depth_fields fields := by
  cases fields with
  | nil => exact le_rfl
  | cons field fields =>
    obtain ⟨key, value⟩ := field
    have hrest := cleanse_depth_cleansed_fields filter fields
    rw [cleansed_fields]
    split_ifs
    · exact hrest.trans (Nat.le_max_right _ _)
    · exact Nat.max_le.2
        ⟨(PyValue.cleanse_depth_cleansed filter key value).trans (Nat.le_max_left _ _),
          hrest.trans (Nat.le_max_right _ _)⟩

end

mutual

theorem PyValue.holds_unassignable_cleansed (filter : ReporterFilter) (key : PyKey)
    (value : PyValue) (h : value.holds_unassignable = false) :
    (value.cleansed filter key).holds_unassignable = false := by
  cases value with
  | dict fields => exact any_unassignable_cleansed_fields filter fields h
  | list items => exact any_unassignable_cleansed_list filter key items h
  | tuple _ | set _ => exact h
  | _ => exact holds_unassignable_cleansed_of_leaf rfl h

theorem any_unassignable_cleansed_list (filter : ReporterFilter) (key : PyKey)
    (items : List PyValue) (h : any_unassignable items = false) :
    any_unassignable (cleansed_list filter key items) = false := by
  cases items with
  | nil => rfl
  | cons item items =>
    obtain ⟨hitem, hitems⟩ := Bool.or_eq_false_iff.1 h
    exact Bool.or_eq_false_iff.2 ⟨PyValue.holds_unassignable_cleansed filter key item hitem,
      any_unassignable_cleansed_list filter key items hitems⟩

theorem any_unassignable_cleansed_fields (filter : ReporterFilter)
    (fields : List (PyKey × PyValue)) (h : any_unassignable_fields fields = false) :
    any_unassignable_fields (cleansed_fields filter fields) = false := by
  cases fields with
  | nil => rfl
  | cons field fields =>
    obtain ⟨key, value⟩ := field
    obtain ⟨hvalue, hfields⟩ := Bool.or_eq_false_iff.1 h
    have hrest := any_unassignable_cleansed_fields filter fields hfields
    rw [cleansed_fields]
    split_ifs
    · exact hrest
    · exact Bool.or_eq_false_iff.2 ⟨PyValue.holds_unassignable_cleansed filter key value hvalue, hrest⟩

end

/-- `cleanse_dict` is idempotent, for every filter and, with enough stack (fuel), every dict
    that holds no tuple or set with items: cleansing the dict it returns gives that dict back
    and writes nothing into it. -/
theorem cleanse_dict_idempotent (filter : ReporterFilter) (fuel : Nat)
    (source : List (PyKey × PyValue)) (hdepth : cleanse_depth_fields source < fuel)
    (hshape : any_unassignable_fields source = false) :
    ∃ cleansed, (cleanse_dict filter fuel source).1 = .ok cleansed ∧
      cleanse_dict filter fuel cleansed = (.ok cleansed, cleansed) := by
  have hspec : ∀ source, cleanse_depth_fields source < fuel →
      (cleanse_dict filter fuel source).1 = (if any_unassignable_fields source then
        .error .TypeError else .ok (cleansed_fields filter source)) ∧
      (any_unassignable_fields source = false →
        (cleanse_dict filter fuel source).2 = mutated_fields filter source) :=
    fun source hdepth => cleanse_fields_spec filter _ source fun field hfield =>
      cleanse_item_spec filter fuel _ _
        (Nat.lt_of_le_of_lt (cleanse_depth_fields_le_iff.1 le_rfl field hfield) hdepth)
  have hshape' := any_unassignable_cleansed_fields filter source hshape
  obtain ⟨hresult', hleft'⟩ := hspec (cleansed_fields filter source)
    (Nat.lt_of_le_of_lt (cleanse_depth_cleansed_fields filter source) hdepth)
  refine ⟨cleansed_fields filter source, ?_, Prod.ext ?_ ?_⟩
  · rw [(hspec source hdepth).1, hshape]
    rfl
  · rw [hresult', hshape', cleansed_fields_cleansed_fields]
    rfl
  · rw [hleft' hshape', mutated_fields_cleansed_fields]

theorem sample_settings_cleansed_twice :
    cleanse_depth_fields [("password", .list [.str "a"]), ("user", .str "akadmin")] < 3 ∧
    any_unassignable_fields [("password", .list [.str "a"]), ("user", .str "akadmin")] = false ∧
    ∃ cleansed, (cleanse_dict sample_filter 3
        [("password", .list [.str "a"]), ("user", .str "akadmin")]).1 = .ok cleansed ∧
      cleanse_dict sample_filter 3 cleansed = (.ok cleansed, cleansed) :=
  ⟨by decide, rfl, cleanse_dict_idempotent sample_filter 3 _ (by decide) rfl⟩

end authentik.events.utils
