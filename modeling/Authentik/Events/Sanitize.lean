import Authentik.Events.Utils

namespace authentik.events.utils

mutual

/-- A JSON value, as the docstring of `sanitize_item` promises: dicts with string keys and
    lists, whose leaves are `str`, `int`, `float`, `bool` or `None`. -/
def PyValue.is_json : PyValue → Bool
  | .none | .bool _ | .int _ | .float _ | .str _ => true
  | .list items => all_json items
  | .dict items => all_json_fields items
  | _ => false

def all_json : List PyValue → Bool
  | [] => true
  | item :: items => item.is_json && all_json items

def all_json_fields : List (PyKey × PyValue) → Bool
  | [] => true
  | (key, value) :: fields => key.is_str && value.is_json && all_json_fields fields

end

mutual

/-- `copy.deepcopy` copies the value without raising. -/
def PyValue.deep_copyable : PyValue → Bool
  | .http_request | .generator _ => false
  | .object _ copyable => copyable
  | .list items | .tuple items | .set items => all_copyable items
  | .dict items | .dataclass _ items => all_copyable_fields items
  | .model _ _ pk name _ => pk.deep_copyable && copyable_option name
  | _ => true

def all_copyable : List PyValue → Bool
  | [] => true
  | item :: items => item.deep_copyable && all_copyable items

def all_copyable_fields : List (PyKey × PyValue) → Bool
  | [] => true
  | (_, value) :: fields => value.deep_copyable && all_copyable_fields fields

def copyable_option : Option PyValue → Bool
  | none => true
  | some value => value.deep_copyable

end

/-- `isinstance(value, HttpRequest | WSGIRequest)` -/
def PyValue.is_http_request : PyValue → Bool
  | .http_request => true
  | _ => false

/-- What `sanitize_item` needs of a value it returns without recursing into it: not a
    request (which gives `...`) nor a dataclass class (on which `asdict` raises), a `__name__`
    on a callable, a naive time, and JSON in an enum's value and in the dict of a GeoIP
    record, which are returned as they are. -/
def PyValue.leaf_sanitizable : PyValue → Bool
  | .http_request => false
  | .type _ _ is_dataclass => !is_dataclass
  | .callable name _ => name.isSome
  | .time _ aware => !aware
  | .enum value => value.is_json
  | .city to_dict | .asn to_dict => all_json_fields to_dict
  | _ => true

mutual

/-- The values `sanitize_item` turns into JSON: every value it does not recurse into is
    `leaf_sanitizable`, a request may stand as a dict value (which `sanitize_dict` drops),
    the other dict keys are strings, and a dataclass's fields are ones `asdict` can convert
    (but the `http_request` of a `PolicyRequest`, which is set to `None` first). -/
def PyValue.sanitizable : PyValue → Bool
  | .list items | .tuple items | .set items | .generator items => all_sanitizable items
  | .dict items => all_sanitizable_fields items
  | .dataclass policy_request fields => dataclass_sanitizable policy_request fields
  | .model _ _ pk name _ => pk.sanitizable && sanitizable_option name
  | value => value.leaf_sanitizable

def all_sanitizable : List PyValue → Bool
  | [] => true
  | item :: items => item.sanitizable && all_sanitizable items

/-- The items of a dict: `sanitize_dict` drops a request, which sanitizes to `...`. -/
def all_sanitizable_fields : List (PyKey × PyValue) → Bool
  | [] => true
  | (key, value) :: fields =>
    (value.is_http_request || key.is_str && value.sanitizable) && all_sanitizable_fields fields

def sanitizable_option : Option PyValue → Bool
  | none => true
  | some value => value.sanitizable

/-- The fields of a dataclass `sanitize_item` gives to `asdict`. -/
def dataclass_sanitizable : Bool → List (PyKey × PyValue) → Bool
  | _, [] => true
  | policy_request, (key, value) :: fields =>
    key.is_str && (policy_request && key == PyKey.str "http_request" || value.asdict_safe) &&
      dataclass_sanitizable policy_request fields

/-- A value inside `asdict`, which turns nested dataclasses into dicts (with no
    `PolicyRequest` exception) and deep-copies what is not a list, tuple or dict: the copy
    must succeed and be sanitizable. -/
def PyValue.asdict_safe : PyValue → Bool
  | .dataclass _ fields | .dict fields => all_asdict_safe_fields fields
  | .list items | .tuple items => all_asdict_safe items
  | .set items => all_copyable items && all_sanitizable items
  | .model _ _ pk name _ =>
    (pk.deep_copyable && copyable_option name) && (pk.sanitizable && sanitizable_option name)
  | value => value.deep_copyable && value.leaf_sanitizable

def all_asdict_safe : List PyValue → Bool
  | [] => true
  | item :: items => item.asdict_safe && all_asdict_safe items

def all_asdict_safe_fields : List (PyKey × PyValue) → Bool
  | [] => true
  | (key, value) :: fields => key.is_str && value.asdict_safe && all_asdict_safe_fields fields

end

mutual

/-- The nesting depth `sanitize_item` recurses to: the calls it makes below a value. -/
def PyValue.depth : PyValue → Nat
  | .list items | .tuple items | .set items => depth_list items + 1
  | .generator items => depth_list items + 2
  | .dict items | .dataclass _ items => depth_fields items + 1
  | .user .. | .anonymous_user => 1
  | .model _ _ pk name _ => max pk.depth (depth_option name) + 1
  | _ => 0

def depth_list : List PyValue → Nat
  | [] => 0
  | item :: items => max item.depth (depth_list items)

def depth_fields : List (PyKey × PyValue) → Nat
  | [] => 0
  | (_, value) :: fields => max value.depth (depth_fields fields)

def depth_option : Option PyValue → Nat
  | none => 0
  | some value => value.depth

end

section Helpers

variable {items : List PyValue} {fields : List (PyKey × PyValue)}

@[simp]
theorem all_json_fields_iff :
    all_json_fields fields = true ↔
      ∀ field ∈ fields, field.1.is_str = true ∧ field.2.is_json = true := by
  induction fields with
  | nil => simp [all_json_fields]
  | cons field fields ih =>
    obtain ⟨key, value⟩ := field
    simp only [all_json_fields, Bool.and_eq_true, ih, List.forall_mem_cons]

@[simp]
theorem all_sanitizable_iff :
    all_sanitizable items = true ↔ ∀ item ∈ items, item.sanitizable = true := by
  induction items <;> simp [all_sanitizable, *]

@[simp]
theorem all_sanitizable_fields_iff : all_sanitizable_fields fields = true ↔
    ∀ field ∈ fields, (field.2.is_http_request || field.1.is_str && field.2.sanitizable) = true := by
  induction fields with
  | nil => simp [all_sanitizable_fields]
  | cons field fields ih =>
    obtain ⟨key, value⟩ := field
    simp only [all_sanitizable_fields, Bool.and_eq_true, ih, List.forall_mem_cons]

@[simp]
theorem all_asdict_safe_fields_iff : all_asdict_safe_fields fields = true ↔
    ∀ field ∈ fields, field.1.is_str = true ∧ field.2.asdict_safe = true := by
  induction fields with
  | nil => simp [all_asdict_safe_fields]
  | cons field fields ih =>
    obtain ⟨key, value⟩ := field
    simp only [all_asdict_safe_fields, Bool.and_eq_true, ih, List.forall_mem_cons]

@[simp]
theorem dataclass_sanitizable_iff {policy_request : Bool} :
    dataclass_sanitizable policy_request fields = true ↔ ∀ field ∈ fields, field.1.is_str = true ∧
      (policy_request && field.1 == PyKey.str "http_request" || field.2.asdict_safe) = true := by
  induction fields with
  | nil => simp [dataclass_sanitizable]
  | cons field fields ih =>
    obtain ⟨key, value⟩ := field
    simp only [dataclass_sanitizable, Bool.and_eq_true, ih, List.forall_mem_cons]

@[simp]
theorem depth_list_le_iff {d : Nat} :
    depth_list items ≤ d ↔ ∀ item ∈ items, item.depth ≤ d := by
  induction items <;> simp [depth_list, Nat.max_le, *]

@[simp]
theorem depth_fields_le_iff {d : Nat} :
    depth_fields fields ≤ d ↔ ∀ field ∈ fields, field.2.depth ≤ d := by
  induction fields with
  | nil => simp [depth_fields]
  | cons field fields ih =>
    obtain ⟨key, value⟩ := field
    simp only [depth_fields, Nat.max_le, ih, List.forall_mem_cons]

private theorem eq_http_request_of_is_http_request {value : PyValue}
    (h : value.is_http_request = true) :
    value = .http_request := by
  cases value <;> first | rfl | cases h

end Helpers

mutual

/-- `copy.deepcopy` returns an equal copy of a value it can copy. -/
theorem deepcopy_of_deep_copyable (value : PyValue) (h : value.deep_copyable = true) :
    deepcopy value = .ok value := by
  cases value with
  | http_request | generator _ => cases h
  | object s copyable => obtain rfl : copyable = true := h; rfl
  | list items | tuple items | set items =>
    exact congrArg (_ <$> ·) (deepcopy_list_of_all_copyable items h)
  | dict fields | dataclass _ fields =>
    exact congrArg (_ <$> ·) (deepcopy_fields_of_all_copyable fields h)
  | model app_label model_name pk name str =>
    obtain ⟨hpk, hname⟩ := Bool.and_eq_true_iff.1 h
    show (deepcopy pk >>= fun pk => deepcopy_option name >>= fun name =>
      pure (PyValue.model app_label model_name pk name str) : Except Raised PyValue) = _
    rw [deepcopy_of_deep_copyable pk hpk, deepcopy_option_of_copyable name hname]; rfl
  | _ => rfl

theorem deepcopy_list_of_all_copyable (items : List PyValue) (h : all_copyable items = true) :
    deepcopy_list items = .ok items := by
  cases items with
  | nil => rfl
  | cons item items =>
    obtain ⟨hitem, hitems⟩ := Bool.and_eq_true_iff.1 h
    rw [deepcopy_list, deepcopy_of_deep_copyable item hitem,
      deepcopy_list_of_all_copyable items hitems]; rfl

theorem deepcopy_fields_of_all_copyable (fields : List (PyKey × PyValue))
    (h : all_copyable_fields fields = true) : deepcopy_fields fields = .ok fields := by
  cases fields with
  | nil => rfl
  | cons field fields =>
    obtain ⟨key, value⟩ := field
    obtain ⟨hvalue, hfields⟩ := Bool.and_eq_true_iff.1 h
    rw [deepcopy_fields, deepcopy_of_deep_copyable value hvalue,
      deepcopy_fields_of_all_copyable fields hfields]; rfl

theorem deepcopy_option_of_copyable (value : Option PyValue) (h : copyable_option value = true) :
    deepcopy_option value = .ok value := by
  cases value with
  | none => rfl
  | some value => rw [deepcopy_option, deepcopy_of_deep_copyable value h]; rfl

end

/-- A value `asdict` deep-copies converts when the copy succeeds and is sanitizable. -/
private theorem asdict_inner_of_deepcopy (value : PyValue)
    (hinner : asdict_inner value = deepcopy value)
    (hsafe : value.asdict_safe = (value.deep_copyable && value.sanitizable))
    (h : value.asdict_safe = true) :
    ∃ result, asdict_inner value = .ok result ∧ result.sanitizable = true ∧
      result.depth ≤ value.depth := by
  rw [hsafe, Bool.and_eq_true] at h
  exact ⟨value, hinner ▸ deepcopy_of_deep_copyable value h.1, h.2, le_rfl⟩

mutual

/-- `asdict` converts a value it can convert into a sanitizable value nested no deeper. -/
theorem asdict_inner_of_asdict_safe (value : PyValue) (h : value.asdict_safe = true) :
    ∃ result, asdict_inner value = .ok result ∧ result.sanitizable = true ∧
      result.depth ≤ value.depth := by
  cases value with
  | dataclass _ fields | dict fields =>
    obtain ⟨results, hresults, hsafe, hdepth⟩ := asdict_fields_of_asdict_safe fields h
    exact ⟨.dict results, congrArg (_ <$> ·) hresults, hsafe, Nat.succ_le_succ hdepth⟩
  | list items =>
    obtain ⟨results, hresults, hsafe, hdepth⟩ := asdict_list_of_asdict_safe items h
    exact ⟨.list results, congrArg (_ <$> ·) hresults, hsafe, Nat.succ_le_succ hdepth⟩
  | tuple items =>
    obtain ⟨results, hresults, hsafe, hdepth⟩ := asdict_list_of_asdict_safe items h
    exact ⟨.tuple results, congrArg (_ <$> ·) hresults, hsafe, Nat.succ_le_succ hdepth⟩
  | _ => exact asdict_inner_of_deepcopy _ rfl rfl h

theorem asdict_list_of_asdict_safe (items : List PyValue) (h : all_asdict_safe items = true) :
    ∃ results, asdict_list items = .ok results ∧ all_sanitizable results = true ∧
      depth_list results ≤ depth_list items := by
  cases items with
  | nil => exact ⟨[], rfl, rfl, le_rfl⟩
  | cons item items =>
    obtain ⟨hitem, hitems⟩ := Bool.and_eq_true_iff.1 h
    obtain ⟨result, hresult, hsafe, hdepth⟩ := asdict_inner_of_asdict_safe item hitem
    obtain ⟨results, hresults, hsafes, hdepths⟩ := asdict_list_of_asdict_safe items hitems
    refine ⟨result :: results, by rw [asdict_list, hresult, hresults]; rfl, ?_, ?_⟩
    · simp only [all_sanitizable, hsafe, hsafes, Bool.and_self]
    · simp only [depth_list]; omega

theorem asdict_fields_of_asdict_safe (fields : List (PyKey × PyValue))
    (h : all_asdict_safe_fields fields = true) :
    ∃ results, asdict_fields fields = .ok results ∧ all_sanitizable_fields results = true ∧
      depth_fields results ≤ depth_fields fields := by
  cases fields with
  | nil => exact ⟨[], rfl, rfl, le_rfl⟩
  | cons field fields =>
    obtain ⟨key, value⟩ := field
    obtain ⟨hfield, hfields⟩ := Bool.and_eq_true_iff.1 h
    obtain ⟨hkey, hvalue⟩ := Bool.and_eq_true_iff.1 hfield
    obtain ⟨result, hresult, hsafe, hdepth⟩ := asdict_inner_of_asdict_safe value hvalue
    obtain ⟨results, hresults, hsafes, hdepths⟩ := asdict_fields_of_asdict_safe fields hfields
    refine ⟨(key, result) :: results, by rw [asdict_fields, hresult, hresults]; rfl, ?_, ?_⟩
    · simp only [all_sanitizable_fields, hkey, hsafe, hsafes, Bool.and_self, Bool.or_true]
    · simp only [depth_fields]; omega

end

/-- Setting the `http_request` of a `PolicyRequest` to `None` leaves fields `asdict` can
    convert, nested no deeper. -/
theorem policy_request_fields_asdict_safe {policy_request : Bool}
    {fields : List (PyKey × PyValue)} (h : dataclass_sanitizable policy_request fields = true) :
    let fields' := if policy_request then without_http_request fields else fields
    all_asdict_safe_fields fields' = true ∧ depth_fields fields' ≤ depth_fields fields := by
  cases policy_request with
  | false =>
    exact ⟨all_asdict_safe_fields_iff.2 (by
      simpa only [dataclass_sanitizable_iff, Bool.false_and, Bool.false_or] using h), le_rfl⟩
  | true =>
    simp only [dataclass_sanitizable_iff, Bool.true_and, Bool.or_eq_true, beq_iff_eq] at h
    simp only [if_true, without_http_request, all_asdict_safe_fields_iff, depth_fields_le_iff,
      List.forall_mem_map]
    refine ⟨fun field hfield => ?_, fun field hfield => ?_⟩ <;> split_ifs with hkey
    · exact ⟨(h field hfield).1, rfl⟩
    · exact ⟨(h field hfield).1, (h field hfield).2.resolve_left hkey⟩
    · exact Nat.zero_le _
    · exact depth_fields_le_iff.1 le_rfl field hfield

/-- The dict `get_user` makes holds a string, an int and maybe a bool. -/
theorem get_user_sanitizable (env : Env) (value : PyValue) :
    all_sanitizable_fields (get_user env value) = true ∧
      depth_fields (get_user env value) = 0 := by
  unfold get_user user_data
  split
  · split <;> exact ⟨rfl, rfl⟩
  · split
    · split <;> exact ⟨rfl, rfl⟩
    · exact ⟨rfl, rfl⟩
  · exact ⟨rfl, rfl⟩

/-- The dict `model_to_dict` makes is sanitizable when the model's `pk` and `name` are. -/
theorem model_to_dict_sanitizable {app_label model_name str : String} {pk : PyValue}
    {name : Option PyValue} (hpk : pk.sanitizable = true) (hname : sanitizable_option name = true) :
    all_sanitizable_fields (model_to_dict app_label model_name pk name str) = true ∧
      depth_fields (model_to_dict app_label model_name pk name str) ≤
        max pk.depth (depth_option name) := by
  have hstr (s : String) : (PyValue.str s).sanitizable = true ∧ (PyValue.str s).depth = 0 :=
    ⟨rfl, rfl⟩
  cases name with
  | none =>
    simp only [model_to_dict, all_sanitizable_fields, depth_fields, depth_option, hstr, hpk,
      PyKey.is_str, Option.getD_none, Bool.or_true, Bool.and_self, Nat.zero_max, Nat.max_zero,
      Nat.le_refl, and_self]
  | some name =>
    simp only [sanitizable_option] at hname
    simp only [model_to_dict, all_sanitizable_fields, depth_fields, depth_option, hstr, hpk,
      hname, PyKey.is_str, Option.getD_some, Bool.or_true, Bool.and_self, Nat.zero_max,
      Nat.max_zero, Nat.le_refl, and_self]

/-- The loop of `sanitize_dict` returns JSON when `item` gives `...` on each value, or JSON
    under a string key. -/
theorem sanitize_fields_json (item : PyValue → Except Raised PyValue)
    (source : List (PyKey × PyValue))
    (h : ∀ field ∈ source, ∃ new_value, item field.2 = .ok new_value ∧
      (new_value.is_ellipsis || field.1.is_str && new_value.is_json) = true) :
    ∃ final_dict, sanitize_fields item source = .ok final_dict ∧
      all_json_fields final_dict = true := by
  induction source with
  | nil => exact ⟨[], rfl, rfl⟩
  | cons field source ih =>
    obtain ⟨key, value⟩ := field
    obtain ⟨new_value, hitem, hjson⟩ := h (key, value) (List.mem_cons_self _ _)
    obtain ⟨final_dict, hrest, hfinal⟩ :=
      ih fun field hfield => h field (List.mem_cons_of_mem _ hfield)
    rw [sanitize_fields, hitem, hrest]
    refine ⟨_, rfl, ?_⟩
    cases hellipsis : new_value.is_ellipsis
    · simp only [hellipsis, Bool.false_or] at hjson
      simp only [hellipsis, Bool.false_eq_true, if_false, all_json_fields, hjson, hfinal,
        Bool.and_self]
    · simpa only [hellipsis, if_true] using hfinal

/-- The loop of the list branch returns JSON when `item` gives JSON on each item. -/
theorem sanitize_items_json (item : PyValue → Except Raised PyValue) (values : List PyValue)
    (h : ∀ value ∈ values, ∃ new_value, item value = .ok new_value ∧
      new_value.is_json = true) :
    ∃ new_values, sanitize_items item values = .ok new_values ∧ all_json new_values = true := by
  induction values with
  | nil => exact ⟨[], rfl, rfl⟩
  | cons value values ih =>
    obtain ⟨new_value, hitem, hjson⟩ := h value (List.mem_cons_self _ _)
    obtain ⟨new_values, hrest, hfinal⟩ :=
      ih fun value hvalue => h value (List.mem_cons_of_mem _ hvalue)
    rw [sanitize_items, hitem, hrest]
    refine ⟨_, rfl, ?_⟩
    split
    · simp only [all_json, hjson, hfinal, Bool.and_self]
    · exact hfinal

/-- Two filters of one list agree exactly when the predicates agree on its elements (the
    converse of `List.filter_congr`). -/
theorem filter_eq_filter_iff {α : Type} {p q : α → Bool} :
    ∀ {l : List α}, l.filter p = l.filter q ↔ ∀ x ∈ l, p x = q x
  | [] => by simp
  | a :: l => by
    rw [List.forall_mem_cons, ← filter_eq_filter_iff]
    constructor
    · intro h
      -- a head kept by one filter only would sit in the other's filter of the tail
      have hpa : p a = q a := by
        cases hp : p a <;> cases hq : q a <;>
          simp only [List.filter_cons, hp, hq, Bool.false_eq_true, if_false, if_true] at h
        · rfl
        · have hmem := List.mem_filter.1 (h ▸ List.mem_cons_self a _ : a ∈ l.filter p)
          exact absurd hmem.2 (by rw [hp]; decide)
        · have hmem := List.mem_filter.1 (h.symm ▸ List.mem_cons_self a _ : a ∈ l.filter q)
          exact absurd hmem.2 (by rw [hq]; decide)
        · rfl
      refine ⟨hpa, ?_⟩
      simp only [List.filter_cons, hpa] at h
      split_ifs at h
      exacts [List.cons_injective h, h]
    · rintro ⟨hpa, htail⟩
      simp only [List.filter_cons, hpa, htail]

/-- The loop of the list branch sanitizes every item, in order, and then keeps the true
    results. -/
theorem sanitize_items_eq (item : PyValue → Except Raised PyValue) :
    ∀ values : List PyValue,
      sanitize_items item values = (values.mapM item).map (·.filter truthy)
  | [] => rfl
  | value :: values => by
    rw [sanitize_items, List.mapM_cons, sanitize_items_eq item values]
    cases item value with
    | error e => rfl
    | ok new_value =>
      cases values.mapM item with
      | error e => rfl
      | ok new_values => exact congrArg Except.ok List.filter_cons.symm

private theorem truthy_of_is_ellipsis {value : PyValue} (h : value.is_ellipsis = true) :
    truthy value = true := by
  cases value <;> first | rfl | cases h

section Step

variable (env : Env) (fuel : Nat)
  (ih : ∀ value : PyValue, value.sanitizable = true → value.depth < fuel →
    ∃ result, sanitize_item env fuel value = .ok result ∧ result.is_json = true)
include ih

/-- `sanitize_dict` returns JSON on sanitizable values: a request among them gives `...`,
    which is dropped. -/
theorem sanitize_fields_sanitizable (source : List (PyKey × PyValue))
    (hsource : all_sanitizable_fields source = true) (hdepth : depth_fields source < fuel) :
    ∃ final_dict, sanitize_fields (sanitize_item env fuel) source = .ok final_dict ∧
      all_json_fields final_dict = true := by
  refine sanitize_fields_json _ source fun field hfield => ?_
  have hdepth' := depth_fields_le_iff.1 le_rfl field hfield
  rcases Bool.or_eq_true_iff.1 (all_sanitizable_fields_iff.1 hsource field hfield) with
    hrequest | hsafe
  · obtain ⟨fuel, rfl⟩ : ∃ n, fuel = n + 1 := ⟨fuel - 1, by omega⟩
    rw [eq_http_request_of_is_http_request hrequest]
    exact ⟨.ellipsis, rfl, rfl⟩
  · obtain ⟨hkey, hsafe⟩ := Bool.and_eq_true_iff.1 hsafe
    obtain ⟨result, hresult, hjson⟩ := ih field.2 hsafe (by omega)
    exact ⟨result, hresult, by simp only [hkey, hjson, Bool.and_self, Bool.or_true]⟩

/-- A branch of `sanitize_item` that ends in `sanitize_dict` returns a JSON dict. -/
theorem sanitize_dict_branch {result : Except Raised PyValue} {source : List (PyKey × PyValue)}
    (hresult : result = .dict <$> sanitize_fields (sanitize_item env fuel) source)
    (hsource : all_sanitizable_fields source = true) (hdepth : depth_fields source < fuel) :
    ∃ value, result = .ok value ∧ value.is_json = true := by
  obtain ⟨final_dict, hfinal, hjson⟩ :=
    sanitize_fields_sanitizable env fuel ih source hsource hdepth
  exact ⟨.dict final_dict, by rw [hresult, hfinal]; rfl, hjson⟩

/-- The list branch of `sanitize_item` returns JSON on sanitizable items. -/
theorem sanitize_items_sanitizable (values : List PyValue)
    (hvalues : all_sanitizable values = true) (hdepth : depth_list values < fuel) :
    ∃ new_values, sanitize_items (sanitize_item env fuel) values = .ok new_values ∧
      all_json new_values = true :=
  sanitize_items_json _ values fun value hvalue =>
    ih value (all_sanitizable_iff.1 hvalues value hvalue)
      (Nat.lt_of_le_of_lt (depth_list_le_iff.1 le_rfl value hvalue) hdepth)

end Step

/-- `sanitize_item` returns JSON, without raising, on every sanitizable value nested less
    deep than its fuel. -/
theorem sanitize_item_json (env : Env) (fuel : Nat) (value : PyValue)
    (hvalue : value.sanitizable = true) (hdepth : value.depth < fuel) :
    ∃ result, sanitize_item env fuel value = .ok result ∧ result.is_json = true := by
  induction fuel generalizing value with
  | zero => exact absurd hdepth (Nat.not_lt_zero _)
  | succ fuel ih =>
    cases value with
    | dataclass policy_request fields =>
      obtain ⟨hsafe, hdepth'⟩ := policy_request_fields_asdict_safe hvalue
      obtain ⟨results, hresults, hsan, hdepths⟩ := asdict_fields_of_asdict_safe _ hsafe
      refine sanitize_dict_branch env fuel ih ?_ hsan
        (Nat.lt_of_le_of_lt (hdepths.trans hdepth') (Nat.lt_of_succ_lt_succ hdepth))
      show asdict_fields _ >>= _ = _
      rw [hresults]
      rfl
    | dict source =>
      exact sanitize_dict_branch env fuel ih rfl hvalue (Nat.lt_of_succ_lt_succ hdepth)
    | generator items => exact ih (.list items) hvalue (Nat.lt_of_succ_lt_succ hdepth)
    | list items | tuple items | set items =>
      obtain ⟨new_values, hnew, hjson⟩ :=
        sanitize_items_sanitizable env fuel ih items hvalue (Nat.lt_of_succ_lt_succ hdepth)
      exact ⟨.list new_values, congrArg (_ <$> ·) hnew, hjson⟩
    | user _ _ _ | anonymous_user =>
      obtain ⟨hsan, hzero⟩ := get_user_sanitizable env _
      exact sanitize_dict_branch env fuel ih rfl hsan (hzero ▸ Nat.lt_of_succ_lt_succ hdepth)
    | model app_label model_name pk name str =>
      obtain ⟨hpk, hname⟩ := Bool.and_eq_true_iff.1 hvalue
      obtain ⟨hsan, hdepth'⟩ :=
        @model_to_dict_sanitizable app_label model_name str pk name hpk hname
      exact sanitize_dict_branch env fuel ih rfl hsan
        (Nat.lt_of_le_of_lt hdepth' (Nat.lt_of_succ_lt_succ hdepth))
    | http_request => cases hvalue
    | type _ _ dataclass => cases dataclass with
      | false => exact ⟨_, rfl, rfl⟩
      | true => cases hvalue
    | time _ aware => cases aware with
      | false => exact ⟨_, rfl, rfl⟩
      | true => cases hvalue
    | callable name _ => cases name with
      | none => cases hvalue
      | some name => exact ⟨_, rfl, rfl⟩
    | enum value => exact ⟨value, rfl, hvalue⟩
    | city to_dict | asn to_dict => exact ⟨.dict to_dict, rfl, hvalue⟩
    | _ => exact ⟨_, rfl, rfl⟩

/-- `sanitize_dict` returns a dict of JSON values on a dict of sanitizable values nested
    less deep than its fuel. -/
theorem sanitize_dict_json (env : Env) (fuel : Nat) (source : List (PyKey × PyValue))
    (hsource : all_sanitizable_fields source = true) (hdepth : depth_fields source < fuel) :
    ∃ final_dict, sanitize_dict env fuel source = .ok final_dict ∧
      all_json_fields final_dict = true :=
  sanitize_fields_sanitizable env fuel (sanitize_item_json env fuel) source hsource hdepth

/-- No anonymous user in the database, and guardian's default `ANONYMOUS_USER_NAME`. -/
def sample_env : Env := ⟨none, "AnonymousUser"⟩

/-- An event context: the request, the anonymous user and a UTC datetime. -/
def sample_event_context : List (PyKey × PyValue) :=
  [("http_request", .http_request), ("user", .anonymous_user),
    ("created", .datetime "2024-01-01T00:00:00+00:00")]

example : ∃ final_dict, sanitize_dict sample_env 3 sample_event_context = .ok final_dict ∧
    all_json_fields final_dict = true :=
  sanitize_dict_json sample_env 3 _ rfl (by decide)

/-- What `sanitizable` leaves out raises: a callable without a `__name__`, a generator field
    that `asdict` deep-copies, and a dataclass class, which `asdict` refuses. -/
example : sanitize_item sample_env 1 (.callable none "functools") = .error .AttributeError ∧
    sanitize_item sample_env 2 (.dataclass false [("items", .generator [])]) = .error .TypeError ∧
    sanitize_item sample_env 1 (.type "PolicyRequest" "authentik.policies.types" true) =
      .error .TypeError :=
  ⟨rfl, rfl, rfl⟩

/-- The list branch of `sanitize_item` keeps the true sanitized items, where `sanitize_dict`
    leaves out only `...`: the two agree exactly when every sanitized item is true and none
    is `...`. A generator is first made a list, one call deeper. -/
theorem sanitize_list_keeps_truthy (env : Env) (fuel : Nat) (value : PyValue)
    (items new_values : List PyValue)
    (hvalue : value = .list items ∨ value = .tuple items ∨ value = .set items)
    (hitems : items.mapM (sanitize_item env fuel) = .ok new_values) :
    sanitize_item env (fuel + 2) (.generator items) = sanitize_item env (fuel + 1) value ∧
    sanitize_item env (fuel + 1) value = .ok (.list (new_values.filter truthy)) ∧
    (sanitize_item env (fuel + 1) value =
        .ok (.list (new_values.filter fun new_value => !new_value.is_ellipsis)) ↔
      ∀ new_value ∈ new_values, truthy new_value = true ∧ new_value.is_ellipsis = false) := by
  have hlist : sanitize_item env (fuel + 1) value =
      .list <$> sanitize_items (sanitize_item env fuel) items := by
    rcases hvalue with rfl | rfl | rfl <;> rfl
  refine ⟨by rw [hlist]; rfl, ?_⟩
  rw [hlist, sanitize_items_eq, hitems]
  refine ⟨rfl, ?_⟩
  show Except.ok (PyValue.list _) = _ ↔ _
  rw [Except.ok.injEq, PyValue.list.injEq, filter_eq_filter_iff]
  refine forall₂_congr fun new_value _ => ?_
  cases hellipsis : new_value.is_ellipsis
  · simp
  · simp [truthy_of_is_ellipsis hellipsis]

theorem falsy_dropped_request_kept :
    sanitize_item sample_env 2 (.list [.int 0, .http_request]) = .ok (.list [.ellipsis]) ∧
    sanitize_item sample_env 2 (.list [.int 0, .http_request]) ≠ .ok (.list [.int 0]) :=
  have h := sanitize_list_keeps_truthy sample_env 1 _ [.int 0, .http_request]
    [.int 0, .ellipsis] (.inl rfl) rfl
  ⟨h.2.1, fun heq => absurd ((h.2.2.1 heq) (.int 0) (List.mem_cons_self _ _)).1 (by decide)⟩

private theorem mem_of_mapM_ok {f : PyValue → Except Raised PyValue} {x y : PyValue}
    (hxy : f x = .ok y) : ∀ {items new_values : List PyValue},
      items.mapM f = .ok new_values → x ∈ items → y ∈ new_values
  | [], _, _, hx => absurd hx (List.not_mem_nil x)
  | item :: items, new_values, h, hx => by
    rw [List.mapM_cons] at h
    rcases hitem : f item with e | new_value
    · rw [hitem] at h
      cases h
    rcases hrest : items.mapM f with e | rest
    · rw [hitem, hrest] at h
      cases h
    rw [hitem, hrest] at h
    cases h
    rcases List.mem_cons.1 hx with rfl | hx
    · rw [hxy] at hitem
      cases hitem
      exact List.mem_cons_self _ _
    · exact List.mem_cons_of_mem _ (mem_of_mapM_ok hxy hrest hx)

private theorem all_json_eq_false {items : List PyValue} {item : PyValue} (hitem : item ∈ items)
    (h : item.is_json = false) : all_json items = false := by
  induction items with
  | nil => cases hitem
  | cons head items ih =>
    rcases List.mem_cons.1 hitem with rfl | hitem
    · simp only [all_json, h, Bool.false_and]
    · simp only [all_json, ih hitem, Bool.and_false]

/-- A request in a list is kept as `...`, which is not JSON, against the docstring's
    "ensure it is JSON parsable": for every list whose items all sanitize and that holds a
    request, `sanitize_item` returns the list of the true results, `...` among them. -/
theorem sanitize_list_request_not_json (env : Env) (fuel : Nat) (items new_values : List PyValue)
    (hitems : items.mapM (sanitize_item env (fuel + 1)) = .ok new_values)
    (hrequest : PyValue.http_request ∈ items) :
    sanitize_item env (fuel + 2) (.list items) = .ok (.list (new_values.filter truthy)) ∧
      PyValue.ellipsis ∈ new_values.filter truthy ∧
      (PyValue.list (new_values.filter truthy)).is_json = false := by
  have hrequest_sanitized : sanitize_item env (fuel + 1) .http_request = .ok .ellipsis := rfl
  have hellipsis : PyValue.ellipsis ∈ new_values.filter truthy :=
    List.mem_filter.2 ⟨mem_of_mapM_ok hrequest_sanitized hitems hrequest, rfl⟩
  refine ⟨?_, hellipsis, all_json_eq_false hellipsis rfl⟩
  show PyValue.list <$> sanitize_items _ items = _
  rw [sanitize_items_eq, hitems]
  rfl

theorem request_list_sanitized_to_ellipsis :
    sanitize_item sample_env 2 (.list [.http_request]) = .ok (.list [.ellipsis]) ∧
      (PyValue.list [.ellipsis]).is_json = false :=
  have h := sanitize_list_request_not_json sample_env 0 [.http_request] [.ellipsis] rfl
    (List.mem_singleton_self _)
  ⟨h.1, h.2.2⟩

end authentik.events.utils
