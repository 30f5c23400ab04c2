import Authentik.Events.Utils

namespace authentik.events.utils

mutual

/-- The nesting depth `cleanse_item` recurses to: the calls it makes below a value. -/
def PyValue.cleanse_depth : PyValue → Nat
  | .dict fields => cleanse_depth_fields fields + 1
  | .list items | .tuple items | .set items => cleanse_depth_list items + 1
  | _ => 0

def cleanse_depth_list : List PyValue → Nat
  | [] => 0
  | item :: items => max item.cleanse_depth (cleanse_depth_list items)

def cleanse_depth_fields : List (PyKey × PyValue) → Nat
  | [] => 0
  | (_, value) :: fields => max value.cleanse_depth (cleanse_depth_fields fields)

end

mutual

/-- A tuple or a set with items that `cleanse_item` reaches through dict values and list
    items: assigning to its first item raises `TypeError`. -/
def PyValue.holds_unassignable : PyValue → Bool
  | .dict fields => any_unassignable_fields fields
  | .list items => any_unassignable items
  | .tuple items | .set items => !items.isEmpty
  | _ => false

def any_unassignable : List PyValue → Bool
  | [] => false
  | item :: items => item.holds_unassignable || any_unassignable items

def any_unassignable_fields : List (PyKey × PyValue) → Bool
  | [] => false
  | (_, value) :: fields => value.holds_unassignable || any_unassignable_fields fields

end

mutual

/-- What cleansing `value` under `key` gives: a dict is cleansed by its own keys, leaving
    out the values that cleanse to `...`; the items of a list are cleansed under the key of
    the list; an empty tuple or set stays as it is; and any other value is the leaf
    `cleanse_leaf` replaces by `cleansed_substitute` when `key` matches `hidden_settings`
    and not `ALLOWED_SPECIAL_KEYS`. -/
def PyValue.cleansed (filter : ReporterFilter) (key : PyKey) : PyValue → PyValue
  | .dict fields => .dict (cleansed_fields filter fields)
  | .list items => .list (cleansed_list filter key items)
  | .tuple items => .tuple items
  | .set items => .set items
  | value => cleanse_leaf filter key value

def cleansed_list (filter : ReporterFilter) (key : PyKey) : List PyValue → List PyValue
  | [] => []
  | item :: items => item.cleansed filter key :: cleansed_list filter key items

def cleansed_fields (filter : ReporterFilter) :
    List (PyKey × PyValue) → List (PyKey × PyValue)
  | [] => []
  | (key, value) :: fields =>
    if (value.cleansed filter key).is_ellipsis then cleansed_fields filter fields
    else (key, value.cleansed filter key) :: cleansed_fields filter fields

end

mutual

/-- `value` after it has been cleansed under `key`: every list reached through dict values
    and list items holds the cleansed values of its items; nothing else is written. -/
def PyValue.mutated (filter : ReporterFilter) (key : PyKey) : PyValue → PyValue
  | .dict fields => .dict (mutated_fields filter fields)
  | .list items => .list (cleansed_list filter key items)
  | value => value

def mutated_fields (filter : ReporterFilter) :
    List (PyKey × PyValue) → List (PyKey × PyValue)
  | [] => []
  | (key, value) :: fields => (key, value.mutated filter key) :: mutated_fields filter fields

end

/-- The keys whose leaves `cleanse_leaf` replaces: strings that match `hidden_settings` and
    not `ALLOWED_SPECIAL_KEYS`. -/
def ReporterFilter.hides (filter : ReporterFilter) : PyKey → Bool
  | .str key =>
    filter.hidden_settings_search key && !filter.search_ignorecase ALLOWED_SPECIAL_KEYS key
  | .other _ => false

/-- `cleanse_leaf` replaces a leaf by `cleansed_substitute` exactly when its key is one the
    filter `hides`; under a key that is not a string, the `TypeError` of `search` keeps it. -/
theorem cleanse_leaf_eq (filter : ReporterFilter) (key : PyKey) (value : PyValue) :
    cleanse_leaf filter key value =
      if filter.hides key then .str filter.cleansed_substitute else value := by
  cases key with
  | str key =>
    cases hhidden : filter.hidden_settings_search key <;>
      cases hallowed : filter.search_ignorecase ALLOWED_SPECIAL_KEYS key <;>
      simp only [cleanse_leaf, ReporterFilter.hides, hhidden, hallowed, Bool.not_false,
        Bool.not_true, Bool.and_true, Bool.and_false, Bool.false_eq_true, if_true, if_false]
  | other _ => rfl

section Helpers

variable {items : List PyValue} {fields : List (PyKey × PyValue)} {d : Nat}

@[simp]
theorem cleanse_depth_list_le_iff :
    cleanse_depth_list items ≤ d ↔ ∀ item ∈ items, item.cleanse_depth ≤ d := by
  induction items <;> simp [cleanse_depth_list, Nat.max_le, *]

@[simp]
theorem cleanse_depth_fields_le_iff :
    cleanse_depth_fields fields ≤ d ↔ ∀ field ∈ fields, field.2.cleanse_depth ≤ d := by
  induction fields with
  | nil => simp [cleanse_depth_fields]
  | cons field fields ih =>
    obtain ⟨key, value⟩ := field
    simp only [cleanse_depth_fields, Nat.max_le, ih, List.forall_mem_cons]

/-- Cleansing keeps the length of every list. -/
@[simp]
theorem length_cleansed_list (filter : ReporterFilter) (key : PyKey) :
    ∀ items : List PyValue, (cleansed_list filter key items).length = items.length
  | [] => rfl
  | _ :: items => congrArg Nat.succ (length_cleansed_list filter key items)

/-- Cleansing keeps the keys of every dict but those whose value cleanses to `...`. -/
theorem keys_cleansed_fields (filter : ReporterFilter) :
    ∀ fields : List (PyKey × PyValue), (cleansed_fields filter fields).map Prod.fst =
      (fields.filter fun field => !(field.2.cleansed filter field.1).is_ellipsis).map Prod.fst
  | [] => rfl
  | (key, value) :: fields => by
    rw [cleansed_fields, List.filter_cons]
    by_cases hellipsis : (value.cleansed filter key).is_ellipsis = true <;>
      simp only [hellipsis, if_true, if_false, Bool.not_true, Bool.not_false, Bool.false_eq_true,
        List.map_cons, keys_cleansed_fields filter fields]

end Helpers

/-- What `cleanse_item` does to a value nested less deep than its fuel: it raises
    `TypeError` when it reaches a tuple or a set with items, and otherwise it returns
    `value.cleansed` and leaves `value.mutated`. -/
def CleanseSpec (filter : ReporterFilter) (key : PyKey) (value : PyValue)
    (r : Except Raised PyValue × PyValue) : Prop :=
  r.1 = (if value.holds_unassignable then .error .TypeError else .ok (value.cleansed filter key)) ∧
  (value.holds_unassignable = false → r.2 = value.mutated filter key)

section Loops

variable (filter : ReporterFilter)

/-- The list loop of `cleanse_item` raises `TypeError` when an item holds a tuple or a set
    with items, and otherwise leaves the cleansed items in the list. -/
theorem cleanse_items_spec (item : PyValue → Except Raised PyValue × PyValue) (key : PyKey) :
    ∀ items : List PyValue, (∀ value ∈ items, CleanseSpec filter key value (item value)) →
      (cleanse_items item true items).1 =
          (if any_unassignable items then .error .TypeError else .ok ()) ∧
        (any_unassignable items = false →
          (cleanse_items item true items).2 = cleansed_list filter key items)
  | [], _ => ⟨rfl, fun _ => rfl⟩
  | value :: values, h => by
    obtain ⟨hresult, hleft⟩ := h value (List.mem_cons_self _ _)
    obtain ⟨ih_result, ih_left⟩ :=
      cleanse_items_spec item key values fun v hv => h v (List.mem_cons_of_mem _ hv)
    rcases hitem : item value with ⟨result, left⟩
    rcases hrest : cleanse_items item true values with ⟨raised, rest⟩
    rw [hitem] at hresult hleft
    rw [hrest] at ih_result ih_left
    dsimp only at hresult hleft ih_result ih_left
    by_cases hunassignable : value.holds_unassignable = true
    · rw [if_pos hunassignable] at hresult
      subst hresult
      refine ⟨?_, fun h => ?_⟩
      · simp only [cleanse_items, hitem, any_unassignable, hunassignable, Bool.true_or, if_true]
      · simp only [any_unassignable, hunassignable, Bool.true_or] at h
        cases h
    · rw [if_neg hunassignable] at hresult
      subst hresult
      simp only [Bool.not_eq_true] at hunassignable
      simp only [cleanse_items, hitem, hrest, if_true, any_unassignable, hunassignable,
        Bool.false_or, cleansed_list]
      exact ⟨ih_result, fun hvalues => by rw [ih_left hvalues]⟩

/-- The tuple and set loop of `cleanse_item` raises `TypeError` on its first item: the
    item's own, or the assignment's. -/
theorem cleanse_items_unassignable (item : PyValue → Except Raised PyValue × PyValue)
    (key : PyKey) (value : PyValue) (values : List PyValue)
    (h : CleanseSpec filter key value (item value)) :
    (cleanse_items item false (value :: values)).1 = .error .TypeError := by
  rcases hitem : item value with ⟨result, left⟩
  have hresult : result = _ := congrArg Prod.fst hitem ▸ h.1
  split_ifs at hresult <;> subst hresult <;>
    simp only [cleanse_items, hitem, Bool.false_eq_true, if_false]

/-- The loop of `cleanse_dict` raises `TypeError` when a value holds a tuple or a set with
    items, and otherwise returns the cleansed dict and leaves the values as `item` leaves
    them. -/
theorem cleanse_fields_spec (item : PyKey → PyValue → Except Raised PyValue × PyValue) :
    ∀ source : List (PyKey × PyValue),
      (∀ field ∈ source, CleanseSpec filter field.1 field.2 (item field.1 field.2)) →
      (cleanse_fields item source).1 = (if any_unassignable_fields source then .error .TypeError
          else .ok (cleansed_fields filter source)) ∧
        (any_unassignable_fields source = false →
          (cleanse_fields item source).2 = mutated_fields filter source)
  | [], _ => ⟨rfl, fun _ => rfl⟩
  | (key, value) :: source, h => by
    obtain ⟨hresult, hleft⟩ := h (key, value) (List.mem_cons_self _ _)
    obtain ⟨ih_result, ih_left⟩ :=
      cleanse_fields_spec item source fun field hfield => h field (List.mem_cons_of_mem _ hfield)
    rcases hitem : item key value with ⟨result, left⟩
    rcases hrest : cleanse_fields item source with ⟨final_dict, rest⟩
    rw [hitem] at hresult hleft
    rw [hrest] at ih_result ih_left
    dsimp only at hresult hleft ih_result ih_left
    by_cases hunassignable : value.holds_unassignable = true
    · rw [if_pos hunassignable] at hresult
      subst hresult
      refine ⟨?_, fun h => ?_⟩
      · simp only [cleanse_fields, hitem, any_unassignable_fields, hunassignable, Bool.true_or,
          if_true]
      · simp only [any_unassignable_fields, hunassignable, Bool.true_or] at h
        cases h
    · rw [if_neg hunassignable] at hresult
      subst hresult
      simp only [Bool.not_eq_true] at hunassignable
      simp only [cleanse_fields, hitem, hrest, any_unassignable_fields, hunassignable,
        Bool.false_or, mutated_fields]
      refine ⟨?_, fun hsource => by rw [ih_left hsource, hleft hunassignable]⟩
      rw [ih_result]
      by_cases hany : any_unassignable_fields source = true
      · simp only [hany, if_true]
        rfl
      · simp only [hany, if_false, cleansed_fields]
        split_ifs <;> rfl

end Loops

/-- `cleanse_item` meets `CleanseSpec` on every value nested less deep than its fuel. -/
theorem cleanse_item_spec (filter : ReporterFilter) (fuel : Nat) (key : PyKey)
    (value : PyValue) (hdepth : value.cleanse_depth < fuel) :
    CleanseSpec filter key value (cleanse_item filter fuel key value) := by
  induction fuel generalizing key value with
  | zero => exact absurd hdepth (Nat.not_lt_zero _)
  | succ fuel ih =>
    cases value with
    | dict source =>
      have hdepth' : cleanse_depth_fields source < fuel := Nat.lt_of_succ_lt_succ hdepth
      obtain ⟨hresult, hleft⟩ := cleanse_fields_spec filter _ source fun field hfield =>
        ih field.1 field.2
          (Nat.lt_of_le_of_lt (cleanse_depth_fields_le_iff.1 le_rfl field hfield) hdepth')
      refine ⟨?_, fun hsource => congrArg PyValue.dict (hleft hsource)⟩
      show Except.map _ _ = if any_unassignable_fields source then _ else _
      rw [hresult]
      split_ifs <;> rfl
    | list items =>
      have hdepth' : cleanse_depth_list items < fuel := Nat.lt_of_succ_lt_succ hdepth
      obtain ⟨hresult, hleft⟩ := cleanse_items_spec filter _ key items fun item hitem =>
        ih key item (Nat.lt_of_le_of_lt (cleanse_depth_list_le_iff.1 le_rfl item hitem) hdepth')
      refine ⟨?_, fun hitems => ?_⟩
      · show Except.map _ (cleanse_items _ true items).1 = if any_unassignable items then _ else _
        rw [hresult]
        split_ifs with hitems
        · rfl
        · rw [hleft (Bool.eq_false_iff.2 hitems)]
          rfl
      · exact congrArg PyValue.list (hleft hitems)
    | tuple items | set items =>
      cases items with
      | nil => exact ⟨rfl, fun _ => rfl⟩
      | cons item items =>
        have hfirst := ih key item (Nat.lt_of_le_of_lt
          (cleanse_depth_list_le_iff.1 le_rfl item (List.mem_cons_self _ _))
          (Nat.lt_of_succ_lt_succ hdepth))
        refine ⟨?_, fun h => by cases h⟩
        show Except.map _ (cleanse_items _ false (item :: items)).1 = _
        rw [cleanse_items_unassignable filter _ key item items hfirst]
        rfl
    | _ => exact ⟨rfl, fun _ => rfl⟩

/-- `cleanse_dict` on a dict, with enough stack (fuel): it raises `TypeError` when it reaches
    a tuple or a set with items, whose first item it cannot assign.
    Otherwise it returns the cleansed dict, and leaves `source` with every list it reaches
    rewritten in place to the cleansed values of its items. -/
theorem cleanse_dict_writes_lists (filter : ReporterFilter) (fuel : Nat)
    (source : List (PyKey × PyValue)) (hdepth : cleanse_depth_fields source < fuel) :
    (cleanse_dict filter fuel source).1 = (if any_unassignable_fields source then .error .TypeError
        else .ok (cleansed_fields filter source)) ∧
      (any_unassignable_fields source = false →
        (cleanse_dict filter fuel source).2 = mutated_fields filter source) :=
  cleanse_fields_spec filter _ source fun field hfield => cleanse_item_spec filter fuel _ _
    (Nat.lt_of_le_of_lt (cleanse_depth_fields_le_iff.1 le_rfl field hfield) hdepth)

/-- A filter that hides `password` and `password_change_date`, and allows the latter, with
    Django's `cleansed_substitute`. -/
def sample_filter : ReporterFilter :=
  ⟨fun key => key == "password" || key == "password_change_date", "********************",
    fun _ key => key == "password_change_date"⟩

theorem password_list_written_back :
    (cleanse_dict sample_filter 2 [("password", .list [.str "hunter2"])]).2 =
        ([("password", .list [.str "********************"])] : List (PyKey × PyValue)) ∧
      (cleanse_dict sample_filter 2 [("scopes", .tuple [.str "openid"])]).1 = .error .TypeError :=
  ⟨(cleanse_dict_writes_lists sample_filter 2 _ (by decide)).2 rfl,
    (cleanse_dict_writes_lists sample_filter 2 _ (by decide)).1⟩

/-- `cleanse_dict` returns, without raising and with enough stack (fuel), the cleansed dict
    of a dict that holds no tuple or set with items: every dict keeps its keys, but those
    whose value cleanses to `...`, every list keeps its length, and a leaf is replaced by
    `cleansed_substitute` exactly when its nearest key is a string the filter `hides`. -/
theorem cleanse_dict_cleanses (filter : ReporterFilter) (fuel : Nat)
    (source : List (PyKey × PyValue)) (hdepth : cleanse_depth_fields source < fuel)
    (hshape : any_unassignable_fields source = false) :
    (cleanse_dict filter fuel source).1 = .ok (cleansed_fields filter source) := by
  have hresult := (cleanse_fields_spec filter _ source fun field hfield =>
    cleanse_item_spec filter fuel _ _
      (Nat.lt_of_le_of_lt (cleanse_depth_fields_le_iff.1 le_rfl field hfield) hdepth)).1
  rw [hshape] at hresult
  exact hresult.trans (if_neg Bool.false_ne_true)

theorem sample_settings_cleansed :
    (cleanse_dict sample_filter 3
        [("password", .list [.str "a", .dict [("password_change_date", .str "2024")]]),
          ("user", .str "akadmin")]).1 =
      .ok [("password", .list [.str "********************",
          .dict [("password_change_date", .str "2024")]]), ("user", .str "akadmin")] :=
  cleanse_dict_cleanses sample_filter 3 _ (by decide) rfl

example : (cleanse_dict sample_filter 1 [(.other "1", .str "hunter2"), ("password", .int 7)]).1 =
    .ok [(.other "1", .str "hunter2"), ("password", .str "********************")] := rfl

/-- A `...` under a key that is not hidden is cleansed to itself, and `cleanse_dict` leaves
    its key out. -/
theorem unhidden_ellipsis_key_dropped :
    (cleanse_dict sample_filter 1 [("a", .ellipsis)]).1 = .ok [] := rfl

end authentik.events.utils
