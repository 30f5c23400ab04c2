import Mathlib.Data.List.Basic

namespace authentik.events.utils

/-- A dict key: a string, or a key of another type (an int, a tuple, ...) kept as its `repr`.
    `copy.deepcopy` and `asdict` keep a key as it is. -/
inductive PyKey where
  | str (s : String)
  | other (repr : String)
  deriving DecidableEq, Repr

instance : Coe String PyKey := ⟨PyKey.str⟩

/-- `isinstance(key, str)` -/
def PyKey.is_str : PyKey → Bool
  | .str _ => true
  | .other _ => false

/-- The Python values `sanitize_item` tells apart, each by the first of its `isinstance`
    tests it passes. A float is kept as its `repr`. -/
inductive PyValue where
  | none
  | bool (b : Bool)
  | int (n : Int)
  | float (repr : String)
  | str (s : String)
  /-- `...`, the placeholder `sanitize_item` returns for a request. -/
  | ellipsis
  | list (items : List PyValue)
  | tuple (items : List PyValue)
  | set (items : List PyValue)
  | generator (items : List PyValue)
  | dict (items : List (PyKey × PyValue))
  /-- A dataclass instance and its fields; `policy_request` for a `PolicyRequest`. -/
  | dataclass (policy_request : Bool) (fields : List (PyKey × PyValue))
  /-- A `User`. -/
  | user (username : String) (pk : Int) (email : String)
  | anonymous_user
  /-- Another Django model: `_meta.app_label`, `_meta.model_name`, `pk`, its `name`
      attribute when it has one, and `str(model)`. -/
  | model (app_label model_name : String) (pk : PyValue) (name : Option PyValue) (str : String)
  | uuid (hex : String)
  /-- An `HttpRequest` or `WSGIRequest`. -/
  | http_request
  /-- A GeoIP `City`, with the dict `GEOIP_CONTEXT_PROCESSOR.city_to_dict` makes of it. -/
  | city (to_dict : List (PyKey × PyValue))
  /-- An `ASN`, with the dict `ASN_CONTEXT_PROCESSOR.asn_to_dict` makes of it. -/
  | asn (to_dict : List (PyKey × PyValue))
  | path (s : String)
  | exception (s : String)
  | yaml_tag (s : String)
  | enum (value : PyValue)
  /-- A class, and whether it is a dataclass (which `is_dataclass` also holds of). -/
  | type (name module : String) (dataclass : Bool)
  | datetime (isoformat : String)
  | date (isoformat : String)
  | time (isoformat : String) (aware : Bool)
  | timedelta (total_seconds : String)
  /-- A callable, with its `__name__` when it has one, and its `__module__`. -/
  | callable (name : Option String) (module : String)
  /-- Any other object: `str(value)`, and whether `copy.deepcopy` can copy it. -/
  | object (str : String) (copyable : Bool)
  deriving Repr

/-- `value is ...` -/
def PyValue.is_ellipsis : PyValue → Bool
  | .ellipsis => true
  | _ => false

/-- The exceptions the modelled code raises. `RecursionError` stands for running out of
    stack, which the `fuel` of `sanitize_item` bounds. -/
inductive Raised where
  | TypeError
  | ValueError
  | AttributeError
  | RecursionError
  deriving DecidableEq, Repr

/-- What `get_user` reads besides the user: `get_anonymous_user()`, `none` for
    `User.DoesNotExist`, and `settings.ANONYMOUS_USER_NAME`. -/
structure Env where
  anonymous_user : Option (String × Int × String)
  ANONYMOUS_USER_NAME : String

/-- `bool(value)` for the values `sanitize_item` returns. -/
def truthy : PyValue → Bool
  | .none => false
  | .bool b => b
  | .int n => n != 0
  | .float r => !(r == "0.0" || r == "-0.0")
  | .str s => s != ""
  | .list items | .tuple items | .set items => !items.isEmpty
  | .dict items => !items.isEmpty
  | .timedelta total_seconds => total_seconds != "0.0"
  | _ => true

/-- What `cleanse_item` reads besides the key and the value: Django's
    `SafeExceptionReporterFilter.hidden_settings.search(key)` and `cleansed_substitute`, and
    the `search` of a pattern compiled with `flags=re.I`. -/
structure ReporterFilter where
  hidden_settings_search : String → Bool
  cleansed_substitute : String
  search_ignorecase : String → String → Bool

/-- Special keys which are *not* cleaned, even when the default filter is matched: the
    pattern `ALLOWED_SPECIAL_KEYS` compiles with `flags=re.I`. -/
def ALLOWED_SPECIAL_KEYS : String := "passing|password_change_date"

/-- The `try` block of `cleanse_item`, for a value that is no dict, list, tuple or set.
    `search` raises `TypeError` on a key that is not a string, and its `except` returns the
    value. -/
def cleanse_leaf (filter : ReporterFilter) (key : PyKey) (value : PyValue) : PyValue :=
  match key with
  | .str key =>
    if !filter.hidden_settings_search key then value
    else if filter.search_ignorecase ALLOWED_SPECIAL_KEYS key then value
    else .str filter.cleansed_substitute
  | .other _ => value

/-- The loop of the list, tuple and set branch of `cleanse_item`,
    `value[idx] = cleanse_item(key, item)` for each item in turn, with `item` for
    `cleanse_item(key, ·)`. The assignment writes into a list, and raises `TypeError` on a
    tuple or a set (`assignable` false) once its first item is cleansed. The loop returns
    what it raised, and the items as it leaves them: those it assigned replaced by their
    cleansed values, the one it stopped at as `item` left it, the others untouched. -/
def cleanse_items (item : PyValue → Except Raised PyValue × PyValue) (assignable : Bool) :
    List PyValue → Except Raised Unit × List PyValue
  | [] => (.ok (), [])
  | value :: values =>
    match item value with
    | (.ok new_value, left) =>
      if assignable then
        let (raised, values) := cleanse_items item assignable values
        (raised, new_value :: values)
      else (.error .TypeError, left :: values)
    | (.error e, left) => (.error e, left :: values)

/-- The loop of `cleanse_dict` over the items of `source`, with `item` for `cleanse_item`:
    a value that cleanses to `...` is left out. It returns the new dict, and `source` as the
    loop leaves it: the loop writes nothing into `source`, but `item` writes into its
    values. -/
def cleanse_fields (item : PyKey → PyValue → Except Raised PyValue × PyValue) :
    List (PyKey × PyValue) →
      Except Raised (List (PyKey × PyValue)) × List (PyKey × PyValue)
  | [] => (.ok [], [])
  | (key, value) :: source =>
    match item key value with
    | (.ok new_value, left) =>
      let (final_dict, source) := cleanse_fields item source
      (final_dict.map fun final_dict =>
          if new_value.is_ellipsis then final_dict else (key, new_value) :: final_dict,
        (key, left) :: source)
    | (.error e, left) => (.error e, (key, left) :: source)

/-- `cleanse_item(key, value)`: what it returns, and `value` as it leaves it, since its
    list branch writes into the list it is given and returns that list. `fuel` bounds the
    nesting, as for `sanitize_item`. Values are trees here: a list that Python shares under
    two keys is rewritten in place under the first and read rewritten under the second. -/
def cleanse_item (filter : ReporterFilter) :
    Nat → PyKey → PyValue → Except Raised PyValue × PyValue
  | 0, _, value => (.error .RecursionError, value)
  | fuel + 1, key, value =>
    match value with
    | .dict source =>
      let (result, source) := cleanse_fields (cleanse_item filter fuel) source
      (.dict <$> result, .dict source)
    | .list items =>
      let (raised, items) := cleanse_items (cleanse_item filter fuel key) true items
      (raised.map fun () => .list items, .list items)
    | .tuple items =>
      let (raised, items) := cleanse_items (cleanse_item filter fuel key) false items
      (raised.map fun () => .tuple items, .tuple items)
    | .set items =>
      let (raised, items) := cleanse_items (cleanse_item filter fuel key) false items
      (raised.map fun () => .set items, .set items)
    | value => (.ok (cleanse_leaf filter key value), value)

/-- `cleanse_dict(source)`: the new dict, and `source` as it leaves it. -/
def cleanse_dict (filter : ReporterFilter) (fuel : Nat) (source : List (PyKey × PyValue)) :
    Except Raised (List (PyKey × PyValue)) × List (PyKey × PyValue) :=
  cleanse_fields (cleanse_item filter fuel) source

/-- `model_to_dict(model)` -/
def model_to_dict (app_label model_name : String) (pk : PyValue) (name : Option PyValue)
    (str : String) : List (PyKey × PyValue) :=
  [("app", .str app_label), ("model_name", .str model_name), ("pk", pk),
    ("name", name.getD (.str str))]

/-- The dict `get_user` builds for a user record. -/
def user_data (env : Env) (username : String) (pk : Int) (email : String) :
    List (PyKey × PyValue) :=
  let user_data : List (PyKey × PyValue) :=
    [("username", .str username), ("pk", .int pk), ("email", .str email)]
  if username = env.ANONYMOUS_USER_NAME then user_data.concat ("is_anonymous", .bool true)
  else user_data

/-- `get_user(user)`: an `AnonymousUser` is replaced by the anonymous user of the database,
    and gives `{}` when there is none. -/
def get_user (env : Env) : PyValue → List (PyKey × PyValue)
  | .user username pk email => user_data env username pk email
  | .anonymous_user =>
    match env.anonymous_user with
    | some (username, pk, email) => user_data env username pk email
    | none => []
  | _ => []

mutual

/-- `copy.deepcopy(value)`: a request, a generator or an object that cannot be pickled
    raises `TypeError`; an enum member is its own copy. -/
def deepcopy : PyValue → Except Raised PyValue
  | .http_request => .error .TypeError
  | .generator _ => .error .TypeError
  | .object s copyable => if copyable then .ok (.object s copyable) else .error .TypeError
  | .list items => .list <$> deepcopy_list items
  | .tuple items => .tuple <$> deepcopy_list items
  | .set items => .set <$> deepcopy_list items
  | .dict items => .dict <$> deepcopy_fields items
  | .dataclass policy_request fields => .dataclass policy_request <$> deepcopy_fields fields
  | .model app_label model_name pk name str => do
    let pk ← deepcopy pk
    let name ← deepcopy_option name
    pure (.model app_label model_name pk name str)
  | value => .ok value

def deepcopy_list : List PyValue → Except Raised (List PyValue)
  | [] => .ok []
  | item :: items => do
    let item ← deepcopy item
    let items ← deepcopy_list items
    pure (item :: items)

def deepcopy_fields : List (PyKey × PyValue) → Except Raised (List (PyKey × PyValue))
  | [] => .ok []
  | (key, value) :: fields => do
    let value ← deepcopy value
    let fields ← deepcopy_fields fields
    pure ((key, value) :: fields)

def deepcopy_option : Option PyValue → Except Raised (Option PyValue)
  | none => .ok none
  | some value => some <$> deepcopy value

end

mutual

/-- `dataclasses._asdict_inner(obj, dict)`: dataclasses become dicts of their fields,
    lists, tuples and dicts are rebuilt, anything else is deep-copied. -/
def asdict_inner : PyValue → Except Raised PyValue
  | .dataclass _ fields => .dict <$> asdict_fields fields
  | .list items => .list <$> asdict_list items
  | .tuple items => .tuple <$> asdict_list items
  | .dict items => .dict <$> asdict_fields items
  | value => deepcopy value

def asdict_list : List PyValue → Except Raised (List PyValue)
  | [] => .ok []
  | item :: items => do
    let item ← asdict_inner item
    let items ← asdict_list items
    pure (item :: items)

def asdict_fields : List (PyKey × PyValue) → Except Raised (List (PyKey × PyValue))
  | [] => .ok []
  | (key, value) :: fields => do
    let value ← asdict_inner value
    let fields ← asdict_fields fields
    pure ((key, value) :: fields)

end

/-- The copy `sanitize_item` makes of a `PolicyRequest` before `asdict`, with
    `http_request` set to `None`. -/
def without_http_request (fields : List (PyKey × PyValue)) : List (PyKey × PyValue) :=
  fields.map fun field => if field.1 = PyKey.str "http_request" then (field.1, .none) else field

/-- The loop of `sanitize_dict` over the items of `source`, with `item` for
    `sanitize_item`: a value that sanitizes to `...` is left out. -/
def sanitize_fields (item : PyValue → Except Raised PyValue) :
    List (PyKey × PyValue) → Except Raised (List (PyKey × PyValue))
  | [] => .ok []
  | (key, value) :: source => do
    let new_value ← item value
    let final_dict ← sanitize_fields item source
    pure (if new_value.is_ellipsis then final_dict else (key, new_value) :: final_dict)

/-- The loop of the list branch of `sanitize_item`: an item that sanitizes to a false
    value is left out. -/
def sanitize_items (item : PyValue → Except Raised PyValue) :
    List PyValue → Except Raised (List PyValue)
  | [] => .ok []
  | value :: values => do
    let new_value ← item value
    let new_values ← sanitize_items item values
    pure (if truthy new_value then new_value :: new_values else new_values)

/-- `value.isoformat()` of a datetime as `sanitize_item` writes it: `+00:00` becomes `Z`. -/
def datetime_representation (isoformat : String) : String :=
  if isoformat.endsWith "+00:00" then isoformat.dropRight 6 ++ "Z" else isoformat

/-- `sanitize_item(value)`, its tests in the source's order. `fuel` bounds the nesting: each
    nested call of `sanitize_item` takes one, and none left is the `RecursionError` of a value
    nested too deep for the stack. Python's recursion limit counts frames, and a dict level
    takes two (`sanitize_dict`, then `sanitize_item`), so `fuel` is not that limit. -/
def sanitize_item (env : Env) : Nat → PyValue → Except Raised PyValue
  | 0, _ => .error .RecursionError
  | fuel + 1, value =>
    match value with
    | .dataclass policy_request fields =>
      let fields := if policy_request then without_http_request fields else fields
      -- `asdict`, then `sanitize_dict` on the dict it returns
      asdict_fields fields >>= fun fields => .dict <$> sanitize_fields (sanitize_item env fuel) fields
    | .dict source => .dict <$> sanitize_fields (sanitize_item env fuel) source
    | .generator items => sanitize_item env fuel (.list items)
    | .list items | .tuple items | .set items =>
      .list <$> sanitize_items (sanitize_item env fuel) items
    | .user .. | .anonymous_user =>
      .dict <$> sanitize_fields (sanitize_item env fuel) (get_user env value)
    | .model app_label model_name pk name str =>
      .dict <$> sanitize_fields (sanitize_item env fuel) (model_to_dict app_label model_name pk name str)
    | .uuid hex => .ok (.str hex)
    | .http_request => .ok .ellipsis
    | .city to_dict | .asn to_dict => .ok (.dict to_dict)
    | .path s | .exception s | .yaml_tag s => .ok (.str s)
    | .enum value => .ok value
    | .type name module dataclass =>
      -- `is_dataclass` holds of a dataclass class too, and `asdict` raises on it
      if dataclass then .error .TypeError
      else .ok (.dict [("type", .str name), ("module", .str module)])
    | .datetime isoformat => .ok (.str (datetime_representation isoformat))
    | .date isoformat => .ok (.str isoformat)
    | .time isoformat aware => if aware then .error .ValueError else .ok (.str isoformat)
    | .timedelta total_seconds => .ok (.str total_seconds)
    | .callable name module =>
      match name with
      | some name => .ok (.dict [("type", .str "callable"), ("name", .str name), ("module", .str module)])
      | none => .error .AttributeError
    | .bool _ | .int _ | .float _ | .none => .ok value
    -- `DjangoJSONEncoder().default(value)` raises `TypeError` on these, and `str(value)` is kept
    | .str s => .ok (.str s)
    | .ellipsis => .ok (.str "Ellipsis")
    | .object s _ => .ok (.str s)

/-- `sanitize_dict(source)` -/
def sanitize_dict (env : Env) (fuel : Nat) (source : List (PyKey × PyValue)) :
    Except Raised (List (PyKey × PyValue)) :=
  sanitize_fields (sanitize_item env fuel) source

end authentik.events.utils
