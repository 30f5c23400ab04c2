import Mathlib.Data.List.Dedup
import Authentik.Python.Builtins

namespace django.http

/-- A `QueryDict`: the parameters of a query string or a form body, in the order sent. -/
structure QueryDict where
  items : List (String × String)
  deriving DecidableEq, Repr

/-- `q.get(key)`: the last value sent under `key`, as `MultiValueDict.__getitem__` reads. -/
def QueryDict.get (q : QueryDict) (key : String) : Option String :=
  ((q.items.filter (·.1 == key)).getLast?).map (·.2)

/-- `len(q)`: the number of distinct keys. -/
def QueryDict.len (q : QueryDict) : Nat := (q.items.map (·.1)).dedup.length

/-- The parts of an `HttpRequest` the views read. The session is passed beside it. -/
structure HttpRequest where
  method : String
  GET : QueryDict
  POST : QueryDict
  /-- `request.user.is_authenticated` -/
  user_is_authenticated : Bool
  deriving DecidableEq, Repr

theorem QueryDict.len_pos_iff (q : QueryDict) : 0 < q.len ↔ q.items ≠ [] := by
  simp [QueryDict.len, List.length_pos]

end django.http

namespace django.views

/-- `View.http_method_names`: the methods `View.dispatch` looks a handler up for. -/
def http_method_names : List String :=
  ["get", "post", "put", "patch", "delete", "head", "options", "trace"]

end django.views
