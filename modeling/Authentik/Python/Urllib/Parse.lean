import Authentik.Python.Builtins
import Authentik.Python.Utf8

namespace python.urllib.parse

open python.codecs

/-- The parts `urlsplit` returns. -/
structure SplitResult where
  scheme : String
  netloc : String
  path : String
  query : String
  fragment : String
  deriving DecidableEq, Repr

/-- The checks `urlsplit` makes on an unusual netloc through other modules:
    `_check_bracketed_netloc` (with `ipaddress`) on one holding brackets, and
    `_checknetloc` (with `unicodedata`) on a non-ASCII one. Each is true when it raises
    `ValueError`. -/
structure NetlocChecks where
  bracketed_invalid : String → Bool
  nfkc_invalid : String → Bool

/-- `s.partition(c)` on characters: the text before the first `c` and, when there is
    one, the text after it. -/
def partition (c : Char) : List Char → List Char × Option (List Char)
  | [] => ([], none)
  | d :: ds => if d = c then ([], some ds) else ((d :: (partition c ds).1), (partition c ds).2)

/-- `scheme_chars`. -/
def scheme_char (c : Char) : Bool := c.isAlphanum || c = '+' || c = '-' || c = '.'

/-- The scheme `urlsplit` reads before the first colon, lowered, and the rest. -/
def split_scheme (url : List Char) : List Char × List Char :=
  match partition ':' url with
  | (c :: cs, some rest) =>
    if c.isAlpha && (c :: cs).all scheme_char then ((c :: cs).map Char.toLower, rest)
    else ([], url)
  | _ => ([], url)

/-- `_splitnetloc(url, 2)` after a leading `//`: the netloc runs to the first `/`, `?`
    or `#`. -/
def split_netloc (url : List Char) : List Char × List Char :=
  match url with
  | '/' :: '/' :: rest => rest.span fun c => !(c = '/' || c = '?' || c = '#')
  | _ => ([], url)

/-- `urlsplit(url)` (CPython 3.12): leading C0 controls and spaces and every tab and
    newline are dropped, then scheme, netloc, fragment and query are cut off in this
    order. `none` is the `ValueError` on a bad netloc. -/
def urlsplit (checks : NetlocChecks) (url : String) : Option SplitResult :=
  let url := (url.toList.dropWhile (·.toNat ≤ 32)).filter fun c => !(c = '\t' || c = '\r' || c = '\n')
  let (scheme, url) := split_scheme url
  let (netloc, url) := split_netloc url
  let (url, fragment) := partition '#' url
  let (path, query) := partition '?' url
  if ('[' ∈ netloc) ≠ (']' ∈ netloc) then none
  else if '[' ∈ netloc ∧ checks.bracketed_invalid ⟨netloc⟩ then none
  else if ¬ netloc.all (·.toNat < 128) ∧ checks.nfkc_invalid ⟨netloc⟩ then none
  else some ⟨⟨scheme⟩, ⟨netloc⟩, ⟨path⟩, ⟨query.getD []⟩, ⟨fragment.getD []⟩⟩

/-- `uses_netloc`. -/
def uses_netloc : List String :=
  ["", "ftp", "http", "gopher", "nntp", "telnet", "imap", "wais", "file", "mms", "https",
    "shttp", "snews", "prospero", "rtsp", "rtspu", "rsync", "svn", "svn+ssh", "sftp", "nfs",
    "git", "git+ssh", "ws", "wss", "itms-services"]

/-- `urlunsplit(parts)` (CPython 3.12): empty query and fragment are left out. -/
def urlunsplit (r : SplitResult) : String :=
  let path := r.path.toList
  let url :=
    if r.netloc ≠ "" then
      "//" ++ r.netloc ++ (if path ≠ [] ∧ path.take 1 ≠ ['/'] then "/" ++ r.path else r.path)
    else if path.take 2 = ['/', '/'] then "//" ++ r.path
    else if r.scheme ≠ "" ∧ r.scheme ∈ uses_netloc ∧ (path = [] ∨ path.take 1 = ['/']) then
      "//" ++ r.path
    else r.path
  let url := if r.scheme ≠ "" then r.scheme ++ ":" ++ url else url
  let url := if r.query ≠ "" then url ++ "?" ++ r.query else url
  if r.fragment ≠ "" then url ++ "#" ++ r.fragment else url

/-- `_ALWAYS_SAFE`: the characters `quote` never escapes. -/
def always_safe (c : Char) : Bool := c.isAlphanum || c = '_' || c = '.' || c = '-' || c = '~'

/-- An upper-case hex digit. -/
def hex_digit (n : Nat) : Char := if n < 10 then Char.ofNat (48 + n) else Char.ofNat (55 + n)

/-- `%XX` for one byte. -/
def quote_byte (b : Nat) : List Char := ['%', hex_digit (b / 16), hex_digit (b % 16)]

/-- What `quote_plus` writes for one character. -/
def quote_plus_char (c : Char) : List Char :=
  if always_safe c then [c] else if c = ' ' then ['+'] else (utf8_encode c).flatMap quote_byte

/-- `quote_plus(s)` with `safe=""`, as `urlencode` calls it. -/
def quote_plus (s : String) : String := ⟨s.toList.flatMap quote_plus_char⟩

/-- The value of a hex digit byte of `_hexdig`. -/
def hex_value (b : Nat) : Option Nat :=
  if 48 ≤ b ∧ b ≤ 57 then some (b - 48)
  else if 97 ≤ b ∧ b ≤ 102 then some (b - 87)
  else if 65 ≤ b ∧ b ≤ 70 then some (b - 55)
  else none

/-- `_unquote_impl` on the bytes of an ASCII run: `%` and two hex digits give one byte,
    any other `%` stays. -/
def unquote_bytes : List Nat → List Nat
  | 37 :: h :: l :: rest =>
    match hex_value h, hex_value l with
    | some a, some b => (16 * a + b) :: unquote_bytes rest
    | _, _ => 37 :: unquote_bytes (h :: l :: rest)
  | b :: rest => b :: unquote_bytes rest
  | [] => []

/-- `_generate_unquoted_parts`: each maximal ASCII run is unescaped and decoded as UTF-8
    with replacement, other characters pass; `run` is the ASCII run being read, reversed. -/
def unquote_runs : List Char → List Nat → List Char
  | [], run => utf8_decode (unquote_bytes run.reverse)
  | c :: cs, run =>
    if c.toNat < 128 then unquote_runs cs (c.toNat :: run)
    else utf8_decode (unquote_bytes run.reverse) ++ c :: unquote_runs cs []

/-- `unquote(s)`. -/
def unquote (s : String) : String := if '%' ∉ s.toList then s else ⟨unquote_runs s.toList []⟩

/-- How `parse_qsl` reads a name or a value: `+` is a space, then `unquote`. -/
def form_decode (l : List Char) : String := unquote ⟨l.map fun c => if c = '+' then ' ' else c⟩

/-- `parse_qsl(qs, keep_blank_values)`: fields split on `&`, each on its first `=`;
    without `keep_blank_values` a field with an empty or missing value is dropped. -/
def parse_qsl (qs : String) (keep_blank_values : Bool) : List (String × String) :=
  (qs.toList.splitOn '&').filterMap fun name_value =>
    if name_value.isEmpty then none
    else match partition '=' name_value with
      | (name, none) => if keep_blank_values then some (form_decode name, "") else none
      | (name, some value) =>
        if !value.isEmpty || keep_blank_values then some (form_decode name, form_decode value)
        else none

/-- The dict `parse_qs` builds from pairs: each name once, at its first place, with all
    its values in order. -/
def group_values (pairs : List (String × String)) : List (String × List String) :=
  pairs.foldl (fun d kv =>
    match d.find? (·.1 == kv.1) with
    | some (_, vs) => dict.setitem d kv.1 (vs ++ [kv.2])
    | none => d ++ [(kv.1, [kv.2])]) []

/-- `parse_qs(qs)`, blank values dropped. -/
def parse_qs (qs : String) : List (String × List String) := group_values (parse_qsl qs false)

/-- A value of the dicts the view passes to `urlencode`: a string, a list of strings, or
    an `int` that is written with `str`. -/
inductive QueryValue where
  | str (s : String)
  | list (vs : List String)
  | int (n : Int)
  deriving DecidableEq, Repr

/-- The strings `urlencode(..., doseq=True)` writes for one value. -/
def QueryValue.elements : QueryValue → List String
  | .str s => [s]
  | .list vs => vs
  | .int n => [toString n]

/-- `urlencode(query, doseq=True)`: one `name=value` per element, joined with `&`. -/
def urlencode (query : List (String × QueryValue)) : String :=
  "&".intercalate (query.flatMap fun kv => kv.2.elements.map fun v =>
    quote_plus kv.1 ++ "=" ++ quote_plus v)

example : urlencode [("code", .str "c 1"), ("state", .list ["a&b"])] = "code=c+1&state=a%26b" := by
  decide

example : parse_qsl "code=c+1&state=&x&state=a%26b" true =
    [("code", "c 1"), ("state", ""), ("x", ""), ("state", "a&b")] := by
  decide

end python.urllib.parse
