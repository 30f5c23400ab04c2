import Mathlib.Data.String.Basic

namespace python

/-- `str.isspace` of one character (`Py_UNICODE_ISSPACE`): the characters `str.split()`
    splits on, ASCII whitespace and the Unicode separators CPython lists. -/
def isspace (c : Char) : Bool :=
  let n := c.toNat
  (9 ≤ n && n ≤ 13) || (28 ≤ n && n ≤ 32) || n == 0x85 || n == 0xa0 || n == 0x1680 ||
    (0x2000 ≤ n && n ≤ 0x200a) || n == 0x2028 || n == 0x2029 || n == 0x202f ||
    n == 0x205f || n == 0x3000

/-- `str.split()` without a separator over the characters of a string: the maximal runs
    of non-whitespace characters, in order. `word` is the run being read, reversed. -/
def split_words : List Char → List Char → List String
  | [], word => if word.isEmpty then [] else [String.mk word.reverse]
  | c :: cs, word =>
    if isspace c then
      if word.isEmpty then split_words cs [] else String.mk word.reverse :: split_words cs []
    else split_words cs (c :: word)

/-- `s.split()`. -/
def str.split (s : String) : List String := split_words s.toList []

/-- `s.lower()` on ASCII letters, which are all that HTTP method names hold. -/
def str.lower (s : String) : String := String.mk (s.toList.map Char.toLower)

/-- `s.upper()` on ASCII letters. -/
def str.upper (s : String) : String := String.mk (s.toList.map Char.toUpper)

/-- `Py_ISSPACE`: the ASCII whitespace `PyLong_FromString` skips around a literal, tab to
    carriage return and the space. The separators 0x1c to 0x1f that `str.isspace` counts
    are not among them. -/
def py_isspace (c : Char) : Bool :=
  let n := c.toNat
  (9 ≤ n && n ≤ 13) || n == 32

/-- The code point of the zero of each run of ten decimal digits (general category Nd) in
    Unicode 15.0, the database of CPython 3.12: the run holds the digits 0 to 9 in order. -/
def decimal_zeros : List Nat :=
  [0x30, 0x660, 0x6F0, 0x7C0, 0x966, 0x9E6, 0xA66, 0xAE6, 0xB66, 0xBE6, 0xC66, 0xCE6, 0xD66,
    0xDE6, 0xE50, 0xED0, 0xF20, 0x1040, 0x1090, 0x17E0, 0x1810, 0x1946, 0x19D0, 0x1A80, 0x1A90,
    0x1B50, 0x1BB0, 0x1C40, 0x1C50, 0xA620, 0xA8D0, 0xA900, 0xA9D0, 0xA9F0, 0xAA50, 0xABF0,
    0xFF10, 0x104A0, 0x10D30, 0x11066, 0x110F0, 0x11136, 0x111D0, 0x112F0, 0x11450, 0x114D0,
    0x11650, 0x116C0, 0x11730, 0x118E0, 0x11950, 0x11C50, 0x11D50, 0x11DA0, 0x11F50, 0x16A60,
    0x16AC0, 0x16B50, 0x1D7CE, 0x1D7D8, 0x1D7E2, 0x1D7EC, 0x1D7F6, 0x1E140, 0x1E2F0, 0x1E4F0,
    0x1E950, 0x1FBF0]

/-- `Py_UNICODE_TODECIMAL(ch)`: the value of a decimal digit, `none` for its -1. -/
def unicode_todecimal (ch : Char) : Option Nat :=
  (decimal_zeros.find? fun z => z ≤ ch.toNat && ch.toNat < z + 10).map (ch.toNat - ·)

/-- The loop of `_PyUnicode_TransformDecimalAndSpaceToASCII` over a string that is not
    ASCII: a character below 127 is kept, Unicode whitespace becomes a space and a decimal
    digit its ASCII digit; any other character ends the string with a `?`. -/
def transform_decimal_and_space : List Char → List Char
  | [] => []
  | ch :: chs =>
    if ch.toNat < 127 then ch :: transform_decimal_and_space chs
    else if isspace ch then ' ' :: transform_decimal_and_space chs
    else match unicode_todecimal ch with
      | some d => Char.ofNat ('0'.toNat + d) :: transform_decimal_and_space chs
      | none => ['?']

/-- `_PyUnicode_TransformDecimalAndSpaceToASCII(s)`: an ASCII string is left as it is. -/
def transform_decimal_and_space_to_ascii (s : String) : List Char :=
  if s.toList.all (·.toNat < 128) then s.toList else transform_decimal_and_space s.toList

/-- The digits of a base-10 literal as `long_from_string_base` reads them: ASCII digits, with
    single underscores allowed only between two digits. `afterDigit` says the last character
    read was a digit; `none` is the `ValueError`. -/
def parse_digits (acc : Nat) (afterDigit : Bool) : List Char → Option Nat
  | [] => if afterDigit then some acc else none
  | c :: cs =>
    if c.isDigit then parse_digits (10 * acc + (c.toNat - '0'.toNat)) true cs
    else if c = '_' && afterDigit then parse_digits acc false cs
    else none

/-- `sys.get_int_max_str_digits()` by default: a literal with more digits is refused. -/
def int_max_str_digits : Nat := 4300

/-- `PyLong_FromString(s, &end, 10)` where `PyLong_FromUnicodeObject` requires `end` to be the
    end of `s`: ASCII whitespace, one optional sign, the digits, then ASCII whitespace. -/
def long_from_string (chs : List Char) : Option Int :=
  let chs := ((chs.dropWhile py_isspace).reverse.dropWhile py_isspace).reverse
  let (sign, ds) : Int × List Char := match chs with
    | '-' :: ds => (-1, ds)
    | '+' :: ds => (1, ds)
    | ds => (1, ds)
  if int_max_str_digits < (ds.filter Char.isDigit).length then none
  else (parse_digits 0 false ds).map fun n => sign * n

/-- `int(s)` on a string, as `PyLong_FromUnicodeObject` reads it: decimal digits and
    whitespace of other scripts are made ASCII first. `none` is the `ValueError`. -/
def int (s : String) : Option Int := long_from_string (transform_decimal_and_space_to_ascii s)

/-- `bool(x)` for `x : str | None`: a string is true when it is not empty. -/
def truthy : Option String → Bool
  | some s => !s.isEmpty
  | none => false

@[simp] theorem truthy_none : truthy none = false := rfl

@[simp] theorem truthy_some (s : String) : truthy (some s) = !s.isEmpty := rfl

theorem truthy_iff {o : Option String} : truthy o = true ↔ ∃ s, o = some s ∧ s ≠ "" := by
  cases o with
  | none => simp
  | some s => simp [← String.isEmpty_iff]

/-- `d[k] = v` on a dict read as its items in insertion order: an existing key keeps its
    place and takes the new value, a new key goes last. -/
def dict.setitem {α : Type} (d : List (String × α)) (k : String) (v : α) : List (String × α) :=
  if d.any (·.1 == k) then d.map fun kv => if kv.1 == k then (k, v) else kv else d ++ [(k, v)]

theorem dict.mem_setitem {α : Type} {d : List (String × α)} {k k' : String} {v v' : α} :
    (k', v') ∈ dict.setitem d k v ↔ k' = k ∧ v' = v ∨ k' ≠ k ∧ (k', v') ∈ d := by
  unfold dict.setitem
  split_ifs with hany
  · obtain ⟨kv, hkv, hk⟩ := List.any_eq_true.1 hany
    simp only [List.mem_map]
    constructor
    · rintro ⟨kv', hkv', heq⟩
      split_ifs at heq with hk'
      · cases heq; exact .inl ⟨rfl, rfl⟩
      · cases heq; exact .inr ⟨fun h => hk' (by simp [h]), hkv'⟩
    · rintro (⟨rfl, rfl⟩ | ⟨hne, hmem⟩)
      · exact ⟨kv, hkv, by simp only [hk, if_true]⟩
      · exact ⟨(k', v'), hmem, by simp [hne]⟩
  · simp only [List.mem_append, List.mem_singleton, Prod.mk.injEq]
    constructor
    · rintro (hmem | h)
      · refine .inr ⟨fun h => hany (List.any_eq_true.2 ⟨_, hmem, by simp [h]⟩), hmem⟩
      · exact .inl h
    · rintro (h | ⟨-, hmem⟩)
      · exact .inr h
      · exact .inl hmem

theorem dict.mem_setitem_of_ne {α : Type} {d : List (String × α)} {k k' : String} {v v' : α}
    (hk : k' ≠ k) : (k', v') ∈ dict.setitem d k v ↔ (k', v') ∈ d := by
  simp only [dict.mem_setitem, hk, false_and, ne_eq, not_false_eq_true, true_and, false_or]

theorem dict.mem_setitem_self {α : Type} {d : List (String × α)} {k : String} {v v' : α} :
    (k, v') ∈ dict.setitem d k v ↔ v' = v := by
  simp only [dict.mem_setitem, true_and, ne_eq, not_true_eq_false, false_and, or_false]

/-- The names of a dict after `setitem`: the same names, with `k` appended when it is
    new. -/
theorem dict.keys_setitem {α : Type} (d : List (String × α)) (k : String) (v : α) :
    (dict.setitem d k v).map (·.1) =
      if k ∈ d.map (·.1) then d.map (·.1) else d.map (·.1) ++ [k] := by
  unfold dict.setitem
  by_cases hk : k ∈ d.map (·.1)
  · obtain ⟨kv, hkv, hkey⟩ := List.mem_map.1 hk
    have hany : d.any (·.1 == k) = true := List.any_eq_true.2 ⟨kv, hkv, beq_iff_eq.2 hkey⟩
    rw [if_pos hany, if_pos hk, List.map_map]
    refine List.map_congr_left fun kv' _ => ?_
    show (if kv'.1 == k then (k, v) else kv').1 = kv'.1
    split_ifs with hkey'
    exacts [(beq_iff_eq.1 hkey').symm, rfl]
  · have hany : d.any (·.1 == k) = false := Bool.eq_false_iff.2 fun h => by
      obtain ⟨kv, hkv, hkey⟩ := List.any_eq_true.1 h
      exact hk (List.mem_map.2 ⟨kv, hkv, beq_iff_eq.1 hkey⟩)
    rw [hany, if_neg Bool.false_ne_true, if_neg hk, List.map_append]
    rfl

theorem dict.nodup_keys_setitem {α : Type} {d : List (String × α)} (h : (d.map (·.1)).Nodup)
    (k : String) (v : α) : ((dict.setitem d k v).map (·.1)).Nodup := by
  rw [dict.keys_setitem]
  split_ifs with hk
  · exact h
  · exact List.pairwise_append.2 ⟨h, List.pairwise_singleton _ k,
      fun k' hk' _ hin => List.mem_singleton.1 hin ▸ fun heq => hk (heq ▸ hk')⟩

/-- `setitem` on the name of a dict's last entry, which no other entry has, replaces that
    entry's value. -/
theorem dict.setitem_last {α : Type} {d : List (String × α)} {k : String}
    (hk : k ∉ d.map (·.1)) (v v' : α) : dict.setitem (d ++ [(k, v)]) k v' = d ++ [(k, v')] := by
  rw [dict.setitem, if_pos (List.any_eq_true.2 ⟨(k, v), List.mem_append_right _
      (List.mem_singleton_self _), beq_self_eq_true k⟩), List.map_append, List.map_singleton,
    beq_self_eq_true, if_pos rfl]
  refine congrArg (· ++ _) ((List.map_congr_left fun kv hkv => if_neg ?_).trans (List.map_id d))
  exact fun h => hk (List.mem_map.2 ⟨kv, hkv, beq_iff_eq.1 h⟩)

example : str.split " id_token\ttoken " = ["id_token", "token"] := by decide

example : int " -12 " = some (-12) ∧ int "1_0" = some 10 ∧ int "1__0" = none ∧
    int "\x1c5" = none ∧ int "\u0663" = some 3 ∧ int "\u00a0+5" = some 5 := by decide

end python
