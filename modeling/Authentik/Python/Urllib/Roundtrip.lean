import Authentik.Python.Urllib.Parse

namespace python.urllib.parse

open python.codecs

/-- The hex digits `quote` writes read back to their value, and are neither `+`, `%`,
    `&` nor `=`. -/
theorem hex_digit_spec : ∀ n < 16, hex_value (hex_digit n).toNat = some n ∧
    (hex_digit n).toNat < 128 ∧ hex_digit n ≠ '+' ∧ hex_digit n ≠ '%' ∧ hex_digit n ≠ '&' ∧
      hex_digit n ≠ '=' := by
  decide

theorem isAlpha_iff (c : Char) :
    c.isAlpha = true ↔ (65 ≤ c.toNat ∧ c.toNat ≤ 90) ∨ (97 ≤ c.toNat ∧ c.toNat ≤ 122) := by
  simp [Char.isAlpha, Char.isUpper, Char.isLower, UInt32.le_def, BitVec.le_def, Char.toNat,
    UInt32.toNat]

theorem isDigit_iff (c : Char) : c.isDigit = true ↔ 48 ≤ c.toNat ∧ c.toNat ≤ 57 := by
  simp [Char.isDigit, UInt32.le_def, BitVec.le_def, Char.toNat, UInt32.toNat]

theorem toNat_lt_of_always_safe {c : Char} (h : always_safe c = true) : c.toNat < 128 := by
  simp only [always_safe, Char.isAlphanum, Bool.or_eq_true, isAlpha_iff, isDigit_iff,
    decide_eq_true_eq] at h
  rcases h with (((h | rfl) | rfl) | rfl) | rfl
  · omega
  all_goals decide

private theorem toNat_ofNat_of_lt {n : Nat} (h : n < 0xD800) : (Char.ofNat n).toNat = n := by
  rw [Char.ofNat, dif_pos (Or.inl h)]
  simp [Char.ofNatAux, Char.toNat, UInt32.toNat]

theorem toNat_toLower (c : Char) :
    c.toLower.toNat = if 65 ≤ c.toNat ∧ c.toNat ≤ 90 then c.toNat + 32 else c.toNat := by
  simp only [Char.toLower, ge_iff_le]
  split_ifs with h
  · exact toNat_ofNat_of_lt (by omega)
  · rfl

theorem eq_of_toNat_eq {a b : Char} (h : a.toNat = b.toNat) : a = b := by
  rw [← Char.ofNat_toNat a, h, Char.ofNat_toNat]

private theorem toLower_toLower (c : Char) : c.toLower.toLower = c.toLower :=
  eq_of_toNat_eq (by rw [toNat_toLower, toNat_toLower c]; split_ifs <;> omega)

private theorem isAlpha_toLower {c : Char} (h : c.isAlpha = true) : c.toLower.isAlpha = true := by
  rw [isAlpha_iff] at h ⊢
  rw [toNat_toLower]
  split_ifs <;> omega

private theorem scheme_char_toLower {c : Char} (h : scheme_char c = true) :
    scheme_char c.toLower = true := by
  by_cases hup : 65 ≤ c.toNat ∧ c.toNat ≤ 90
  · have halpha : c.toLower.isAlpha = true := by
      rw [isAlpha_iff, toNat_toLower, if_pos hup]
      omega
    simp [scheme_char, Char.isAlphanum, halpha]
  · have hsame : c.toLower = c := eq_of_toNat_eq (by rw [toNat_toLower, if_neg hup])
    rwa [hsame]

/-- A scheme character is none of the characters `urlsplit` and `urlunsplit` cut at or
    drop. -/
theorem scheme_char_ne {c : Char} (h : scheme_char c = true) :
    c ≠ ':' ∧ c ≠ '\t' ∧ c ≠ '\r' ∧ c ≠ '\n' := by
  refine ⟨?_, ?_, ?_, ?_⟩ <;> rintro rfl <;> exact absurd h (by decide)

theorem utf8_encode_ascii {c : Char} (h : c.toNat < 128) : utf8_encode c = [c.toNat] := by
  simp [utf8_encode, h]

theorem utf8_encode_lt (c : Char) : ∀ b ∈ utf8_encode c, b < 256 := by
  have hmax := toNat_lt_max c
  simp only [utf8_encode]
  split_ifs <;> simp only [List.forall_mem_cons, List.not_mem_nil, false_imp_iff, implies_true,
    and_true] <;> omega

theorem unquote_bytes_cons {b : Nat} (hb : b ≠ 37) (rest : List Nat) :
    unquote_bytes (b :: rest) = b :: unquote_bytes rest :=
  unquote_bytes.eq_2 b rest fun _ _ _ h _ => hb h

theorem unquote_bytes_of_not_mem {bs : List Nat} (h : 37 ∉ bs) : unquote_bytes bs = bs := by
  induction bs with
  | nil => rfl
  | cons b bs ih =>
    rw [List.mem_cons, not_or] at h
    rw [unquote_bytes_cons (Ne.symm h.1), ih h.2]

/-- `%XX` of a byte reads back to the byte. -/
theorem unquote_bytes_quote_byte {b : Nat} (hb : b < 256) (rest : List Nat) :
    unquote_bytes ((quote_byte b).map Char.toNat ++ rest) = b :: unquote_bytes rest := by
  obtain ⟨hhi, -⟩ := hex_digit_spec (b / 16) (by omega)
  obtain ⟨hlo, -⟩ := hex_digit_spec (b % 16) (by omega)
  simp only [quote_byte, List.map_cons, List.map_nil, List.cons_append, List.nil_append]
  rw [show Char.toNat '%' = 37 from rfl, unquote_bytes.eq_1, hhi, hlo]
  simp only [List.cons.injEq, and_true]
  omega

/-- What `parse_qsl` reads back for one character `quote_plus` wrote: `+` becomes a space. -/
def plus_to_space (c : Char) : Char := if c = '+' then ' ' else c

theorem map_plus_to_space {l : List Char} (h : ∀ d ∈ l, d ≠ '+') : l.map plus_to_space = l :=
  (List.map_congr_left fun d hd => if_neg (h d hd)).trans (List.map_id l)

/-- The escapes `quote_plus` writes for some bytes are ASCII, hold no `+`, `&` or `=`, and
    read back to the bytes. -/
theorem quote_bytes_spec {bs : List Nat} (hbs : ∀ b ∈ bs, b < 256) :
    (∀ d ∈ bs.flatMap quote_byte, d.toNat < 128 ∧ d ≠ '+' ∧ d ≠ '&' ∧ d ≠ '=') ∧
    ∀ rest, unquote_bytes ((bs.flatMap quote_byte).map Char.toNat ++ rest) =
      bs ++ unquote_bytes rest := by
  refine ⟨fun d hd => ?_, fun rest => ?_⟩
  · obtain ⟨b, hb, hd⟩ := List.mem_flatMap.1 hd
    have hb := hbs b hb
    simp only [quote_byte, List.mem_cons, List.mem_singleton, List.not_mem_nil, or_false] at hd
    rcases hd with rfl | rfl | rfl
    · decide
    · exact (hex_digit_spec _ (by omega)).2.imp_right fun h => ⟨h.1, h.2.2⟩
    · exact (hex_digit_spec _ (by omega)).2.imp_right fun h => ⟨h.1, h.2.2⟩
  · induction bs with
    | nil => rfl
    | cons b bs ih =>
      rw [List.flatMap_cons, List.map_append, List.append_assoc,
        unquote_bytes_quote_byte (hbs b (List.mem_cons_self _ _)),
        ih fun b hb => hbs b (List.mem_cons_of_mem _ hb), List.cons_append]

/-- The characters `quote_plus` writes for `c` are ASCII with no `&` or `=`, and read back
    to the UTF-8 bytes of `c`. -/
theorem quote_plus_char_spec (c : Char) :
    (∀ d ∈ quote_plus_char c, d.toNat < 128 ∧ d ≠ '&' ∧ d ≠ '=') ∧
    ∀ rest, unquote_bytes (((quote_plus_char c).map plus_to_space).map Char.toNat ++ rest) =
      utf8_encode c ++ unquote_bytes rest := by
  unfold quote_plus_char
  split_ifs with hsafe hspace
  · have hne : ∀ d, always_safe d = false → c ≠ d := by rintro d hd rfl; simp [hd] at hsafe
    have hascii := toNat_lt_of_always_safe hsafe
    have hpct : c.toNat ≠ 37 := fun h => hne '%' rfl (by rw [← Char.ofNat_toNat c, h])
    refine ⟨by simpa using ⟨hascii, hne '&' rfl, hne '=' rfl⟩, fun rest => ?_⟩
    rw [map_plus_to_space (by simpa using hne '+' rfl), List.map_cons, List.map_nil,
      List.cons_append, List.nil_append, unquote_bytes_cons hpct, utf8_encode_ascii hascii]
    rfl
  · subst hspace
    exact ⟨by decide, fun rest => unquote_bytes_cons (by decide) rest⟩
  · obtain ⟨hchars, hbytes⟩ := quote_bytes_spec (utf8_encode_lt c)
    refine ⟨fun d hd => (hchars d hd).imp_right fun h => h.2, fun rest => ?_⟩
    rw [map_plus_to_space fun d hd => (hchars d hd).2.1, hbytes]

theorem flatMap_utf8_encode_ascii {l : List Char} (h : ∀ d ∈ l, d.toNat < 128) :
    l.flatMap utf8_encode = l.map Char.toNat := by
  induction l with
  | nil => rfl
  | cons d l ih =>
    rw [List.flatMap_cons, utf8_encode_ascii (h d (List.mem_cons_self _ _)),
      ih fun d hd => h d (List.mem_cons_of_mem _ hd)]
    rfl

theorem unquote_runs_ascii {l : List Char} (h : ∀ d ∈ l, d.toNat < 128) (run : List Nat) :
    unquote_runs l run = utf8_decode (unquote_bytes (run.reverse ++ l.map Char.toNat)) := by
  induction l generalizing run with
  | nil => rw [unquote_runs, List.map_nil, List.append_nil]
  | cons d l ih =>
    rw [unquote_runs.eq_2, if_pos (h d (List.mem_cons_self _ _)),
      ih (fun d hd => h d (List.mem_cons_of_mem _ hd))]
    simp

/-- `quote_plus(s)` as `parse_qsl` reads it: ASCII with no `&` or `=`, and its escapes
    read back to the UTF-8 bytes of `s`. -/
theorem quote_plus_spec (chars : List Char) (rest : List Nat) :
    (∀ d ∈ chars.flatMap quote_plus_char, d.toNat < 128 ∧ d ≠ '&' ∧ d ≠ '=') ∧
    unquote_bytes (((chars.flatMap quote_plus_char).map plus_to_space).map Char.toNat ++ rest) =
      chars.flatMap utf8_encode ++ unquote_bytes rest := by
  induction chars with
  | nil => exact ⟨by simp, rfl⟩
  | cons c chars ih =>
    obtain ⟨hchar, hbytes⟩ := quote_plus_char_spec c
    refine ⟨?_, ?_⟩
    · simp only [List.flatMap_cons, List.mem_append]
      rintro d (hd | hd)
      exacts [hchar d hd, ih.1 d hd]
    · rw [List.flatMap_cons, List.map_append, List.map_append, List.append_assoc, hbytes, ih.2,
        List.flatMap_cons, List.append_assoc]

/-- `parse_qsl` reads back a name or a value `urlencode` wrote with `quote_plus`. -/
theorem form_decode_quote_plus (s : String) : form_decode (quote_plus s).toList = s := by
  obtain ⟨hchars, hbytes⟩ := quote_plus_spec s.toList []
  rw [List.append_nil, unquote_bytes.eq_3, List.append_nil] at hbytes
  have hascii : ∀ d ∈ (quote_plus s).toList.map plus_to_space, d.toNat < 128 := by
    intro d hd
    obtain ⟨e, he, rfl⟩ := List.mem_map.1 hd
    unfold plus_to_space; split_ifs
    · decide
    · exact (hchars e he).1
  have hrun : unquote_runs ((quote_plus s).toList.map plus_to_space) [] = s.toList := by
    rw [unquote_runs_ascii hascii, List.reverse_nil, List.nil_append]
    exact hbytes ▸ utf8_decode_encode s.toList
  show unquote ⟨(quote_plus s).toList.map plus_to_space⟩ = s
  unfold unquote
  split_ifs with hpct
  · exact String.ext hrun
  · have hnot : 37 ∉ ((quote_plus s).toList.map plus_to_space).map Char.toNat := by
      intro h37
      obtain ⟨d, hd, hd37⟩ := List.mem_map.1 h37
      exact hpct (by rwa [← Char.ofNat_toNat d, hd37] at hd)
    refine String.ext (show _ = s.toList from ?_)
    rw [← hrun, unquote_runs_ascii hascii, List.reverse_nil, List.nil_append,
      unquote_bytes_of_not_mem hnot, ← flatMap_utf8_encode_ascii hascii, utf8_decode_encode]

private theorem toList_intercalate_go (acc : String) (ss : List String) :
    (String.intercalate.go acc "&" ss).toList = ['&'].intercalate ((acc :: ss).map String.toList) := by
  induction ss generalizing acc with
  | nil => simp [String.intercalate.go, List.intercalate]
  | cons s ss ih =>
    rw [String.intercalate.go, ih]
    cases ss <;> simp [List.intercalate, String.toList, String.data_append]

theorem toList_intercalate (ss : List String) :
    ("&".intercalate ss).toList = ['&'].intercalate (ss.map String.toList) := by
  cases ss with
  | nil => rfl
  | cons s ss => exact toList_intercalate_go s ss

theorem partition_append {c : Char} {name : List Char} (h : c ∉ name) (value : List Char) :
    partition c (name ++ c :: value) = (name, some value) := by
  induction name with
  | nil => simp [partition]
  | cons d name ih =>
    rw [List.mem_cons, not_or] at h
    simp [partition, Ne.symm h.1, ih h.2]

private theorem quote_plus_char_ne_nil (c : Char) : quote_plus_char c ≠ [] := by
  obtain ⟨b, tail, henc, -⟩ := decode_step_utf8_encode c []
  unfold quote_plus_char
  split_ifs <;> simp [henc, quote_byte]

private theorem quote_plus_eq_nil {s : String} : (quote_plus s).toList = [] ↔ s = "" := by
  rw [String.ext_iff]
  show s.toList.flatMap quote_plus_char = [] ↔ s.toList = []
  cases s.toList with
  | nil => exact iff_of_true rfl rfl
  | cons c cs =>
    exact iff_of_false (fun h => quote_plus_char_ne_nil c (List.append_eq_nil.1 h).1)
      (List.cons_ne_nil _ _)

/-- The field `urlencode` writes for a name and a value. -/
def encoded_field (kv : String × String) : List Char :=
  (quote_plus kv.1).toList ++ '=' :: (quote_plus kv.2).toList

/-- `parse_qsl` reads the fields `urlencode` joins with `&` back into their pairs, less the
    blank values unless it keeps them. -/
theorem parse_qsl_encoded_fields (items : List (String × String)) (keep_blank_values : Bool) :
    (((['&'].intercalate (items.map encoded_field)).splitOn '&').filterMap fun name_value =>
      if name_value.isEmpty then none
      else match partition '=' name_value with
        | (name, none) => if keep_blank_values then some (form_decode name, "") else none
        | (name, some value) =>
          if !value.isEmpty || keep_blank_values then some (form_decode name, form_decode value)
          else none) =
      items.filter fun kv => kv.2 ≠ "" || keep_blank_values := by
  cases items with
  | nil => rfl
  | cons kv items =>
    have hfield : ∀ kv, '&' ∉ encoded_field kv ∧ '=' ∉ (quote_plus kv.1).toList := fun kv => by
      have h1 := (quote_plus_spec kv.1.toList []).1
      have h2 := (quote_plus_spec kv.2.toList []).1
      refine ⟨fun h => ?_, fun h => (h1 _ h).2.2 rfl⟩
      simp only [encoded_field, List.mem_append, List.mem_cons] at h
      rcases h with h | h | h
      exacts [(h1 _ h).2.1 rfl, absurd h (by decide), (h2 _ h).2.1 rfl]
    rw [List.splitOn_intercalate _ _ (fun l hl => by
        obtain ⟨kv, -, rfl⟩ := List.mem_map.1 hl
        exact (hfield kv).1) (by simp), List.filterMap_map, ← List.filterMap_eq_filter]
    refine List.filterMap_congr fun kv _ => ?_
    obtain ⟨key, value⟩ := kv
    have hne : ((quote_plus key).toList ++ '=' :: (quote_plus value).toList).isEmpty = false := by
      simp
    have hblank : (!(quote_plus value).toList.isEmpty) = decide (value ≠ "") := by
      rw [Bool.eq_iff_iff, decide_eq_true_iff, Ne, ← quote_plus_eq_nil.not]
      generalize (quote_plus value).toList = l
      cases l <;> simp
    simp only [Function.comp, hne, Bool.false_eq_true, if_false, encoded_field,
      partition_append (hfield (key, value)).2, form_decode_quote_plus, hblank, Option.guard]

theorem toList_field (name value : String) :
    (quote_plus name ++ "=" ++ quote_plus value).toList = encoded_field (name, value) := by
  simp [encoded_field, String.toList, String.data_append]

/-- The characters `urlencode` writes: the encoded fields of the name-value pairs, joined
    with `&`. -/
theorem toList_urlencode (query : List (String × QueryValue)) :
    (urlencode query).toList = ['&'].intercalate
      ((query.flatMap fun kv => kv.2.elements.map fun v => (kv.1, v)).map encoded_field) := by
  rw [urlencode, toList_intercalate]
  simp only [List.map_flatMap, List.map_map, Function.comp_def, toList_field]

/-- `parse_qsl(urlencode(query, doseq=True), keep_blank_values)` gives back every pair of
    a name with one of its values, in order, less the blank values unless it keeps them. -/
theorem parse_qsl_urlencode (query : List (String × QueryValue)) (keep_blank_values : Bool) :
    parse_qsl (urlencode query) keep_blank_values =
      (query.flatMap fun kv => kv.2.elements.map fun v => (kv.1, v)).filter
        fun kv => kv.2 ≠ "" || keep_blank_values := by
  rw [parse_qsl, toList_urlencode]
  exact parse_qsl_encoded_fields _ _

theorem partition_spec (c : Char) (l : List Char) :
    c ∉ (partition c l).1 ∧ l = (partition c l).1 ++ (partition c l).2.elim [] (c :: ·) := by
  induction l with
  | nil => simp [partition]
  | cons d ds ih =>
    by_cases hd : d = c
    · subst hd
      simp [partition]
    · simp only [partition, if_neg hd, List.mem_cons, not_or, List.cons_append]
      exact ⟨⟨Ne.symm hd, ih.1⟩, congrArg _ ih.2⟩

theorem partition_of_not_mem {c : Char} {l : List Char} (h : c ∉ l) : partition c l = (l, none) := by
  induction l with
  | nil => rfl
  | cons d ds ih =>
    rw [List.mem_cons, not_or] at h
    simp [partition, Ne.symm h.1, ih h.2]

private theorem span_append {p : Char → Bool} {l₁ l₂ : List Char} (h₁ : ∀ x ∈ l₁, p x = true)
    (h₂ : ∀ x ∈ l₂.head?, p x = false) : (l₁ ++ l₂).span p = (l₁, l₂) := by
  rw [List.span_eq_take_drop, List.takeWhile_append_of_pos h₁, List.dropWhile_append_of_pos h₁]
  cases l₂ with
  | nil => simp
  | cons x xs => simp [List.takeWhile_cons, List.dropWhile_cons, h₂ x rfl]

private theorem split_scheme_append {c : Char} {cs : List Char} (hc : c.isAlpha = true)
    (hcs : (c :: cs).all scheme_char = true) (hlower : (c :: cs).map Char.toLower = c :: cs)
    (rest : List Char) : split_scheme ((c :: cs) ++ ':' :: rest) = (c :: cs, rest) := by
  have hcolon : ':' ∉ c :: cs := fun h => (scheme_char_ne (List.all_eq_true.1 hcs _ h)).1 rfl
  simp only [split_scheme, partition_append hcolon, hc, hcs, Bool.and_self, if_true, hlower]

private theorem split_netloc_append {netloc rest : List Char}
    (hnetloc : ∀ x ∈ netloc, x ≠ '/' ∧ x ≠ '?' ∧ x ≠ '#')
    (hrest : ∀ x ∈ rest.head?, x = '/' ∨ x = '?' ∨ x = '#') :
    split_netloc ('/' :: '/' :: (netloc ++ rest)) = (netloc, rest) := by
  refine span_append (fun x hx => ?_) (fun x hx => ?_)
  · obtain ⟨h1, h2, h3⟩ := hnetloc x hx
    simp [h1, h2, h3]
  · rcases hrest x hx with rfl | rfl | rfl <;> rfl

/-- What `urlsplit` returns for an absolute URL with a netloc: a lower-case scheme of scheme
    characters that starts with a letter, a netloc that passes the netloc checks and holds no
    `/`, `?` or `#`, a path that is empty or starts with `/` and holds no `?` or `#`, a query
    without `#`, and no tab or newline in any part. -/
structure SplitResult.Absolute (checks : NetlocChecks) (r : SplitResult) : Prop where
  scheme : ∃ c cs, r.scheme.toList = c :: cs ∧ c.isAlpha = true ∧
    (c :: cs).all scheme_char = true ∧ (c :: cs).map Char.toLower = c :: cs
  netloc_ne : r.netloc.toList ≠ []
  netloc : ∀ c ∈ r.netloc.toList, c ≠ '/' ∧ c ≠ '?' ∧ c ≠ '#' ∧ c ≠ '\t' ∧ c ≠ '\r' ∧ c ≠ '\n'
  netloc_checks : ¬ ('[' ∈ r.netloc.toList) ≠ (']' ∈ r.netloc.toList) ∧
    ¬ ('[' ∈ r.netloc.toList ∧ checks.bracketed_invalid r.netloc = true) ∧
    ¬ (¬ r.netloc.toList.all (·.toNat < 128) = true ∧ checks.nfkc_invalid r.netloc = true)
  path : r.path.toList.head? = none ∨ r.path.toList.head? = some '/'
  path_chars : ∀ c ∈ r.path.toList, c ≠ '?' ∧ c ≠ '#' ∧ c ≠ '\t' ∧ c ≠ '\r' ∧ c ≠ '\n'
  query : ∀ c ∈ r.query.toList, c ≠ '#' ∧ c ≠ '\t' ∧ c ≠ '\r' ∧ c ≠ '\n'
  fragment : ∀ c ∈ r.fragment.toList, c ≠ '\t' ∧ c ≠ '\r' ∧ c ≠ '\n'

/-- The characters `urlunsplit` writes for an absolute split result, in order. -/
theorem urlunsplit_toList {checks : NetlocChecks} {r : SplitResult} (hr : r.Absolute checks) :
    (urlunsplit r).toList = r.scheme.toList ++ ':' :: '/' :: '/' :: (r.netloc.toList ++
      (r.path.toList ++ ((if r.query = "" then [] else '?' :: r.query.toList) ++
        (if r.fragment = "" then [] else '#' :: r.fragment.toList)))) := by
  obtain ⟨c, cs, hscheme, -⟩ := hr.scheme
  have hscheme' : r.scheme ≠ "" := fun h => by rw [h] at hscheme; cases hscheme
  have hnetloc : r.netloc ≠ "" := fun h => hr.netloc_ne (by rw [h]; rfl)
  have hpath : ¬ (r.path.toList ≠ [] ∧ r.path.toList.take 1 ≠ ['/']) := by
    rcases hr.path with h | h <;> cases hp : r.path.toList <;> simp_all
  unfold urlunsplit
  simp only [if_pos hnetloc, if_neg hpath, if_pos hscheme', ne_eq]
  split_ifs <;> simp [String.toList, String.data_append]

/-- `urlsplit` reads what `urlunsplit` writes for an absolute split result back to it. -/
theorem urlsplit_urlunsplit {checks : NetlocChecks} {r : SplitResult} (hr : r.Absolute checks) :
    urlsplit checks (urlunsplit r) = some r := by
  obtain ⟨c, cs, hscheme, halpha, hall, hlower⟩ := hr.scheme
  have hchars : ∀ x ∈ (urlunsplit r).toList, x ≠ '\t' ∧ x ≠ '\r' ∧ x ≠ '\n' := by
    intro x hx
    rw [urlunsplit_toList hr] at hx
    simp only [List.mem_append, List.mem_cons] at hx
    rcases hx with hx | rfl | rfl | rfl | hx | hx | hx | hx
    · rw [hscheme] at hx
      exact (scheme_char_ne (List.all_eq_true.1 hall x hx)).2
    any_goals decide
    · exact (hr.netloc x hx).2.2.2
    · exact (hr.path_chars x hx).2.2
    · split_ifs at hx
      · cases hx
      · rcases List.mem_cons.1 hx with rfl | hx
        exacts [by decide, (hr.query x hx).2]
    · split_ifs at hx
      · cases hx
      · rcases List.mem_cons.1 hx with rfl | hx
        exacts [by decide, hr.fragment x hx]
  have hdrop : (urlunsplit r).toList.dropWhile (·.toNat ≤ 32) = (urlunsplit r).toList := by
    have hhead : 32 < c.toNat := by
      rcases (isAlpha_iff c).1 halpha with h | h <;> omega
    rw [urlunsplit_toList hr, hscheme, List.cons_append,
      List.dropWhile_cons_of_neg (by simpa using hhead)]
  have hrest : ∀ x ∈ (r.path.toList ++ ((if r.query = "" then [] else '?' :: r.query.toList) ++
      (if r.fragment = "" then [] else '#' :: r.fragment.toList))).head?,
      x = '/' ∨ x = '?' ∨ x = '#' := by
    intro x hx
    cases hp : r.path.toList with
    | cons y ys =>
      rw [hp, List.cons_append, List.head?_cons, Option.mem_some_iff] at hx
      rcases hr.path with h | h <;> rw [hp, List.head?_cons] at h <;> cases h
      exact .inl hx.symm
    | nil =>
      rw [hp, List.nil_append] at hx
      split_ifs at hx <;> simp at hx <;> subst hx <;> decide
  unfold urlsplit
  rw [hdrop, List.filter_eq_self.2 (fun x hx => by
      obtain ⟨h1, h2, h3⟩ := hchars x hx
      simp [h1, h2, h3]), urlunsplit_toList hr, hscheme]
  dsimp only
  rw [split_scheme_append halpha hall hlower,
    split_netloc_append (fun x hx => (hr.netloc x hx).imp_right fun h => ⟨h.1, h.2.1⟩) hrest]
  have hhash : '#' ∉ r.path.toList ++ (if r.query = "" then [] else '?' :: r.query.toList) := by
    rw [List.mem_append]
    rintro (h | h)
    · exact (hr.path_chars _ h).2.1 rfl
    · split_ifs at h
      · cases h
      · rcases List.mem_cons.1 h with h | h
        exacts [absurd h (by decide), (hr.query _ h).1 rfl]
  have hfragment : partition '#' (r.path.toList ++
      ((if r.query = "" then [] else '?' :: r.query.toList) ++
        (if r.fragment = "" then [] else '#' :: r.fragment.toList))) =
      (r.path.toList ++ (if r.query = "" then [] else '?' :: r.query.toList),
        if r.fragment = "" then none else some r.fragment.toList) := by
    generalize (if r.query = "" then [] else '?' :: r.query.toList) = query at hhash ⊢
    rw [← List.append_assoc]
    split_ifs with hf
    · rw [List.append_nil]
      exact partition_of_not_mem hhash
    · exact partition_append hhash _
  have hquery : partition '?' (r.path.toList ++
      (if r.query = "" then [] else '?' :: r.query.toList)) =
      (r.path.toList, if r.query = "" then none else some r.query.toList) := by
    have hpath : '?' ∉ r.path.toList := fun h => (hr.path_chars _ h).1 rfl
    split_ifs with hq
    · rw [List.append_nil]
      exact partition_of_not_mem hpath
    · exact partition_append hpath _
  have hgetD : ∀ s : String, ((if s = "" then none else some s.toList).getD [] : List Char) =
      s.toList := fun s => by split_ifs with h <;> simp [h]
  dsimp only
  rw [hfragment]
  dsimp only
  rw [hquery]
  dsimp only
  have hnetloc : ({ data := r.netloc.toList } : String) = r.netloc := rfl
  rw [if_neg hr.netloc_checks.1, hnetloc, if_neg hr.netloc_checks.2.1,
    if_neg hr.netloc_checks.2.2, hgetD, hgetD, ← hscheme]
  rfl

/-- The part after `urlsplit` cuts a scheme off: a lower-case scheme that starts with a
    letter, and the rest of the characters after the colon. -/
theorem split_scheme_spec {l scheme rest : List Char} (h : split_scheme l = (scheme, rest))
    (hscheme : scheme ≠ []) :
    (∃ c cs, scheme = c :: cs ∧ c.isAlpha = true ∧ (c :: cs).all scheme_char = true ∧
      (c :: cs).map Char.toLower = c :: cs) ∧ ∀ x ∈ rest, x ∈ l := by
  unfold split_scheme at h
  split at h
  · rename_i c cs rest' hpart
    split_ifs at h with hcond
    · obtain ⟨rfl, rfl⟩ := Prod.mk.inj h
      rw [Bool.and_eq_true] at hcond
      have hl := (partition_spec ':' l).2
      rw [hpart] at hl
      refine ⟨⟨c.toLower, cs.map Char.toLower, rfl, isAlpha_toLower hcond.1, ?_, ?_⟩,
        fun x hx => by rw [hl]; simp [hx]⟩
      · simpa [List.all_eq_true] using fun x hx => scheme_char_toLower (List.all_eq_true.1 hcond.2 x hx)
      · simp [toLower_toLower]
    · exact absurd (Prod.mk.inj h).1.symm hscheme
  · exact absurd (Prod.mk.inj h).1.symm hscheme

/-- The netloc `urlsplit` cuts off after `//` holds no `/`, `?` or `#`, and what follows it
    starts with one of them. -/
theorem split_netloc_spec {l netloc rest : List Char} (h : split_netloc l = (netloc, rest))
    (hnetloc : netloc ≠ []) :
    (∀ x ∈ netloc, x ≠ '/' ∧ x ≠ '?' ∧ x ≠ '#') ∧
      (∀ x ∈ rest.head?, x = '/' ∨ x = '?' ∨ x = '#') ∧ ∀ x, x ∈ netloc ∨ x ∈ rest → x ∈ l := by
  unfold split_netloc at h
  split at h
  · rename_i rest'
    rw [List.span_eq_take_drop] at h
    obtain ⟨rfl, rfl⟩ := Prod.mk.inj h
    refine ⟨fun x hx => ?_, fun x hx => ?_, fun x hx => ?_⟩
    · simpa [and_assoc] using List.mem_takeWhile_imp hx
    · have hnot := List.head?_dropWhile_not (fun c => !(c = '/' || c = '?' || c = '#')) rest'
      rw [Option.mem_def] at hx
      rw [hx] at hnot
      simp only [Bool.not_eq_false', Bool.or_eq_true, decide_eq_true_eq] at hnot
      exact or_assoc.1 hnot
    · refine List.mem_cons_of_mem _ (List.mem_cons_of_mem _ ?_)
      rw [← List.takeWhile_append_dropWhile (fun c => !(c = '/' || c = '?' || c = '#')) rest']
      exact List.mem_append.2 hx
  · exact absurd (Prod.mk.inj h).1.symm hnetloc

/-- What `urlsplit` returns for a URL with a scheme and a netloc is an absolute split
    result. -/
theorem urlsplit_absolute {checks : NetlocChecks} {url : String} {r : SplitResult}
    (h : urlsplit checks url = some r) (hscheme : r.scheme ≠ "") (hnetloc : r.netloc ≠ "") :
    r.Absolute checks := by
  unfold urlsplit at h
  generalize hl : (url.toList.dropWhile (·.toNat ≤ 32)).filter
    (fun c => !(c = '\t' || c = '\r' || c = '\n')) = l at h
  have hkept : ∀ x ∈ l, x ≠ '\t' ∧ x ≠ '\r' ∧ x ≠ '\n' := by
    rw [← hl]
    intro x hx
    simpa [and_assoc] using (List.mem_filter.1 hx).2
  dsimp only at h
  rcases hs : split_scheme l with ⟨scheme, l1⟩
  rw [hs] at h
  dsimp only at h
  rcases hn : split_netloc l1 with ⟨netloc, l2⟩
  rw [hn] at h
  dsimp only at h
  rcases hf : partition '#' l2 with ⟨l3, fragment⟩
  rw [hf] at h
  dsimp only at h
  rcases hq : partition '?' l3 with ⟨path, query⟩
  rw [hq] at h
  dsimp only at h
  split_ifs at h with h1 h2 h3
  obtain rfl := Option.some.inj h
  obtain ⟨hsch, hsub1⟩ := split_scheme_spec hs fun h => hscheme (by rw [h])
  obtain ⟨hnet, hhead, hsub2⟩ := split_netloc_spec hn fun h => hnetloc (by rw [h])
  obtain ⟨hhash, hl2⟩ := partition_spec '#' l2
  obtain ⟨hquest, hl3⟩ := partition_spec '?' l3
  rw [hf] at hhash hl2
  rw [hq] at hquest hl3
  dsimp only at hhash hl2 hquest hl3
  have hkept2 : ∀ x ∈ l2, x ≠ '\t' ∧ x ≠ '\r' ∧ x ≠ '\n' :=
    fun x hx => hkept x (hsub1 x (hsub2 x (.inr hx)))
  have hin3 : ∀ x ∈ l3, x ∈ l2 := fun x hx => by rw [hl2]; exact List.mem_append_left _ hx
  have hinpath : ∀ x ∈ path, x ∈ l3 := fun x hx => by rw [hl3]; exact List.mem_append_left _ hx
  refine ⟨hsch, fun h => hnetloc (String.ext h), fun x hx => ⟨(hnet x hx).1, (hnet x hx).2.1,
    (hnet x hx).2.2, hkept x (hsub1 x (hsub2 x (.inl hx)))⟩, ⟨h1, h2, h3⟩, ?_, fun x hx => ?_,
    fun x hx => ?_, fun x hx => ?_⟩
  · cases path with
    | nil => exact .inl rfl
    | cons y ys =>
      refine .inr (congrArg some ?_)
      have hy := hhead y (by rw [hl2, hl3]; rfl)
      have hy1 : y ≠ '?' := fun h => hquest (h ▸ List.mem_cons_self y ys)
      have hy2 : y ≠ '#' := fun h => hhash (h ▸ hinpath y (List.mem_cons_self y ys))
      exact hy.resolve_right fun h => h.elim hy1 hy2
  · exact ⟨fun h => hquest (h ▸ hx), fun h => hhash (h ▸ hinpath x hx),
      hkept2 x (hin3 x (hinpath x hx))⟩
  · have hx3 : x ∈ l3 := by
      rw [hl3]
      cases query with
      | none => cases hx
      | some q => exact List.mem_append_right _ (List.mem_cons_of_mem _ hx)
    exact ⟨fun h => hhash (h ▸ hx3), hkept2 x (hin3 x hx3)⟩
  · apply hkept2
    rw [hl2]
    cases fragment with
    | none => cases hx
    | some f => exact List.mem_append_right _ (List.mem_cons_of_mem _ hx)

/-- Another query without `#` and another fragment, neither with a tab or a newline, keep a
    split result absolute. -/
theorem SplitResult.Absolute.with_query_fragment {checks : NetlocChecks} {r : SplitResult}
    (hr : r.Absolute checks) {query fragment : String}
    (hquery : ∀ c ∈ query.toList, c ≠ '#' ∧ c ≠ '\t' ∧ c ≠ '\r' ∧ c ≠ '\n')
    (hfragment : ∀ c ∈ fragment.toList, c ≠ '\t' ∧ c ≠ '\r' ∧ c ≠ '\n') :
    ({ r with query := query, fragment := fragment } : SplitResult).Absolute checks :=
  ⟨hr.scheme, hr.netloc_ne, hr.netloc, hr.netloc_checks, hr.path, hr.path_chars, hquery,
    hfragment⟩

theorem always_safe_hex_digit : ∀ n < 16, always_safe (hex_digit n) = true := by
  decide

/-- `quote_plus` writes only unreserved characters, `+` and `%`. -/
theorem quote_plus_char_safe (c : Char) :
    ∀ d ∈ quote_plus_char c, always_safe d = true ∨ d = '+' ∨ d = '%' := by
  unfold quote_plus_char
  split_ifs with hsafe
  · intro d hd
    rw [List.mem_singleton.1 hd]
    exact .inl hsafe
  · intro d hd
    rw [List.mem_singleton.1 hd]
    exact .inr (.inl rfl)
  · intro d hd
    obtain ⟨b, hb, hd⟩ := List.mem_flatMap.1 hd
    have hbyte := utf8_encode_lt c b hb
    simp only [quote_byte, List.mem_cons, List.mem_singleton, List.not_mem_nil, or_false] at hd
    rcases hd with rfl | rfl | rfl
    · exact .inr (.inr rfl)
    · exact .inl (always_safe_hex_digit _ (by omega))
    · exact .inl (always_safe_hex_digit _ (by omega))

private theorem mem_intercalate {sep : List Char} {xs : List (List Char)} {d : Char}
    (h : d ∈ sep.intercalate xs) : d ∈ sep ∨ ∃ l ∈ xs, d ∈ l := by
  induction xs with
  | nil => simp [List.intercalate] at h
  | cons x xs ih =>
    cases xs with
    | nil => exact .inr ⟨x, List.mem_singleton_self x, by simpa [List.intercalate] using h⟩
    | cons y ys =>
      simp only [List.intercalate, List.intersperse_cons₂, List.flatten_cons,
        List.mem_append] at h ih
      rcases h with h | h | h
      · exact .inr ⟨x, List.mem_cons_self _ _, h⟩
      · exact .inl h
      · rcases ih h with h | ⟨l, hl, hd⟩
        exacts [.inl h, .inr ⟨l, List.mem_cons_of_mem _ hl, hd⟩]

/-- `urlencode` writes no `#`, tab or newline, so its output can stand as a query or a
    fragment. -/
theorem urlencode_chars (query : List (String × QueryValue)) :
    ∀ d ∈ (urlencode query).toList, d ≠ '#' ∧ d ≠ '\t' ∧ d ≠ '\r' ∧ d ≠ '\n' := by
  have hquoted : ∀ (s : String), ∀ d ∈ (quote_plus s).toList,
      d ≠ '#' ∧ d ≠ '\t' ∧ d ≠ '\r' ∧ d ≠ '\n' := fun s d hd => by
    obtain ⟨c, -, hd⟩ := List.mem_flatMap.1 hd
    rcases quote_plus_char_safe c d hd with h | rfl | rfl
    · refine ⟨?_, ?_, ?_, ?_⟩ <;> rintro rfl <;> exact absurd h (by decide)
    all_goals decide
  intro d hd
  rw [toList_urlencode] at hd
  rcases mem_intercalate hd with hd | ⟨l, hl, hd⟩
  · rw [List.mem_singleton.1 hd]
    decide
  · obtain ⟨kv, -, rfl⟩ := List.mem_map.1 hl
    rcases List.mem_append.1 hd with hd | hd
    · exact hquoted _ d hd
    · rcases List.mem_cons.1 hd with rfl | hd
      exacts [by decide, hquoted _ d hd]

/-! The grouping loop of `parse_qs`, for any step that appends an entry for a new name and
    extends the values of the last entry's name. -/

section Grouping

variable {step : List (String × List String) → String × String → List (String × List String)}
  (hnew : ∀ d k v, k ∉ d.map (·.1) → step d (k, v) = d ++ [(k, [v])])
  (hlast : ∀ d k vs v, k ∉ d.map (·.1) → step (d ++ [(k, vs)]) (k, v) = d ++ [(k, vs ++ [v])])
include hnew hlast

/-- One name's run of values lands in one entry, after the others. -/
private theorem foldl_group_block (d : List (String × List String)) (k : String)
    (hk : k ∉ d.map (·.1)) (values : List String) :
    (values.map (k, ·)).foldl step d = if values = [] then d else d ++ [(k, values)] := by
  have hrun : ∀ vs values, (values.map (k, ·)).foldl step (d ++ [(k, vs)]) =
      d ++ [(k, vs ++ values)] := fun vs values => by
    induction values generalizing vs with
    | nil => simp
    | cons v values ih => rw [List.map_cons, List.foldl_cons, hlast d k vs v hk, ih]; simp
  cases values with
  | nil => rfl
  | cons v values => rw [List.map_cons, List.foldl_cons, hnew d k v hk, hrun]; rfl

/-- Runs of values of distinct names, none already in `d`, give one entry each, in order,
    the names without values left out. -/
theorem foldl_group_blocks (blocks : List (String × List String))
    (hnodup : (blocks.map (·.1)).Nodup) (d : List (String × List String))
    (hfresh : ∀ kv ∈ blocks, kv.1 ∉ d.map (·.1)) :
    (blocks.flatMap fun kv => kv.2.map (kv.1, ·)).foldl step d =
      d ++ blocks.filter (·.2 ≠ []) := by
  induction blocks generalizing d with
  | nil => simp
  | cons kv blocks ih =>
    obtain ⟨hkv, hnodup⟩ := List.nodup_cons.1 hnodup
    rw [List.flatMap_cons, List.foldl_append,
      foldl_group_block hnew hlast d kv.1 (hfresh kv (List.mem_cons_self _ _)), List.filter_cons]
    have hfresh' : ∀ kv' ∈ blocks, kv'.1 ∉ d.map (·.1) :=
      fun kv' hkv' => hfresh kv' (List.mem_cons_of_mem _ hkv')
    by_cases hvalues : kv.2 = []
    · simpa [hvalues] using ih hnodup d hfresh'
    · rw [if_neg hvalues, ih hnodup, if_pos (by simpa using hvalues)]
      · simp
      · intro kv' hkv'
        simp only [List.map_append, List.map_singleton, List.mem_append, List.mem_singleton]
        exact fun h => h.elim (hfresh' kv' hkv') fun heq =>
          hkv (List.mem_map.2 ⟨kv', hkv', heq⟩)

end Grouping

/-- `group_values` of runs of values of distinct names: one entry per name with values. -/
theorem group_values_blocks (blocks : List (String × List String))
    (hnodup : (blocks.map (·.1)).Nodup) :
    group_values (blocks.flatMap fun kv => kv.2.map (kv.1, ·)) = blocks.filter (·.2 ≠ []) := by
  unfold group_values
  refine (foldl_group_blocks ?_ ?_ blocks hnodup [] fun _ _ => List.not_mem_nil _).trans rfl
  · intro d k v hk
    have hfind : d.find? (·.1 == k) = none :=
      List.find?_eq_none.2 fun kv hkv h => hk (List.mem_map.2 ⟨kv, hkv, beq_iff_eq.1 h⟩)
    simp only [hfind]
  · intro d k vs v hk
    have hfind : (d ++ [(k, vs)]).find? (·.1 == k) = some (k, vs) := by
      rw [List.find?_append, List.find?_eq_none.2 fun kv hkv h =>
        hk (List.mem_map.2 ⟨kv, hkv, beq_iff_eq.1 h⟩)]
      simp
    simp only [hfind, dict.setitem_last hk]

/-- `parse_qs(urlencode(query, doseq=True))` for distinct names: each name with its
    non-blank values, in order, the names with none left out. -/
theorem parse_qs_urlencode {query : List (String × QueryValue)}
    (hnodup : (query.map (·.1)).Nodup) :
    parse_qs (urlencode query) =
      (query.map fun kv => (kv.1, kv.2.elements.filter (· ≠ ""))).filter (·.2 ≠ []) := by
  have hpairs : parse_qsl (urlencode query) false =
      (query.flatMap fun kv => kv.2.elements.map fun v => (kv.1, v)).filter
        fun kv => kv.2 ≠ "" || false := by
    rw [parse_qsl, toList_urlencode]
    exact parse_qsl_encoded_fields _ false
  rw [parse_qs, hpairs, List.filter_flatMap, ← group_values_blocks _ (by simpa using hnodup),
    List.flatMap_map]
  simp only [List.filter_map, Bool.or_false]
  rfl

end python.urllib.parse
