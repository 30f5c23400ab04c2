import Mathlib.Data.String.Basic
import Mathlib.Data.List.Forall2

namespace python.codecs

/-- The UTF-8 bytes of a character, each a number below 256. -/
def utf8_encode (c : Char) : List Nat :=
  let n := c.toNat
  if n < 0x80 then [n]
  else if n < 0x800 then [0xC0 + n / 64, 0x80 + n % 64]
  else if n < 0x10000 then [0xE0 + n / 4096, 0x80 + n / 64 % 64, 0x80 + n % 64]
  else [0xF0 + n / 262144, 0x80 + n / 4096 % 64, 0x80 + n / 64 % 64, 0x80 + n % 64]

/-- The ranges the bytes after a lead byte must fall in (Unicode, Table 3-7); empty for
    a byte that starts no sequence. -/
def tail_ranges (b : Nat) : List (Nat × Nat) :=
  if 0xC2 ≤ b ∧ b ≤ 0xDF then [(0x80, 0xBF)]
  else if b = 0xE0 then [(0xA0, 0xBF), (0x80, 0xBF)]
  else if b = 0xED then [(0x80, 0x9F), (0x80, 0xBF)]
  else if 0xE1 ≤ b ∧ b ≤ 0xEF then [(0x80, 0xBF), (0x80, 0xBF)]
  else if b = 0xF0 then [(0x90, 0xBF), (0x80, 0xBF), (0x80, 0xBF)]
  else if b = 0xF4 then [(0x80, 0x8F), (0x80, 0xBF), (0x80, 0xBF)]
  else if 0xF1 ≤ b ∧ b ≤ 0xF3 then [(0x80, 0xBF), (0x80, 0xBF), (0x80, 0xBF)]
  else []

/-- How many of the bytes after a lead byte fall in their ranges, up to the first that
    does not: with the lead byte, the maximal subpart of a sequence. -/
def matched : List (Nat × Nat) → List Nat → Nat
  | (lo, hi) :: rs, c :: cs => if lo ≤ c ∧ c ≤ hi then matched rs cs + 1 else 0
  | _, _ => 0

/-- The code point of a lead byte followed by its continuation bytes. -/
def code_point (b : Nat) (cs : List Nat) : Nat :=
  let lead := if b < 0xE0 then b - 0xC0 else if b < 0xF0 then b - 0xE0 else b - 0xF0
  cs.foldl (fun acc c => acc * 64 + (c - 0x80)) lead

/-- One step of `bytes.decode("utf-8", "replace")` at a byte: the character it starts, or
    U+FFFD for a maximal invalid subpart, and how many of the following bytes it used. -/
def decode_step (b : Nat) (next : List Nat) : Char × Nat :=
  if b < 0x80 then (Char.ofNat b, 0)
  else
    let rs := tail_ranges b
    let k := matched rs next
    if rs ≠ [] ∧ k = rs.length then (Char.ofNat (code_point b (next.take k)), k)
    else ('�', k)

/-- The decoder run with `fuel` steps; one step per character read. -/
def decode_go : Nat → List Nat → List Char
  | 0, _ => []
  | _, [] => []
  | fuel + 1, b :: rest =>
    let (c, k) := decode_step b rest
    c :: decode_go fuel (rest.drop k)

/-- `bytes.decode("utf-8", "replace")`: each step consumes at least one byte, so the
    length of the input is enough fuel. -/
def utf8_decode (bs : List Nat) : List Char := decode_go bs.length bs

example : utf8_decode [0x61, 0xC3, 0xA9, 0xFF, 0xE2, 0x82] = ['a', 'é', '�', '�'] := by
  decide

/-- A continuation byte inside the range `tail_ranges` gives for its place. -/
def in_range (r : Nat × Nat) (c : Nat) : Prop := r.1 ≤ c ∧ c ≤ r.2

private theorem matched_append {rs : List (Nat × Nat)} {tail : List Nat}
    (h : List.Forall₂ in_range rs tail) (rest : List Nat) :
    matched rs (tail ++ rest) = rs.length := by
  induction h with
  | nil => cases rest <;> rfl
  | @cons r c rs cs hc _ ih =>
    show (if r.1 ≤ c ∧ c ≤ r.2 then matched rs (cs ++ rest) + 1 else 0) = _
    rw [if_pos (show r.1 ≤ c ∧ c ≤ r.2 from hc), ih, List.length_cons]

/-- A lead byte followed by continuation bytes in their ranges decodes to the code point
    they spell, using all of them. -/
private theorem decode_step_lead {b : Nat} {tail : List Nat} (hb : 0x80 ≤ b) (htail : tail ≠ [])
    (hranges : List.Forall₂ in_range (tail_ranges b) tail) (rest : List Nat) :
    decode_step b (tail ++ rest) = (Char.ofNat (code_point b tail), tail.length) := by
  have hlen := hranges.length_eq
  have hne : tail_ranges b ≠ [] := fun h => htail (List.length_eq_zero.1 (by rw [← hlen, h]; rfl))
  simp only [decode_step, if_neg (Nat.not_lt.2 hb), matched_append hranges, ne_eq, hne,
    not_false_eq_true, and_self, if_true, hlen, List.take_left]

private theorem tail_ranges_two {b : Nat} (h : 0xC2 ≤ b ∧ b ≤ 0xDF) : tail_ranges b = [(0x80, 0xBF)] := by
  rw [tail_ranges, if_pos h]

private theorem tail_ranges_three {b : Nat} (h : 0xE0 ≤ b ∧ b ≤ 0xEF) :
    tail_ranges b = [(if b = 0xE0 then 0xA0 else 0x80, if b = 0xED then 0x9F else 0xBF),
      (0x80, 0xBF)] := by
  obtain ⟨k, hk, rfl⟩ : ∃ k, k < 16 ∧ b = 0xE0 + k := ⟨b - 0xE0, by omega, by omega⟩
  revert k; decide

private theorem tail_ranges_four {b : Nat} (h : 0xF0 ≤ b ∧ b ≤ 0xF4) :
    tail_ranges b = [(if b = 0xF0 then 0x90 else 0x80, if b = 0xF4 then 0x8F else 0xBF),
      (0x80, 0xBF), (0x80, 0xBF)] := by
  obtain ⟨k, hk, rfl⟩ : ∃ k, k < 5 ∧ b = 0xF0 + k := ⟨b - 0xF0, by omega, by omega⟩
  revert k; decide

theorem toNat_lt_max (c : Char) : c.toNat < 0x110000 := by
  have h : c.toNat < 0xD800 ∨ 0xDFFF < c.toNat ∧ c.toNat < 0x110000 := c.valid
  omega

/-- Decoding the UTF-8 bytes of a character gives it back and uses all its bytes. -/
theorem decode_step_utf8_encode (c : Char) (rest : List Nat) :
    ∃ b tail, utf8_encode c = b :: tail ∧ decode_step b (tail ++ rest) = (c, tail.length) := by
  have hleft : ∀ b tail, 0x80 ≤ b → tail ≠ [] → List.Forall₂ in_range (tail_ranges b) tail →
      code_point b tail = c.toNat → decode_step b (tail ++ rest) = (c, tail.length) :=
    fun b tail hb htail hranges hcode => by
      rw [decode_step_lead hb htail hranges, hcode, Char.ofNat_toNat]
  simp only [utf8_encode]
  split_ifs with h1 h2 h3
  · exact ⟨_, [], rfl, by simp [decode_step, h1, Char.ofNat_toNat]⟩
  · refine ⟨_, _, rfl, hleft _ _ (by omega) (List.cons_ne_nil _ _) ?_ ?_⟩
    · rw [tail_ranges_two (by omega)]
      simp only [List.forall₂_cons, in_range, List.Forall₂.nil, and_true]; omega
    · simp only [code_point, List.foldl]; rw [if_pos (by omega)]; omega
  · refine ⟨_, _, rfl, hleft _ _ (by omega) (List.cons_ne_nil _ _) ?_ ?_⟩
    · have hvalid : c.toNat < 0xD800 ∨ 0xDFFF < c.toNat := c.valid.imp_right (·.1)
      rw [tail_ranges_three (by omega)]
      simp only [List.forall₂_cons, in_range, List.Forall₂.nil, and_true]
      split_ifs <;> omega
    · simp only [code_point, List.foldl]; rw [if_neg (by omega), if_pos (by omega)]; omega
  · have hmax : c.toNat < 0x110000 := toNat_lt_max c
    refine ⟨_, _, rfl, hleft _ _ (by omega) (List.cons_ne_nil _ _) ?_ ?_⟩
    · rw [tail_ranges_four (by omega)]
      simp only [List.forall₂_cons, in_range, List.Forall₂.nil, and_true]
      split_ifs <;> omega
    · simp only [code_point, List.foldl]; rw [if_neg (by omega), if_neg (by omega)]; omega

theorem length_le_length_flatMap_utf8_encode (chars : List Char) :
    chars.length ≤ (chars.flatMap utf8_encode).length := by
  induction chars with
  | nil => exact le_rfl
  | cons c chars ih =>
    obtain ⟨b, tail, henc, -⟩ := decode_step_utf8_encode c []
    simp only [List.flatMap_cons, henc, List.length_append, List.length_cons]
    omega

theorem decode_go_utf8_encode (chars : List Char) (fuel : Nat) (hfuel : chars.length ≤ fuel) :
    decode_go fuel (chars.flatMap utf8_encode) = chars := by
  induction chars generalizing fuel with
  | nil => cases fuel <;> rfl
  | cons c chars ih =>
    obtain ⟨fuel, rfl⟩ : ∃ n, fuel = n + 1 := ⟨fuel - 1, by simp at hfuel; omega⟩
    obtain ⟨b, tail, henc, hstep⟩ := decode_step_utf8_encode c (chars.flatMap utf8_encode)
    rw [List.flatMap_cons, henc, List.cons_append, decode_go, hstep]
    dsimp only
    rw [List.drop_left, ih fuel (by simpa using hfuel)]

/-- `bytes.decode("utf-8", "replace")` inverts `str.encode("utf-8")`. -/
theorem utf8_decode_encode (chars : List Char) :
    utf8_decode (chars.flatMap utf8_encode) = chars :=
  decode_go_utf8_encode chars _ (length_le_length_flatMap_utf8_encode chars)

end python.codecs
