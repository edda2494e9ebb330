import PullQuota.Text.Base64
import PullQuota.Text.Utf8

/-!
Texts as bytes and bytes as texts: UTF-8 is read back, and Base64 consists of padded groups of the
standard digits.
-/

namespace PullQuota

namespace Utf8

section Steps

variable {byte : UInt8} {rest : List UInt8} {pending next : Pending} {c : Char}

theorem decodeFrom_of_start_char (h : start byte = .char c) :
    decodeFrom none (byte :: rest) = c :: decodeFrom none rest := by
  rw [decodeFrom, h, Step.emit]

theorem decodeFrom_of_start_more (h : start byte = .more next) :
    decodeFrom none (byte :: rest) = decodeFrom (some next) rest := by
  rw [decodeFrom, h, Step.emit]

variable {missing bits low high part : Nat}

/-- A byte after the first adds six bits. -/
theorem follow_ofNat (six : part < 64) (above : low ≤ part + 128) (below : part + 128 ≤ high) :
    follow ⟨missing, bits, low, high⟩ (UInt8.ofNat (part + 128)) =
      if missing = 1 then .char (Char.ofNat (bits * 64 + part))
      else .more ⟨missing - 1, bits * 64 + part, 0x80, 0xBF⟩ := by
  have byte : (UInt8.ofNat (part + 128)).toNat = part + 128 :=
    UInt8.toNat_ofNat_of_lt' (show part + 128 < 256 by omega)
  simp only [follow, byte, Nat.add_sub_cancel]
  rw [if_pos ⟨above, below⟩]

theorem decodeFrom_last (six : part < 64) (above : low ≤ part + 128) (below : part + 128 ≤ high) :
    decodeFrom (some ⟨1, bits, low, high⟩) (UInt8.ofNat (part + 128) :: rest) =
      Char.ofNat (bits * 64 + part) :: decodeFrom none rest := by
  rw [decodeFrom, follow_ofNat six above below]
  rfl

theorem decodeFrom_middle (six : part < 64) (above : low ≤ part + 128)
    (below : part + 128 ≤ high) :
    decodeFrom (some ⟨missing + 2, bits, low, high⟩) (UInt8.ofNat (part + 128) :: rest) =
      decodeFrom (some ⟨missing + 1, bits * 64 + part, 0x80, 0xBF⟩) rest := by
  rw [decodeFrom, follow_ofNat six above below, if_neg (by omega)]
  rfl

end Steps

section Leads

variable {n : Nat}

theorem start_one (h : n < 0x80) : start (UInt8.ofNat n) = .char (Char.ofNat n) := by
  have byte : (UInt8.ofNat n).toNat = n :=
    UInt8.toNat_ofNat_of_lt' (show n < 256 by omega)
  simp [start, byte, h]

theorem start_two (low : 2 ≤ n) (high : n < 0x20) :
    start (UInt8.ofNat (n + 0xC0)) = .more ⟨1, n, 0x80, 0xBF⟩ := by
  have byte : (UInt8.ofNat (n + 0xC0)).toNat = n + 0xC0 :=
    UInt8.toNat_ofNat_of_lt' (show n + 0xC0 < 256 by omega)
  simp only [start, byte]
  rw [if_neg (by omega), if_pos (by omega), Nat.add_sub_cancel]

theorem start_three (high : n < 0x10) : start (UInt8.ofNat (n + 0xE0)) =
    .more ⟨2, n, if n = 0 then 0xA0 else 0x80, if n = 13 then 0x9F else 0xBF⟩ := by
  have byte : (UInt8.ofNat (n + 0xE0)).toNat = n + 0xE0 :=
    UInt8.toNat_ofNat_of_lt' (show n + 0xE0 < 256 by omega)
  simp only [start, byte]
  rw [if_neg (by omega), if_neg (by omega), if_pos (by omega), Nat.add_sub_cancel]
  simp

theorem start_four (high : n < 5) : start (UInt8.ofNat (n + 0xF0)) =
    .more ⟨3, n, if n = 0 then 0x90 else 0x80, if n = 4 then 0x8F else 0xBF⟩ := by
  have byte : (UInt8.ofNat (n + 0xF0)).toNat = n + 0xF0 :=
    UInt8.toNat_ofNat_of_lt' (show n + 0xF0 < 256 by omega)
  simp only [start, byte]
  rw [if_neg (by omega), if_neg (by omega), if_neg (by omega), if_pos (by omega),
    Nat.add_sub_cancel]
  simp

end Leads

/-- The bytes of a character are read as that character, and what comes after them from anew. -/
theorem decodeFrom_utf8EncodeChar (c : Char) (rest : List UInt8) :
    decodeFrom none (String.utf8EncodeChar c ++ rest) = c :: decodeFrom none rest := by
  have valid : c.toNat < 0xD800 ∨ 0xDFFF < c.toNat ∧ c.toNat < 0x110000 := c.valid
  have whole : Char.ofNat c.toNat = c := Char.ofNat_toNat c
  simp only [String.utf8EncodeChar, show c.val.toNat = c.toNat from rfl]
  generalize c.toNat = n at valid whole
  split
  next one => rw [List.singleton_append, decodeFrom_of_start_char (start_one (by omega)), whole]
  split
  next two =>
    have bits : n / 64 % 32 * 64 + n % 64 = n := by omega
    rw [List.cons_append, decodeFrom_of_start_more (start_two (by omega) (by omega)),
      List.singleton_append, decodeFrom_last (by omega) (by omega) (by omega), bits, whole]
  split
  next three =>
    have bits : (n / 4096 % 16 * 64 + n / 64 % 64) * 64 + n % 64 = n := by omega
    rw [List.cons_append, decodeFrom_of_start_more (start_three (by omega)), List.cons_append,
      decodeFrom_middle (by omega) (by split <;> omega) (by split <;> omega),
      List.singleton_append, decodeFrom_last (by omega) (by omega) (by omega), bits, whole]
  next four =>
    have bits : ((n / 262144 % 8 * 64 + n / 4096 % 64) * 64 + n / 64 % 64) * 64 + n % 64 = n := by
      omega
    rw [List.cons_append, decodeFrom_of_start_more (start_four (by omega)), List.cons_append,
      decodeFrom_middle (by omega) (by split <;> omega) (by split <;> omega), List.cons_append,
      decodeFrom_middle (by omega) (by omega) (by omega),
      List.singleton_append, decodeFrom_last (by omega) (by omega) (by omega), bits, whole]

theorem decodeFrom_encode (s : String) : decodeFrom none (encode s) = s.toList := by
  unfold encode
  induction s.toList with
  | nil => rw [List.flatMap_nil, decodeFrom]
  | cons c cs ih => rw [List.flatMap_cons, decodeFrom_utf8EncodeChar, ih]

/-- The bytes of a text are read as that text. -/
theorem decode_encode (s : String) : decode (encode s) = s := by
  rw [decode, decodeFrom_encode, String.ofList_toList]

theorem encode_inj {s t : String} : encode s = encode t ↔ s = t := by
  constructor
  · intro same
    rw [← decode_encode s, same, decode_encode]
  · rintro rfl
    rfl

end Utf8

namespace Base64

/-- A digit of the standard alphabet. -/
def IsDigit (c : Char) : Prop :=
  (value? c).isSome = true

/-- Groups of four digits; the last group may be filled up with one or two signs. -/
inductive Padded : List Char → Prop
  | nil : Padded []
  | one (a b : Char) (first : IsDigit a) (second : IsDigit b) : Padded [a, b, '=', '=']
  | two (a b c : Char) (first : IsDigit a) (second : IsDigit b) (third : IsDigit c) :
      Padded [a, b, c, '=']
  | group (a b c d : Char) (rest : List Char) (first : IsDigit a) (second : IsDigit b)
      (third : IsDigit c) (fourth : IsDigit d) (others : Padded rest) :
      Padded (a :: b :: c :: d :: rest)

theorem isDigit_digit {n : Nat} (h : n < 64) : IsDigit (digit n) := by
  rw [IsDigit, value?_digit n h, Option.isSome_some]

theorem padded_encode (bytes : List UInt8) : Padded (encode bytes) := by
  fun_induction encode bytes with
  | case1 => exact .nil
  | case2 a n =>
    have ha := a.toNat_lt
    exact .one _ _ (isDigit_digit (by omega)) (isDigit_digit (by omega))
  | case3 a b n =>
    have ha := a.toNat_lt
    have hb := b.toNat_lt
    exact .two _ _ _ (isDigit_digit (by omega)) (isDigit_digit (by omega))
      (isDigit_digit (by omega))
  | case4 a b c rest n ih =>
    have ha := a.toNat_lt
    have hb := b.toNat_lt
    have hc := c.toNat_lt
    exact .group _ _ _ _ _ (isDigit_digit (by omega)) (isDigit_digit (by omega))
      (isDigit_digit (by omega)) (isDigit_digit (by omega)) ih

theorem encode_inj {bytes bytes' : List UInt8} : encode bytes = encode bytes' ↔ bytes = bytes' := by
  constructor
  · intro same
    exact Option.some.inj ((decode?_encode bytes).symm.trans (same ▸ decode?_encode bytes'))
  · rintro rfl
    rfl

end Base64

end PullQuota
