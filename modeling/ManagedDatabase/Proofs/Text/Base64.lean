/-
What is written as bytes is read back, and nothing else is read: texts in UTF-8 (`decodeUtf8_eq_some_iff`),
and bytes in base64 (`Base64.decode_eq_some_iff`), in groups of three bytes and four symbols as they are
written.
-/
import ManagedDatabase.Text.Base64
import ManagedDatabase.Text.Bytes
import Mathlib.Tactic.SplitIfs

namespace ManagedDatabase.Text

theorem decodeUtf8_encodeUtf8 (s : String) : decodeUtf8 (encodeUtf8 s) = some s := by
  unfold decodeUtf8 encodeUtf8 String.fromUTF8?
  rw [Array.toArray_toList, dif_pos s.isValidUTF8]
  rfl

/-- The UTF-8 of a text, character by character. -/
def utf8 (s : String) : List UInt8 := s.toList.flatMap String.utf8EncodeChar

theorem encodeUtf8_eq (s : String) : encodeUtf8 s = utf8 s := by
  rw [encodeUtf8, ← String.utf8Encode_toList, List.utf8Encode, List.data_toByteArray, List.toList_toArray, utf8]

/-- Bytes are read as a text if and only if they are its UTF-8. -/
theorem decodeUtf8_eq_some_iff {bytes : List UInt8} {s : String} :
    decodeUtf8 bytes = some s ↔ bytes = utf8 s := by
  rw [← encodeUtf8_eq]
  constructor
  · intro read
    unfold decodeUtf8 String.fromUTF8? at read
    split at read
    · cases read
      rfl
    · cases read
  · rintro rfl
    exact decodeUtf8_encodeUtf8 s

namespace Base64

theorem sextet?_symbol {n : Nat} (h : n < 64) : sextet? (symbol n) = some n := by
  have all : ∀ n : Fin 64, sextet? (symbol n) = some n.val := by decide
  exact all ⟨n, h⟩

theorem symbol_of_sextet? {c : Char} {n : Nat} (read : sextet? c = some n) : n < 64 ∧ symbol n = c := by
  have back : Char.ofNat c.toNat = c := Char.ofNat_toNat c
  simp only [sextet?, Bool.and_eq_true, decide_eq_true_eq] at read
  split_ifs at read with upper lower digit plus slash
  · obtain rfl := Option.some.inj read
    refine ⟨by omega, ?_⟩
    rw [symbol, if_pos (by omega), Nat.sub_add_cancel (by omega), back]
  · obtain rfl := Option.some.inj read
    refine ⟨by omega, ?_⟩
    rw [symbol, if_neg (by omega), if_pos (by omega), Nat.sub_add_cancel (by omega), back]
  · obtain rfl := Option.some.inj read
    refine ⟨by omega, ?_⟩
    rw [symbol, if_neg (by omega), if_neg (by omega), if_pos (by omega), Nat.add_sub_cancel, back]
  · obtain rfl := Option.some.inj read
    refine ⟨by omega, ?_⟩
    rw [← back, plus]
    rfl
  · obtain rfl := Option.some.inj read
    refine ⟨by omega, ?_⟩
    rw [← back, slash]
    rfl

theorem symbol_ne_pad {n : Nat} (h : n < 64) : symbol n ≠ '=' := by
  intro pad
  have read := sextet?_symbol h
  rw [pad] at read
  cases read

theorem ofNat_eq {n : Nat} {a : UInt8} (h : n = a.toNat) : UInt8.ofNat n = a := by
  rw [h, UInt8.ofNat_toNat]

theorem toNat_ofNat {n : Nat} (h : n < 256) : (UInt8.ofNat n).toNat = n := by
  rw [UInt8.toNat_ofNat', Nat.mod_eq_of_lt h]

section Groups

variable {x y z u : Nat} (hx : x < 64) (hy : y < 64) (hz : z < 64) (hu : u < 64)

include hx hy

theorem decode_one (whole : y % 16 = 0) :
    decode [symbol x, symbol y, '=', '='] = some [UInt8.ofNat (x * 4 + y / 16)] := by
  simp only [decode, sextet?_symbol hx, sextet?_symbol hy, Option.bind_eq_bind, Option.bind_some, whole,
    if_true]

theorem encode_one (whole : y % 16 = 0) :
    encode [UInt8.ofNat (x * 4 + y / 16)] = [symbol x, symbol y, '=', '='] := by
  rw [encode, toNat_ofNat (by omega), show (x * 4 + y / 16) / 4 = x by omega,
    show (x * 4 + y / 16) % 4 * 16 = y by omega]

include hz

theorem decode_two (whole : z % 4 = 0) : decode [symbol x, symbol y, symbol z, '='] =
    some [UInt8.ofNat (x * 4 + y / 16), UInt8.ofNat (y % 16 * 16 + z / 4)] := by
  have inner := symbol_ne_pad hz
  simp only [decode, sextet?_symbol hx, sextet?_symbol hy, sextet?_symbol hz, Option.bind_eq_bind,
    Option.bind_some, whole, if_true]

theorem encode_two (whole : z % 4 = 0) :
    encode [UInt8.ofNat (x * 4 + y / 16), UInt8.ofNat (y % 16 * 16 + z / 4)] =
      [symbol x, symbol y, symbol z, '='] := by
  rw [encode, toNat_ofNat (by omega), toNat_ofNat (by omega), show (x * 4 + y / 16) / 4 = x by omega,
    show (x * 4 + y / 16) % 4 * 16 + (y % 16 * 16 + z / 4) / 16 = y by omega,
    show (y % 16 * 16 + z / 4) % 16 * 4 = z by omega]

include hu

theorem decode_three (rest : List Char) :
    decode (symbol x :: symbol y :: symbol z :: symbol u :: rest) = (decode rest).map fun bytes =>
      UInt8.ofNat (x * 4 + y / 16) :: UInt8.ofNat (y % 16 * 16 + z / 4)
        :: UInt8.ofNat (z % 4 * 64 + u) :: bytes := by
  have last := symbol_ne_pad hu
  rw [decode]
  · simp only [sextet?_symbol hx, sextet?_symbol hy, sextet?_symbol hz, sextet?_symbol hu,
      Option.bind_eq_bind, Option.bind_some]
    cases decode rest <;> rfl
  · rintro - pad
    exact absurd pad last
  · exact fun pad => absurd pad last

theorem encode_three (bytes : List UInt8) :
    encode (UInt8.ofNat (x * 4 + y / 16) :: UInt8.ofNat (y % 16 * 16 + z / 4)
        :: UInt8.ofNat (z % 4 * 64 + u) :: bytes) =
      symbol x :: symbol y :: symbol z :: symbol u :: encode bytes := by
  rw [encode, toNat_ofNat (by omega), toNat_ofNat (by omega), toNat_ofNat (by omega),
    show (x * 4 + y / 16) / 4 = x by omega,
    show (x * 4 + y / 16) % 4 * 16 + (y % 16 * 16 + z / 4) / 16 = y by omega,
    show (y % 16 * 16 + z / 4) % 16 * 4 + (z % 4 * 64 + u) / 64 = z by omega,
    show (z % 4 * 64 + u) % 64 = u by omega]

end Groups

theorem decode_encode : ∀ bytes : List UInt8, decode (encode bytes) = some bytes
  | [] => rfl
  | [a] => by
    have ha := a.toNat_lt
    rw [encode, decode_one (by omega) (by omega) (by omega), ofNat_eq (a := a) (by omega)]
  | [a, b] => by
    have ha := a.toNat_lt
    have hb := b.toNat_lt
    rw [encode, decode_two (by omega) (by omega) (by omega) (by omega), ofNat_eq (a := a) (by omega),
      ofNat_eq (a := b) (by omega)]
  | a :: b :: c :: rest => by
    have ha := a.toNat_lt
    have hb := b.toNat_lt
    have hc := c.toNat_lt
    rw [encode, decode_three (by omega) (by omega) (by omega) (by omega), decode_encode rest,
      Option.map_some, ofNat_eq (a := a) (by omega), ofNat_eq (a := b) (by omega),
      ofNat_eq (a := c) (by omega)]

/-- What is read is what is written. -/
theorem encode_of_decode {text : List Char} :
    ∀ {bytes : List UInt8}, decode text = some bytes → encode bytes = text := by
  induction text using decode.induct with
  | case1 =>
    rintro _ ⟨⟩
    rfl
  | case2 a b =>
    intro bytes read
    simp only [decode, Option.bind_eq_bind, Option.bind_eq_some_iff, Option.ite_none_right_eq_some] at read
    obtain ⟨x, rx, y, ry, whole, read⟩ := read
    obtain rfl := Option.some.inj read
    obtain ⟨hx, rfl⟩ := symbol_of_sextet? rx
    obtain ⟨hy, rfl⟩ := symbol_of_sextet? ry
    exact encode_one hx hy whole
  | case3 a b c inner =>
    intro bytes read
    rw [decode.eq_3 a b c inner] at read
    simp only [Option.bind_eq_bind, Option.bind_eq_some_iff, Option.ite_none_right_eq_some] at read
    obtain ⟨x, rx, y, ry, z, rz, whole, read⟩ := read
    obtain rfl := Option.some.inj read
    obtain ⟨hx, rfl⟩ := symbol_of_sextet? rx
    obtain ⟨hy, rfl⟩ := symbol_of_sextet? ry
    obtain ⟨hz, rfl⟩ := symbol_of_sextet? rz
    exact encode_two hx hy hz whole
  | case4 a b c d rest two one ih =>
    intro bytes read
    rw [decode.eq_4 a b c d rest two one] at read
    simp only [Option.bind_eq_bind, Option.bind_eq_some_iff] at read
    obtain ⟨x, rx, y, ry, z, rz, u, ru, later, decoded, read⟩ := read
    obtain rfl := Option.some.inj read
    obtain ⟨hx, rfl⟩ := symbol_of_sextet? rx
    obtain ⟨hy, rfl⟩ := symbol_of_sextet? ry
    obtain ⟨hz, rfl⟩ := symbol_of_sextet? rz
    obtain ⟨hu, rfl⟩ := symbol_of_sextet? ru
    rw [encode_three hx hy hz hu, ih decoded]
  | case5 text empty two one four =>
    intro bytes read
    rw [decode.eq_5 text empty two one four] at read
    cases read

/-- Bytes have one written form, and nothing else is read. -/
theorem decode_eq_some_iff {text : List Char} {bytes : List UInt8} :
    decode text = some bytes ↔ text = encode bytes :=
  ⟨fun read => (encode_of_decode read).symm, fun form => form ▸ decode_encode bytes⟩

end Base64
end ManagedDatabase.Text
