import Mathlib.Data.List.Basic
import SolarCharts.Text.Utf8

/-!
# UTF-8 read back

The octets of a text are cut into the characters that it was made of, one piece for each, so that
reading them fails nowhere and replaces nothing: `decode?_encode`, `decodeLossy_encode`. A piece is as
long as its first octet tells, and the bounds of the octet behind that are what keeps every number in the
form that is written.
-/

namespace SolarCharts.Utf8

/-! ## Octets -/

theorem toNat_ofNat {n : Nat} (h : n < 256) : (UInt8.ofNat n).toNat = n := by
  rw [UInt8.toNat_ofNat']
  exact Nat.mod_eq_of_lt h

/-- An array of octets is listed from its start on. -/
theorem toList_loop_eq (octets : ByteArray) (i : Nat) (before : List UInt8) :
    ByteArray.toList.loop octets i before = before.reverse ++ octets.data.toList.drop i := by
  fun_induction ByteArray.toList.loop octets i before with
  | case1 i before hIn ih =>
    have hLength : i < octets.data.toList.length := by simpa using hIn
    rw [ih, List.drop_eq_getElem_cons hLength]
    simp [ByteArray.get!, hIn]
  | case2 i before hOut =>
    rw [List.drop_eq_nil_of_le (by simpa using Nat.le_of_not_lt hOut)]
    simp

/-- A text is written character by character. -/
theorem encode_eq (text : String) : encode text = text.toList.flatMap String.utf8EncodeChar := by
  have hBytes : text.toUTF8 = (text.toList.flatMap String.utf8EncodeChar).toByteArray := by
    conv_lhs => rw [← String.ofList_toList (s := text)]
    rfl
  rw [encode, hBytes, ByteArray.toList, toList_loop_eq, List.toList_data_toByteArray]
  rfl

/-- An octet that may follow is read, and six bits are added. -/
theorem tail_cons {low high value count : Nat} {n : Nat} {rest : List UInt8} (hLow : low ≤ n + 128)
    (hHigh : n + 128 ≤ high) (hn : n < 64) :
    tail (count + 1) low high value (UInt8.ofNat (n + 128) :: rest) =
      ((tail count 0x80 0xbf (64 * value + n) rest).1,
        (tail count 0x80 0xbf (64 * value + n) rest).2 + 1) := by
  have hOctet : (UInt8.ofNat (n + 128)).toNat = n + 128 := toNat_ofNat (by omega)
  rw [tail, hOctet, if_pos ⟨hLow, hHigh⟩, Nat.add_sub_cancel]

theorem tail_zero (low high value : Nat) (rest : List UInt8) :
    tail 0 low high value rest = (some value, 0) := rfl

/-! ## Characters -/

/-- The first octet of a character of two octets. -/
theorem lead?_two {v : Nat} (hLow : 0x80 ≤ v) (hHigh : v ≤ 0x7ff) :
    lead? (v / 64 + 192) = some ⟨v / 64, 1, 0x80, 0xbf⟩ := by
  unfold lead?
  rw [if_neg (by omega), if_pos (by omega), Nat.add_sub_cancel]

/-- The first octet of a character of three, and the bounds that it sets for the second. They keep out
numbers that two octets hold, and those that are no characters. -/
theorem lead?_three {v : Nat} (hLow : 0x800 ≤ v) (hHigh : v ≤ 0xffff)
    (hValid : v < 0xd800 ∨ 0xdfff < v) :
    ∃ low high, lead? (v / 4096 + 224) = some ⟨v / 4096, 2, low, high⟩ ∧
      low ≤ v / 64 % 64 + 128 ∧ v / 64 % 64 + 128 ≤ high := by
  unfold lead?
  rw [if_neg (by omega), if_neg (by omega)]
  -- two of the first octets set bounds of their own
  by_cases hFirst : v / 4096 + 224 = 0xe0
  · refine ⟨0xa0, 0xbf, ?_, by omega, by omega⟩
    rw [if_pos hFirst]
    congr 2
    omega
  · by_cases hSurrogates : v / 4096 + 224 = 0xed
    · refine ⟨0x80, 0x9f, ?_, by omega, by omega⟩
      rw [if_neg hFirst, if_pos hSurrogates]
      congr 2
      omega
    · refine ⟨0x80, 0xbf, ?_, by omega, by omega⟩
      rw [if_neg hFirst, if_neg hSurrogates, if_pos (by omega), Nat.add_sub_cancel]

/-- The first octet of a character of four, and the bounds that it sets for the second. They keep out
numbers that three octets hold, and those that are too great. -/
theorem lead?_four {v : Nat} (hLow : 0x10000 ≤ v) (hHigh : v < 0x110000) :
    ∃ low high, lead? (v / 262144 + 240) = some ⟨v / 262144, 3, low, high⟩ ∧
      low ≤ v / 4096 % 64 + 128 ∧ v / 4096 % 64 + 128 ≤ high := by
  unfold lead?
  rw [if_neg (by omega), if_neg (by omega), if_neg (by omega), if_neg (by omega), if_neg (by omega)]
  -- here the first one and the last one do
  by_cases hFirst : v / 262144 + 240 = 0xf0
  · refine ⟨0x90, 0xbf, ?_, by omega, by omega⟩
    rw [if_pos hFirst]
    congr 2
    omega
  · by_cases hLast : v / 262144 + 240 = 0xf4
    · refine ⟨0x80, 0x8f, ?_, by omega, by omega⟩
      rw [if_neg hFirst, if_neg (by omega), if_pos hLast]
      congr 2
      omega
    · refine ⟨0x80, 0xbf, ?_, by omega, by omega⟩
      rw [if_neg hFirst, if_pos (by omega), Nat.add_sub_cancel]

theorem pieces_cons {b : UInt8} (octets : List UInt8) {rest : List UInt8} {c : Char} {size : Nat}
    (h : firstPiece b (octets ++ rest) = (some c, size)) (hSize : octets.length = size) :
    pieces (b :: (octets ++ rest)) = (some c, size + 1) :: pieces rest := by
  rw [pieces, h]
  simp only [← hSize, List.drop_left]

/-- A character in front of other octets is the first piece of them. -/
theorem pieces_utf8EncodeChar (c : Char) (rest : List UInt8) :
    ∃ size, pieces (String.utf8EncodeChar c ++ rest) = (some c, size) :: pieces rest := by
  have hChar : Char.ofNat c.val.toNat = c := Char.ofNat_toNat c
  have hValid : c.val.toNat < 0xd800 ∨ 0xdfff < c.val.toNat ∧ c.val.toNat < 0x110000 := c.valid
  -- one case for each number of octets that a character may take
  unfold String.utf8EncodeChar
  generalize c.val.toNat = v at hChar hValid
  dsimp only
  split
  · have hOctet : (UInt8.ofNat v).toNat = v := toNat_ofNat (by omega)
    refine ⟨1, pieces_cons [] ?_ rfl⟩
    rw [firstPiece, hOctet, if_pos (by omega), hChar]
  · split
    · have hOctet : (UInt8.ofNat (v / 64 % 32 + 192)).toNat = v / 64 + 192 := by
        rw [toNat_ofNat (by omega)]
        omega
      refine ⟨2, pieces_cons [_] ?_ rfl⟩
      rw [firstPiece, hOctet, if_neg (by omega), lead?_two (by omega) (by omega)]
      simp only [List.cons_append, List.nil_append]
      rw [tail_cons (by omega) (by omega) (by omega), tail_zero, Nat.div_add_mod]
      simp only [Option.map_some, hChar]
    · split
      · have hOctet : (UInt8.ofNat (v / 4096 % 16 + 224)).toNat = v / 4096 + 224 := by
          rw [toNat_ofNat (by omega)]
          omega
        have hNumber : 64 * (64 * (v / 4096) + v / 64 % 64) + v % 64 = v := by omega
        obtain ⟨low, high, hLead, hLow, hHigh⟩ :=
          lead?_three (v := v) (by omega) (by omega) (by omega)
        refine ⟨3, pieces_cons [_, _] ?_ rfl⟩
        rw [firstPiece, hOctet, if_neg (by omega), hLead]
        simp only [List.cons_append, List.nil_append]
        rw [tail_cons hLow hHigh (by omega), tail_cons (by omega) (by omega) (by omega), tail_zero,
          hNumber]
        simp only [Option.map_some, hChar]
      · have hOctet : (UInt8.ofNat (v / 262144 % 8 + 240)).toNat = v / 262144 + 240 := by
          rw [toNat_ofNat (by omega)]
          omega
        have hNumber : 64 * (64 * (64 * (v / 262144) + v / 4096 % 64) + v / 64 % 64) + v % 64 = v := by
          omega
        obtain ⟨low, high, hLead, hLow, hHigh⟩ := lead?_four (v := v) (by omega) (by omega)
        refine ⟨4, pieces_cons [_, _, _] ?_ rfl⟩
        rw [firstPiece, hOctet, if_neg (by omega), hLead]
        simp only [List.cons_append, List.nil_append]
        rw [tail_cons hLow hHigh (by omega), tail_cons (by omega) (by omega) (by omega),
          tail_cons (by omega) (by omega) (by omega), tail_zero, hNumber]
        simp only [Option.map_some, hChar]

/-- So a text is cut into the characters that it was made of. -/
theorem map_pieces_flatMap (chars : List Char) :
    (pieces (chars.flatMap String.utf8EncodeChar)).map (·.1) = chars.map some := by
  induction chars with
  | nil => rw [List.flatMap_nil, pieces]; rfl
  | cons c chars ih =>
    obtain ⟨size, hPieces⟩ := pieces_utf8EncodeChar c (chars.flatMap String.utf8EncodeChar)
    rw [List.flatMap_cons, hPieces, List.map_cons, ih, List.map_cons]

/-- The octets of a text are read as that text. -/
theorem decodeLossy_encode (text : String) : decodeLossy (encode text) = text := by
  have hPieces := map_pieces_flatMap text.toList
  rw [← encode_eq] at hPieces
  have hChars : (pieces (encode text)).map (fun piece => piece.1.getD replacement) = text.toList := by
    calc (pieces (encode text)).map (fun piece => piece.1.getD replacement)
      _ = ((pieces (encode text)).map (·.1)).map (·.getD replacement) := by rw [List.map_map]; rfl
      _ = text.toList := by rw [hPieces, List.map_map]; exact List.map_id _
  rw [decodeLossy, hChars, String.ofList_toList]

/-- Where every piece is a character the check passes. -/
theorem checked_of_chars {found : List (Option Char × Nat)} {chars : List Char}
    (h : found.map (·.1) = chars.map some) : checked found = .ok chars := by
  induction found generalizing chars with
  | nil =>
    cases chars with
    | nil => rfl
    | cons c chars => cases h
  | cons piece found ih =>
    obtain ⟨first, size⟩ := piece
    cases chars with
    | nil => cases h
    | cons c chars =>
      obtain ⟨hFirst, hRest⟩ := List.cons.inj h
      rw [show first = some c from hFirst, checked, ih hRest]

/-- The octets of a text are UTF-8, and read as that text. -/
theorem decode?_encode (text : String) : decode? (encode text) = .ok text := by
  have hPieces := map_pieces_flatMap text.toList
  rw [← encode_eq] at hPieces
  rw [decode?, checked_of_chars hPieces, Except.map, String.ofList_toList]

end SolarCharts.Utf8
