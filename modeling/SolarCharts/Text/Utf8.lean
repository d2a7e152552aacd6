/-!
# UTF-8

Octets are cut into pieces: each is one character, or a run of octets that no character starts with
and that is as long as it can be while a character might still have begun there. `decode?` accepts
octets without such a run and otherwise says how many octets stand before the first one;
`decodeLossy` puts U+FFFD in place of each.
-/

namespace SolarCharts.Utf8

/-- What the first octet of a character of several octets tells. -/
structure Lead where
  /-- The bits of the character that it holds. -/
  bits : Nat
  /-- How many octets follow. -/
  count : Nat
  /-- The least octet that may follow it. -/
  low : Nat
  /-- The greatest octet that may follow it. -/
  high : Nat

/-- Reads the first octet of a character of several octets. -/
def lead? (b : Nat) : Option Lead :=
  if b < 0xc2 then none
  else if b ≤ 0xdf then some ⟨b - 0xc0, 1, 0x80, 0xbf⟩
  else if b = 0xe0 then some ⟨0, 2, 0xa0, 0xbf⟩
  else if b = 0xed then some ⟨0xd, 2, 0x80, 0x9f⟩
  else if b ≤ 0xef then some ⟨b - 0xe0, 2, 0x80, 0xbf⟩
  else if b = 0xf0 then some ⟨0, 3, 0x90, 0xbf⟩
  else if b ≤ 0xf3 then some ⟨b - 0xf0, 3, 0x80, 0xbf⟩
  else if b = 0xf4 then some ⟨4, 3, 0x80, 0x8f⟩
  else none

/-- Reads the octets that follow a first octet: the number of the character when all are there, and
how many were read. -/
def tail : Nat → Nat → Nat → Nat → List UInt8 → Option Nat × Nat
  | 0, _, _, value, _ => (some value, 0)
  | _ + 1, _, _, _, [] => (none, 0)
  | count + 1, low, high, value, b :: rest =>
    -- only the first octet that follows has bounds of its own
    if low ≤ b.toNat ∧ b.toNat ≤ high then
      let (found, size) := tail count 0x80 0xbf (64 * value + (b.toNat - 0x80)) rest
      (found, size + 1)
    else (none, 0)

/-- The first piece of some octets, given the first of them and the rest: its character, if it is
one, and how many of the rest it takes. -/
def firstPiece (b : UInt8) (rest : List UInt8) : Option Char × Nat :=
  if b.toNat < 0x80 then (some (Char.ofNat b.toNat), 0)
  else
    match lead? b.toNat with
    | none => (none, 0)
    | some lead =>
      let (found, size) := tail lead.count lead.low lead.high lead.bits rest
      (found.map Char.ofNat, size)

/-- The pieces of some octets, each with its size. -/
def pieces : List UInt8 → List (Option Char × Nat)
  | [] => []
  | b :: rest =>
    let (found, size) := firstPiece b rest
    (found, size + 1) :: pieces (rest.drop size)
termination_by octets => octets.length
decreasing_by simp only [List.length_drop, List.length_cons]; omega

/-- The octets before the first piece that is no character, or the characters. -/
def checked : List (Option Char × Nat) → Except Nat (List Char)
  | [] => .ok []
  | (none, _) :: _ => .error 0
  | (some c, size) :: rest =>
    match checked rest with
    | .ok cs => .ok (c :: cs)
    | .error n => .error (size + n)

/-- The text that some octets encode, or how many octets stand before the first that encode none. -/
def decode? (octets : List UInt8) : Except Nat String :=
  (checked (pieces octets)).map String.ofList

/-- What stands for octets that encode nothing. -/
def replacement : Char := '\uFFFD'

/-- The text that some octets encode, with U+FFFD for what encodes nothing. -/
def decodeLossy (octets : List UInt8) : String :=
  String.ofList ((pieces octets).map fun piece => piece.1.getD replacement)

/-- The octets of a text. -/
def encode (text : String) : List UInt8 := text.toUTF8.toList

end SolarCharts.Utf8
