import GraphBoard.Text.Utf8

namespace GraphBoard.Text.Percent

def hexDigit (n : Nat) : Char := Char.ofNat (if n < 10 then 48 + n else 55 + n)

def hexValue? (c : Char) : Option Nat :=
  let n := c.toNat
  if 48 ≤ n ∧ n ≤ 57 then some (n - 48)
  else if 65 ≤ n ∧ n ≤ 70 then some (n - 55)
  else if 97 ≤ n ∧ n ≤ 102 then some (n - 87)
  else none

def triplet (b : UInt8) : List Char := ['%', hexDigit (b.toNat / 16), hexDigit (b.toNat % 16)]

def encodeChar (keep : Char → Bool) (c : Char) : List Char :=
  if c.toNat < 0x80 && keep c then [c] else (Utf8.encodeChar c).flatMap triplet

def encode (keep : Char → Bool) (cs : List Char) : List Char := cs.flatMap (encodeChar keep)

/-- The bytes that a text stands for: a well-formed triplet is its byte, all else is its UTF-8. -/
def decode : List Char → List UInt8
  | [] => []
  | '%' :: h :: l :: rest =>
    match hexValue? h, hexValue? l with
    | some a, some b => UInt8.ofNat (16 * a + b) :: decode rest
    | _, _ => 0x25 :: decode (h :: l :: rest)
  | c :: rest => Utf8.encodeChar c ++ decode rest

/-- Letters, digits and `-`, `_`, `.`, `~`: the characters that mean the same encoded or not. -/
def isUnreserved (c : Char) : Bool := c.isAlphanum || c == '-' || c == '_' || c == '.' || c == '~'

theorem hexValue?_hexDigit {n : Nat} (h : n < 16) : hexValue? (hexDigit n) = some n := by
  revert n
  decide

theorem decode_triplet (b : UInt8) (rest : List Char) :
    decode (triplet b ++ rest) = b :: decode rest := by
  have hb : b.toNat < 256 := b.toNat_lt
  have hd : b.toNat / 16 < 16 := by omega
  have hm : b.toNat % 16 < 16 := by omega
  simp only [triplet, List.cons_append, List.nil_append, decode, hexValue?_hexDigit hd,
    hexValue?_hexDigit hm]
  rw [Nat.div_add_mod b.toNat 16, UInt8.ofNat_toNat]

end GraphBoard.Text.Percent
