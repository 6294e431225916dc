import GraphBoard.Json.Value
import GraphBoard.Text.Percent

namespace GraphBoard.Json

open GraphBoard.Text

def isSpace (b : UInt8) : Bool := b == 0x20 || b == 0x0A || b == 0x0D || b == 0x09

def skipSpace (bs : List UInt8) : List UInt8 := bs.dropWhile isSpace

def isDigit (b : UInt8) : Bool := 0x30 ≤ b && b ≤ 0x39

def digitsValue (ds : List UInt8) : Nat := ds.foldl (fun n d => 10 * n + (d.toNat - 0x30)) 0

/-- What a string is written with: bytes, and numbers of sixteen bits in escapes. -/
inductive Piece where
  | byte (b : UInt8)
  | unit (n : Nat)
  deriving DecidableEq, Repr

def escapeByte? (letter : UInt8) : Option UInt8 :=
  [(0x22, 0x22), (0x5C, 0x5C), (0x2F, 0x2F), (0x62, 0x08), (0x66, 0x0C), (0x6E, 0x0A),
    (0x72, 0x0D), (0x74, 0x09)].lookup letter

def unit? (ds : List UInt8) : Option Nat :=
  ds.foldl (fun n d => do return 16 * (← n) + (← Percent.hexValue? (Char.ofNat d.toNat))) (some 0)

def pieces? : List UInt8 → Option (List Piece × List UInt8)
  | [] => none
  | b :: rest =>
    if b == 0x22 then some ([], rest)
    else if b == 0x5C then
      match rest with
      | 0x75 :: h :: i :: j :: k :: rest => do
        let n ← unit? [h, i, j, k]
        let (pieces, rest) ← pieces? rest
        return (.unit n :: pieces, rest)
      | letter :: rest => do
        let c ← escapeByte? letter
        let (pieces, rest) ← pieces? rest
        return (.byte c :: pieces, rest)
      | [] => none
    else if b < 0x20 then none
    else do
      let (pieces, rest) ← pieces? rest
      return (.byte b :: pieces, rest)

/-- The bytes that pieces stand for. The halves of a surrogate pair have to stand together. -/
def bytesOf? : List Piece → Option (List UInt8)
  | [] => some []
  | .byte b :: rest => (bytesOf? rest).map (b :: ·)
  | .unit high :: .unit low :: rest =>
    if 0xD800 ≤ high ∧ high < 0xDC00 then
      if 0xDC00 ≤ low ∧ low < 0xE000 then
        (bytesOf? rest).map
          (Utf8.encodeChar (Char.ofNat (0x10000 + (high - 0xD800) * 0x400 + (low - 0xDC00))) ++ ·)
      else none
    else if 0xDC00 ≤ high ∧ high < 0xE000 then none
    else (bytesOf? (.unit low :: rest)).map (Utf8.encodeChar (Char.ofNat high) ++ ·)
  | .unit n :: rest =>
    if 0xD800 ≤ n ∧ n < 0xE000 then none
    else (bytesOf? rest).map (Utf8.encodeChar (Char.ofNat n) ++ ·)

def textOf? (pieces : List Piece) : Option String := (bytesOf? pieces).bind Utf8.toString?

/-- Digits before a fraction: a zero stands alone. -/
def whole? (bs : List UInt8) : Option (List UInt8 × List UInt8) :=
  let ds := bs.takeWhile isDigit
  if ds.isEmpty || (ds.head? == some 0x30 && ds.length != 1) then none
  else some (ds, bs.drop ds.length)

def fraction? (bs : List UInt8) : Option (Option (List UInt8) × List UInt8) :=
  match bs with
  | 0x2E :: rest =>
    let ds := rest.takeWhile isDigit
    if ds.isEmpty then none else some (some ds, rest.drop ds.length)
  | _ => some (none, bs)

def exponent? (bs : List UInt8) : Option (Option Int × List UInt8) :=
  match bs with
  | e :: rest =>
    if e == 0x65 || e == 0x45 then
      let negative := rest.head? == some 0x2D
      let rest := if negative || rest.head? == some 0x2B then rest.drop 1 else rest
      let ds := rest.takeWhile isDigit
      if ds.isEmpty then none
      else
        let n : Int := digitsValue ds
        some (some (if negative then -n else n), rest.drop ds.length)
    else some (none, bs)
  | [] => some (none, bs)

def numeral? (bs : List UInt8) : Option (Numeral × List UInt8) := do
  let negative := bs.head? == some 0x2D
  let (whole, rest) ← whole? (if negative then bs.drop 1 else bs)
  let (fraction, rest) ← fraction? rest
  let (exponent, rest) ← exponent? rest
  let digits := digitsValue (whole ++ fraction.getD [])
  let scale : Option Int :=
    if fraction.isNone && exponent.isNone then none
    else some (exponent.getD 0 - (fraction.getD []).length)
  return (⟨negative, digits, scale⟩, rest)

def word? (word : String) (bs : List UInt8) : Option (List UInt8) :=
  let w := Utf8.ofString word
  if w.isPrefixOf bs then some (bs.drop w.length) else none

mutual

def value? : Nat → List UInt8 → Option (Value × List UInt8)
  | 0, _ => none
  | fuel + 1, bs =>
    let bs := skipSpace bs
    match bs with
    | [] => none
    | b :: rest =>
      if b == 0x22 then do
        let (pieces, rest) ← pieces? rest
        return (.string (textOf? pieces), rest)
      else if b == 0x5B then
        match skipSpace rest with
        | 0x5D :: rest => some (.array [], rest)
        | rest => do
          let (items, rest) ← items? fuel rest
          return (.array items, rest)
      else if b == 0x7B then
        match skipSpace rest with
        | 0x7D :: rest => some (.object [], rest)
        | rest => do
          let (members, rest) ← members? fuel rest
          return (.object members, rest)
      else if b == 0x6E then (word? "null" bs).map (.null, ·)
      else if b == 0x74 then (word? "true" bs).map (.bool true, ·)
      else if b == 0x66 then (word? "false" bs).map (.bool false, ·)
      else do
        let (numeral, rest) ← numeral? bs
        return (.number numeral, rest)

def items? : Nat → List UInt8 → Option (List Value × List UInt8)
  | 0, _ => none
  | fuel + 1, bs => do
    let (item, rest) ← value? fuel bs
    match skipSpace rest with
    | 0x2C :: rest =>
      let (items, rest) ← items? fuel rest
      return (item :: items, rest)
    | 0x5D :: rest => return ([item], rest)
    | _ => none

def members? : Nat → List UInt8 → Option (List (Option String × Value) × List UInt8)
  | 0, _ => none
  | fuel + 1, bs => do
    let (key, rest) ←
      match skipSpace bs with
      | 0x22 :: rest => pieces? rest
      | _ => none
    let (value, rest) ←
      match skipSpace rest with
      | 0x3A :: rest => value? fuel rest
      | _ => none
    match skipSpace rest with
    | 0x2C :: rest =>
      let (members, rest) ← members? fuel rest
      return ((textOf? key, value) :: members, rest)
    | 0x7D :: rest => return ([(textOf? key, value)], rest)
    | _ => none

end

def parse? (bs : List UInt8) : Option Value := do
  let (value, rest) ← value? (bs.length + 1) bs
  if (skipSpace rest).isEmpty then some value else none

end GraphBoard.Json
