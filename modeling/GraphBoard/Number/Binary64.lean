namespace GraphBoard.Number

/-- A quotient rounded to a whole number, a tie to the even one. -/
def roundQuotient (num den : Nat) : Nat :=
  let q := num / den
  let r := num % den
  if den < 2 * r || (2 * r == den && q % 2 == 1) then q + 1 else q

def powerOfTwo (e : Int) : Nat × Nat := (Nat.pow 2 e.toNat, Nat.pow 2 (-e).toNat)

def binaryExponent (num den : Nat) : Int :=
  let high := (num.log2 : Int) - den.log2
  let (up, down) := powerOfTwo high
  if den * up ≤ num * down then high else high - 1

def infinityBits : Nat := 0x7FF0000000000000

/-- The bits of the number nearest to a quotient: 53 digits, unless that is below the last
exponent there is. -/
def nearestBits (num den : Nat) : Nat :=
  if num == 0 then 0
  else
    let last := max (binaryExponent num den - 52) (-1074)
    let (up, down) := powerOfTwo last
    min infinityBits ((last + 1074).toNat * Nat.pow 2 52 + roundQuotient (num * down) (den * up))

def ofSignedBits (negative : Bool) (bits : Nat) : Float :=
  Float.ofBits (UInt64.ofNat (if negative then bits + Nat.pow 2 63 else bits))

def ofInt (n : Int) : Float := ofSignedBits (n < 0) (nearestBits n.natAbs 1)

/-- The bits of the number nearest to `digits` times a power of ten. Far beyond both ends of the
range no power needs to be computed. -/
def decimalBits (digits : Nat) (exponent : Int) : Nat :=
  if digits == 0 then 0
  else if 400 < exponent then infinityBits
  else if (digits.log2 : Int) + 1100 < -3 * exponent then 0
  else nearestBits (digits * Nat.pow 10 exponent.toNat) (Nat.pow 10 (-exponent).toNat)

inductive Parts where
  | finite (negative : Bool) (digits : Nat) (exponent : Int)
  | infinite (negative : Bool)
  | notANumber
  deriving DecidableEq, Repr

def Parts.of (x : Float) : Parts :=
  let bits : Nat := x.toBits.toNat
  let negative := Nat.pow 2 63 ≤ bits
  let fraction : Nat := bits % Nat.pow 2 52
  let field : Nat := bits / Nat.pow 2 52 % Nat.pow 2 11
  if field == 0x7FF then if fraction == 0 then .infinite negative else .notANumber
  else if field == 0 then .finite negative fraction (-1074)
  else .finite negative (Nat.pow 2 52 + fraction) ((field : Int) - 1075)

def fixedOne (x : Float) : String :=
  match Parts.of x with
  | .notANumber => "NaN"
  | .infinite negative => if negative then "-inf" else "inf"
  | .finite negative digits exponent =>
    let (up, down) := powerOfTwo exponent
    let tenths := roundQuotient (digits * 10 * up) down
    (if negative then "-" else "") ++ Nat.repr (tenths / 10) ++ "." ++ Nat.repr (tenths % 10)

end GraphBoard.Number
