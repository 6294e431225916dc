import GraphBoard.Json.Read
import GraphBoard.Number.Binary64

namespace GraphBoard

open GraphBoard.Json

structure Sample where
  value : Option Float
  time : Int
  deriving Repr

structure Series where
  target : String
  samples : List Sample
  deriving Repr

def Json.Numeral.toFloat? (n : Numeral) : Option Float :=
  let bits := Number.decimalBits n.digits (n.exponent.getD 0)
  if bits == Number.infinityBits then none else some (Number.ofSignedBits n.negative bits)

/-- A numeral as a whole number of 64 bits. One with a fraction or an exponent is none, and so is
a zero with a sign. -/
def Json.Numeral.toTime? (n : Numeral) : Option Int :=
  if n.exponent.isSome || (n.negative && n.digits == 0) then none
  else if n.negative then if n.digits ≤ Nat.pow 2 63 then some (-n.digits) else none
  else if n.digits < Nat.pow 2 63 then some n.digits
  else none

def Sample.ofJson? : Value → Option Sample
  | .array [.null, .number time] => do return ⟨none, ← time.toTime?⟩
  | .array [.number value, .number time] => do return ⟨some (← value.toFloat?), ← time.toTime?⟩
  | _ => none

def samplesOfJson? : Value → Option (List Sample)
  | .array items => items.mapM Sample.ofJson?
  | _ => none

def Json.member? (members : List (Option String × Value)) (name : String) : Option Value :=
  match members.filter (·.1 == some name) with
  | [(_, value)] => some value
  | _ => none

/-- An object with a target and its datapoints, or an array of the two. Other members of the object
do not count, as long as their names are texts. -/
def Series.ofJson? : Value → Option Series
  | .object members => do
    if members.any (·.1.isNone) then none
    match ← member? members "target", ← member? members "datapoints" with
    | .string target, datapoints => return ⟨← target, ← samplesOfJson? datapoints⟩
    | _, _ => none
  | .array [.string target, datapoints] => do return ⟨← target, ← samplesOfJson? datapoints⟩
  | _ => none

def Series.parse? (bytes : List UInt8) : Option (List Series) :=
  match Json.parse? bytes with
  | some (.array items) => items.mapM Series.ofJson?
  | _ => none

end GraphBoard
