import GraphBoard.Text.Percent

/-!
# Hosts

The host of an address is a domain name, an IPv4 address in one of its many spellings, or an IPv6
address between brackets. `Host.ofChars?` reads the hosts of schemes with a server behind them and
`Host.ofOpenChars?` those of all other schemes, where a name is kept as it is written.
-/
namespace GraphBoard.Url

open GraphBoard.Text

inductive Failure where
  | emptyHost
  | invalidDomain
  | invalidDomainCharacter
  | invalidIpv4
  | invalidIpv6
  | invalidPort
  | relativeWithoutBase
  | relativeToFlatBase
  deriving DecidableEq, Repr

def Failure.message : Failure → String
  | .emptyHost => "empty host"
  | .invalidDomain => "invalid international domain name"
  | .invalidDomainCharacter => "invalid domain character"
  | .invalidIpv4 => "invalid IPv4 address"
  | .invalidIpv6 => "invalid IPv6 address"
  | .invalidPort => "invalid port number"
  | .relativeWithoutBase => "relative URL without a base"
  | .relativeToFlatBase => "relative URL with a cannot-be-a-base base"

inductive Host where
  | domain (name : List Char)
  | ipv4 (value : Nat)
  | ipv6 (pieces : List Nat)
  deriving DecidableEq, Repr

def isControl (c : Char) : Bool := c.toNat < 0x20 || c.toNat == 0x7F

def numeral? (radix : Nat) (digits : List Char) : Option Nat :=
  digits.foldl (fun acc c => do
    let n ← acc
    let d ← Percent.hexValue? c
    if d < radix then some (radix * n + d) else none) (some 0)

/-- One number of an IPv4 address: `0x` opens a hexadecimal one and `0` an octal one. -/
def ipv4Number? : List Char → Option Nat
  | [] => none
  | '0' :: 'x' :: digits => numeral? 16 digits
  | '0' :: 'X' :: digits => numeral? 16 digits
  | '0' :: d :: digits => numeral? 8 (d :: digits)
  | digits => numeral? 10 digits

def nameParts (name : List Char) : List (List Char) :=
  let parts := name.splitOn '.'
  match parts.getLast? with
  | some [] => if parts.length == 1 then parts else parts.dropLast
  | _ => parts

/-- A name whose last part is a number can only be an IPv4 address. -/
def endsInNumber (name : List Char) : Bool :=
  match (nameParts name).getLast? with
  | some part => (!part.isEmpty && part.all Char.isDigit) || (ipv4Number? part).isSome
  | none => false

/-- The address that up to four numbers make: all but the last are one byte each. -/
def ipv4OfNumbers? (numbers : List Nat) : Option Nat :=
  match numbers.reverse with
  | [] => none
  | last :: front =>
    if front.length ≤ 3 && front.all (· < 256) && last < Nat.pow 256 (4 - front.length) then
      let high := front.reverse.foldl (fun acc n => acc * 256 + n) 0
      some (high * Nat.pow 256 (4 - front.length) + last)
    else none

def ipv4? (name : List Char) : Option Nat :=
  ((nameParts name).mapM ipv4Number?).bind ipv4OfNumbers?

def ipv4Pieces? (cs : List Char) : Option (List Nat) :=
  let byte? (part : List Char) : Option Nat :=
    match part with
    | [] => none
    | '0' :: _ :: _ => none
    | _ => (if part.length ≤ 3 then numeral? 10 part else none).filter (· < 256)
  match (cs.splitOn '.').mapM byte? with
  | some [a, b, c, d] => some [a * 256 + b, c * 256 + d]
  | _ => none

def pieces? : List (List Char) → Option (List Nat)
  | [] => some []
  | [part] =>
    if part.contains '.' then ipv4Pieces? part
    else if !part.isEmpty && part.length ≤ 4 then (numeral? 16 part).map ([·]) else none
  | part :: rest => do
    if part.isEmpty || part.length > 4 then none else
    let n ← numeral? 16 part
    return n :: (← pieces? rest)

def cutCompressed : List Char → Option (List Char × List Char)
  | [] => none
  | ':' :: ':' :: rest => some ([], rest)
  | c :: rest => (cutCompressed rest).map fun (before, after) => (c :: before, after)

def piecesOrNone? (cs : List Char) : Option (List Nat) :=
  if cs.isEmpty then some [] else pieces? (cs.splitOn ':')

def ipv6? (cs : List Char) : Option (List Nat) :=
  match cutCompressed cs with
  | none => (pieces? (cs.splitOn ':')).filter (·.length == 8)
  | some (before, after) => do
    if before.contains '.' then none else
    let front ← piecesOrNone? before
    let back ← piecesOrNone? after
    if front.length + back.length ≤ 7 then
      some (front ++ List.replicate (8 - front.length - back.length) 0 ++ back)
    else none

def isForbiddenInDomain (c : Char) : Bool :=
  isControl c || 0x80 ≤ c.toNat ||
  [' ', '#', '%', '/', ':', '<', '>', '?', '@', '[', '\\', ']', '^', '|'].contains c

def isForbiddenInOpenName (c : Char) : Bool :=
  ['\x00', '\t', '\n', '\r', ' ', '#', '/', ':', '<', '>', '?', '@', '[', '\\', ']', '^',
    '|'].contains c

def bracketed? (cs : List Char) : Option (Except Failure Host) :=
  match cs with
  | '[' :: rest =>
    some (match rest.getLast?, ipv6? rest.dropLast with
      | some ']', some pieces => .ok (.ipv6 pieces)
      | _, _ => .error .invalidIpv6)
  | _ => none

def Host.ofChars? (cs : List Char) : Except Failure Host :=
  match bracketed? cs with
  | some host => host
  | none =>
    match Utf8.decode? (Percent.decode cs) with
    | none => .error .invalidDomain
    | some name =>
      let name := name.map Char.toLower
      if name.any isForbiddenInDomain then .error .invalidDomain
      else if name.isEmpty then .error .emptyHost
      else if endsInNumber name then
        match ipv4? name with
        | some value => .ok (.ipv4 value)
        | none => .error .invalidIpv4
      else .ok (.domain name)

def Host.ofOpenChars? (cs : List Char) : Except Failure Host :=
  match bracketed? cs with
  | some host => host
  | none =>
    if cs.any isForbiddenInOpenName then .error .invalidDomainCharacter
    else .ok (.domain (Percent.encode (!isControl ·) cs))

def pieceChars (n : Nat) : List Char := Nat.toDigits 16 n

def zeroRun (pieces : List Nat) : Nat := (pieces.takeWhile (· == 0)).length

def longestZeroRun (pieces : List Nat) : Nat × Nat :=
  (List.range pieces.length).foldl (fun best start =>
    let length := zeroRun (pieces.drop start)
    if best.2 < length then (start, length) else best) (0, 0)

/-- The text of an IPv6 address: the first longest run of two or more zeros is left out. -/
def ipv6Chars (pieces : List Nat) : List Char :=
  let text (ps : List Nat) := [':'].intercalate (ps.map pieceChars)
  let (start, length) := longestZeroRun pieces
  if length < 2 then text pieces
  else text (pieces.take start) ++ [':', ':'] ++ text (pieces.drop (start + length))

def Host.toChars : Host → List Char
  | .domain name => name
  | .ipv4 value =>
    ['.'].intercalate ([16777216, 65536, 256, 1].map fun w => Nat.toDigits 10 (value / w % 256))
  | .ipv6 pieces => '[' :: ipv6Chars pieces ++ [']']

end GraphBoard.Url
