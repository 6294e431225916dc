namespace GraphBoard.Text.Utf8

def encodeChar (c : Char) : List UInt8 := String.utf8EncodeChar c

def encode (cs : List Char) : List UInt8 := cs.flatMap encodeChar

def ofString (s : String) : List UInt8 := encode s.toList

def isContinuation (b : UInt8) : Bool := 0x80 ≤ b && b < 0xC0

def payload (b : UInt8) : Nat := b.toNat - 0x80

/-- The character of a code point that must be a scalar value of at least `low`. -/
def scalar? (low n : Nat) : Option Char :=
  if low ≤ n ∧ n.isValidChar then some (Char.ofNat n) else none

def next? : List UInt8 → Option (Char × List UInt8)
  | [] => none
  | a :: rest =>
    if a < 0x80 then some (Char.ofNat a.toNat, rest)
    else if 0xC0 ≤ a && a < 0xE0 then
      match rest with
      | b :: rest =>
        if isContinuation b then
          (scalar? 0x80 ((a.toNat - 0xC0) * 64 + payload b)).map (·, rest)
        else none
      | [] => none
    else if 0xE0 ≤ a && a < 0xF0 then
      match rest with
      | b :: c :: rest =>
        if isContinuation b && isContinuation c then
          (scalar? 0x800 ((a.toNat - 0xE0) * 4096 + payload b * 64 + payload c)).map (·, rest)
        else none
      | _ => none
    else if 0xF0 ≤ a && a < 0xF8 then
      match rest with
      | b :: c :: d :: rest =>
        if isContinuation b && isContinuation c && isContinuation d then
          (scalar? 0x10000 ((a.toNat - 0xF0) * 262144 + payload b * 4096 + payload c * 64
            + payload d)).map (·, rest)
        else none
      | _ => none
    else none

theorem next?_length {bs rest : List UInt8} {c : Char} (h : next? bs = some (c, rest)) :
    rest.length < bs.length := by
  unfold next? at h
  repeat' split at h
  all_goals simp_all
  all_goals
    obtain ⟨_, _, _, rfl⟩ := h
    omega

/-- The characters of a byte sequence; none when it is not UTF-8. -/
def decode? (bs : List UInt8) : Option (List Char) :=
  match _h : next? bs with
  | some (c, rest) => (decode? rest).map (c :: ·)
  | none => if bs.isEmpty then some [] else none
termination_by bs.length
decreasing_by exact next?_length _h

def toString? (bs : List UInt8) : Option String := (decode? bs).map String.ofList

end GraphBoard.Text.Utf8
