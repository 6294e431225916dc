import GraphBoard.Text.Utf8

set_option autoImplicit false

namespace GraphBoard.Text.Utf8

theorem toNat_ofNat {n : Nat} (h : n < 256) : (UInt8.ofNat n).toNat = n :=
  UInt8.toNat_ofNat_of_lt' h

theorem encodeChar_eq (c : Char) :
    (c.toNat < 0x80 ∧ encodeChar c = [UInt8.ofNat c.toNat]) ∨
    (0x80 ≤ c.toNat ∧ c.toNat < 0x800 ∧
      encodeChar c = [UInt8.ofNat (c.toNat / 64 + 192), UInt8.ofNat (c.toNat % 64 + 128)]) ∨
    (0x800 ≤ c.toNat ∧ c.toNat < 0x10000 ∧
      encodeChar c = [UInt8.ofNat (c.toNat / 4096 + 224), UInt8.ofNat (c.toNat / 64 % 64 + 128),
        UInt8.ofNat (c.toNat % 64 + 128)]) ∨
    (0x10000 ≤ c.toNat ∧ c.toNat < 0x110000 ∧
      encodeChar c = [UInt8.ofNat (c.toNat / 262144 + 240),
        UInt8.ofNat (c.toNat / 4096 % 64 + 128), UInt8.ofNat (c.toNat / 64 % 64 + 128),
        UInt8.ofNat (c.toNat % 64 + 128)]) := by
  have hval : c.val.toNat = c.toNat := rfl
  have hvalid : c.toNat < 55296 ∨ 57343 < c.toNat ∧ c.toNat < 1114112 := c.valid
  simp only [encodeChar, String.utf8EncodeChar, hval]
  split
  · exact .inl ⟨by omega, rfl⟩
  · split
    · refine .inr (.inl ⟨by omega, by omega, ?_⟩)
      rw [Nat.mod_eq_of_lt (a := c.toNat / 64) (by omega)]
    · split
      · refine .inr (.inr (.inl ⟨by omega, by omega, ?_⟩))
        rw [Nat.mod_eq_of_lt (a := c.toNat / 4096) (by omega)]
      · refine .inr (.inr (.inr ⟨by omega, by omega, ?_⟩))
        rw [Nat.mod_eq_of_lt (a := c.toNat / 262144) (by omega)]

theorem encodeChar_ascii {c : Char} (h : c.toNat < 0x80) :
    encodeChar c = [UInt8.ofNat c.toNat] := by
  obtain ⟨-, heq⟩ | ⟨hlow, -⟩ | ⟨hlow, -⟩ | ⟨hlow, -⟩ := encodeChar_eq c
  · exact heq
  all_goals omega

/-- The bytes of a character are this one byte or all outside ASCII. -/
theorem toNat_of_mem_encodeChar {c : Char} {b : UInt8} (h : b ∈ encodeChar c) :
    b.toNat = c.toNat ∨ 0x80 ≤ b.toNat := by
  obtain ⟨hlt, heq⟩ | ⟨-, hlt, heq⟩ | ⟨-, hlt, heq⟩ | ⟨-, hlt, heq⟩ := encodeChar_eq c <;>
    rw [heq] at h <;> simp only [List.mem_cons, List.not_mem_nil, or_false] at h
  · subst h
    exact .inl (toNat_ofNat (by omega))
  · obtain rfl | rfl := h <;> exact .inr (by rw [toNat_ofNat (by omega)]; omega)
  · obtain rfl | rfl | rfl := h <;> exact .inr (by rw [toNat_ofNat (by omega)]; omega)
  · obtain rfl | rfl | rfl | rfl := h <;> exact .inr (by rw [toNat_ofNat (by omega)]; omega)

theorem scalar?_toNat {low : Nat} {c : Char} (h : low ≤ c.toNat) :
    scalar? low c.toNat = some c := by
  rw [scalar?, if_pos ⟨h, c.valid⟩, Char.ofNat_toNat]

theorem isContinuation_iff {b : UInt8} :
    isContinuation b = true ↔ 0x80 ≤ b.toNat ∧ b.toNat < 0xC0 := by
  simp [isContinuation, UInt8.le_iff_toNat_le, UInt8.lt_iff_toNat_lt]

section Sequences

variable {a b c d : UInt8} (rest : List UInt8)

theorem next?_one (h : a.toNat < 0x80) :
    next? (a :: rest) = some (Char.ofNat a.toNat, rest) := by
  simp [next?, UInt8.lt_iff_toNat_lt, h]

theorem next?_two (hlow : 0xC0 ≤ a.toNat) (hhigh : a.toNat < 0xE0)
    (hb : isContinuation b = true) :
    next? (a :: b :: rest) =
      (scalar? 0x80 ((a.toNat - 0xC0) * 64 + payload b)).map (·, rest) := by
  have hone : ¬ a.toNat < 0x80 := by omega
  simp [next?, UInt8.lt_iff_toNat_lt, UInt8.le_iff_toNat_le, hone, hlow, hhigh, hb]

theorem next?_three (hlow : 0xE0 ≤ a.toNat) (hhigh : a.toNat < 0xF0)
    (hb : isContinuation b = true) (hc : isContinuation c = true) :
    next? (a :: b :: c :: rest) =
      (scalar? 0x800 ((a.toNat - 0xE0) * 4096 + payload b * 64 + payload c)).map (·, rest) := by
  have hone : ¬ a.toNat < 0x80 := by omega
  have htwo : ¬ a.toNat < 0xE0 := by omega
  simp [next?, UInt8.lt_iff_toNat_lt, UInt8.le_iff_toNat_le, hone, htwo, hlow, hhigh, hb, hc]

theorem next?_four (hlow : 0xF0 ≤ a.toNat) (hhigh : a.toNat < 0xF8)
    (hb : isContinuation b = true) (hc : isContinuation c = true)
    (hd : isContinuation d = true) :
    next? (a :: b :: c :: d :: rest) =
      (scalar? 0x10000 ((a.toNat - 0xF0) * 262144 + payload b * 4096 + payload c * 64
        + payload d)).map (·, rest) := by
  have hone : ¬ a.toNat < 0x80 := by omega
  have htwo : ¬ a.toNat < 0xE0 := by omega
  have hthree : ¬ a.toNat < 0xF0 := by omega
  simp [next?, UInt8.lt_iff_toNat_lt, UInt8.le_iff_toNat_le, hone, htwo, hthree, hlow, hhigh, hb,
    hc, hd]

end Sequences

theorem continuation_ofNat (n : Nat) :
    isContinuation (UInt8.ofNat (n % 64 + 128)) = true ∧
      payload (UInt8.ofNat (n % 64 + 128)) = n % 64 := by
  have hbyte : (UInt8.ofNat (n % 64 + 128)).toNat = n % 64 + 128 := toNat_ofNat (by omega)
  delta payload
  rw [isContinuation_iff, hbyte]
  omega

theorem next?_encodeChar (c : Char) (rest : List UInt8) :
    next? (encodeChar c ++ rest) = some (c, rest) := by
  obtain ⟨hlow, heq⟩ | ⟨hlow, hhigh, heq⟩ | ⟨hlow, hhigh, heq⟩ | ⟨hlow, hhigh, heq⟩ :=
    encodeChar_eq c <;> rw [heq]
  -- Behind the first byte there are none to three that carry six bits each.
  · have ha : (UInt8.ofNat c.toNat).toNat = c.toNat := toNat_ofNat (by omega)
    rw [List.singleton_append, next?_one rest (by omega), ha, Char.ofNat_toNat]
  · have ha : (UInt8.ofNat (c.toNat / 64 + 192)).toNat = c.toNat / 64 + 192 :=
      toNat_ofNat (by omega)
    obtain ⟨hb, hlast⟩ := continuation_ofNat c.toNat
    have hcode : (c.toNat / 64 + 192 - 0xC0) * 64 + c.toNat % 64 = c.toNat := by omega
    change next? (_ :: _ :: rest) = _
    rw [next?_two rest (by omega) (by omega) hb, ha, hlast, hcode, scalar?_toNat hlow]
    rfl
  · have ha : (UInt8.ofNat (c.toNat / 4096 + 224)).toNat = c.toNat / 4096 + 224 :=
      toNat_ofNat (by omega)
    obtain ⟨hb, hmiddle⟩ := continuation_ofNat (c.toNat / 64)
    obtain ⟨hc, hlast⟩ := continuation_ofNat c.toNat
    have hcode : (c.toNat / 4096 + 224 - 0xE0) * 4096 + c.toNat / 64 % 64 * 64 + c.toNat % 64 =
        c.toNat := by omega
    change next? (_ :: _ :: _ :: rest) = _
    rw [next?_three rest (by omega) (by omega) hb hc, ha, hmiddle, hlast, hcode,
      scalar?_toNat hlow]
    rfl
  · have ha : (UInt8.ofNat (c.toNat / 262144 + 240)).toNat = c.toNat / 262144 + 240 :=
      toNat_ofNat (by omega)
    obtain ⟨hb, hsecond⟩ := continuation_ofNat (c.toNat / 4096)
    obtain ⟨hc, hthird⟩ := continuation_ofNat (c.toNat / 64)
    obtain ⟨hd, hlast⟩ := continuation_ofNat c.toNat
    have hcode : (c.toNat / 262144 + 240 - 0xF0) * 262144 + c.toNat / 4096 % 64 * 4096 +
        c.toNat / 64 % 64 * 64 + c.toNat % 64 = c.toNat := by omega
    change next? (_ :: _ :: _ :: _ :: rest) = _
    rw [next?_four rest (by omega) (by omega) hb hc hd, ha, hsecond, hthird, hlast, hcode,
      scalar?_toNat hlow]
    rfl

theorem encode_append (cs ds : List Char) : encode (cs ++ ds) = encode cs ++ encode ds :=
  List.flatMap_append

theorem encode_cons (c : Char) (cs : List Char) : encode (c :: cs) = encodeChar c ++ encode cs :=
  rfl

theorem decode?_encode (cs : List Char) : decode? (encode cs) = some cs := by
  induction cs with
  | nil => rw [encode, List.flatMap_nil, decode?]; rfl
  | cons c cs ih =>
    have hnext : next? (encode (c :: cs)) = some (c, encode cs) := next?_encodeChar c (encode cs)
    rw [decode?]
    split
    · rename_i heq
      obtain ⟨rfl, rfl⟩ := Prod.mk.inj (Option.some.inj (hnext.symm.trans heq))
      rw [ih]
      rfl
    · rename_i heq
      rw [hnext] at heq
      contradiction

theorem toString?_ofString (s : String) : toString? (ofString s) = some s := by
  rw [toString?, ofString, decode?_encode, Option.map_some, String.ofList_toList]

end GraphBoard.Text.Utf8
