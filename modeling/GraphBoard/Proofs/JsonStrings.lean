import GraphBoard.Json.Read
import GraphBoard.Proofs.CharacterBytes
import Mathlib.Data.List.Basic

set_option autoImplicit false

namespace GraphBoard.Json

open GraphBoard.Text

def letters : List (Char × Char) :=
  [('"', '"'), ('\\', '\\'), ('/', '/'), ('\x08', 'b'), ('\x0c', 'f'), ('\n', 'n'), ('\r', 'r'),
    ('\t', 't')]

def IsHexDigit (n : Nat) (c : Char) : Prop :=
  n < 16 ∧ (c = n.digitChar ∨ c = n.digitChar.toUpper)

inductive UnitText (n : Nat) : List Char → Prop where
  | digits {h i j k : Char} : IsHexDigit (n / 4096) h → IsHexDigit (n / 256 % 16) i →
      IsHexDigit (n / 16 % 16) j → IsHexDigit (n % 16) k → UnitText n [h, i, j, k]

inductive CharText (c : Char) : List Char → Prop where
  | plain : 0x20 ≤ c.toNat → c ≠ '"' → c ≠ '\\' → CharText c [c]
  | letter {l : Char} : (c, l) ∈ letters → CharText c ['\\', l]
  | unit {ds : List Char} : UnitText c.toNat ds → CharText c ('\\' :: 'u' :: ds)
  /-- Above sixteen bits the digits are those of a surrogate pair. -/
  | pair {high low : List Char} : 0x10000 ≤ c.toNat →
      UnitText (0xD800 + (c.toNat - 0x10000) / 0x400) high →
      UnitText (0xDC00 + (c.toNat - 0x10000) % 0x400) low →
      CharText c ('\\' :: 'u' :: high ++ '\\' :: 'u' :: low)

inductive CharsText : List Char → List Char → Prop where
  | nil : CharsText [] []
  | cons {c : Char} {cs text more : List Char} :
      CharText c text → CharsText cs more → CharsText (c :: cs) (text ++ more)

inductive StringText (s : String) : List Char → Prop where
  | quoted {inner : List Char} : CharsText s.toList inner → StringText s ('"' :: (inner ++ ['"']))

section Pieces

variable (rest : List UInt8)

theorem pieces?_quote : pieces? (0x22 :: rest) = some ([], rest) := by
  rw [pieces?.eq_def]
  rfl

theorem pieces?_byte {b : UInt8} (hquote : b ≠ 0x22) (hback : b ≠ 0x5C) (hlow : ¬ b < 0x20) :
    pieces? (b :: rest) = (pieces? rest).map (Prod.map (.byte b :: ·) id) := by
  rw [pieces?.eq_def]
  simp only [beq_eq_false_iff_ne.2 hquote, beq_eq_false_iff_ne.2 hback, hlow, if_false,
    Bool.false_eq_true]
  cases pieces? rest <;> rfl

theorem pieces?_letter {letter b : UInt8} (h : escapeByte? letter = some b) :
    pieces? (0x5C :: letter :: rest) = (pieces? rest).map (Prod.map (.byte b :: ·) id) := by
  have hletter : letter ≠ 0x75 := by
    rintro rfl
    contradiction
  rw [pieces?]
  · simp only [h]
    cases pieces? rest <;> rfl
  · exact fun _ _ _ _ _ hu => absurd hu hletter

theorem pieces?_unit {h i j k : UInt8} {n : Nat} (hunit : unit? [h, i, j, k] = some n) :
    pieces? (0x5C :: 0x75 :: h :: i :: j :: k :: rest) =
      (pieces? rest).map (Prod.map (.unit n :: ·) id) := by
  rw [pieces?]
  simp only [hunit]
  cases pieces? rest <;> rfl

end Pieces

section BytesOf

variable (ps : List Piece)

theorem bytesOf?_byte (b : UInt8) : bytesOf? (.byte b :: ps) = (bytesOf? ps).map (b :: ·) := rfl

theorem bytesOf?_unit {n : Nat} (h : ¬ (0xD800 ≤ n ∧ n < 0xE000)) :
    bytesOf? (.unit n :: ps) = (bytesOf? ps).map (Utf8.encodeChar (Char.ofNat n) ++ ·) := by
  have hhigh : ¬ (0xD800 ≤ n ∧ n < 0xDC00) := by omega
  have hlow : ¬ (0xDC00 ≤ n ∧ n < 0xE000) := by omega
  rw [bytesOf?.eq_def]
  cases ps with
  | nil => simp only [if_neg h]
  | cons p ps =>
    cases p with
    | byte b => simp only [if_neg h]
    | unit low => simp only [if_neg hhigh, if_neg hlow]

theorem bytesOf?_pair {high low n : Nat} (hhigh : high = 0xD800 + (n - 0x10000) / 0x400)
    (hlow : low = 0xDC00 + (n - 0x10000) % 0x400) (hn : 0x10000 ≤ n) (hlt : n < 0x110000) :
    bytesOf? (.unit high :: .unit low :: ps) =
      (bytesOf? ps).map (Utf8.encodeChar (Char.ofNat n) ++ ·) := by
  have hcode : 0x10000 + (high - 0xD800) * 0x400 + (low - 0xDC00) = n := by omega
  rw [bytesOf?, if_pos (by omega), if_pos (by omega), hcode]

end BytesOf

/-- Reading between quotes, a text stands for bytes whatever follows. -/
def Spells (text bytes : List UInt8) : Prop :=
  ∃ ps, (∀ rest, pieces? (text ++ rest) = (pieces? rest).map (Prod.map (ps ++ ·) id)) ∧
    ∀ qs, bytesOf? (ps ++ qs) = (bytesOf? qs).map (bytes ++ ·)

theorem Spells.nil : Spells [] [] := by
  refine ⟨[], fun rest => ?_, fun qs => ?_⟩
  · rw [List.nil_append]
    cases pieces? rest <;> rfl
  · rw [List.nil_append]
    cases bytesOf? qs <;> rfl

theorem Spells.append {text more bytes bytes' : List UInt8} (h : Spells text bytes)
    (hmore : Spells more bytes') : Spells (text ++ more) (bytes ++ bytes') := by
  obtain ⟨ps, hread, hbytes⟩ := h
  obtain ⟨qs, hread', hbytes'⟩ := hmore
  refine ⟨ps ++ qs, fun rest => ?_, fun rs => ?_⟩
  · rw [List.append_assoc, hread, hread']
    cases pieces? rest <;> simp [Prod.map]
  · rw [List.append_assoc, hbytes, hbytes']
    cases bytesOf? rs <;> simp

theorem Spells.byte {b : UInt8} (hquote : b ≠ 0x22) (hback : b ≠ 0x5C) (hlow : ¬ b < 0x20) :
    Spells [b] [b] :=
  ⟨[.byte b], fun rest => pieces?_byte rest hquote hback hlow, fun qs => bytesOf?_byte qs b⟩

theorem Spells.letter {letter b : UInt8} (h : escapeByte? letter = some b) :
    Spells [0x5C, letter] [b] :=
  ⟨[.byte b], fun rest => pieces?_letter rest h, fun qs => bytesOf?_byte qs b⟩

theorem Spells.bytes {bs : List UInt8} (h : ∀ b ∈ bs, b ≠ 0x22 ∧ b ≠ 0x5C ∧ ¬ b < 0x20) :
    Spells bs bs := by
  induction bs with
  | nil => exact Spells.nil
  | cons b bs ih =>
    obtain ⟨⟨hquote, hback, hlow⟩, hrest⟩ := List.forall_mem_cons.1 h
    exact (Spells.byte hquote hback hlow).append (ih hrest)

theorem IsHexDigit.hexValue? {n : Nat} {c : Char} (h : IsHexDigit n c) :
    c.toNat < 0x80 ∧ Percent.hexValue? c = some n := by
  obtain ⟨hn, hc⟩ := h
  have hlower : ∀ n < 16, n.digitChar.toNat < 0x80 ∧ Percent.hexValue? n.digitChar = some n := by
    decide
  have hupper : ∀ n < 16, n.digitChar.toUpper.toNat < 0x80 ∧
      Percent.hexValue? n.digitChar.toUpper = some n := by
    decide
  obtain rfl | rfl := hc
  · exact hlower n hn
  · exact hupper n hn

theorem IsHexDigit.byte {n : Nat} {c : Char} (h : IsHexDigit n c) :
    ∃ b, Utf8.encodeChar c = [b] ∧ Percent.hexValue? (Char.ofNat b.toNat) = some n := by
  obtain ⟨hascii, hvalue⟩ := h.hexValue?
  refine ⟨UInt8.ofNat c.toNat, Utf8.encodeChar_ascii hascii, ?_⟩
  rw [Utf8.toNat_ofNat (by omega), Char.ofNat_toNat]
  exact hvalue

theorem UnitText.bytes {n : Nat} {ds : List Char} (hds : UnitText n ds) :
    n < 0x10000 ∧ ∃ h i j k, Utf8.encode ds = [h, i, j, k] ∧ unit? [h, i, j, k] = some n := by
  obtain @⟨h, i, j, k, hh, hi, hj, hk⟩ := hds
  obtain ⟨bh, hhb, hhv⟩ := hh.byte
  obtain ⟨bi, hib, hiv⟩ := hi.byte
  obtain ⟨bj, hjb, hjv⟩ := hj.byte
  obtain ⟨bk, hkb, hkv⟩ := hk.byte
  have hlt : n / 4096 < 16 := hh.1
  refine ⟨by omega, bh, bi, bj, bk, ?_, ?_⟩
  · simp [Utf8.encode, hhb, hib, hjb, hkb]
  · simp only [unit?, List.foldl_cons, List.foldl_nil, hhv, hiv, hjv, hkv, Option.bind_eq_bind,
      Option.bind_some, Option.pure_def]
    congr 1
    omega

theorem Spells.unit {c : Char} {ds : List Char} (h : UnitText c.toNat ds) :
    Spells (0x5C :: 0x75 :: Utf8.encode ds) (Utf8.encodeChar c) := by
  obtain ⟨hlt, d, e, f, g, hbytes, hunit⟩ := h.bytes
  have hvalid : c.toNat < 0xD800 ∨ 0xDFFF < c.toNat ∧ c.toNat < 0x110000 := c.valid
  rw [hbytes]
  refine ⟨[.unit c.toNat], fun rest => pieces?_unit rest hunit, fun qs => ?_⟩
  rw [List.singleton_append, bytesOf?_unit qs (by omega), Char.ofNat_toNat]

theorem Spells.pair {c : Char} {high low : List Char} (hc : 0x10000 ≤ c.toNat)
    (hhigh : UnitText (0xD800 + (c.toNat - 0x10000) / 0x400) high)
    (hlow : UnitText (0xDC00 + (c.toNat - 0x10000) % 0x400) low) :
    Spells (0x5C :: 0x75 :: Utf8.encode high ++ 0x5C :: 0x75 :: Utf8.encode low)
      (Utf8.encodeChar c) := by
  obtain ⟨-, d, e, f, g, hbytes, hunit⟩ := hhigh.bytes
  obtain ⟨-, d', e', f', g', hbytes', hunit'⟩ := hlow.bytes
  have hvalid : c.toNat < 0xD800 ∨ 0xDFFF < c.toNat ∧ c.toNat < 0x110000 := c.valid
  rw [hbytes, hbytes']
  refine ⟨[.unit (0xD800 + (c.toNat - 0x10000) / 0x400),
    .unit (0xDC00 + (c.toNat - 0x10000) % 0x400)], fun rest => ?_, fun qs => ?_⟩
  · change pieces? (0x5C :: 0x75 :: d :: e :: f :: g ::
      0x5C :: 0x75 :: d' :: e' :: f' :: g' :: rest) = _
    rw [pieces?_unit _ hunit, pieces?_unit _ hunit']
    cases pieces? rest <;> rfl
  · have hpair := bytesOf?_pair qs rfl rfl hc (by omega)
    rwa [Char.ofNat_toNat] at hpair

theorem CharText.spells {c : Char} {text : List Char} (h : CharText c text) :
    Spells (Utf8.encode text) (Utf8.encodeChar c) := by
  cases h with
  | plain hlow hquote hback =>
    rw [Utf8.encode, List.flatMap_singleton]
    -- Bytes that end a string or need a backslash are whole characters, and not this one.
    refine Spells.bytes fun b hb => ?_
    have hbyte := Utf8.toNat_of_mem_encodeChar hb
    refine ⟨?_, ?_, ?_⟩
    · rintro rfl
      exact hquote (Char.toNat_inj.1 (hbyte.resolve_right (by decide)).symm)
    · rintro rfl
      exact hback (Char.toNat_inj.1 (hbyte.resolve_right (by decide)).symm)
    · have hspace : (0x20 : UInt8).toNat = 0x20 := rfl
      rw [UInt8.lt_iff_toNat_lt, hspace]
      omega
  | @letter l hl =>
    have hbytes : ∀ p ∈ letters, Utf8.encode ['\\', p.2] = [0x5C, UInt8.ofNat p.2.toNat] ∧
        Utf8.encodeChar p.1 = [UInt8.ofNat p.1.toNat] ∧
        escapeByte? (UInt8.ofNat p.2.toNat) = some (UInt8.ofNat p.1.toNat) := by
      decide
    obtain ⟨htext, hchar, hescape⟩ := hbytes (c, l) hl
    rw [htext, hchar]
    exact Spells.letter hescape
  | unit h => exact Spells.unit h
  | pair hc hhigh hlow =>
    have hpair := Spells.pair hc hhigh hlow
    rw [Utf8.encode, List.flatMap_append]
    exact hpair

theorem CharsText.spells {cs text : List Char} (h : CharsText cs text) :
    Spells (Utf8.encode text) (Utf8.encode cs) := by
  induction h with
  | nil => exact Spells.nil
  | cons hc _ ih =>
    rw [Utf8.encode, List.flatMap_append]
    exact hc.spells.append ih

/-- A string ends where its last quote stands and is the one that was written. -/
theorem StringText.read {s : String} {text : List Char} (h : StringText s text)
    (rest : List UInt8) : ∃ bs ps, Utf8.encode text ++ rest = 0x22 :: bs ∧
      pieces? bs = some (ps, rest) ∧ textOf? ps = some s := by
  obtain @⟨inner, hinner⟩ := h
  obtain ⟨ps, hread, hbytes⟩ := hinner.spells
  refine ⟨Utf8.encode inner ++ 0x22 :: rest, ps, ?_, ?_, ?_⟩
  · simp only [Utf8.encode, List.flatMap_cons, List.flatMap_append, List.append_assoc]
    rfl
  · rw [hread, pieces?_quote, Option.map_some, Prod.map, List.append_nil]
    rfl
  · have hnil := hbytes []
    rw [List.append_nil, bytesOf?, Option.map_some, List.append_nil] at hnil
    rw [textOf?, hnil]
    exact Utf8.toString?_ofString s

def charText (c : Char) : List Char :=
  if c = '"' ∨ c = '\\' then ['\\', c]
  else if c.toNat < 0x20 then
    ['\\', 'u', '0', '0', (c.toNat / 16).digitChar, (c.toNat % 16).digitChar]
  else [c]

def plainText (s : String) : List Char := '"' :: (s.toList.flatMap charText ++ ['"'])

theorem isHexDigit_digitChar {n : Nat} (h : n < 16) : IsHexDigit n n.digitChar := ⟨h, .inl rfl⟩

theorem charText_ok (c : Char) : CharText c (charText c) := by
  unfold charText
  split
  · rename_i h
    obtain rfl | rfl := h
    · exact .letter (by decide)
    · exact .letter (by decide)
  · rename_i h
    obtain ⟨hquote, hback⟩ := not_or.1 h
    split
    · rename_i hlow
      refine .unit (.digits ?_ ?_ ?_ ?_)
      · rw [Nat.div_eq_of_lt (by omega)]
        exact isHexDigit_digitChar (by decide)
      · rw [Nat.div_eq_of_lt (by omega)]
        exact isHexDigit_digitChar (by decide)
      · rw [Nat.mod_eq_of_lt (by omega)]
        exact isHexDigit_digitChar (by omega)
      · exact isHexDigit_digitChar (by omega)
    · rename_i hlow
      exact .plain (by omega) hquote hback

theorem stringText_plainText (s : String) : StringText s (plainText s) := by
  have hchars : ∀ cs : List Char, CharsText cs (cs.flatMap charText) := by
    intro cs
    induction cs with
    | nil => exact .nil
    | cons c cs ih => exact .cons (charText_ok c) ih
  exact .quoted (hchars s.toList)

end GraphBoard.Json
