import GraphBoard.Proofs.JsonStrings
import GraphBoard.Yaml.Scalar
import Mathlib.Algebra.Group.Nat.Defs

set_option autoImplicit false

namespace GraphBoard.Yaml

open GraphBoard.Json GraphBoard.Text

def IsPrintable (c : Char) : Prop := 0x20 ≤ c.toNat ∧ c.toNat ≤ 0x7E

inductive HexText : Nat → List Char → Prop where
  | nil : HexText 0 []
  | digit {n d : Nat} {c : Char} {ds : List Char} :
      HexText n ds → IsHexDigit d c → HexText (16 * n + d) (ds ++ [c])

def escapes : List (Char × Nat) := [('x', 2), ('u', 4), ('U', 8)]

inductive CharText (c : Char) : List Char → Prop where
  | plain : IsPrintable c → c ≠ '"' → c ≠ '\\' → CharText c [c]
  | escape {letter : Char} {ds : List Char} :
      (letter, ds.length) ∈ escapes → HexText c.toNat ds → CharText c ('\\' :: letter :: ds)

inductive CharsText : List Char → List Char → Prop where
  | nil : CharsText [] []
  | cons {c : Char} {cs text more : List Char} :
      CharText c text → CharsText cs more → CharsText (c :: cs) (text ++ more)

theorem ascii_induction {P : Char → Prop} (h : ∀ n < 0x80, P (Char.ofNat n)) {c : Char}
    (hc : c.toNat < 0x80) : P c := by
  have hchar := h c.toNat hc
  rwa [Char.ofNat_toNat] at hchar

namespace IsPrintable

variable {c : Char}

theorem not_blank (h : IsPrintable c) (hspace : c ≠ ' ') : isBlank c = false := by
  have htab : c ≠ '\t' := by
    rintro rfl
    exact absurd h.1 (by decide)
  simp [isBlank, hspace, htab]

theorem not_break (h : IsPrintable c) : isBreak c = false := by
  have hascii : 0x20 ≤ c.toNat → isBreak c = false :=
    ascii_induction (P := fun c => 0x20 ≤ c.toNat → isBreak c = false) (by decide)
      (Nat.lt_of_le_of_lt h.2 (by decide))
  exact hascii h.1

theorem isAllowed (h : IsPrintable c) : isAllowed c = true := by
  obtain ⟨hlow, hhigh⟩ := h
  simp [Yaml.isAllowed, hlow, hhigh]

end IsPrintable

theorem HexText.numeral {n : Nat} {ds : List Char} (h : HexText n ds) :
    hexNumeral? ds = some n := by
  induction h with
  | nil => rfl
  | digit _ hd ih =>
    rw [hexNumeral?] at ih ⊢
    rw [List.foldl_append, ih]
    simp only [List.foldl_cons, List.foldl_nil, hd.hexValue?.2]
    rfl

theorem escape?_numeric {c letter : Char} {ds : List Char} (hletter : (letter, ds.length) ∈ escapes)
    (hds : HexText c.toNat ds) (rest : List Char) :
    escape? (letter :: (ds ++ rest)) = some (c, ds.length + 1) := by
  have hescapes : ∀ p ∈ escapes, escapeLetter? p.1 = none ∧ escapeDigits? p.1 = some p.2 := by
    decide
  obtain ⟨hnone, hdigits⟩ := hescapes _ hletter
  have hvalid : c.toNat.isValidChar := c.valid
  rw [escape?]
  simp only [hnone, hdigits, List.take_left, beq_self_eq_true, if_true, hds.numeral, hvalid,
    Char.ofNat_toNat]

namespace Cursor

variable (cur : Cursor) (m n : Nat)

@[simp] theorem rest_skip : (cur.skip n).rest = cur.rest.drop n := rfl

@[simp] theorem column_skip : (cur.skip n).column = cur.column + n := rfl

theorem skip_skip : (cur.skip m).skip n = cur.skip (m + n) := by
  simp only [skip, List.drop_drop, Nat.add_assoc]

theorem atDocumentMark_of_column {cur : Cursor} (h : cur.column ≠ 0) :
    cur.atDocumentMark = false := by
  rw [atDocumentMark, beq_false_of_ne h, Bool.false_and]

end Cursor

section Quoted

variable {c : Char} {cur : Cursor} {rest : List Char}

theorem read?_stop {indent : Option Nat} {fuel : Nat} (hfuel : 0 < fuel) (gap : Gap)
    (hcur : cur.rest = c :: rest) (hblank : isBlank c = false) (hbreak : isBreak c = false) :
    Gap.read? indent fuel gap cur = some (gap, cur) := by
  obtain ⟨fuel, rfl⟩ : ∃ f, fuel = f + 1 := ⟨fuel - 1, by omega⟩
  simp only [Gap.read?, hcur, hblank, hbreak, Bool.false_eq_true, if_false]

theorem read?_space {indent : Option Nat} {fuel : Nat} (blanks : List Char)
    (hcur : cur.rest = ' ' :: rest) :
    Gap.read? indent (fuel + 1) ⟨blanks, false, [], []⟩ cur =
      Gap.read? indent fuel ⟨' ' :: blanks, false, [], []⟩ (cur.skip 1) := by
  rw [Gap.read?, hcur]
  rfl

theorem quoted?_end {fuel : Nat} (acc : List Char) (hcolumn : cur.column ≠ 0)
    (hcur : cur.rest = '"' :: rest) :
    quoted? false (fuel + 1) acc cur = some (acc.reverse, cur.skip 1) := by
  rw [quoted?, Cursor.atDocumentMark_of_column hcolumn, hcur]
  rfl

theorem quoted?_plain {fuel : Nat} (acc : List Char) (hcolumn : cur.column ≠ 0)
    (hcur : cur.rest = c :: rest) (hquote : c ≠ '"') (hback : c ≠ '\\') (hblank : isBlank c = false)
    (hbreak : isBreak c = false) :
    quoted? false (fuel + 1) acc cur = quoted? false fuel (c :: acc) (cur.skip 1) := by
  rw [quoted?, Cursor.atDocumentMark_of_column hcolumn, hcur]
  simp [hquote, hback, hblank, hbreak]

theorem quoted?_space {fuel : Nat} (acc : List Char) (hcolumn : cur.column ≠ 0)
    (hcur : cur.rest = ' ' :: rest) :
    quoted? false (fuel + 1) acc cur =
      (Gap.read? none (rest.length + 1) ⟨[' '], false, [], []⟩ (cur.skip 1)).bind fun p =>
        quoted? false fuel (p.1.text.reverse ++ acc) p.2 := by
  rw [quoted?, Cursor.atDocumentMark_of_column hcolumn, hcur, List.length_cons,
    ← read?_space [] hcur]
  rfl

theorem quoted?_escape {fuel : Nat} (acc : List Char) {letter : Char} {ds : List Char}
    (hcolumn : cur.column ≠ 0) (hcur : cur.rest = '\\' :: letter :: (ds ++ rest))
    (hletter : (letter, ds.length) ∈ escapes) (hds : HexText c.toNat ds) :
    quoted? false (fuel + 1) acc cur =
      quoted? false fuel (c :: acc) (cur.skip (ds.length + 2)) := by
  have hescapes : ∀ p ∈ escapes, isBreak p.1 = false := by decide
  rw [quoted?, Cursor.atDocumentMark_of_column hcolumn, hcur]
  simp [hescapes _ hletter, escape?_numeric hletter hds]

/-- What is read from a place between quotes on: these characters, up to the place after the quote.
A gap that began in front of the place adds its blanks to them. -/
structure QuotedFrom (cur : Cursor) (cs : List Char) (after : Cursor) : Prop where
  direct : ∀ fuel > cur.rest.length, ∀ acc,
    quoted? false fuel acc cur = some (acc.reverse ++ cs, after)
  gap : ∀ fuel > cur.rest.length, ∀ fuel' > cur.rest.length, ∀ acc blanks,
    ((Gap.read? none fuel' ⟨blanks, false, [], []⟩ cur).bind fun p =>
      quoted? false fuel (p.1.text.reverse ++ acc) p.2) =
    some (acc.reverse ++ (blanks.reverse ++ cs), after)

namespace QuotedFrom

variable {cs : List Char} {after : Cursor}

/-- A gap ends in front of what is no blank. -/
theorem of_direct (hcur : cur.rest = c :: rest) (hblank : isBlank c = false)
    (hbreak : isBreak c = false)
    (hdirect : ∀ fuel ≥ cur.rest.length, ∀ acc,
      quoted? false (fuel + 1) acc cur = some (acc.reverse ++ cs, after)) :
    QuotedFrom cur cs after := by
  have hdirect' : ∀ fuel > cur.rest.length, ∀ acc,
      quoted? false fuel acc cur = some (acc.reverse ++ cs, after) := by
    intro fuel hfuel acc
    obtain ⟨fuel, rfl⟩ : ∃ f, fuel = f + 1 := ⟨fuel - 1, by omega⟩
    exact hdirect fuel (Nat.le_of_lt_succ hfuel) acc
  refine ⟨hdirect', fun fuel hfuel fuel' hfuel' acc blanks => ?_⟩
  rw [read?_stop (Nat.zero_lt_of_lt hfuel') _ hcur hblank hbreak, Option.bind_some,
    hdirect' _ hfuel]
  simp [Gap.text]

theorem close (hcur : cur.rest = '"' :: rest) (hcolumn : cur.column ≠ 0) :
    QuotedFrom cur [] (cur.skip 1) := by
  refine of_direct hcur rfl rfl fun fuel _ acc => ?_
  rw [quoted?_end acc hcolumn hcur, List.append_nil]

theorem plain (hcur : cur.rest = c :: rest) (hcolumn : cur.column ≠ 0) (hquote : c ≠ '"')
    (hback : c ≠ '\\') (hblank : isBlank c = false) (hbreak : isBreak c = false)
    (h : QuotedFrom (cur.skip 1) cs after) : QuotedFrom cur (c :: cs) after := by
  refine of_direct hcur hblank hbreak fun fuel hfuel acc => ?_
  rw [quoted?_plain acc hcolumn hcur hquote hback hblank hbreak,
    h.direct _ (by simp [hcur] at hfuel ⊢; omega)]
  simp

theorem escape {letter : Char} {ds : List Char} (hcur : cur.rest = '\\' :: letter :: (ds ++ rest))
    (hcolumn : cur.column ≠ 0) (hletter : (letter, ds.length) ∈ escapes)
    (hds : HexText c.toNat ds) (h : QuotedFrom (cur.skip (ds.length + 2)) cs after) :
    QuotedFrom cur (c :: cs) after := by
  refine of_direct hcur rfl rfl fun fuel hfuel acc => ?_
  rw [quoted?_escape acc hcolumn hcur hletter hds, h.direct _ (by simp [hcur] at hfuel ⊢; omega)]
  simp

theorem space (hcur : cur.rest = ' ' :: rest) (hcolumn : cur.column ≠ 0)
    (h : QuotedFrom (cur.skip 1) cs after) : QuotedFrom cur (' ' :: cs) after := by
  have hlength : (cur.skip 1).rest.length < cur.rest.length := by simp [hcur]
  constructor
  · intro fuel hfuel acc
    obtain ⟨fuel, rfl⟩ : ∃ f, fuel = f + 1 := ⟨fuel - 1, by omega⟩
    rw [quoted?_space acc hcolumn hcur, h.gap _ (by omega) _ (by simp [hcur])]
    rfl
  · intro fuel hfuel fuel' hfuel' acc blanks
    obtain ⟨fuel', rfl⟩ : ∃ f, fuel' = f + 1 := ⟨fuel' - 1, by omega⟩
    rw [read?_space blanks hcur, h.gap _ (by omega) _ (by omega)]
    simp

end QuotedFrom

theorem CharsText.quotedFrom {cs text : List Char} (h : CharsText cs text)
    (hcur : cur.rest = text ++ '"' :: rest) (hcolumn : cur.column ≠ 0) :
    QuotedFrom cur cs (cur.skip (text.length + 1)) := by
  induction h generalizing cur with
  | nil => exact .close hcur hcolumn
  | @cons c cs text more hc _ ih =>
    rw [List.append_assoc] at hcur
    have hafter : (cur.skip text.length).rest = more ++ '"' :: rest := by
      rw [Cursor.rest_skip, hcur, List.drop_left]
    have hcolumn' : (cur.skip text.length).column ≠ 0 := by
      rw [Cursor.column_skip]
      omega
    have hnext : QuotedFrom (cur.skip text.length) cs (cur.skip ((text ++ more).length + 1)) := by
      have hmore := ih hafter hcolumn'
      rwa [Cursor.skip_skip, ← Nat.add_assoc, ← List.length_append] at hmore
    cases hc with
    | plain hprintable hquote hback =>
      by_cases hspace : c = ' '
      · subst hspace
        exact .space hcur hcolumn hnext
      · exact .plain hcur hcolumn hquote hback (hprintable.not_blank hspace)
          hprintable.not_break hnext
    | escape hletter hds => exact .escape hcur hcolumn hletter hds hnext

end Quoted

def isWordChar (c : Char) : Bool := c.isAlphanum || c == '_'

inductive ScalarText : Bool → List Char → List Char → Prop where
  | word {cs : List Char} : cs ≠ [] → (∀ c ∈ cs, isWordChar c = true) → ScalarText true cs cs
  | quoted {cs text : List Char} : CharsText cs text → ScalarText false cs ('"' :: (text ++ ['"']))

def IsSpace (cs : List Char) : Prop := ∀ c ∈ cs, c = ' '

/-- What a word ends in front of inside a collection: a mark, a colon behind a key, or nothing. -/
inductive EndsWord : List Char → Prop where
  | nil : EndsWord []
  | mark {c : Char} {rest : List Char} : isFlowMark c = true → EndsWord (c :: rest)
  | key {rest : List Char} : EndsWord (':' :: ' ' :: rest)

section Plain

variable {c : Char} {cur : Cursor} {rest : List Char} {indent fuel : Nat}

def marks : List Char :=
  [' ', ',', '[', ']', '{', '}', '#', '&', '*', '!', '|', '>', '%', '@', '-', '?', ':', '.',
    '\x27', '"', '\x60']

theorem isWordChar_not_mark (h : isWordChar c = true) : c ∉ marks := by
  have hmarks : ∀ c ∈ marks, isWordChar c = false := by simp [marks, isWordChar]
  intro hc
  rw [hmarks c hc] at h
  contradiction

theorem isWordChar_printable (h : isWordChar c = true) : IsPrintable c := by
  delta isWordChar Char.isAlphanum Char.isAlpha Char.isUpper Char.isLower Char.isDigit at h
  simp only [Bool.or_eq_true, Bool.and_eq_true, decide_eq_true_eq, beq_iff_eq,
    UInt32.le_iff_toNat_le, ge_iff_le] at h
  change (((65 ≤ c.toNat ∧ c.toNat ≤ 90) ∨ (97 ≤ c.toNat ∧ c.toNat ≤ 122)) ∨
    (48 ≤ c.toNat ∧ c.toNat ≤ 57)) ∨ c = '_' at h
  obtain ((h | h) | h) | rfl := h
  · exact ⟨by omega, by omega⟩
  · exact ⟨by omega, by omega⟩
  · exact ⟨by omega, by omega⟩
  · exact ⟨by decide, by decide⟩

theorem isFlowMark_mark (h : isFlowMark c = true) : c ∈ marks := by
  have hmarks : ∀ c ∈ [',', '[', ']', '{', '}'], c ∈ marks := by simp [marks]
  exact hmarks c (List.contains_iff_mem.1 h)

theorem EndsWord.stop (h : EndsWord rest) (hcur : cur.rest = rest) (acc : List Char) (gap : Gap) :
    plain? true indent (fuel + 1) acc gap cur = some (acc.reverse, gap.broken, cur) := by
  cases h with
  | nil => rw [plain?, hcur]
  | @mark c rest hmark =>
    have hmarks : ∀ c ∈ [',', '[', ']', '{', '}'], isBlank c = false ∧ isBreak c = false ∧
        ∀ rest, plainForbids true (c :: rest) = false ∧ plainEnds true (c :: rest) = true := by
      simp [isBlank, isBreak, plainForbids, plainEnds, isFlowMark]
    obtain ⟨hblank, hbreak, hends⟩ := hmarks c (by simpa [isFlowMark] using hmark)
    rw [plain?, hcur]
    simp [hblank, hbreak, hends]
  | key =>
    rw [plain?, hcur]
    rfl

theorem plain?_char (hcur : cur.rest = c :: rest) (hc : isWordChar c = true) (acc : List Char) :
    plain? true indent (fuel + 1) acc Gap.empty cur =
      plain? true indent fuel (c :: acc) Gap.empty (cur.skip 1) := by
  have hmark := isWordChar_not_mark hc
  have hspace : c ≠ ' ' := by
    rintro rfl
    exact hmark (by decide)
  have hcolon : c ≠ ':' := by
    rintro rfl
    exact hmark (by decide)
  have hflow : isFlowMark c = false := Bool.eq_false_iff.2 fun h => hmark (isFlowMark_mark h)
  have hforbids : plainForbids true (c :: rest) = false := by
    unfold plainForbids
    split
    · rename_i heq
      exact absurd (List.cons.inj heq).1 hcolon
    · rfl
  rw [plain?, hcur]
  simp [(isWordChar_printable hc).not_blank hspace, (isWordChar_printable hc).not_break, hforbids,
    plainEnds, hcolon, hflow, Gap.text, Gap.empty]

theorem plain?_word {word : List Char} (hcur : cur.rest = word ++ rest)
    (hword : ∀ c ∈ word, isWordChar c = true) (acc : List Char) :
    plain? true indent (fuel + word.length) acc Gap.empty cur =
      plain? true indent fuel (word.reverse ++ acc) Gap.empty (cur.skip word.length) := by
  induction word generalizing cur acc with
  | nil => rfl
  | cons c word ih =>
    obtain ⟨hc, hmore⟩ := List.forall_mem_cons.1 hword
    rw [List.length_cons, ← Nat.add_assoc, plain?_char hcur hc,
      ih (by rw [Cursor.rest_skip, hcur]; rfl) hmore, Cursor.skip_skip, Nat.add_comm 1]
    simp

theorem EndsWord.head (h : EndsWord rest) :
    ∀ c ∈ rest.head?, isBlank c = false ∧ isBreak c = false ∧ c ≠ '#' := by
  have hmarks : ∀ c ∈ [',', '[', ']', '{', '}', ':'],
      isBlank c = false ∧ isBreak c = false ∧ c ≠ '#' := by simp [isBlank, isBreak]
  rintro c hc
  cases h with
  | nil => cases hc
  | mark hmark =>
    obtain rfl := Option.some.inj hc
    exact hmarks _ (List.mem_append_left [':'] (List.contains_iff_mem.1 hmark))
  | key =>
    obtain rfl := Option.some.inj hc
    exact hmarks ':' (by decide)

theorem read?_spaces {spaces : List Char} (hspaces : IsSpace spaces)
    (hrest : ∀ c ∈ rest.head?, isBlank c = false ∧ isBreak c = false)
    (hcur : cur.rest = spaces ++ rest) (hfuel : spaces.length < fuel) (blanks : List Char) :
    Gap.read? (some indent) fuel ⟨blanks, false, [], []⟩ cur =
      some (⟨spaces.reverse ++ blanks, false, [], []⟩, cur.skip spaces.length) := by
  induction spaces generalizing cur fuel blanks with
  | nil =>
    cases rest with
    | nil =>
      obtain ⟨fuel, rfl⟩ : ∃ f, fuel = f + 1 := ⟨fuel - 1, by omega⟩
      rw [Gap.read?, hcur]
      rfl
    | cons c rest =>
      obtain ⟨hblank, hbreak⟩ := hrest c rfl
      exact read?_stop (Nat.zero_lt_of_lt hfuel) _ hcur hblank hbreak
  | cons c spaces ih =>
    obtain ⟨rfl, hmore⟩ := List.forall_mem_cons.1 hspaces
    obtain ⟨fuel, rfl⟩ : ∃ f, fuel = f + 1 := ⟨fuel - 1, by omega⟩
    rw [read?_space blanks hcur, ih hmore (by rw [Cursor.rest_skip, hcur]; rfl)
      (Nat.lt_of_succ_lt_succ hfuel), Cursor.skip_skip, Nat.add_comm 1]
    simp

theorem plain?_spaces {spaces : List Char} (hne : spaces ≠ []) (hspaces : IsSpace spaces)
    (hrest : EndsWord rest) (hcur : cur.rest = spaces ++ rest) (acc : List Char) :
    plain? true indent (fuel + 2) acc Gap.empty cur =
      some (acc.reverse, false, cur.skip spaces.length) := by
  have hgap : Gap.read? (some indent) (cur.rest.length + 1) ⟨[], false, [], []⟩ cur =
      some (⟨spaces.reverse ++ [], false, [], []⟩, cur.skip spaces.length) := by
    refine read?_spaces hspaces (fun c hc => ?_) hcur ?_ []
    · exact ⟨(hrest.head c hc).1, (hrest.head c hc).2.1⟩
    · rw [hcur, List.length_append]
      omega
  have hafter : (cur.skip spaces.length).rest = rest := by
    rw [Cursor.rest_skip, hcur, List.drop_left]
  have hmark : (cur.skip spaces.length).atDocumentMark = false :=
    Cursor.atDocumentMark_of_column (by simpa using fun _ => hne)
  have hhash : ∀ more, rest ≠ '#' :: more := by
    rintro more rfl
    exact (hrest.head '#' rfl).2.2 rfl
  obtain ⟨c, more, rfl⟩ := List.exists_cons_of_ne_nil hne
  obtain ⟨rfl, -⟩ := List.forall_mem_cons.1 hspaces
  rw [plain?]
  simp only [hcur, List.cons_append]
  simp only [hcur, List.cons_append] at hgap
  have hblank : (isBlank ' ' || isBreak ' ') = true := rfl
  rw [if_pos hblank]
  change (Gap.read? _ _ ⟨[], false, [], []⟩ cur).bind _ = _
  rw [hgap]
  simp only [Option.bind_some, hafter, hmark, Bool.not_true, Bool.false_and, Bool.false_eq_true,
    if_false]
  exact hrest.stop hafter acc _

theorem plain?_scalar {word spaces : List Char} (hword : ∀ c ∈ word, isWordChar c = true)
    (hspaces : IsSpace spaces) (hrest : EndsWord rest) (hcur : cur.rest = word ++ (spaces ++ rest))
    (hfuel : word.length + 2 ≤ fuel) :
    plain? true indent fuel [] Gap.empty cur =
      some (word, false, cur.skip (word.length + spaces.length)) := by
  obtain ⟨fuel, rfl⟩ : ∃ f, fuel = f + 2 + word.length := ⟨fuel - word.length - 2, by omega⟩
  have hafter : (cur.skip word.length).rest = spaces ++ rest := by
    rw [Cursor.rest_skip, hcur, List.drop_left]
  rw [plain?_word hcur hword, List.append_nil, ← Cursor.skip_skip]
  by_cases hne : spaces = []
  · subst hne
    rw [hrest.stop hafter, List.reverse_reverse]
    rfl
  · rw [plain?_spaces hne hspaces hrest hafter, List.reverse_reverse]

end Plain

section Printing

theorem HexText.printable {n : Nat} {ds : List Char} (h : HexText n ds) :
    ∀ c ∈ ds, IsPrintable c := by
  have hdigit : ∀ n < 16, IsPrintable n.digitChar ∧ IsPrintable n.digitChar.toUpper := by
    change ∀ n < 16, (0x20 ≤ n.digitChar.toNat ∧ n.digitChar.toNat ≤ 0x7E) ∧
      (0x20 ≤ n.digitChar.toUpper.toNat ∧ n.digitChar.toUpper.toNat ≤ 0x7E)
    decide
  induction h with
  | nil => exact nofun
  | @digit _ d c _ _ hd ih =>
    refine List.forall_mem_append.2 ⟨ih, List.forall_mem_singleton.2 ?_⟩
    obtain ⟨hlt, rfl | rfl⟩ := hd
    · exact (hdigit d hlt).1
    · exact (hdigit d hlt).2

theorem CharText.printable {c : Char} {text : List Char} (h : CharText c text) :
    ∀ d ∈ text, IsPrintable d := by
  have hletters : ∀ p ∈ escapes, 0x20 ≤ p.1.toNat ∧ p.1.toNat ≤ 0x7E := by decide
  cases h with
  | plain hc => exact List.forall_mem_singleton.2 hc
  | escape hletter hds =>
    exact List.forall_mem_cons.2 ⟨⟨by decide, by decide⟩,
      List.forall_mem_cons.2 ⟨hletters _ hletter, hds.printable⟩⟩

theorem CharsText.printable {cs text : List Char} (h : CharsText cs text) :
    ∀ c ∈ text, IsPrintable c := by
  induction h with
  | nil => exact nofun
  | cons hc _ ih => exact List.forall_mem_append.2 ⟨hc.printable, ih⟩

theorem ScalarText.printable {plain : Bool} {cs text : List Char} (h : ScalarText plain cs text) :
    ∀ c ∈ text, IsPrintable c := by
  have hquote : IsPrintable '"' := ⟨by decide, by decide⟩
  cases h with
  | word _ hword => exact fun c hc => isWordChar_printable (hword c hc)
  | quoted hchars =>
    exact List.forall_mem_cons.2 ⟨hquote,
      List.forall_mem_append.2 ⟨hchars.printable, List.forall_mem_singleton.2 hquote⟩⟩

theorem IsSpace.printable {cs : List Char} (h : IsSpace cs) : ∀ c ∈ cs, IsPrintable c := by
  intro c hc
  rw [h c hc]
  exact ⟨by decide, by decide⟩

end Printing

section Writing

def hexDigits : Nat → Nat → List Char
  | 0, _ => []
  | places + 1, n => hexDigits places (n / 16) ++ [(n % 16).digitChar]

theorem length_hexDigits (places n : Nat) : (hexDigits places n).length = places := by
  induction places generalizing n with
  | zero => rfl
  | succ places ih => rw [hexDigits, List.length_append, ih, List.length_singleton]

theorem hexText_hexDigits {places n : Nat} (h : n < 16 ^ places) :
    HexText n (hexDigits places n) := by
  induction places generalizing n with
  | zero =>
    obtain rfl : n = 0 := by simpa using h
    exact .nil
  | succ places ih =>
    have hlast := HexText.digit (ih (n := n / 16) (by omega))
      (isHexDigit_digitChar (Nat.mod_lt n (by decide)))
    rwa [Nat.div_add_mod] at hlast

def charText (c : Char) : List Char :=
  if (0x20 ≤ c.toNat ∧ c.toNat ≤ 0x7E) ∧ c ≠ '"' ∧ c ≠ '\\' then [c]
  else if c.toNat < 0x100 then '\\' :: 'x' :: hexDigits 2 c.toNat
  else if c.toNat < 0x10000 then '\\' :: 'u' :: hexDigits 4 c.toNat
  else '\\' :: 'U' :: hexDigits 8 c.toNat

theorem CharText.hexDigits {c letter : Char} {places : Nat} (hletter : (letter, places) ∈ escapes)
    (hc : c.toNat < 16 ^ places) : CharText c ('\\' :: letter :: hexDigits places c.toNat) :=
  .escape (by rwa [length_hexDigits]) (hexText_hexDigits hc)

theorem charText_ok (c : Char) : CharText c (charText c) := by
  have hvalid : c.toNat < 0x110000 := by
    have hc : c.toNat < 0xD800 ∨ 0xDFFF < c.toNat ∧ c.toNat < 0x110000 := c.valid
    omega
  unfold charText
  split
  · rename_i h
    exact .plain h.1 h.2.1 h.2.2
  split
  · exact .hexDigits (by decide) (by omega)
  split
  · exact .hexDigits (by decide) (by omega)
  · exact .hexDigits (by decide) (by omega)

theorem charsText_flatMap (cs : List Char) : CharsText cs (cs.flatMap charText) := by
  induction cs with
  | nil => exact .nil
  | cons c cs ih => exact .cons (charText_ok c) ih

end Writing

end GraphBoard.Yaml
